import CppAdvice.Tree.Name

/-!
# Type references

What is known of the type of a declaration or an expression.
-/

namespace CppAdvice.Tree

/-- The kind of reference that a type is. -/
inductive Reference where
  | none
  | lvalue
  | rvalue
deriving Repr, DecidableEq

/-- What is known of a type. `decl` names the declaration behind it once references, pointers and
qualifiers are taken off. -/
structure TypeRef where
  spelling : String := ""
  decl : Option String := none
  isConst : Bool := false
  reference : Reference := .none
  isPointer : Bool := false
  isInteger : Bool := false
  isScopedEnum : Bool := false
deriving Repr, DecidableEq

namespace TypeRef

/-- The type with the given name. -/
def named (name : String) : TypeRef :=
  { spelling := name, decl := some (Name.normalize name) }

/-- A constant reference to the type with the given name. -/
def constRef (name : String) : TypeRef :=
  { named name with spelling := "const " ++ name ++ " &", isConst := true, reference := .lvalue }

/-- A reference to the type with the given name. -/
def lvalueRef (name : String) : TypeRef :=
  { named name with spelling := name ++ " &", reference := .lvalue }

/-- An rvalue reference to the type with the given name. -/
def rvalueRef (name : String) : TypeRef :=
  { named name with spelling := name ++ " &&", reference := .rvalue }

/-- A pointer type, known by its spelling only. -/
def pointer (spelling : String) : TypeRef :=
  { spelling, isPointer := true }

/-- An integer type, known by its spelling only. -/
def integer (spelling : String) : TypeRef :=
  { spelling, isInteger := true }

/-- A scoped enumeration with the given name. -/
def scopedEnum (name : String) : TypeRef :=
  { named name with isScopedEnum := true }

/-- Whether the type is neither a reference nor a pointer. -/
def isValue (ty : TypeRef) : Bool :=
  ty.reference = .none && !ty.isPointer

/-- The type with the canonical spelling of its declaration. -/
def normalize (ty : TypeRef) : TypeRef :=
  { ty with decl := ty.decl.map Name.normalize }

end TypeRef

end CppAdvice.Tree
