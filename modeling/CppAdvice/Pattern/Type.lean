import CppAdvice.Pattern.Name
import CppAdvice.Tree.TypeRef

/-!
# Type patterns

Conditions on a type reference.
-/

namespace CppAdvice.Pattern

open CppAdvice.Tree (TypeRef)

/-- A condition on a type. -/
inductive TypePattern where
  /-- The named type itself, neither reference nor pointer. -/
  | named (name : Name)
  /-- The named type, also through a reference, but not through a pointer. -/
  | classType (name : Name)
  | constRef (name : Name)
  | rvalueRef (name : Name)
  | pointer
  /-- Reached through a pointer or a reference. -/
  | indirect
  | integer
  | scopedEnum
deriving Repr, DecidableEq

/-- Whether the declaration behind a type has a name that the pattern covers. -/
def declCovered (name : Name) (ty : TypeRef) : Bool :=
  ty.decl.any name.covers

/-- Whether a type meets the condition. -/
def TypePattern.covers (ty : TypeRef) : TypePattern → Bool
  | .named name => ty.isValue && declCovered name ty
  | .classType name => !ty.isPointer && declCovered name ty
  | .constRef name => ty.reference = .lvalue && ty.isConst && declCovered name ty
  | .rvalueRef name => ty.reference = .rvalue && declCovered name ty
  | .pointer => ty.isPointer
  | .indirect => ty.isPointer || ty.reference ≠ .none
  | .integer => ty.isInteger && !ty.isPointer
  | .scopedEnum => ty.isScopedEnum && !ty.isPointer

end CppAdvice.Pattern
