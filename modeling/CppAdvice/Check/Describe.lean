import CppAdvice.Check.Basic

/-!
# Words for nodes

How messages name the node that they are about, and shapes that many checks share.
-/

namespace CppAdvice.Describe

open CppAdvice.Tree CppAdvice.Pattern

/-- What kind of declaration a node is. -/
def declaration (u : TranslationUnit) (id : Nat) : String :=
  match u.kind id with
  | .varDecl _ _ => "variable"
  | .parmVarDecl _ => "parameter"
  | .fieldDecl _ => "field"
  | .typeAliasDecl _ => "type alias"
  | _ => "declaration"

/-- The name of a type: its declaration, or else its spelling. -/
def typeName (ty : TypeRef) : String :=
  ty.decl.getD ty.spelling

/-- The name of the type of a node; empty if it has none. -/
def nodeType (u : TranslationUnit) (id : Nat) : String :=
  ((u.type? id).map typeName).getD ""

/-- The callee of a call. -/
def callee? (u : TranslationUnit) (id : Nat) : Option String :=
  match u.kind id with
  | .callExpr callee => callee
  | _ => none

/-- The method of a member call. -/
def method? (u : TranslationUnit) (id : Nat) : Option String :=
  match u.kind id with
  | .memberCallExpr call => some call.method
  | _ => none

/-- The name that a reference refers to. -/
def target? (u : TranslationUnit) (id : Nat) : Option String :=
  match u.kind id with
  | .declRefExpr name => some name
  | _ => none

/-- The variable on which a member call is made. -/
def objectVariable? (u : TranslationUnit) (call : Nat) : Option String :=
  (u.children call).head?.bind fun object => target? u (u.skipImplicit object)

/-- A reversed name up to its last `::`. -/
def untilSeparator : List Char → List Char
  | [] => []
  | ':' :: ':' :: _ => []
  | c :: s => c :: untilSeparator s

/-- The part of a qualified name after its last `::`. -/
def lastSegment (name : String) : String :=
  String.ofList (untilSeparator name.toList.reverse).reverse

/-- A declaration with one of the tags whose type is the named one, neither reference nor
pointer. -/
def valueDecl (tags : List Tag) (name : Pattern.Name) : Matcher :=
  (Matcher.anyOf (tags.map .ofTag)).and (.typed (.named name))

end CppAdvice.Describe
