import CppAdvice.Report
import CppAdvice.Text.Quoted
import CppAdvice.Tree.TranslationUnit

/-!
# Outlines

The tree of a unit as text, one node a line, indented by its depth: number, kind with all its facts,
type, file and the start of its source text.
-/

namespace CppAdvice

namespace Outline

open CppAdvice.Tree

/-! ## Facts -/

/-- A name with its parts between braces, or the bare name if it has none. -/
def record (name : String) (parts : List (String × String)) : String :=
  if parts.isEmpty then name
  else
    name ++ " \x7b " ++ String.intercalate ", " (parts.map fun (part, text) =>
      part ++ ": " ++ text) ++
      " \x7d"

/-- A fact that may be absent. -/
def optional {α : Type} (write : α → String) : Option α → String
  | some a => "Some(" ++ write a ++ ")"
  | none => "None"

/-- A fact that holds or does not. -/
def truth (b : Bool) : String :=
  if b then "true" else "false"

/-- The name of an operator. -/
def opcode : Opcode → String
  | .eq => "Eq"
  | .ne => "Ne"
  | .lt => "Lt"
  | .gt => "Gt"
  | .le => "Le"
  | .ge => "Ge"
  | .spaceship => "Spaceship"
  | .shl => "Shl"
  | .shr => "Shr"
  | .add => "Add"
  | .sub => "Sub"
  | .mul => "Mul"
  | .div => "Div"
  | .rem => "Rem"
  | .assign => "Assign"
  | .logicalAnd => "LAnd"
  | .logicalOr => "LOr"
  | .other => "Other"

/-- The name of what a function is declared as. -/
def role : FunctionRole → String
  | .free => "Free"
  | .method => "Method"
  | .constructor => "Constructor"
  | .destructor => "Destructor"

/-- The name of a special member. -/
def special : SpecialMember → String
  | .none => "None"
  | .copyConstructor => "CopyConstructor"
  | .moveConstructor => "MoveConstructor"
  | .copyAssignment => "CopyAssignment"
  | .moveAssignment => "MoveAssignment"

/-- The name of a kind of reference. -/
def reference : Reference → String
  | .none => "None"
  | .lvalue => "LValue"
  | .rvalue => "RValue"

/-- The name of a storage. -/
def storage : Storage → String
  | .automatic => "Automatic"
  | .static => "Static"

/-- The name of a kind of constructor. -/
def constructorKind : ConstructorKind → String
  | .regular => "Regular"
  | .copy => "Copy"
  | .move => "Move"

/-- A type with all that is known of it. -/
def typeRef (ty : TypeRef) : String :=
  record "TypeRef"
    [("spelling", Text.quoted ty.spelling), ("decl", optional Text.quoted ty.decl),
      ("is_const", truth ty.isConst), ("reference", reference ty.reference),
      ("is_pointer", truth ty.isPointer), ("is_integer", truth ty.isInteger),
      ("is_scoped_enum", truth ty.isScopedEnum)]

/-- The facts that only a kind has. -/
def facts : Kind → List (String × String)
  | .namespaceDecl name | .recordDecl name | .parmVarDecl name | .fieldDecl name
  | .typeAliasDecl name | .declRefExpr name => [("name", Text.quoted name)]
  | .functionDecl f =>
    [("name", Text.quoted f.name), ("returns", optional typeRef f.returns), ("role", role f.role),
      ("special", special f.special), ("is_definition", truth f.isDefinition),
      ("is_defaulted", truth f.isDefaulted), ("is_deleted", truth f.isDeleted),
      ("is_noexcept", truth f.isNoexcept)]
  | .varDecl name place => [("name", Text.quoted name), ("storage", storage place)]
  | .callExpr callee => [("callee", optional Text.quoted callee)]
  | .memberCallExpr call =>
    [("method", Text.quoted call.method), ("class", optional Text.quoted call.className),
      ("is_virtual", truth call.isVirtual)]
  | .operatorCallExpr op => [("operator", opcode op)]
  | .binaryOperator op | .rewrittenBinaryOperator op => [("opcode", opcode op)]
  | .unaryOperator spelling => [("opcode", Text.quoted spelling)]
  | .constructExpr kind => [("constructor", constructorKind kind)]
  | .integerLiteral value => [("value", toString value.toNat)]
  | .translationUnitDecl | .compoundStmt | .forStmt | .whileStmt | .doStmt | .forRangeStmt | .ifStmt
  | .returnStmt | .implicitCastExpr | .materializeTemporaryExpr | .exprWithCleanups
  | .bindTemporaryExpr | .parenExpr | .stringLiteral | .dynamicCastExpr | .staticCastExpr
  | .throwExpr | .lambdaExpr | .unknown => []

/-- A kind with its facts. -/
def kind (k : Kind) : String :=
  record k.tag.name (facts k)

/-! ## Lines -/

/-- How many characters of a node's source text are shown. -/
def textLimit : Nat := 50

/-- The start of a source text on one line. -/
def excerpt (s : List Char) : String :=
  let shown := if textLimit < s.length then s.take textLimit ++ ['.', '.', '.'] else s
  String.ofList (Text.replaceChar '\n' ['\\', 'n'] shown)

/-- The line of a node at the given depth. -/
def line (u : TranslationUnit) (id depth : Nat) : String :=
  let indent := String.ofList (List.replicate (2 * depth) ' ')
  let ty := ((u.type? id).map fun ty => " : " ++ ty.spelling).getD ""
  let file := (((u.entry? id).bind (·.facts.file)).map fun file => " [" ++ file ++ "]").getD ""
  indent ++ "#" ++ toString id ++ " " ++ kind (u.kind id) ++ ty ++ file ++ "  \"" ++
    excerpt ((u.text? id).getD []) ++ "\""

/-- The nodes from `id` down with their depths, where `id` has the given one. A node comes before
its children, which have greater numbers. -/
def visits (u : TranslationUnit) (id depth : Nat) : List (Nat × Nat) :=
  (id, depth) :: (u.children id).flatMap fun child =>
    if id < child ∧ child < u.size then visits u child (depth + 1) else []
termination_by u.size - id

end Outline

/-- The tree of a unit as text, under the name of its file and its language. -/
def TranslationUnit.outline (u : TranslationUnit) : String :=
  Report.unlines
    (["AST for " ++ u.file ++ ":", "tier: " ++ u.language.tier.label, "================"] ++
      (Outline.visits u 0 0).map fun (id, depth) => Outline.line u id depth)

end CppAdvice
