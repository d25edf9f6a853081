import CppAdvice.Document.Parts
import CppAdvice.Json.Printer

/-!
# Writing documents

The value that describes a document, with every field that loading would fill in written out. Of a
node, the range, file, type and children are only written when there are any.
-/

namespace CppAdvice.Document

open CppAdvice.Tree

/-- The name of a variant. -/
def Choice.nameOf {α : Type} [DecidableEq α] (c : Choice α) (variant : α) : String :=
  ((c.variants.find? (·.2 = variant)).map (·.1)).getD "Other"

/-- A choice, written by its name. -/
def writeChoice {α : Type} [DecidableEq α] (c : Choice α) (variant : α) : Json :=
  .ofString (c.nameOf variant)

/-- A text that may be absent. -/
def writeOption {α : Type} (write : α → Json) : Option α → Json
  | some a => write a
  | none => .null

/-- A whole number of 64 bits. -/
def writeNatural (n : UInt64) : Json :=
  .number (.natural n)

/-- Language flags. -/
def writeFlags (flags : Language.Flags) : Json :=
  .ofMembers
    [("cplusplus", .bool flags.cplusplus), ("cplusplus17", .bool flags.cplusplus17),
      ("cplusplus20", .bool flags.cplusplus20), ("cplusplus23", .bool flags.cplusplus23),
      ("cplusplus26", .bool flags.cplusplus26)]

/-- A type, with all its fields. -/
def writeType (ty : TypeRef) : Json :=
  .ofMembers
    [("spelling", .ofString ty.spelling), ("decl", writeOption .ofString ty.decl),
      ("is_const", .bool ty.isConst), ("reference", writeChoice references ty.reference),
      ("is_pointer", .bool ty.isPointer), ("is_integer", .bool ty.isInteger),
      ("is_scoped_enum", .bool ty.isScopedEnum)]

/-- A range. -/
def writeRange (r : SourceRange) : Json :=
  .ofMembers [("begin", writeNatural r.first), ("end", writeNatural r.last)]

/-- The facts that only a kind has. -/
def kindMembers : Kind → List (String × Json)
  | .namespaceDecl name | .recordDecl name | .parmVarDecl name | .fieldDecl name
  | .typeAliasDecl name | .declRefExpr name => [("name", .ofString name)]
  | .functionDecl f =>
    [("name", .ofString f.name), ("returns", writeOption writeType f.returns),
      ("role", writeChoice roles f.role), ("special", writeChoice specials f.special),
      ("is_definition", .bool f.isDefinition), ("is_defaulted", .bool f.isDefaulted),
      ("is_deleted", .bool f.isDeleted), ("is_noexcept", .bool f.isNoexcept)]
  | .varDecl name storage => [("name", .ofString name), ("storage", writeChoice storages storage)]
  | .callExpr callee => [("callee", writeOption .ofString callee)]
  | .memberCallExpr call =>
    [("method", .ofString call.method), ("class", writeOption .ofString call.className),
      ("is_virtual", .bool call.isVirtual)]
  | .operatorCallExpr op => [("operator", writeChoice opcodes op)]
  | .binaryOperator op | .rewrittenBinaryOperator op => [("opcode", writeChoice opcodes op)]
  | .unaryOperator spelling => [("opcode", .ofString spelling)]
  | .constructExpr constructor => [("constructor", writeChoice constructors constructor)]
  | .integerLiteral value => [("value", writeNatural value)]
  | .translationUnitDecl | .compoundStmt | .forStmt | .whileStmt | .doStmt | .forRangeStmt | .ifStmt
  | .returnStmt | .implicitCastExpr | .materializeTemporaryExpr | .exprWithCleanups
  | .bindTemporaryExpr | .parenExpr | .stringLiteral | .dynamicCastExpr | .staticCastExpr
  | .throwExpr | .lambdaExpr | .unknown => []

/-- A kind with its facts. -/
def writeKind (kind : Kind) : List (String × Json) :=
  ("kind", .ofString kind.tag.name) :: kindMembers kind

/-- What is known of a node apart from its children. -/
def writeFacts (facts : Facts) : List (String × Json) :=
  writeKind facts.kind ++ (facts.range.map fun r => ("range", writeRange r)).toList ++
    (facts.file.map fun s => ("file", .ofString s)).toList ++
    (facts.ty.map fun ty => ("ty", writeType ty)).toList

mutual

/-- A node and what is below it. -/
def writeNode : Node → Json
  | .mk facts [] => .ofMembers (writeFacts facts)
  | .mk facts (child :: children) =>
    .ofMembers (writeFacts facts ++ [("children", .array (writeNodes (child :: children)))])

/-- Several nodes. -/
def writeNodes : List Node → List Json
  | [] => []
  | node :: nodes => writeNode node :: writeNodes nodes

end

/-- A class record. -/
def writeClass (r : ClassRecord) : Json :=
  .ofMembers [("name", .ofString r.name), ("methods", .array (r.methods.map .ofString))]

/-- The value that describes a document. -/
def toJson (d : Document) : Json :=
  .ofMembers
    [("file", .ofString d.file), ("source", .ofString d.source),
      ("language", writeOption writeFlags d.language),
      ("records", .array (d.records.map writeClass)), ("root", writeNode d.root)]

end CppAdvice.Document
