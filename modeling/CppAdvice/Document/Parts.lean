import CppAdvice.Document.Basic
import CppAdvice.Document.Field

/-!
# Parts of a document

How ranges, types, language flags, class records and the facts of each node kind are written down:
the names of their fields, and of the variants of each choice.
-/

namespace CppAdvice.Document

open CppAdvice.Tree

/-- A range, both ends of which have to be there. -/
def rangeRecord : Record SourceRange where
  name := "SourceRange"
  fields :=
    [.needed "begin" (readNatural .offset) fun n r => { r with first := n },
      .needed "end" (readNatural .offset) fun n r => { r with last := n }]

/-- Language flags; a flag that is left out is off. -/
def flagsRecord : Record Language.Flags where
  name := "LanguageFlags"
  fields :=
    [.optional "cplusplus" readBool fun b f => { f with cplusplus := b },
      .optional "cplusplus17" readBool fun b f => { f with cplusplus17 := b },
      .optional "cplusplus20" readBool fun b f => { f with cplusplus20 := b },
      .optional "cplusplus23" readBool fun b f => { f with cplusplus23 := b },
      .optional "cplusplus26" readBool fun b f => { f with cplusplus26 := b }]

/-- A class record, which has to have a name. -/
def classRecord (depth : Nat) : Record ClassRecord where
  name := "RecordInfo"
  fields :=
    [.needed "name" readString fun s r => { r with name := s },
      .optional "methods" (readList (fun _ => readString) depth) fun ms r =>
        { r with methods := ms }]

/-- The kinds of reference. -/
def references : Choice Reference where
  variants := [("none", .none), ("lvalue", .lvalue), ("rvalue", .rvalue)]

/-- A type; `readReference` reads its kind of reference. -/
def typeRecord (readReference : Json → Reading Reference) : Record TypeRef where
  name := "TypeRef"
  fields :=
    [.optional "spelling" readString fun s ty => { ty with spelling := s },
      .optional "decl" (readOption readString) fun s ty => { ty with decl := s },
      .optional "is_const" readBool fun b ty => { ty with isConst := b },
      .optional "reference" readReference fun r ty => { ty with reference := r },
      .optional "is_pointer" readBool fun b ty => { ty with isPointer := b },
      .optional "is_integer" readBool fun b ty => { ty with isInteger := b },
      .optional "is_scoped_enum" readBool fun b ty => { ty with isScopedEnum := b }]

/-- Reads a type that stands in the document itself. -/
def readType (depth : Nat) : Json → Reading TypeRef :=
  (typeRecord (references.read (depth + 1))).read {} depth

/-- Reads a type in a value that has been read in full before. -/
def readKeptType : Json → Reading TypeRef :=
  (typeRecord references.readKept).readKept {}

/-- The operators by their spelling; every other name is an operator too. -/
def opcodes : Choice Opcode where
  variants := Opcode.spelled.map fun op => (op.spelling, op)
  fallback := some .other

/-- What functions can be declared as. -/
def roles : Choice FunctionRole where
  variants :=
    [("free", .free), ("method", .method), ("constructor", .constructor),
      ("destructor", .destructor)]

/-- The special members. -/
def specials : Choice SpecialMember where
  variants :=
    [("none", .none), ("copy_constructor", .copyConstructor),
      ("move_constructor", .moveConstructor), ("copy_assignment", .copyAssignment),
      ("move_assignment", .moveAssignment)]

/-- The kinds of constructor. -/
def constructors : Choice ConstructorKind where
  variants := [("regular", .regular), ("copy", .copy), ("move", .move)]

/-- The kinds of storage. -/
def storages : Choice Storage where
  variants := [("automatic", .automatic), ("static", .static)]

/-- The facts of a kind that are one field only. -/
def soleField {α : Type} (field : Field α) : Record α where
  name := ""
  fields := [field]

/-- A sole field with a text that has to be there. -/
def textField (name : String) : Record String :=
  soleField (.needed name readString fun s _ => s)

/-- A sole field with an operator that has to be there. -/
def opcodeField (name : String) : Record Opcode :=
  soleField (.needed name opcodes.readKept fun op _ => op)

/-- The facts of a function declaration. -/
def functionRecord : Record Function where
  name := "FunctionDecl"
  fields :=
    [.needed "name" readString fun s f => { f with name := s },
      .optional "returns" (readOption readKeptType) fun ty f => { f with returns := ty },
      .optional "role" roles.readKept fun r f => { f with role := r },
      .optional "special" specials.readKept fun s f => { f with special := s },
      .optional "is_definition" readBool fun b f => { f with isDefinition := b },
      .optional "is_defaulted" readBool fun b f => { f with isDefaulted := b },
      .optional "is_deleted" readBool fun b f => { f with isDeleted := b },
      .optional "is_noexcept" readBool fun b f => { f with isNoexcept := b }]

/-- The facts of a variable: its name and its storage. -/
def variableRecord : Record (String × Storage) where
  name := "VarDecl"
  fields :=
    [.needed "name" readString fun s v => (s, v.2),
      .optional "storage" storages.readKept fun s v => (v.1, s)]

/-- The facts of a member call. -/
def memberCallRecord : Record MemberCall where
  name := "MemberCallExpr"
  fields :=
    [.needed "method" readString fun s c => { c with method := s },
      .optional "class" (readOption readString) fun s c => { c with className := s },
      .optional "is_virtual" readBool fun b c => { c with isVirtual := b }]

/-- Reads the facts that belong to a tag from the members of its node. -/
def readKind (members : List (Json.Key × Json)) : Tag → Reading Kind
  | .translationUnitDecl => .ok .translationUnitDecl
  | .namespaceDecl => .namespaceDecl <$> (textField "name").readObject "" members
  | .recordDecl => .recordDecl <$> (textField "name").readObject "" members
  | .functionDecl => .functionDecl <$> functionRecord.readObject { name := "" } members
  | .varDecl =>
    (fun (name, storage) => .varDecl name storage) <$>
      variableRecord.readObject ("", .automatic) members
  | .parmVarDecl =>
    .parmVarDecl <$> (soleField (.optional "name" readString fun s _ => s)).readObject "" members
  | .fieldDecl => .fieldDecl <$> (textField "name").readObject "" members
  | .typeAliasDecl => .typeAliasDecl <$> (textField "name").readObject "" members
  | .compoundStmt => .ok .compoundStmt
  | .forStmt => .ok .forStmt
  | .whileStmt => .ok .whileStmt
  | .doStmt => .ok .doStmt
  | .forRangeStmt => .ok .forRangeStmt
  | .ifStmt => .ok .ifStmt
  | .returnStmt => .ok .returnStmt
  | .callExpr =>
    .callExpr <$>
      (soleField (.optional "callee" (readOption readString) fun s _ => s)).readObject none members
  | .memberCallExpr => .memberCallExpr <$> memberCallRecord.readObject { method := "" } members
  | .operatorCallExpr => .operatorCallExpr <$> (opcodeField "operator").readObject .other members
  | .binaryOperator => .binaryOperator <$> (opcodeField "opcode").readObject .other members
  | .rewrittenBinaryOperator =>
    .rewrittenBinaryOperator <$> (opcodeField "opcode").readObject .other members
  | .unaryOperator => .unaryOperator <$> (textField "opcode").readObject "" members
  | .implicitCastExpr => .ok .implicitCastExpr
  | .materializeTemporaryExpr => .ok .materializeTemporaryExpr
  | .exprWithCleanups => .ok .exprWithCleanups
  | .bindTemporaryExpr => .ok .bindTemporaryExpr
  | .parenExpr => .ok .parenExpr
  | .constructExpr =>
    .constructExpr <$>
      (soleField (.optional "constructor" constructors.readKept fun c _ => c)).readObject .regular
        members
  | .declRefExpr => .declRefExpr <$> (textField "name").readObject "" members
  | .integerLiteral =>
    .integerLiteral <$>
      (soleField (.needed "value" (readNatural .literalValue) fun n _ => n)).readObject 0 members
  | .stringLiteral => .ok .stringLiteral
  | .dynamicCastExpr => .ok .dynamicCastExpr
  | .staticCastExpr => .ok .staticCastExpr
  | .throwExpr => .ok .throwExpr
  | .lambdaExpr => .ok .lambdaExpr
  | .unknown => .ok .unknown

/-- Finds the one member that says the kind of a node: a name or a number. -/
def readTag : (members : List (Json.Key × Json)) → (found : Option Tag) → Reading Tag
  | [], some tag => .ok tag
  | [], none => misshapen (.missingField "kind")
  | (k, v) :: members, found =>
    if k = .name "kind" then
      if found.isSome then misshapen (.duplicateField "kind")
      else match v with
        | .string (some s) => readTag members (some (.ofName s))
        | .number (.natural n) => readTag members (some (.ofNumber n.toNat))
        | v => wrongType .variantName v
    else readTag members found

end CppAdvice.Document
