import CppAdvice.Tree.Opcode
import CppAdvice.Tree.TypeRef

/-!
# Node kinds

What a node of a syntax tree is, with the facts that only its kind has, and the bare tag of a kind.
-/

namespace CppAdvice.Tree

/-- What a function is declared as. -/
inductive FunctionRole where
  | free
  | method
  | constructor
  | destructor
deriving Repr, DecidableEq

/-- Which special member a function is. -/
inductive SpecialMember where
  | none
  | copyConstructor
  | moveConstructor
  | copyAssignment
  | moveAssignment
deriving Repr, DecidableEq

/-- Which kind of constructor an expression calls. -/
inductive ConstructorKind where
  | regular
  | copy
  | move
deriving Repr, DecidableEq

/-- Where a variable lives. -/
inductive Storage where
  | automatic
  | static
deriving Repr, DecidableEq

/-- The facts about a function declaration. -/
structure Function where
  name : String
  returns : Option TypeRef := none
  role : FunctionRole := .free
  special : SpecialMember := .none
  isDefinition : Bool := false
  isDefaulted : Bool := false
  isDeleted : Bool := false
  isNoexcept : Bool := false
deriving Repr, DecidableEq

/-- The facts about a member call. -/
structure MemberCall where
  method : String
  className : Option String := none
  isVirtual : Bool := false
deriving Repr, DecidableEq

/-- What a node is. -/
inductive Kind where
  | translationUnitDecl
  | namespaceDecl (name : String)
  | recordDecl (name : String)
  | functionDecl (function : Function)
  | varDecl (name : String) (storage : Storage)
  | parmVarDecl (name : String)
  | fieldDecl (name : String)
  | typeAliasDecl (name : String)
  | compoundStmt
  | forStmt
  | whileStmt
  | doStmt
  | forRangeStmt
  | ifStmt
  | returnStmt
  | callExpr (callee : Option String)
  | memberCallExpr (call : MemberCall)
  | operatorCallExpr (op : Opcode)
  | binaryOperator (op : Opcode)
  | rewrittenBinaryOperator (op : Opcode)
  | unaryOperator (spelling : String)
  | implicitCastExpr
  | materializeTemporaryExpr
  | exprWithCleanups
  | bindTemporaryExpr
  | parenExpr
  | constructExpr (constructor : ConstructorKind)
  | declRefExpr (name : String)
  | integerLiteral (value : UInt64)
  | stringLiteral
  | dynamicCastExpr
  | staticCastExpr
  | throwExpr
  | lambdaExpr
  | unknown
deriving Repr, DecidableEq

/-- A kind without its facts. -/
inductive Tag where
  | translationUnitDecl
  | namespaceDecl
  | recordDecl
  | functionDecl
  | varDecl
  | parmVarDecl
  | fieldDecl
  | typeAliasDecl
  | compoundStmt
  | forStmt
  | whileStmt
  | doStmt
  | forRangeStmt
  | ifStmt
  | returnStmt
  | callExpr
  | memberCallExpr
  | operatorCallExpr
  | binaryOperator
  | rewrittenBinaryOperator
  | unaryOperator
  | implicitCastExpr
  | materializeTemporaryExpr
  | exprWithCleanups
  | bindTemporaryExpr
  | parenExpr
  | constructExpr
  | declRefExpr
  | integerLiteral
  | stringLiteral
  | dynamicCastExpr
  | staticCastExpr
  | throwExpr
  | lambdaExpr
  | unknown
deriving Repr, DecidableEq

namespace Tag

/-- All tags but `unknown`, in the order of their numbers. -/
def known : List Tag :=
  [.translationUnitDecl, .namespaceDecl, .recordDecl, .functionDecl, .varDecl, .parmVarDecl,
    .fieldDecl, .typeAliasDecl, .compoundStmt, .forStmt, .whileStmt, .doStmt,
    .forRangeStmt, .ifStmt, .returnStmt, .callExpr, .memberCallExpr, .operatorCallExpr,
    .binaryOperator, .rewrittenBinaryOperator, .unaryOperator, .implicitCastExpr,
    .materializeTemporaryExpr, .exprWithCleanups, .bindTemporaryExpr, .parenExpr, .constructExpr,
    .declRefExpr, .integerLiteral, .stringLiteral, .dynamicCastExpr, .staticCastExpr, .throwExpr,
    .lambdaExpr]

/-- The name of a tag. -/
def name : Tag → String
  | .translationUnitDecl => "TranslationUnitDecl"
  | .namespaceDecl => "NamespaceDecl"
  | .recordDecl => "RecordDecl"
  | .functionDecl => "FunctionDecl"
  | .varDecl => "VarDecl"
  | .parmVarDecl => "ParmVarDecl"
  | .fieldDecl => "FieldDecl"
  | .typeAliasDecl => "TypeAliasDecl"
  | .compoundStmt => "CompoundStmt"
  | .forStmt => "ForStmt"
  | .whileStmt => "WhileStmt"
  | .doStmt => "DoStmt"
  | .forRangeStmt => "CxxForRangeStmt"
  | .ifStmt => "IfStmt"
  | .returnStmt => "ReturnStmt"
  | .callExpr => "CallExpr"
  | .memberCallExpr => "MemberCallExpr"
  | .operatorCallExpr => "OperatorCallExpr"
  | .binaryOperator => "BinaryOperator"
  | .rewrittenBinaryOperator => "RewrittenBinaryOperator"
  | .unaryOperator => "UnaryOperator"
  | .implicitCastExpr => "ImplicitCastExpr"
  | .materializeTemporaryExpr => "MaterializeTemporaryExpr"
  | .exprWithCleanups => "ExprWithCleanups"
  | .bindTemporaryExpr => "CxxBindTemporaryExpr"
  | .parenExpr => "ParenExpr"
  | .constructExpr => "ConstructExpr"
  | .declRefExpr => "DeclRefExpr"
  | .integerLiteral => "IntegerLiteral"
  | .stringLiteral => "StringLiteral"
  | .dynamicCastExpr => "DynamicCastExpr"
  | .staticCastExpr => "StaticCastExpr"
  | .throwExpr => "ThrowExpr"
  | .lambdaExpr => "LambdaExpr"
  | .unknown => "Unknown"

/-- The tag with the given name; every other name is `unknown`. -/
def ofName (s : String) : Tag :=
  (known.find? fun tag => tag.name = s).getD .unknown

/-- The tag with the given number; every number past the last is `unknown`. -/
def ofNumber (n : Nat) : Tag :=
  known[n]?.getD .unknown

/-- Whether the tag is a loop. -/
def isLoop : Tag → Bool
  | .forStmt | .whileStmt | .doStmt | .forRangeStmt => true
  | _ => false

/-- Whether a compiler puts such nodes around an expression without changing what was written. -/
def isImplicitWrapper : Tag → Bool
  | .implicitCastExpr | .materializeTemporaryExpr | .exprWithCleanups | .bindTemporaryExpr
  | .parenExpr => true
  | _ => false

/-- Whether the node has a list of arguments. -/
def isCallLike : Tag → Bool
  | .callExpr | .memberCallExpr | .operatorCallExpr | .constructExpr => true
  | _ => false

end Tag

namespace Kind

/-- The bare tag of a kind. -/
def tag : Kind → Tag
  | .translationUnitDecl => .translationUnitDecl
  | .namespaceDecl _ => .namespaceDecl
  | .recordDecl _ => .recordDecl
  | .functionDecl _ => .functionDecl
  | .varDecl _ _ => .varDecl
  | .parmVarDecl _ => .parmVarDecl
  | .fieldDecl _ => .fieldDecl
  | .typeAliasDecl _ => .typeAliasDecl
  | .compoundStmt => .compoundStmt
  | .forStmt => .forStmt
  | .whileStmt => .whileStmt
  | .doStmt => .doStmt
  | .forRangeStmt => .forRangeStmt
  | .ifStmt => .ifStmt
  | .returnStmt => .returnStmt
  | .callExpr _ => .callExpr
  | .memberCallExpr _ => .memberCallExpr
  | .operatorCallExpr _ => .operatorCallExpr
  | .binaryOperator _ => .binaryOperator
  | .rewrittenBinaryOperator _ => .rewrittenBinaryOperator
  | .unaryOperator _ => .unaryOperator
  | .implicitCastExpr => .implicitCastExpr
  | .materializeTemporaryExpr => .materializeTemporaryExpr
  | .exprWithCleanups => .exprWithCleanups
  | .bindTemporaryExpr => .bindTemporaryExpr
  | .parenExpr => .parenExpr
  | .constructExpr _ => .constructExpr
  | .declRefExpr _ => .declRefExpr
  | .integerLiteral _ => .integerLiteral
  | .stringLiteral => .stringLiteral
  | .dynamicCastExpr => .dynamicCastExpr
  | .staticCastExpr => .staticCastExpr
  | .throwExpr => .throwExpr
  | .lambdaExpr => .lambdaExpr
  | .unknown => .unknown

/-- The name that a declaration carries. -/
def declName? : Kind → Option String
  | .namespaceDecl name | .recordDecl name | .varDecl name _ | .parmVarDecl name | .fieldDecl name
  | .typeAliasDecl name => some name
  | .functionDecl function => some function.name
  | _ => none

/-- The name of a variable or parameter. -/
def variableName? : Kind → Option String
  | .varDecl name _ | .parmVarDecl name => some name
  | _ => none

/-- The operator of an operator node. -/
def operator? : Kind → Option Opcode
  | .binaryOperator op | .rewrittenBinaryOperator op | .operatorCallExpr op => some op
  | _ => none

/-- The kind with the canonical spelling of every name that is looked up by its qualified form. -/
def normalize : Kind → Kind
  | .functionDecl f =>
    .functionDecl { f with
      name := Name.normalize f.name, returns := f.returns.map TypeRef.normalize }
  | .recordDecl name => .recordDecl (Name.normalize name)
  | .declRefExpr name => .declRefExpr (Name.normalize name)
  | .callExpr callee => .callExpr (callee.map Name.normalize)
  | .memberCallExpr call =>
    .memberCallExpr { call with className := call.className.map Name.normalize }
  | kind => kind

end Kind

end CppAdvice.Tree
