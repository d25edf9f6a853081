import CppAdvice.Pattern.Regex
import CppAdvice.Pattern.Type
import CppAdvice.Tree.TranslationUnit

/-!
# Conditions and routes

What can be asked of a single node of a unit, and the ways that lead from a node to others: to its
arguments, its object, its operands, what is below it and what is around it.
-/

namespace CppAdvice.Matcher

open CppAdvice.Tree CppAdvice.Pattern

/-- A condition on a function declaration. -/
inductive FunctionPattern where
  | role (role : FunctionRole)
  | special (special : SpecialMember)
  | definition
  | defaulted
  | deleted
  | noexcept
  | returns (ty : TypePattern)
deriving Repr, DecidableEq

/-- Whether a function meets the condition. -/
def FunctionPattern.covers (f : Function) : FunctionPattern → Bool
  | .role r => f.role = r
  | .special s => f.special = s
  | .definition => f.isDefinition
  | .defaulted => f.isDefaulted
  | .deleted => f.isDeleted
  | .noexcept => f.isNoexcept
  | .returns ty => f.returns.any ty.covers

/-- A condition on a node. -/
inductive Condition where
  | tag (tag : Tag)
  /-- A call whose callee has a name that the pattern covers. -/
  | callee (name : Pattern.Name)
  /-- A call in whose callee, with `::` before it, the expression occurs. -/
  | calleeRegex (r : Regex)
  /-- A member call whose method has a name that the pattern covers. -/
  | method (name : Pattern.Name)
  /-- A member call on a class that declares the method. -/
  | classDeclares (method : String)
  | virtualCall
  /-- A reference to a declaration with a name that the pattern covers. -/
  | refers (name : Pattern.Name)
  /-- A declaration with a name that the pattern covers. -/
  | named (name : Pattern.Name)
  | type (ty : TypePattern)
  | operator (ops : List Opcode)
  /-- An integer literal, with the given value if there is one. -/
  | integerLiteral (value : Option UInt64)
  | constructs (constructor : ConstructorKind)
  | argumentCount (n : Nat)
  /-- Inside a loop of the same function or lambda. -/
  | insideLoop
  | function (f : FunctionPattern)
  /-- A variable with automatic storage. -/
  | localStorage
deriving Repr, DecidableEq

namespace Condition

/-- Whether a node is inside a loop of the same function or lambda. -/
def isInsideLoop (u : TranslationUnit) (id : Nat) : Bool :=
  (((u.ancestors id).map u.tag).takeWhile fun tag => tag ≠ .functionDecl && tag ≠ .lambdaExpr).any
    Tag.isLoop

/-- Whether a node meets the condition. -/
def holds (u : TranslationUnit) (id : Nat) : Condition → Bool
  | .tag t => u.tag id = t
  | .callee name =>
    match u.kind id with
    | .callExpr (some called) => name.covers called
    | _ => false
  | .calleeRegex r =>
    match u.kind id with
    | .callExpr (some called) => r.occursIn (':' :: ':' :: called.toList)
    | _ => false
  | .method name =>
    match u.kind id with
    | .memberCallExpr call => name.covers call.method
    | _ => false
  | .classDeclares m =>
    match u.kind id with
    | .memberCallExpr call => call.className.any (u.declares · m)
    | _ => false
  | .virtualCall =>
    match u.kind id with
    | .memberCallExpr call => call.isVirtual
    | _ => false
  | .refers name =>
    match u.kind id with
    | .declRefExpr target => name.covers target
    | _ => false
  | .named name => (u.kind id).declName?.any name.covers
  | .type ty => (u.type? id).any ty.covers
  | .operator ops => (u.kind id).operator?.any ops.contains
  | .integerLiteral value =>
    match u.kind id with
    | .integerLiteral n => value.all (· = n)
    | _ => false
  | .constructs constructor => u.kind id = .constructExpr constructor
  | .argumentCount n => (u.tag id).isCallLike && (u.arguments id).length = n
  | .insideLoop => isInsideLoop u id
  | .function f =>
    match u.kind id with
    | .functionDecl declared => f.covers declared
    | _ => false
  | .localStorage =>
    match u.kind id with
    | .varDecl _ storage => storage = .automatic
    | _ => false

end Condition

/-- A way from a node to others. Wrappers that a compiler puts around an expression are passed
over. -/
inductive Route where
  /-- The argument with the given number. -/
  | argument (index : Nat)
  | anyArgument
  /-- The object of a member call. -/
  | object
  /-- The first two children of an operator. -/
  | operand
  /-- Whatever is below, in preorder. -/
  | descendant
  /-- The initial value of a variable. -/
  | initializer
  /-- The nearest function around. -/
  | enclosingFunction
deriving Repr, DecidableEq

namespace Route

/-- Whether the route leads to several nodes, of which one is chosen. -/
def isChoice : Route → Bool
  | .anyArgument | .operand | .descendant => true
  | _ => false

/-- The first child of a node, as it was written. -/
def firstChild (u : TranslationUnit) (id : Nat) : List Nat :=
  (u.children id).head?.toList.map u.skipImplicit

/-- The nodes that the route leads to, in the order in which they are tried. -/
def targets (u : TranslationUnit) (id : Nat) : Route → List Nat
  | .argument index =>
    if (u.tag id).isCallLike then (u.arguments id)[index]?.toList.map u.skipImplicit else []
  | .anyArgument => if (u.tag id).isCallLike then (u.arguments id).map u.skipImplicit else []
  | .object => if u.tag id = .memberCallExpr then firstChild u id else []
  | .operand =>
    if (u.kind id).operator?.isSome then ((u.children id).take 2).map u.skipImplicit else []
  | .descendant => u.descendants id
  | .initializer => if u.tag id = .varDecl then firstChild u id else []
  | .enclosingFunction => ((u.ancestors id).find? fun a => u.tag a = .functionDecl).toList

end Route

end CppAdvice.Matcher
