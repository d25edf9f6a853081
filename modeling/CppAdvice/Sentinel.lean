import CppAdvice.Pattern.Name
import CppAdvice.Tree.TranslationUnit

/-!
# Sentinel comparisons

A test for existence compares the result of a lookup with a value that means "not found". The lookup
and the comparison may be apart: a walk goes up from the lookup through nodes that pass its value
on, to the first comparison, which decides.
-/

namespace CppAdvice.Sentinel

open CppAdvice.Tree

/-- A value that means "not found". -/
inductive Marker where
  /-- The end of a container, `c.end()` or `c.cend()`. -/
  | endIterator
  /-- A reference to `npos`. -/
  | npos
  /-- The literal `0`. -/
  | zero
deriving Repr, DecidableEq

/-- How a lookup on the left is compared with a marker on the right. -/
inductive Relation where
  | equal
  | notEqual
  | greater
deriving Repr, DecidableEq

namespace Relation

/-- Whether an operator states the relation, with the lookup on the given side. -/
def accepts (op : Opcode) (lookupOnLeft : Bool) : Relation → Bool
  | .equal => op = .eq
  | .notEqual => op = .ne
  | .greater => if lookupOnLeft then op = .gt else op = .lt

end Relation

/-- The comparisons that are looked for. -/
structure Comparison where
  marker : Marker
  relations : List Relation
deriving Repr, DecidableEq

/-- The nodes that pass a value on. -/
def defaultTransparent : List Tag :=
  [.implicitCastExpr, .materializeTemporaryExpr, .constructExpr, .unaryOperator, .exprWithCleanups,
    .bindTemporaryExpr, .parenExpr]

/-- Whether a node is the marker. -/
def Marker.holdsAt (u : TranslationUnit) (id : Nat) (marker : Marker) : Bool :=
  match marker, u.kind id with
  | .endIterator, .memberCallExpr call => call.method = "end" || call.method = "cend"
  | .npos, .declRefExpr name => (Pattern.Name.one "npos").covers name
  | .zero, .integerLiteral value => value = 0
  | _, _ => false

/-- Whether an operator node compares its child `side` with the marker. -/
def comparesAt (u : TranslationUnit) (comparison : Comparison) (node side : Nat)
    (op : Opcode) : Bool :=
  match u.children node with
  | lhs :: rhs :: _ =>
    if lhs = side then
      comparison.marker.holdsAt u (u.skipImplicit rhs) &&
        comparison.relations.any (·.accepts op true)
    else if rhs = side then
      comparison.marker.holdsAt u (u.skipImplicit lhs) &&
        comparison.relations.any (·.accepts op false)
    else false
  | _ => false

/-- Walks up from `side` along the given nodes above it. -/
def walk (u : TranslationUnit) (transparent : List Tag) (comparison : Comparison) :
    (side : Nat) → (above : List Nat) → Bool
  | _, [] => false
  | side, parent :: above =>
    match u.kind parent with
    | .rewrittenBinaryOperator _ => true
    | .binaryOperator op | .operatorCallExpr op => comparesAt u comparison parent side op
    | kind => transparent.contains kind.tag && walk u transparent comparison parent above

/-- Whether the value of a node flows into one of the comparisons. -/
def isCompared (u : TranslationUnit) (transparent : List Tag) (comparison : Comparison) (id : Nat) :
    Bool :=
  walk u transparent comparison id (u.ancestors id)

end CppAdvice.Sentinel
