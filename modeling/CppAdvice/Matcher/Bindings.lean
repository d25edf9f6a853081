/-!
# Bindings

The nodes that a match has put a label on.
-/

namespace CppAdvice.Matcher

/-- Labelled nodes, each label once. -/
structure Bindings where
  nodes : List (String × Nat) := []
deriving Repr, DecidableEq

namespace Bindings

/-- The node with a label. -/
def get? (b : Bindings) (label : String) : Option Nat :=
  b.nodes.lookup label

/-- Puts a label on a node, and takes it off any other. -/
def insert (b : Bindings) (label : String) (id : Nat) : Bindings :=
  ⟨(label, id) :: b.nodes.filter (·.1 ≠ label)⟩

end Bindings

end CppAdvice.Matcher
