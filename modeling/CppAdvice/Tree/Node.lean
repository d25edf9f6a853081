import CppAdvice.Tree.Kind

/-!
# Syntax trees

The tree form of a translation unit, as a front end describes it.
-/

namespace CppAdvice.Tree

/-- The bytes from `first` up to, but not including, `last` of the main file. The ends are as given,
in any order. -/
structure SourceRange where
  first : UInt64
  last : UInt64
deriving Repr, DecidableEq

namespace SourceRange

/-- The number of bytes; none when the ends are in the wrong order. -/
def length (r : SourceRange) : Nat :=
  r.last.toNat - r.first.toNat

end SourceRange

/-- What is known of a node apart from its children. `file` is set when the node was written in an
included file. -/
structure Facts where
  kind : Kind
  range : Option SourceRange := none
  file : Option String := none
  ty : Option TypeRef := none
deriving Repr, DecidableEq

/-- The facts with every name in its canonical spelling. -/
def Facts.normalize (facts : Facts) : Facts :=
  { facts with kind := facts.kind.normalize, ty := facts.ty.map TypeRef.normalize }

/-- A node and what is below it. -/
inductive Node where
  | mk (facts : Facts) (children : List Node)
deriving Repr

namespace Node

/-- What is known of the node. -/
def facts : Node → Facts
  | mk facts _ => facts

/-- The nodes directly below. -/
def children : Node → List Node
  | mk _ children => children

mutual

/-- The number of nodes of a tree. -/
def size : Node → Nat
  | mk _ children => sizeAll children + 1

/-- The number of nodes of several trees. -/
def sizeAll : List Node → Nat
  | [] => 0
  | node :: nodes => node.size + sizeAll nodes

end

/-- Trees side by side have as many nodes as both lists of them. -/
theorem sizeAll_append (xs ys : List Node) : sizeAll (xs ++ ys) = sizeAll xs + sizeAll ys := by
  induction xs with
  | nil => simp [sizeAll]
  | cons x xs ih => rw [List.cons_append, sizeAll, sizeAll, ih, Nat.add_assoc]

end Node

end CppAdvice.Tree
