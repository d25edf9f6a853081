import CppAdvice.Outline
import CppAdvice.Proofs.Subtrees

/-!
# The order of an outline

An outline goes down the children of each node, one level deeper every time, and checks go through
the numbers of the nodes from first to last. Both come by the same nodes in the same order. What an
outline visits from a node on is the stretch of numbers of its subtree, and the depth of each node
is the number of nodes above it (`Rooted.visits_eq`). From the root on, this is every node of the
unit (`outline_ofDocument`).
-/

namespace CppAdvice.TranslationUnit

open CppAdvice.Tree CppAdvice.Outline

variable {u : TranslationUnit}

/-- A child is one level deeper than its parent. -/
lemma Rooted.length_ancestors_child (hu : u.Rooted) {i c : Nat} (hc : c ∈ u.children i) :
    (u.ancestors c).length = (u.ancestors i).length + 1 := by
  rw [hu.toLinked.ancestors_eq (hu.parent_of_child hc), List.length_cons]

/-- From a node at its depth on, the visits go through its subtree, and each node is at its
depth. -/
lemma Rooted.visits_eq (hu : u.Rooted) (i : Nat) :
    visits u i (u.ancestors i).length = (u.subtree i).map fun j => (j, (u.ancestors j).length) := by
  generalize hn : u.size - i = n
  induction n using Nat.strongRecOn generalizing i with
  | ind n ih =>
    have hchildren : ∀ c ∈ u.children i,
        (if i < c ∧ c < u.size then visits u c ((u.ancestors i).length + 1) else []) =
          (u.subtree c).map fun j => (j, (u.ancestors j).length) := by
      intro c hc
      have hlt := hu.child hc
      rw [if_pos hlt, ← hu.length_ancestors_child hc]
      exact ih (u.size - c) (by omega) c rfl
    rw [visits, List.flatMap_congr hchildren, ← List.map_flatMap, subtree,
      List.map_cons, hu.below i]
    rfl

/-- Nothing is above the first node. -/
lemma ancestors_zero (u : TranslationUnit) : u.ancestors 0 = [] := by
  rw [ancestors]
  cases u.parent? 0 with
  | none => rfl
  | some parent => exact if_neg (Nat.not_lt_zero parent)

/-- From the root on, the visits go through all nodes. -/
lemma visits_ofDocument (d : Document) (fallback : Language.Flags) :
    visits (ofDocument d fallback) 0 0 =
      (ofDocument d fallback).preorder.map fun id =>
        (id, ((ofDocument d fallback).ancestors id).length) := by
  have hvisits := (rooted_ofDocument d fallback).visits_eq 0
  rw [ancestors_zero, List.length_nil, subtree_ofDocument fallback .root] at hvisits
  rw [hvisits, preorder, size_ofDocument, List.range_eq_range']

/-- An outline comes by all nodes in the order of their numbers, at the depth that the number of its
ancestors says, and has a line for each. -/
theorem outline_ofDocument (d : Document) (fallback : Language.Flags) :
    let u := ofDocument d fallback
    (visits u 0 0).map (·.1) = List.range u.size ∧
    (visits u 0 0).map (·.2) = (List.range u.size).map (fun id => (u.ancestors id).length) ∧
    u.outline = Report.unlines
      (["AST for " ++ u.file ++ ":", "tier: " ++ u.language.tier.label, "================"] ++
        (List.range u.size).map fun id => line u id (u.ancestors id).length) := by
  intro u
  have hvisits : visits u 0 0 = (List.range u.size).map fun id => (id, (u.ancestors id).length) :=
    visits_ofDocument d fallback
  refine ⟨?_, ?_, ?_⟩
  · rw [hvisits, List.map_map]
    exact List.map_id _
  · rw [hvisits, List.map_map]
    rfl
  · rw [outline, hvisits, List.map_map]
    rfl

end CppAdvice.TranslationUnit
