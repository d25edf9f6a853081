import CppAdvice.Proofs.Neighbours
import Mathlib.Data.List.Lattice
import Mathlib.Logic.Relation

/-!
# What is below a node

Whether a node is below another is told from two numbers, without a look at the nodes between them:
the numbers below a node are those after its own, up to the end of its subtree. The links from node
to node say the same. In the unit of a document a stretch of numbers below a node falls into the
children, each followed by the stretch below it (`Rooted.below`), and this is all that the proofs
here know of where subtrees end. Going down it, by induction from the last number to the first,
gives the nodes that have the first one above them (`Rooted.mem_descendants_iff`), and from there
that two subtrees have a node in common only if one of them is in the other
(`Rooted.nested_or_disjoint`).
-/

namespace CppAdvice.TranslationUnit

open CppAdvice.Tree

/-- The nodes of a unit hang together as a tree. -/
structure Rooted (u : TranslationUnit) : Prop extends u.Linked where
  parent_of_child : ∀ {i c}, c ∈ u.children i → u.parent? c = some i
  /-- Below a node are its children, each of them followed by what is below it. -/
  below : ∀ i, u.descendants i = (u.children i).flatMap fun c => c :: u.descendants c

/-- A node and what is below it. -/
def subtree (u : TranslationUnit) (id : Nat) : List Nat :=
  id :: u.descendants id

section

variable {d : Document} (fallback : Language.Flags)

/-- A node and what is below it have as many numbers as the tree has nodes. -/
lemma subtree_ofDocument {parent : Option Nat} {id : Nat} {node : Node}
    (h : Node.Numbered d.root parent id node) :
    (ofDocument d fallback).subtree id = List.range' id node.size := by
  obtain ⟨n, hn⟩ : ∃ n, node.size = n + 1 := Nat.exists_eq_add_one.2 node.size_pos
  rw [subtree, descendants, subtreeEnd, entry?_ofDocument, h.getElem?_entries, Option.elim_some,
    Node.entry, hn, List.range'_succ, ← Nat.add_assoc, Nat.add_right_comm, Nat.add_sub_cancel_left]

/-- The numbers of neighbours and of what is below them make up one stretch. -/
lemma flatMap_subtree_ofDocument {parent : Option Nat} {id : Nat} {facts : Facts} :
    ∀ {younger elder : List Node}, Node.Numbered d.root parent id (.mk facts (elder ++ younger)) →
      (Node.ids (id + 1 + Node.sizeAll elder) younger).flatMap (ofDocument d fallback).subtree =
        List.range' (id + 1 + Node.sizeAll elder) (Node.sizeAll younger)
  | [], elder, _ => rfl
  | node :: younger, elder, h => by
    have h' : Node.Numbered d.root parent id (.mk facts ((elder ++ [node]) ++ younger)) := by
      rwa [List.append_assoc]
    have hrest := flatMap_subtree_ofDocument h'
    rw [Node.sizeAll_concat, ← Nat.add_assoc] at hrest
    rw [Node.ids, List.flatMap_cons, hrest, subtree_ofDocument fallback (.child h), Node.sizeAll,
      List.range'_append_1]

/-- In the unit of a document links go both ways, and below a node is what is below its children. -/
lemma rooted_ofDocument (d : Document) (fallback : Language.Flags) :
    (ofDocument d fallback).Rooted where
  toLinked := linked_ofDocument d fallback
  parent_of_child := by
    intro i c hc
    rw [children, entry?_ofDocument] at hc
    cases he : (d.root.entries none 0)[i]? with
    | none =>
      rw [he] at hc
      cases hc
    | some e =>
      rw [he] at hc
      obtain ⟨parent, ⟨facts, children⟩, hnode, rfl⟩ := Node.getElem?_entries_iff.1 he
      have hnode' : Node.Numbered d.root parent i (.mk facts ([] ++ children)) := hnode
      obtain ⟨child, _, hchild⟩ := hnode'.of_mem_ids hc
      rw [parent?, entry?_ofDocument, hchild.getElem?_entries]
      rfl
  below := by
    intro i
    cases he : (d.root.entries none 0)[i]? with
    | none =>
      rw [descendants, subtreeEnd, children, entry?_ofDocument, he]
      simp
    | some e =>
      obtain ⟨parent, ⟨facts, children⟩, hnode, rfl⟩ := Node.getElem?_entries_iff.1 he
      have hnode' : Node.Numbered d.root parent i (.mk facts ([] ++ children)) := hnode
      have hbelow := subtree_ofDocument fallback hnode
      have hchildren := flatMap_subtree_ofDocument fallback hnode'
      rw [Node.size, List.range'_succ, subtree, List.cons_inj_right] at hbelow
      rw [TranslationUnit.children, entry?_ofDocument, he, hbelow]
      exact hchildren.symm

end

section

variable {u : TranslationUnit} {i j k a b p : Nat}

/-- The test on two numbers is whether the one is among the numbers below the other. -/
lemma isBelow_iff : u.isBelow i a = true ↔ i ∈ u.descendants a := by
  rw [isBelow, descendants, List.mem_range'_1, Bool.and_eq_true, decide_eq_true_iff,
    decide_eq_true_iff]
  omega

/-- What is below a node is listed in order. -/
lemma pairwise_descendants (u : TranslationUnit) (a : Nat) : (u.descendants a).Pairwise (· < ·) :=
  List.pairwise_lt_range'

/-- A subtree is a node and what is below it. -/
lemma mem_subtree : j ∈ u.subtree i ↔ j = i ∨ j ∈ u.descendants i :=
  List.mem_cons

namespace Linked

/-- What is above a node is its parent and what is above that. -/
lemma ancestors_eq (hu : u.Linked) (hp : u.parent? i = some p) :
    u.ancestors i = p :: u.ancestors p := by
  rw [ancestors, hp]
  exact if_pos (hu.parent hp).1

/-- Being above a node is being its parent or above that. -/
lemma mem_ancestors_iff (hu : u.Linked) :
    a ∈ u.ancestors i ↔ ∃ p, u.parent? i = some p ∧ (a = p ∨ a ∈ u.ancestors p) := by
  cases hp : u.parent? i with
  | none =>
    rw [ancestors, hp]
    simp
  | some p =>
    rw [hu.ancestors_eq hp, List.mem_cons]
    simp

/-- What is above something above a node is above the node. -/
lemma ancestors_trans (hu : u.Linked) {i b a : Nat} (hb : b ∈ u.ancestors i)
    (ha : a ∈ u.ancestors b) :
    a ∈ u.ancestors i := by
  obtain ⟨p, hp, hb⟩ := hu.mem_ancestors_iff.1 hb
  have hlt := (hu.parent hp).1
  refine hu.mem_ancestors_iff.2 ⟨p, hp, .inr ?_⟩
  cases hb with
  | inl hb => rwa [← hb]
  | inr hb => exact hu.ancestors_trans hb ha
termination_by i

end Linked

namespace Rooted

/-- Being below a node is being one of its children or below one. -/
lemma mem_descendants (hu : u.Rooted) :
    j ∈ u.descendants i ↔ ∃ c ∈ u.children i, j = c ∨ j ∈ u.descendants c := by
  rw [hu.below, List.mem_flatMap]
  simp only [List.mem_cons]

/-- A child is below its parent. -/
lemma child_mem_descendants (hu : u.Rooted) (h : j ∈ u.children i) : j ∈ u.descendants i :=
  hu.mem_descendants.2 ⟨j, h, .inl rfl⟩

/-- What is below something below a node is below the node. -/
lemma descendants_trans (hu : u.Rooted) {i j k : Nat} (hj : j ∈ u.descendants i)
    (hk : k ∈ u.descendants j) :
    k ∈ u.descendants i := by
  obtain ⟨c, hc, hj⟩ := hu.mem_descendants.1 hj
  have hlt := hu.child hc
  refine hu.mem_descendants.2 ⟨c, hc, .inr ?_⟩
  cases hj with
  | inl hj => rwa [← hj]
  | inr hj => exact hu.descendants_trans hj hk
termination_by u.size - i

/-- A parent is above its child. -/
lemma mem_ancestors_of_child (hu : u.Rooted) (h : j ∈ u.children i) : i ∈ u.ancestors j :=
  hu.mem_ancestors_iff.2 ⟨i, hu.parent_of_child h, .inl rfl⟩

/-- A node is above what is below it. -/
lemma mem_ancestors_of_mem_descendants (hu : u.Rooted) {i a : Nat} (h : i ∈ u.descendants a) :
    a ∈ u.ancestors i := by
  obtain ⟨c, hc, h⟩ := hu.mem_descendants.1 h
  have hlt := hu.child hc
  cases h with
  | inl h =>
    rw [h]
    exact hu.mem_ancestors_of_child hc
  | inr h =>
    exact hu.ancestors_trans (hu.mem_ancestors_of_mem_descendants h) (hu.mem_ancestors_of_child hc)
termination_by u.size - a

/-- A node is below what is above it. -/
lemma mem_descendants_of_mem_ancestors (hu : u.Rooted) {i a : Nat} (h : a ∈ u.ancestors i) :
    i ∈ u.descendants a := by
  obtain ⟨p, hp, h⟩ := hu.mem_ancestors_iff.1 h
  obtain ⟨hlt, hchild⟩ := hu.parent hp
  cases h with
  | inl h =>
    rw [h]
    exact hu.child_mem_descendants hchild
  | inr h =>
    exact hu.descendants_trans (hu.mem_descendants_of_mem_ancestors h)
      (hu.child_mem_descendants hchild)
termination_by i

/-- Above and below are two sides of one relation. -/
lemma mem_descendants_iff (hu : u.Rooted) : i ∈ u.descendants a ↔ a ∈ u.ancestors i :=
  ⟨hu.mem_ancestors_of_mem_descendants, hu.mem_descendants_of_mem_ancestors⟩

/-- What is below a node is what its children lead to. -/
lemma mem_descendants_iff_transGen (hu : u.Rooted) :
    i ∈ u.descendants a ↔ Relation.TransGen (fun p c => c ∈ u.children p) a i := by
  constructor
  · intro h
    rw [hu.mem_descendants_iff] at h
    -- The way up from the node, one parent at a time, is the way down taken backwards.
    induction i using Nat.strong_induction_on with
    | _ i ih =>
      obtain ⟨p, hp, h⟩ := hu.mem_ancestors_iff.1 h
      obtain ⟨hlt, hchild⟩ := hu.parent hp
      cases h with
      | inl h => exact .single (h ▸ hchild)
      | inr h => exact .tail (ih p hlt h) hchild
  · intro h
    induction h with
    | single hchild => exact hu.child_mem_descendants hchild
    | tail _ hchild ih => exact hu.descendants_trans ih (hu.child_mem_descendants hchild)

/-- The first child of a node comes right after it. -/
lemma head?_children (hu : u.Rooted) (h : (u.children i).head? = some j) : j = i + 1 := by
  obtain ⟨siblings, hchildren⟩ := List.head?_eq_some_iff.1 h
  have hbelow := congrArg List.head? (hu.below i)
  rw [hchildren, List.flatMap_cons, List.cons_append, List.head?_cons, descendants,
    List.head?_range'] at hbelow
  split at hbelow
  · cases hbelow
  · exact (Option.some.inj hbelow).symm

/-- An expression as it was written is below the wrappers around it. -/
lemma skipImplicit_mem_subtree (hu : u.Rooted) (i : Nat) : u.skipImplicit i ∈ u.subtree i := by
  rw [skipImplicit]
  split
  case isFalse => exact List.mem_cons_self
  case isTrue =>
    cases hchild : (u.children i).head? with
    | none => exact List.mem_cons_self
    | some c =>
      have hmem := List.mem_of_head? hchild
      have hlt := hu.child hmem
      simp only [hlt, and_self, if_true]
      rw [mem_subtree, hu.mem_descendants]
      exact .inr ⟨c, hmem, mem_subtree.1 (hu.skipImplicit_mem_subtree c)⟩
termination_by u.size - i

/-- What comes before an expression as it was written, and not before the node that stands for it,
are wrappers. -/
lemma isImplicitWrapper_of_lt_skipImplicit (hu : u.Rooted) {i j : Nat} (hij : i ≤ j)
    (hj : j < u.skipImplicit i) : (u.tag j).isImplicitWrapper = true := by
  rw [skipImplicit] at hj
  split at hj
  case isFalse => omega
  case isTrue hwrapper =>
    cases hchild : (u.children i).head? with
    | none =>
      rw [hchild] at hj
      exact absurd hj (Nat.not_lt.2 hij)
    | some c =>
      have hlt := hu.child (List.mem_of_head? hchild)
      simp only [hchild, hlt, and_self, if_true] at hj
      rcases Nat.eq_or_lt_of_le hij with rfl | hij
      · exact hwrapper
      · have hc := hu.head?_children hchild
        exact hu.isImplicitWrapper_of_lt_skipImplicit (hc ▸ hij) hj
termination_by u.size - i

/-- The first child of a node, as it was written, is below the node, and only wrappers are between
the two. -/
lemma skipImplicit_head? (hu : u.Rooted) (h : (u.children i).head? = some j) :
    u.skipImplicit j ∈ u.descendants i ∧ ∀ k, i < k → k < u.skipImplicit j →
      (u.tag k).isImplicitWrapper = true := by
  constructor
  · rw [hu.mem_descendants]
    exact ⟨j, List.mem_of_head? h, mem_subtree.1 (hu.skipImplicit_mem_subtree j)⟩
  · intro k hik hk
    exact hu.isImplicitWrapper_of_lt_skipImplicit (hu.head?_children h ▸ hik) hk

/-- The subtree of a node lies in every subtree that the node lies in. -/
lemma subtree_subset (hu : u.Rooted) (h : j ∈ u.subtree i) : u.subtree j ⊆ u.subtree i := by
  intro k hk
  rw [mem_subtree] at h hk ⊢
  rcases h with rfl | h
  · exact hk
  · rcases hk with rfl | hk
    · exact .inr h
    · exact .inr (hu.descendants_trans h hk)

/-- Of two subtrees with a node in common, that of the greater number is in the other. -/
lemma subtree_subset_of_mem (hu : u.Rooted) (hab : a ≤ b) (ha : k ∈ u.subtree a)
    (hb : k ∈ u.subtree b) :
    u.subtree b ⊆ u.subtree a := by
  apply hu.subtree_subset
  rw [mem_subtree] at ha hb ⊢
  rw [descendants, List.mem_range'_1] at ha hb ⊢
  omega

/-- Two subtrees lie one in the other, or have nothing in common. -/
lemma nested_or_disjoint (hu : u.Rooted) (a b : Nat) :
    u.subtree a ⊆ u.subtree b ∨ u.subtree b ⊆ u.subtree a ∨
      (u.subtree a).Disjoint (u.subtree b) := by
  by_cases h : (u.subtree a).Disjoint (u.subtree b)
  · exact .inr (.inr h)
  · obtain ⟨k, ha, hb⟩ : ∃ k, k ∈ u.subtree a ∧ k ∈ u.subtree b := by
      simpa [List.Disjoint] using h
    rcases Nat.le_total a b with hab | hba
    · exact .inr (.inl (hu.subtree_subset_of_mem hab ha hb))
    · exact .inl (hu.subtree_subset_of_mem hba hb ha)

end Rooted

end

/-- The test on two numbers agrees with the way up and with the list of nodes below. That list has
the nodes that the children of a node lead to, each of them once, every child before what is below
it, and two subtrees are one in the other or apart. Numbers that no node has are above and below
nothing. -/
theorem isBelow_agrees (d : Document) (fallback : Language.Flags) :
    let u := ofDocument d fallback
    (∀ i a, (u.isBelow i a = true ↔ a ∈ u.ancestors i) ∧
      (u.isBelow i a = true ↔ i ∈ u.descendants a)) ∧
      (∀ a, (u.descendants a).Pairwise (· < ·) ∧
        (∀ i, i ∈ u.descendants a ↔ Relation.TransGen (fun p c => c ∈ u.children p) a i) ∧
        u.descendants a = (u.children a).flatMap fun c => c :: u.descendants c) ∧
      ∀ a b, u.subtree a ⊆ u.subtree b ∨ u.subtree b ⊆ u.subtree a ∨
        (u.subtree a).Disjoint (u.subtree b) := by
  intro u
  have hu : u.Rooted := rooted_ofDocument d fallback
  refine ⟨?_, ?_, hu.nested_or_disjoint⟩
  · intro i a
    exact ⟨isBelow_iff.trans hu.mem_descendants_iff, isBelow_iff⟩
  · intro a
    exact ⟨u.pairwise_descendants a, fun i => hu.mem_descendants_iff_transGen, hu.below a⟩

end CppAdvice.TranslationUnit
