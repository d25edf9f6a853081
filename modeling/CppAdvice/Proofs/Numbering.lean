import CppAdvice.Tree.TranslationUnit
import Mathlib.Tactic.Lemma

/-!
# Preorder numbers

The numbers that the nodes of a tree get in preorder, said on the tree alone: `Numbered root parent
id node` means that `node` is a node of `root` with the number `id` and the given number of its
parent. A child starts after its parent and all that is below its elder siblings.

`entries` lists what the numbered form of a tree holds for each number. `getElem?_entries_iff` ties
the two together: there is an entry for a number exactly when a node has that number, and it is the
entry of that node. All that is known of the numbered form comes from this lemma.

Trees that stand elsewhere get other numbers. Where all numbers go up by the same, the entries are
those that there were, under the new numbers (`map_renumber_entries`).
-/

namespace CppAdvice.Tree

namespace Node

/-- The numbers of neighbouring nodes, the first of which is `id`. -/
def ids (id : Nat) : List Node → List Nat
  | [] => []
  | node :: nodes => id :: ids (id + node.size) nodes

/-- The entry of a node with the given number. -/
def entry (parent : Option Nat) (id : Nat) (node : Node) : Entry where
  facts := node.facts.normalize
  parent := parent
  children := ids (id + 1) node.children
  subtreeEnd := id + node.size

mutual

/-- The entries of a tree whose root has the number `id`. -/
def entries (parent : Option Nat) (id : Nat) : Node → List Entry
  | mk facts children =>
    entry parent id (mk facts children) :: entriesAll (some id) (id + 1) children

/-- The entries of neighbouring trees, the first of which has the number `id`. -/
def entriesAll (parent : Option Nat) (id : Nat) : List Node → List Entry
  | [] => []
  | node :: nodes => node.entries parent id ++ entriesAll parent (id + node.size) nodes

end

/-- A node of a tree with its number and that of its parent. -/
inductive Numbered (root : Node) : Option Nat → Nat → Node → Prop where
  | root :
    Numbered root none 0 root
  | child {parent id facts elder node younger} :
    Numbered root parent id (mk facts (elder ++ node :: younger)) →
    Numbered root (some id) (id + 1 + sizeAll elder) node

/-- Every tree has its root. -/
lemma size_pos (node : Node) : 0 < node.size := by
  cases node with
  | mk facts children => rw [size]; omega

/-- The size of several trees, the last one apart. -/
lemma sizeAll_concat (nodes : List Node) (node : Node) :
    sizeAll (nodes ++ [node]) = sizeAll nodes + node.size := by
  simp [sizeAll_append, sizeAll]

/-- The numbers of neighbours, cut anywhere. -/
lemma ids_append (id : Nat) (xs ys : List Node) :
    ids id (xs ++ ys) = ids id xs ++ ids (id + sizeAll xs) ys := by
  induction xs generalizing id with
  | nil => simp [ids, sizeAll]
  | cons x xs ih => simp [ids, sizeAll, ih, Nat.add_assoc]

/-- The entries of neighbours, cut anywhere. -/
lemma entriesAll_append (parent : Option Nat) (id : Nat) (xs ys : List Node) :
    entriesAll parent id (xs ++ ys) =
      entriesAll parent id xs ++ entriesAll parent (id + sizeAll xs) ys := by
  induction xs generalizing id with
  | nil => simp [entriesAll, sizeAll]
  | cons x xs ih => simp [entriesAll, sizeAll, ih, Nat.add_assoc]

mutual

/-- There is one entry for each node of a tree. -/
lemma length_entries (parent : Option Nat) (id : Nat) :
    ∀ node : Node, (node.entries parent id).length = node.size
  | mk facts children => by
    rw [entries, List.length_cons, length_entriesAll (some id) (id + 1) children, size]

/-- Trees have as many entries as nodes. -/
lemma length_entriesAll (parent : Option Nat) (id : Nat) :
    ∀ nodes : List Node, (entriesAll parent id nodes).length = sizeAll nodes
  | [] => by rw [entriesAll, sizeAll, List.length_nil]
  | node :: nodes => by
    rw [entriesAll, List.length_append, length_entries parent id node,
      length_entriesAll parent (id + node.size) nodes, sizeAll]

end

/-- The first entry of a tree is that of its root. -/
lemma getElem?_entries_zero (parent : Option Nat) (id : Nat) (node : Node) :
    (node.entries parent id)[0]? = some (node.entry parent id) := by
  cases node with
  | mk facts children => rw [entries, List.getElem?_cons_zero]

/-- The entries of a numbered node stand together, from its number on. -/
lemma Numbered.isPrefix {root parent id node} (h : Numbered root parent id node) :
    node.entries parent id <+: (root.entries none 0).drop id := by
  induction h with
  | root => exact List.prefix_rfl
  | @child parent id facts elder node younger _ ih =>
    obtain ⟨rest, hrest⟩ := ih
    rw [entries, entriesAll_append, entriesAll] at hrest
    have hdrop : (root.entries none 0).drop (id + 1 + sizeAll elder) =
        ((root.entries none 0).drop id).drop (1 + sizeAll elder) := by
      rw [List.drop_drop, Nat.add_assoc]
    refine ⟨entriesAll (some id) (id + 1 + sizeAll elder + node.size) younger ++ rest, ?_⟩
    rw [hdrop, ← hrest, Nat.add_comm 1, List.cons_append, List.drop_succ_cons]
    rw [List.append_assoc, List.append_assoc]
    rw [List.drop_left' (length_entriesAll (some id) (id + 1) elder)]

/-- The entry of a numbered node stands under its number. -/
lemma Numbered.getElem?_entries {root parent id node} (h : Numbered root parent id node) :
    (root.entries none 0)[id]? = some (node.entry parent id) := by
  obtain ⟨rest, hrest⟩ := h.isPrefix
  have h0 : ((root.entries none 0).drop id)[0]? = some (node.entry parent id) := by
    rw [← hrest, List.getElem?_append_left (by rw [length_entries]; exact size_pos node)]
    exact getElem?_entries_zero parent id node
  rwa [List.getElem?_drop, Nat.add_zero] at h0

mutual

/-- Every entry of a numbered tree is that of a numbered node. -/
lemma Numbered.of_getElem?_entries {root parent id} :
    ∀ {node : Node} {j : Nat} {e : Entry}, Numbered root parent id node →
      (node.entries parent id)[j]? = some e →
      ∃ parent' node', Numbered root parent' (id + j) node' ∧ e = node'.entry parent' (id + j)
  | mk facts children, 0, e, h, he => by
    rw [getElem?_entries_zero, Option.some.injEq] at he
    exact ⟨parent, mk facts children, h, he.symm⟩
  | mk facts children, j + 1, e, h, he => by
    rw [entries, List.getElem?_cons_succ] at he
    have h' : Numbered root parent id (mk facts ([] ++ children)) := h
    have hc := Numbered.of_getElem?_entriesAll h' he
    rwa [sizeAll, Nat.add_zero, Nat.add_assoc, Nat.add_comm 1] at hc

/-- Every entry of the trees below a numbered node is that of a numbered node. -/
lemma Numbered.of_getElem?_entriesAll {root parent id facts elder} :
    ∀ {younger : List Node} {j : Nat} {e : Entry},
      Numbered root parent id (mk facts (elder ++ younger)) →
      (entriesAll (some id) (id + 1 + sizeAll elder) younger)[j]? = some e →
      ∃ parent' node', Numbered root parent' (id + 1 + sizeAll elder + j) node' ∧
        e = node'.entry parent' (id + 1 + sizeAll elder + j)
  | [], j, e, _, he => by
    rw [entriesAll, List.getElem?_nil] at he
    cases he
  | node :: younger, j, e, h, he => by
    rw [entriesAll] at he
    by_cases hj : j < node.size
    case pos =>
      rw [List.getElem?_append_left (by rw [length_entries]; exact hj)] at he
      exact Numbered.of_getElem?_entries (.child h) he
    case neg =>
      rw [List.getElem?_append_right (by rw [length_entries]; omega), length_entries] at he
      -- The node that was just passed becomes the last of the elder ones.
      have h' : Numbered root parent id (mk facts ((elder ++ [node]) ++ younger)) := by
        rwa [List.append_assoc]
      have hsize : id + 1 + sizeAll elder + node.size = id + 1 + sizeAll (elder ++ [node]) := by
        rw [sizeAll_concat, Nat.add_assoc (id + 1)]
      rw [hsize] at he
      have hr := Numbered.of_getElem?_entriesAll h' he
      rwa [← hsize, Nat.add_assoc (id + 1 + sizeAll elder),
        Nat.add_sub_cancel' (Nat.le_of_not_lt hj)] at hr

end

/-- There is an entry under a number exactly when a node has that number, and it is that node's. -/
lemma getElem?_entries_iff {root : Node} {id : Nat} {e : Entry} :
    (root.entries none 0)[id]? = some e ↔
      ∃ parent node, Numbered root parent id node ∧ e = node.entry parent id := by
  constructor
  · intro he
    have h := Numbered.of_getElem?_entries .root he
    rwa [Nat.zero_add] at h
  · rintro ⟨parent, node, h, rfl⟩
    exact h.getElem?_entries

/-- The number of a neighbour tells how many nodes come before it. -/
lemma exists_of_mem_ids {id c : Nat} {nodes : List Node} (h : c ∈ ids id nodes) :
    ∃ elder node younger, nodes = elder ++ node :: younger ∧ c = id + sizeAll elder := by
  induction nodes generalizing id with
  | nil => cases h
  | cons node nodes ih =>
    rw [ids, List.mem_cons] at h
    cases h with
    | inl h => exact ⟨[], node, nodes, rfl, by rw [sizeAll, h, Nat.add_zero]⟩
    | inr h =>
      obtain ⟨elder, node', younger, rfl, hc⟩ := ih h
      exact ⟨node :: elder, node', younger, rfl, by rw [sizeAll, hc, Nat.add_assoc]⟩

/-- The numbers of the children of a numbered node are those of numbered nodes. -/
lemma Numbered.of_mem_ids {root parent id facts elder younger} {c : Nat}
    (h : Numbered root parent id (mk facts (elder ++ younger)))
    (hc : c ∈ ids (id + 1 + sizeAll elder) younger) :
    ∃ node ∈ younger, Numbered root (some id) c node := by
  obtain ⟨elder', node, younger', rfl, rfl⟩ := exists_of_mem_ids hc
  have h' : Numbered root parent id (mk facts ((elder ++ elder') ++ node :: younger')) := by
    rwa [List.append_assoc]
  refine ⟨node, List.mem_append_right _ List.mem_cons_self, ?_⟩
  rw [Nat.add_assoc (id + 1), ← sizeAll_append]
  exact .child h'

/-- A child has its parent's number, and its own is among the parent's children. -/
lemma Numbered.parent {root p c node} (h : Numbered root (some p) c node) :
    ∃ parent above, Numbered root parent p above ∧ p < c ∧ c ∈ ids (p + 1) above.children := by
  cases h with
  | @child parent id facts elder node younger h =>
    refine ⟨parent, _, h, by omega, ?_⟩
    rw [children, ids_append, ids]
    exact List.mem_append_right _ List.mem_cons_self

/-- Numbers of neighbours are not below the first one. -/
lemma le_of_mem_ids {id c : Nat} {nodes : List Node} (h : c ∈ ids id nodes) : id ≤ c := by
  obtain ⟨elder, node, younger, _, rfl⟩ := exists_of_mem_ids h
  exact Nat.le_add_right id (sizeAll elder)

/-- The numbers of children stay below the end of their trees. -/
lemma lt_of_mem_ids {id c : Nat} {nodes : List Node} (h : c ∈ ids id nodes) :
    c < id + sizeAll nodes := by
  obtain ⟨elder, node, younger, rfl, rfl⟩ := exists_of_mem_ids h
  have hpos := size_pos node
  rw [sizeAll_append, sizeAll]
  omega

/-- The numbers of neighbours grow. -/
lemma pairwise_ids (id : Nat) (nodes : List Node) : (ids id nodes).Pairwise (· < ·) := by
  induction nodes generalizing id with
  | nil => exact .nil
  | cons node nodes ih =>
    rw [ids]
    refine List.Pairwise.cons ?_ (ih (id + node.size))
    intro c hc
    have hle := le_of_mem_ids hc
    have hpos := size_pos node
    omega

/-- Where the youngest of several neighbours ends, all of them end. -/
lemma getLast?_ids (id : Nat) (elder : List Node) (node : Node) :
    (ids id (elder ++ [node])).getLast? = some (id + sizeAll elder) := by
  rw [ids_append, ids, ids, List.getLast?_append, List.getLast?_singleton, Option.some_or]

end Node

/-- The entry of a node under other numbers: `f` is for nodes, `g` for children and the ends of
subtrees. -/
def Entry.renumber (f g : Nat → Nat) (e : Entry) : Entry where
  facts := e.facts
  parent := e.parent.map f
  children := e.children.map g
  subtreeEnd := g e.subtreeEnd

namespace Node

/-- All numbers from `first` up to `stop` go up by `d`. -/
structure MovesBy (f g : Nat → Nat) (d first stop : Nat) : Prop where
  node : ∀ {i}, first ≤ i → i < stop → f i = i + d
  child : ∀ {i}, first ≤ i → i ≤ stop → g i = i + d

variable {f g : Nat → Nat} {d : Nat}

/-- What moves some numbers moves fewer of them. -/
lemma MovesBy.mono {first stop first' stop' : Nat} (h : MovesBy f g d first stop)
    (hfirst : first ≤ first') (hstop : stop' ≤ stop) : MovesBy f g d first' stop' where
  node := fun hi hi' => h.node (Nat.le_trans hfirst hi) (Nat.lt_of_lt_of_le hi' hstop)
  child := fun hi hi' => h.child (Nat.le_trans hfirst hi) (Nat.le_trans hi' hstop)

/-- The numbers of children move on by the same. -/
lemma MovesBy.map_ids {id : Nat} {nodes : List Node} (h : MovesBy f g d id (id + sizeAll nodes)) :
    (ids id nodes).map g = ids (id + d) nodes := by
  induction nodes generalizing id with
  | nil => rfl
  | cons node nodes ih =>
    rw [sizeAll] at h
    rw [ids, ids, List.map_cons, h.child (Nat.le_refl id) (by omega),
      ih (h.mono (by omega) (by omega)), Nat.add_right_comm]

mutual

/-- The entries of a tree whose numbers all go up by the same. -/
lemma map_renumber_entries :
    ∀ {node : Node} {parent : Option Nat} {id : Nat}, MovesBy f g d id (id + node.size) →
      (node.entries parent id).map (·.renumber f g) = node.entries (parent.map f) (id + d)
  | mk facts children, parent, id, h => by
    have hpos := size_pos (mk facts children)
    have hsize : (mk facts children).size = sizeAll children + 1 := size.eq_1 facts children
    have hchildren : MovesBy f g d (id + 1) (id + 1 + sizeAll children) :=
      h.mono (by omega) (by omega)
    have hentry : ((mk facts children).entry parent id).renumber f g =
        (mk facts children).entry (parent.map f) (id + d) := by
      rw [entry, entry, Entry.renumber, Node.children, hchildren.map_ids,
        h.child (by omega) (Nat.le_refl _), Nat.add_right_comm id 1 d,
        Nat.add_right_comm id (mk facts children).size d]
    rw [entries, entries, List.map_cons, hentry, map_renumber_entriesAll hchildren, Option.map_some,
      h.node (Nat.le_refl id) (by omega), Nat.add_right_comm]

/-- The entries of neighbouring trees whose numbers all go up by the same. -/
lemma map_renumber_entriesAll :
    ∀ {nodes : List Node} {parent : Option Nat} {id : Nat}, MovesBy f g d id (id + sizeAll nodes) →
      (entriesAll parent id nodes).map (·.renumber f g) = entriesAll (parent.map f) (id + d) nodes
  | [], parent, id, _ => by rw [entriesAll, entriesAll, List.map_nil]
  | node :: nodes, parent, id, h => by
    rw [sizeAll] at h
    have hnode : MovesBy f g d id (id + node.size) := h.mono (Nat.le_refl id) (by omega)
    have hnodes : MovesBy f g d (id + node.size) (id + node.size + sizeAll nodes) :=
      h.mono (by omega) (by omega)
    rw [entriesAll, entriesAll, List.map_append, map_renumber_entries hnode,
      map_renumber_entriesAll hnodes, Nat.add_right_comm]

end

end Node

end CppAdvice.Tree
