import CppAdvice.Proofs.Numbering

/-!
# The numbered form of a tree

`flatten` lays a tree out with a list of waiting nodes, adds each node to the children of its parent
when it is laid out, and finds the ends of subtrees in a second pass from the last node to the
first. `entries` says what comes out. The two are equal (`flatten_eq_entries`).

The first pass is compared with the recursion on the tree whatever else waits (`layOut_node`,
`layOut_nodes`): once a tree is laid out, its entries stand behind those that there were, and its
root has been added to its parent. The second pass keeps that all entries from some number on are
final.

`rebuild` reads a tree back from its numbered form by following the children.
`isPreorderImage_flatten` gathers what the numbered form is to its tree. In the unit of a document
the nodes are linked by numbers that are in order (`linked_ofDocument`).
-/

namespace CppAdvice.Tree

namespace Entry

/-- The entry with more children. -/
def adopt (e : Entry) (ids : List Nat) : Entry :=
  { e with children := e.children ++ ids }

/-- The entry before it is known where the subtree ends. -/
def opened (e : Entry) : Entry :=
  { e with subtreeEnd := 0 }

end Entry

namespace Node

/-- Adding no children changes nothing. -/
lemma modify_adopt_nil (es : Array Entry) (p : Nat) : es.modify p (·.adopt []) = es := by
  apply Array.ext_getElem?
  intro i
  rw [Array.getElem?_modify]
  by_cases h : p = i
  · simp [h, Entry.adopt]
  · simp [h]

/-- Children that are added in two steps. -/
lemma modify_adopt_append (es : Array Entry) (p : Nat) (xs ys : List Nat) :
    (es.modify p (·.adopt xs)).modify p (·.adopt ys) = es.modify p (·.adopt (xs ++ ys)) := by
  apply Array.ext_getElem?
  intro i
  simp only [Array.getElem?_modify]
  by_cases h : p = i
  · simp [h, Entry.adopt, Function.comp_def]
  · simp [h]

/-- What stands behind the changed entry stays. -/
lemma modify_append {es : Array Entry} {p : Nat} (h : p < es.size) (more : Array Entry)
    (f : Entry → Entry) : (es ++ more).modify p f = es.modify p f ++ more := by
  apply Array.ext_getElem?
  intro i
  simp only [Array.getElem?_modify, Array.getElem?_append, Array.size_modify]
  by_cases hi : i < es.size
  · simp [hi]
  · have hne : p ≠ i := by omega
    simp [hi, hne]

/-- A change to the last entry. -/
lemma modify_last (es : Array Entry) (e : Entry) (f : Entry → Entry) :
    (es ++ #[e]).modify es.size f = es ++ #[f e] := by
  apply Array.ext_getElem?
  intro i
  simp only [Array.getElem?_modify, Array.getElem?_append]
  by_cases hi : i < es.size
  · have hne : es.size ≠ i := by omega
    simp [hi, hne]
  · by_cases he : es.size = i
    · simp [he]
    · obtain ⟨d, hd⟩ : ∃ d, i - es.size = d + 1 := ⟨i - es.size - 1, by omega⟩
      simp [hi, he, hd]

/-- A node that is added behind the entries leaves the parent's place alone. -/
lemma addChild_append {es : Array Entry} {parent : Option Nat} (h : ∀ p ∈ parent, p < es.size)
    (more : Array Entry) (id : Nat) :
    addChild (es ++ more) parent id = addChild es parent id ++ more := by
  cases parent with
  | none => rfl
  | some p => exact modify_append (h p rfl) more _

@[simp] lemma size_addChild (es : Array Entry) (parent : Option Nat) (id : Nat) :
    (addChild es parent id).size = es.size := by
  cases parent with
  | none => rfl
  | some p => exact Array.size_modify

mutual

/-- Laying out a tree puts its entries behind those that there are. -/
lemma layOut_node :
    ∀ (node : Node) (parent : Option Nat) (waiting : List (Node × Option Nat)) (es : Array Entry),
      (∀ p ∈ parent, p < es.size) →
      layOut ((node, parent) :: waiting) es =
        layOut waiting (addChild es parent es.size ++
          ((node.entries parent es.size).map Entry.opened).toArray)
  | mk facts children, parent, waiting, es, h => by
    rw [layOut, Array.push_eq_append, addChild_append h]
    generalize hes : addChild es parent es.size = es'
    have hsize : es.size = es'.size := by rw [← hes, size_addChild]
    rw [hsize, layOut_nodes children es'.size waiting _ (by simp), modify_last]
    simp [entries, entry, Entry.adopt, Entry.opened, Node.facts, Node.children]

/-- Laying out the children of a node puts their entries behind those that there are, and makes them
the children of the node. -/
lemma layOut_nodes :
    ∀ (nodes : List Node) (p : Nat) (waiting : List (Node × Option Nat)) (es : Array Entry),
      p < es.size →
      layOut (nodes.map (·, some p) ++ waiting) es =
        layOut waiting (es.modify p (·.adopt (ids es.size nodes)) ++
          ((entriesAll (some p) es.size nodes).map Entry.opened).toArray)
  | [], p, waiting, es, _ => by
    rw [ids, modify_adopt_nil, entriesAll]
    simp
  | node :: nodes, p, waiting, es, h => by
    rw [List.map_cons, List.cons_append, layOut_node node (some p) _ es (by simpa using h)]
    have hlaid : ((node.entries (some p) es.size).map Entry.opened).toArray.size = node.size := by
      rw [List.size_toArray, List.length_map, length_entries]
    rw [layOut_nodes nodes p waiting _ (by rw [Array.size_append, size_addChild]; omega)]
    rw [modify_append (by rwa [size_addChild]), Array.size_append, size_addChild, hlaid]
    have hadopt :
        (addChild es (some p) es.size).modify p (·.adopt (ids (es.size + node.size) nodes)) =
        es.modify p (·.adopt (ids es.size (node :: nodes))) := modify_adopt_append es p [es.size] _
    rw [hadopt, entriesAll, List.map_append]
    simp

end

/-- The first pass lays out all entries, with the ends of subtrees open. -/
lemma layOut_root (root : Node) :
    layOut [(root, none)] #[] = ((root.entries none 0).map Entry.opened).toArray := by
  rw [layOut_node root none [] #[] (by simp), layOut]
  simp [addChild]

/-- Entries that are final from the number `count` on. -/
def ClosedFrom (root : Node) (count : Nat) (es : Array Entry) : Prop :=
  ∀ i, es[i]? = (root.entries none 0)[i]?.map fun e => if i < count then e.opened else e

/-- Where the subtree of a node ends can be read off its children once these are final. -/
lemma ClosedFrom.endOf_eq {root id es e} (h : ClosedFrom root (id + 1) es)
    (he : (root.entries none 0)[id]? = some e) : endOf es id = e.subtreeEnd := by
  have hid : es[id]? = some e.opened := by
    rw [h id, he, Option.map_some, if_pos (Nat.lt_succ_self id)]
  obtain ⟨parent, ⟨facts, children⟩, hn, rfl⟩ := getElem?_entries_iff.1 he
  rw [endOf, hid, Option.bind_some]
  obtain rfl | ⟨elder, last, rfl⟩ := List.eq_nil_or_concat children
  · simp [Entry.opened, entry, Node.children, ids, size, sizeAll]
  · rw [List.concat_eq_append] at hn
    have hlast : Numbered root (some id) (id + 1 + sizeAll elder) last := .child hn
    have hopen : ¬ id + 1 + sizeAll elder < id + 1 := by omega
    have hend :
        es[id + 1 + sizeAll elder]? = some (last.entry (some id) (id + 1 + sizeAll elder)) := by
      rw [h, hlast.getElem?_entries, Option.map_some, if_neg hopen]
    simp only [Entry.opened, entry, Node.children, List.concat_eq_append, getLast?_ids, hend]
    simp only [Option.elim_some, size, sizeAll_concat]
    omega

/-- Closing one more entry. -/
lemma ClosedFrom.step {root id es} (h : ClosedFrom root (id + 1) es) :
    ClosedFrom root id (es.modify id fun e => { e with subtreeEnd := endOf es id }) := by
  intro i
  rw [Array.getElem?_modify, h i]
  by_cases hi : id = i
  · subst hi
    rw [if_pos rfl, Option.map_map]
    cases he : (root.entries none 0)[id]? with
    | none => rfl
    | some e => simp [h.endOf_eq he, Entry.opened]
  · rw [if_neg hi]
    have hiff : i < id + 1 ↔ i < id := by omega
    simp only [hiff]

/-- The second pass makes all entries final. -/
lemma ClosedFrom.closeAll_eq {root} :
    ∀ {count es}, ClosedFrom root count es → closeAll count es = (root.entries none 0).toArray
  | 0, es, h => by
    rw [closeAll]
    apply Array.ext_getElem?
    intro i
    rw [h i]
    simp
  | id + 1, es, h => by
    rw [closeAll]
    exact h.step.closeAll_eq

/-- The numbered form of a tree is the list of its entries. -/
lemma flatten_eq_entries (root : Node) : flatten root = (root.entries none 0).toArray := by
  rw [flatten]
  apply ClosedFrom.closeAll_eq
  intro i
  rw [layOut_root]
  by_cases hi : i < (root.entries none 0).length
  · simp [hi]
  · simp [List.getElem?_eq_none (Nat.le_of_not_lt hi)]

mutual

/-- The nodes of a tree in preorder. -/
def preorder : Node → List Node
  | mk facts children => mk facts children :: preorderAll children

/-- The nodes of several trees, one tree after another. -/
def preorderAll : List Node → List Node
  | [] => []
  | node :: nodes => node.preorder ++ preorderAll nodes

end

mutual

/-- The tree with every name in its canonical spelling. -/
def normalize : Node → Node
  | mk facts children => mk facts.normalize (normalizeAll children)

/-- The trees with every name in its canonical spelling. -/
def normalizeAll : List Node → List Node
  | [] => []
  | node :: nodes => node.normalize :: normalizeAll nodes

end

/-- The tree that is reached from a number by following the children. Children have greater numbers
than their parents. -/
def rebuild (es : Array Entry) (id : Nat) : Option Node :=
  es[id]?.bind fun e =>
    (e.children.mapM fun child =>
      if id < child ∧ child < es.size then rebuild es child else none).map (mk e.facts)
termination_by es.size - id

mutual

/-- The entries of a tree hold the facts of its nodes in preorder. -/
lemma map_facts_entries (parent : Option Nat) (id : Nat) :
    ∀ node : Node, (node.entries parent id).map (·.facts) = node.preorder.map (·.facts.normalize)
  | mk facts children => by
    rw [entries, preorder, List.map_cons, List.map_cons, map_facts_entriesAll (some id) _ children]
    rfl

/-- The entries of several trees hold the facts of their nodes in preorder. -/
lemma map_facts_entriesAll (parent : Option Nat) (id : Nat) :
    ∀ nodes : List Node,
      (entriesAll parent id nodes).map (·.facts) = (preorderAll nodes).map (·.facts.normalize)
  | [] => by rw [entriesAll, preorderAll, List.map_nil, List.map_nil]
  | node :: nodes => by
    rw [entriesAll, preorderAll, List.map_append, List.map_append, map_facts_entries parent id node,
      map_facts_entriesAll parent _ nodes]

end

mutual

/-- Canonical names do not change the size of a tree. -/
lemma size_normalize : ∀ node : Node, node.normalize.size = node.size
  | mk facts children => by rw [normalize, size, size, sizeAll_normalizeAll children]

/-- Spelling names in their canonical form leaves trees with as many nodes. -/
lemma sizeAll_normalizeAll : ∀ nodes : List Node, sizeAll (normalizeAll nodes) = sizeAll nodes
  | [] => by rw [normalizeAll]
  | node :: nodes => by
    rw [normalizeAll, sizeAll, sizeAll, size_normalize node, sizeAll_normalizeAll nodes]

end

/-- The entry of a numbered node in the numbered form of the tree. -/
lemma Numbered.getElem?_flatten {root parent id node} (h : Numbered root parent id node) :
    root.flatten[id]? = some (node.entry parent id) := by
  rw [flatten_eq_entries, List.getElem?_toArray]
  exact h.getElem?_entries

/-- The numbered form of a tree has an entry under each number of a node, and no others. -/
lemma getElem?_flatten_iff {root : Node} {id : Nat} {e : Entry} :
    root.flatten[id]? = some e ↔ ∃ parent node, Numbered root parent id node ∧
      e = node.entry parent id := by
  rw [flatten_eq_entries, List.getElem?_toArray]
  exact getElem?_entries_iff

/-- The numbered form of a tree has one entry for each of its nodes. -/
lemma size_flatten (root : Node) : root.flatten.size = root.size := by
  rw [flatten_eq_entries, List.size_toArray, length_entries]

/-- The number of a node is below the number of nodes. -/
lemma Numbered.lt_size {root parent id node} (h : Numbered root parent id node) :
    id < root.size := by
  rw [← size_flatten]
  exact (Array.getElem?_eq_some_iff.1 h.getElem?_flatten).1

/-- The subtree of a node ends within the tree. -/
lemma Numbered.subtreeEnd_le {root parent id node} (h : Numbered root parent id node) :
    id + node.size ≤ root.size := by
  have hlength := h.isPrefix.length_le
  have hlt := h.lt_size
  rw [List.length_drop, length_entries, length_entries] at hlength
  omega

mutual

/-- A numbered node can be read back from its number. -/
lemma Numbered.rebuild_eq {root} :
    ∀ {node : Node} {parent : Option Nat} {id : Nat}, Numbered root parent id node →
      rebuild root.flatten id = some node.normalize
  | mk facts children, parent, id, h => by
    have h' : Numbered root parent id (mk facts ([] ++ children)) := h
    rw [rebuild, h.getElem?_flatten, Option.bind_some]
    have hc := Numbered.mapM_rebuild h'
    rw [sizeAll, Nat.add_zero] at hc
    rw [entry, Node.children, hc, Option.map_some, normalize]
    rfl

/-- The children of a numbered node can be read back from their numbers. -/
lemma Numbered.mapM_rebuild {root parent id facts} :
    ∀ {younger elder : List Node}, Numbered root parent id (mk facts (elder ++ younger)) →
      ((ids (id + 1 + sizeAll elder) younger).mapM fun child =>
        if id < child ∧ child < root.flatten.size then rebuild root.flatten child else none) =
        some (normalizeAll younger)
  | [], elder, _ => by rw [ids, List.mapM_nil, normalizeAll]; rfl
  | node :: younger, elder, h => by
    have hnode : Numbered root (some id) (id + 1 + sizeAll elder) node := .child h
    have hlt := hnode.lt_size
    have h' : Numbered root parent id (mk facts ((elder ++ [node]) ++ younger)) := by
      rwa [List.append_assoc]
    have hrest := Numbered.mapM_rebuild h'
    rw [sizeAll_concat, ← Nat.add_assoc] at hrest
    rw [ids, List.mapM_cons, hrest, hnode.rebuild_eq, normalizeAll, size_flatten]
    rw [if_pos ⟨by omega, hlt⟩]
    rfl

end

/-- Entries are the faithful image of a tree in preorder: the tree can be read back from them, and
the links between them are its edges. -/
structure IsPreorderImage (root : Node) (es : Array Entry) : Prop where
  size : es.size = root.size
  /-- The entry with the number `i` is that of the `i`-th node. -/
  facts : es.toList.map (·.facts) = root.preorder.map (·.facts.normalize)
  rebuild : rebuild es 0 = some root.normalize
  parent_root : ∀ {e : Entry}, es[0]? = some e → e.parent = none
  parent_lt : ∀ {id : Nat} {e : Entry}, es[id]? = some e → 0 < id →
    ∃ p, p < id ∧ e.parent = some p
  mem_children : ∀ {p id : Nat}, (∃ e : Entry, es[p]? = some e ∧ id ∈ e.children) ↔
    ∃ e : Entry, es[id]? = some e ∧ e.parent = some p
  children_lt : ∀ {id : Nat} {e : Entry}, es[id]? = some e → e.children.Pairwise (· < ·)
  subtreeEnd : ∀ {id : Nat} {e : Entry}, es[id]? = some e →
    ∃ node, Node.rebuild es id = some node ∧ e.subtreeEnd = id + node.size

/-- The numbered form of a tree is its faithful image in preorder. -/
theorem isPreorderImage_flatten (root : Node) : IsPreorderImage root root.flatten where
  size := size_flatten root
  facts := by rw [flatten_eq_entries, map_facts_entries]
  rebuild := Numbered.root.rebuild_eq
  parent_root := by
    intro e he
    rw [Numbered.root.getElem?_flatten, Option.some.injEq] at he
    rw [← he, entry]
  parent_lt := by
    intro id e he hid
    obtain ⟨parent, node, h, rfl⟩ := getElem?_flatten_iff.1 he
    cases h with
    | root => omega
    | child h => exact ⟨_, by omega, rfl⟩
  mem_children := by
    intro p id
    constructor
    · rintro ⟨e, he, hid⟩
      obtain ⟨parent, ⟨facts, children⟩, h, rfl⟩ := getElem?_flatten_iff.1 he
      have h' : Numbered root parent p (mk facts ([] ++ children)) := h
      obtain ⟨node, _, hnode⟩ := h'.of_mem_ids hid
      exact ⟨_, hnode.getElem?_flatten, rfl⟩
    · rintro ⟨e, he, hp⟩
      obtain ⟨parent, node, h, rfl⟩ := getElem?_flatten_iff.1 he
      obtain rfl : parent = some p := hp
      obtain ⟨parent, above, habove, _, hmem⟩ := h.parent
      exact ⟨_, habove.getElem?_flatten, hmem⟩
  children_lt := by
    intro id e he
    obtain ⟨parent, node, _, rfl⟩ := getElem?_flatten_iff.1 he
    exact pairwise_ids (id + 1) node.children
  subtreeEnd := by
    intro id e he
    obtain ⟨parent, node, h, rfl⟩ := getElem?_flatten_iff.1 he
    exact ⟨node.normalize, h.rebuild_eq, by rw [size_normalize, entry]⟩

end Node

/-- Spelling names in their canonical form leaves the tag as it is. -/
lemma Kind.tag_normalize (kind : Kind) : kind.normalize.tag = kind.tag := by
  cases kind <;> simp only [Kind.normalize, Kind.tag]

/-- A node that declares no variable under its tag has no name as one. -/
lemma Facts.variableName?_normalize {facts : Facts} (hvar : facts.kind.tag ≠ .varDecl)
    (hparm : facts.kind.tag ≠ .parmVarDecl) : facts.normalize.kind.variableName? = none := by
  cases hkind : facts.kind with
  | varDecl name storage => rw [hkind] at hvar; exact absurd rfl hvar
  | parmVarDecl name => rw [hkind] at hparm; exact absurd rfl hparm
  | _ => rw [Facts.normalize, hkind]; rfl

end CppAdvice.Tree

namespace CppAdvice.TranslationUnit

open CppAdvice.Tree

section

variable (d : Document) (fallback : Language.Flags)

/-- The entries of a unit are those of the document's tree. -/
lemma entry?_ofDocument (i : Nat) :
    TranslationUnit.entry? (ofDocument d fallback) i = (d.root.entries none 0)[i]? := by
  rw [TranslationUnit.entry?, ofDocument, Node.flatten_eq_entries, List.getElem?_toArray]

/-- The unit of a document has as many nodes as its tree. -/
lemma size_ofDocument : (ofDocument d fallback).size = d.root.size :=
  Node.size_flatten d.root

end

/-- Only what is in the unit is of a known kind. -/
lemma lt_size_of_kind {u : TranslationUnit} {i : Nat} (h : u.kind i ≠ .unknown) : i < u.size := by
  apply Nat.lt_of_not_le
  intro hle
  rw [kind, entry?, Array.getElem?_eq_none hle] at h
  exact h rfl

/-- The numbers that the nodes of a unit have for each other are in order. -/
structure Linked (u : TranslationUnit) : Prop where
  parent : ∀ {i p}, u.parent? i = some p → p < i ∧ i ∈ u.children p
  child : ∀ {i c}, c ∈ u.children i → i < c ∧ c < u.size
  sorted : ∀ i, (u.children i).Pairwise (· < ·)
  subtreeEnd : ∀ i, u.subtreeEnd i ≤ u.size

/-- The unit of a document has its numbers in order. -/
lemma linked_ofDocument (d : Document) (fallback : Language.Flags) :
    (ofDocument d fallback).Linked where
  parent := by
    intro i p hp
    rw [parent?, entry?_ofDocument] at hp
    obtain ⟨e, he, hp⟩ := Option.bind_eq_some_iff.1 hp
    obtain ⟨_, node, hnode, rfl⟩ := Node.getElem?_entries_iff.1 he
    cases hp
    obtain ⟨parent, above, habove, hlt, hmem⟩ := hnode.parent
    rw [children, entry?_ofDocument, habove.getElem?_entries]
    exact ⟨hlt, hmem⟩
  child := by
    intro i c hc
    rw [children, entry?_ofDocument] at hc
    cases he : (d.root.entries none 0)[i]? with
    | none =>
      rw [he] at hc
      cases hc
    | some e =>
      rw [he] at hc
      obtain ⟨parent, ⟨facts, children⟩, hnode, rfl⟩ := Node.getElem?_entries_iff.1 he
      have hnode' : Node.Numbered d.root parent i (.mk facts ([] ++ children)) := hnode
      obtain ⟨child, _, hchild⟩ := hnode'.of_mem_ids hc
      rw [size_ofDocument]
      exact ⟨Node.le_of_mem_ids hc, hchild.lt_size⟩
  sorted := by
    intro i
    rw [children, entry?_ofDocument]
    cases he : (d.root.entries none 0)[i]? with
    | none => exact .nil
    | some e =>
      obtain ⟨parent, node, _, rfl⟩ := Node.getElem?_entries_iff.1 he
      exact Node.pairwise_ids (i + 1) node.children
  subtreeEnd := by
    intro i
    rw [subtreeEnd, entry?_ofDocument, size_ofDocument]
    cases he : (d.root.entries none 0)[i]? with
    | none => exact Nat.zero_le _
    | some e =>
      obtain ⟨parent, node, hnode, rfl⟩ := Node.getElem?_entries_iff.1 he
      exact hnode.subtreeEnd_le

end CppAdvice.TranslationUnit
