import CppAdvice.Proofs.Layout
import Mathlib.Tactic.SplitIfs

/-!
# A node in a wrapper

What becomes of the numbered form of a tree when one of its nodes is put into a wrapper. If the node
has the number `k`, the wrapper takes that number. The node itself and all nodes after it get the
next number (`lift`), while whatever pointed at the node as a child now points at the wrapper, which
leaves that number as it is (`slide`).

`Wrapped.spliced` says this for the whole list of entries: an entry gets in, and all others only
change their numbers.
-/

namespace CppAdvice.Tree

/-- The number of a node after another has got in at `k`. -/
def lift (k i : Nat) : Nat :=
  if i < k then i else i + 1

/-- The number of a child, or of the end of a subtree, after a wrapper has got in around the node
`k`. -/
def slide (k i : Nat) : Nat :=
  if i ≤ k then i else i + 1

/-- Apart from the node in the wrapper, a child is found under the new number of its node. -/
lemma slide_eq_lift {k i : Nat} (h : i ≠ k) : slide k i = lift k i := by
  rw [slide, lift]
  split_ifs <;> omega

/-- Links to the node that is wrapped lead to the wrapper. -/
lemma slide_self (k : Nat) : slide k k = k :=
  if_pos (Nat.le_refl k)

/-- The node that is wrapped comes right behind the wrapper. -/
lemma lift_self (k : Nat) : lift k k = k + 1 :=
  if_neg (Nat.lt_irrefl k)

/-- No node gets the number of the wrapper. -/
lemma lift_ne (k i : Nat) : lift k i ≠ k := by
  rw [lift]
  split_ifs <;> omega

/-- The wrapper leaves the nodes in order. -/
lemma lift_lt_lift {k i j : Nat} : lift k i < lift k j ↔ i < j := by
  rw [lift, lift]
  split_ifs <;> omega

/-- The wrapper leaves what is linked to in order. -/
lemma slide_lt_slide {k i j : Nat} : slide k i < slide k j ↔ i < j := by
  rw [slide, slide]
  split_ifs <;> omega

/-- The wrapper leaves what is linked to apart. -/
lemma slide_inj {k i j : Nat} : slide k i = slide k j ↔ i = j := by
  rw [slide, slide]
  split_ifs <;> omega

/-- A subtree ends after the same nodes. -/
lemma lift_lt_slide {k i j : Nat} : lift k i < slide k j ↔ i < j := by
  rw [lift, slide]
  split_ifs <;> omega

namespace Entry

/-- The entry of a node after a wrapper has got in around another, with the number `k`. -/
def bump (k : Nat) (e : Entry) : Entry where
  facts := e.facts
  parent := e.parent.map (lift k)
  children := e.children.map (slide k)
  subtreeEnd := slide k e.subtreeEnd

/-- The entry of a node after a wrapper with the number `k` has got in around it. -/
def wrapped (k : Nat) (e : Entry) : Entry :=
  { e.bump k with parent := some k }

/-- The entry of the wrapper around a node with the number `k`. -/
def wrapper (w : Facts) (k : Nat) (e : Entry) : Entry where
  facts := w
  parent := e.parent
  children := [k + 1]
  subtreeEnd := e.subtreeEnd + 1

end Entry

namespace Node

/-- One node below the root is put into a wrapper. It declares no variable and no parameter, as
declarations are looked for among the children of a scope. -/
inductive Wrapped (w : Facts) : Node → Node → Prop where
  | here {facts elder node younger} :
    node.facts.kind.tag ≠ .varDecl → node.facts.kind.tag ≠ .parmVarDecl →
    Wrapped w (mk facts (elder ++ node :: younger)) (mk facts (elder ++ mk w [node] :: younger))
  | deeper {facts elder node node' younger} :
    Wrapped w node node' →
    Wrapped w (mk facts (elder ++ node :: younger)) (mk facts (elder ++ node' :: younger))

/-- The wrapper is one more node. -/
lemma Wrapped.size_eq {w : Facts} {t t' : Node} (h : Wrapped w t t') : t'.size = t.size + 1 := by
  induction h with
  | here _ _ => simp only [size, sizeAll_append, sizeAll]; omega
  | deeper _ ih => simp only [size, sizeAll_append, sizeAll, ih]; omega

/-- Numbers before the wrapper stay. -/
lemma MovesBy.before {k first stop : Nat} (h : stop ≤ k) :
    MovesBy (lift k) (slide k) 0 first stop where
  node := fun _ hi => if_pos (by omega)
  child := fun _ hi => if_pos (by omega)

/-- Numbers after the wrapper go up by one. -/
lemma MovesBy.after {k first stop : Nat} (h : k < first) :
    MovesBy (lift k) (slide k) 1 first stop where
  node := fun hi _ => if_neg (by omega)
  child := fun hi _ => if_neg (by omega)

/-- The entries of trees on one side of the wrapper are moved on as a whole. -/
lemma map_bump_entriesAll {k d : Nat} {nodes : List Node} {parent : Option Nat} {id : Nat}
    (h : MovesBy (lift k) (slide k) d id (id + sizeAll nodes)) :
    (entriesAll parent id nodes).map (·.bump k) = entriesAll (parent.map (lift k)) (id + d) nodes :=
  map_renumber_entriesAll h

/-- An entry gets in around the one with the number `k`, where the first number is `id`. -/
def Spliced (w : Facts) (id k : Nat) (es es' : List Entry) : Prop :=
  ∃ before e after, es = before ++ e :: after ∧ id + before.length = k ∧
    e.facts.kind.variableName? = none ∧
    es' = before.map (·.bump k) ++ e.wrapper w.normalize k :: e.wrapped k :: after.map (·.bump k)

/-- The entry of a node above the wrapper: the numbers of its elder children stay, those of its
younger ones go up. -/
lemma bump_entry {facts : Facts} {elder younger : List Node} {node node' : Node}
    {parent : Option Nat} {id k : Nat} (hparent : ∀ p ∈ parent, p < id)
    (hfirst : id + 1 + sizeAll elder ≤ k) (hstop : k < id + 1 + sizeAll elder + node.size)
    (hsize : node'.size = node.size + 1) :
    ((mk facts (elder ++ node :: younger)).entry parent id).bump k =
      (mk facts (elder ++ node' :: younger)).entry parent id := by
  have hparent' : parent.map (lift k) = parent := by
    cases parent with
    | none => rfl
    | some p =>
      have hp := hparent p rfl
      rw [Option.map_some, lift, if_pos (by omega)]
  have helder : (ids (id + 1) elder).map (slide k) = ids (id + 1) elder :=
    (MovesBy.before hfirst).map_ids
  have hyounger : (ids (id + 1 + sizeAll elder + node.size) younger).map (slide k) =
      ids (id + 1 + sizeAll elder + node'.size) younger := by
    rw [(MovesBy.after hstop).map_ids, hsize, Nat.add_assoc _ node.size 1]
  have hchildren : (ids (id + 1) (elder ++ node :: younger)).map (slide k) =
      ids (id + 1) (elder ++ node' :: younger) := by
    rw [ids_append, ids_append, ids, ids, List.map_append, List.map_cons, helder, hyounger, slide,
      if_pos hfirst]
  have hend : slide k (id + (mk facts (elder ++ node :: younger)).size) =
      id + (mk facts (elder ++ node' :: younger)).size := by
    simp only [size, sizeAll_append, sizeAll, hsize]
    rw [slide, if_neg (by omega)]
    omega
  rw [entry, entry, Entry.bump, Node.children, Node.children, hparent', hchildren, hend]
  rfl

/-- The entries of a node in a wrapper. -/
lemma spliced_wrapper {w : Facts} {node : Node} (hvar : node.facts.kind.tag ≠ .varDecl)
    (hparm : node.facts.kind.tag ≠ .parmVarDecl) (parent : Option Nat) (k : Nat) :
    Spliced w k k (node.entries parent k) ((mk w [node]).entries parent k) := by
  obtain ⟨facts, children⟩ := node
  have hchildren : (ids (k + 1) children).map (slide k) = ids (k + 1 + 1) children :=
    (MovesBy.after (Nat.lt_succ_self k)).map_ids
  have hbelow : (entriesAll (some k) (k + 1) children).map (·.bump k) =
      entriesAll (some (k + 1)) (k + 1 + 1) children := by
    rw [map_bump_entriesAll (MovesBy.after (Nat.lt_succ_self k)), Option.map_some, lift_self]
  have hend : slide k (k + (mk facts children).size) = k + 1 + (mk facts children).size := by
    have hpos := size_pos (mk facts children)
    rw [slide, if_neg (by omega), Nat.add_right_comm]
  have hwrapper : (mk w [mk facts children]).entry parent k =
      ((mk facts children).entry parent k).wrapper w.normalize k := by
    rw [entry, entry, Entry.wrapper, Node.children, ids, ids, size, sizeAll, sizeAll, Nat.add_zero]
    rfl
  have hwrapped : (mk facts children).entry (some k) (k + 1) =
      ((mk facts children).entry parent k).wrapped k := by
    rw [entry, entry, Entry.wrapped, Entry.bump, Node.children, hchildren, hend]
  -- The node comes first among its own entries, so nothing is before the wrapper.
  refine ⟨[], _, entriesAll (some k) (k + 1) children, rfl, rfl,
    Facts.variableName?_normalize hvar hparm, ?_⟩
  rw [entries, entriesAll, entriesAll, entries, hwrapper, hwrapped, hbelow, List.append_nil]
  rfl

/-- An entry that gets in below a node gets in. -/
lemma Spliced.above {w facts : Facts} {elder younger : List Node} {node node' : Node}
    {parent : Option Nat} {id k : Nat} (hparent : ∀ p ∈ parent, p < id)
    (hfirst : id + 1 + sizeAll elder ≤ k) (hstop : k < id + 1 + sizeAll elder + node.size)
    (hsize : node'.size = node.size + 1)
    (h : Spliced w (id + 1 + sizeAll elder) k (node.entries (some id) (id + 1 + sizeAll elder))
      (node'.entries (some id) (id + 1 + sizeAll elder))) :
    Spliced w id k ((mk facts (elder ++ node :: younger)).entries parent id)
      ((mk facts (elder ++ node' :: younger)).entries parent id) := by
  obtain ⟨before, e, after, hes, hlength, hname, hes'⟩ := h
  have hid : (some id).map (lift k) = some id := by rw [Option.map_some, lift, if_pos (by omega)]
  have helder : (entriesAll (some id) (id + 1) elder).map (·.bump k) =
      entriesAll (some id) (id + 1) elder := by
    rw [map_bump_entriesAll (MovesBy.before hfirst), hid, Nat.add_zero]
  have hyounger :
      (entriesAll (some id) (id + 1 + sizeAll elder + node.size) younger).map (·.bump k) =
      entriesAll (some id) (id + 1 + sizeAll elder + node'.size) younger := by
    rw [map_bump_entriesAll (MovesBy.after hstop), hid, hsize, Nat.add_assoc _ node.size 1]
  refine ⟨(mk facts (elder ++ node :: younger)).entry parent id ::
      (entriesAll (some id) (id + 1) elder ++ before), e,
    after ++ entriesAll (some id) (id + 1 + sizeAll elder + node.size) younger, ?_, ?_, hname, ?_⟩
  · simp only [entries, entriesAll_append, entriesAll, hes, List.cons_append, List.append_assoc]
  · rw [List.length_cons, List.length_append, length_entriesAll]
    omega
  · simp only [entries, entriesAll_append, entriesAll, hes', List.map_cons, List.map_append,
      helder, hyounger, bump_entry hparent hfirst hstop hsize, List.cons_append, List.append_assoc]

/-- A wrapper gets in around one entry and all others only change their numbers. -/
lemma Wrapped.spliced {w : Facts} {t t' : Node} (h : Wrapped w t t') :
    ∀ {parent : Option Nat} {id : Nat}, (∀ p ∈ parent, p < id) →
      ∃ k, id < k ∧ k < id + t.size ∧
        Spliced w id k (t.entries parent id) (t'.entries parent id) := by
  induction h with
  | @here facts elder node younger hvar hparm =>
    intro parent id hparent
    have hpos := size_pos node
    have hsize : (mk w [node]).size = node.size + 1 := by rw [size, sizeAll, sizeAll, Nat.add_zero]
    refine ⟨id + 1 + sizeAll elder, by omega, ?_, ?_⟩
    · simp only [size, sizeAll_append, sizeAll]
      omega
    · exact (spliced_wrapper hvar hparm _ _).above hparent (Nat.le_refl _) (by omega) hsize
  | @deeper facts elder node node' younger h ih =>
    intro parent id hparent
    -- The entry gets in below the node, so after everything that comes from its elder siblings.
    have hbefore : ∀ p ∈ some id, p < id + 1 + sizeAll elder := by
      intro p hp
      obtain rfl := Option.mem_some.1 hp
      omega
    obtain ⟨k, hfirst, hstop, hspliced⟩ := ih hbefore
    refine ⟨k, by omega, ?_, hspliced.above hparent (by omega) hstop h.size_eq⟩
    simp only [size, sizeAll_append, sizeAll]
    omega

end Node

end CppAdvice.Tree
