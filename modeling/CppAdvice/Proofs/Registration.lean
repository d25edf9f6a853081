import CppAdvice.Catalog
import CppAdvice.Proofs.Latest
import Mathlib.Data.List.Nodup
import Mathlib.Data.List.Perm.Basic

/-!
# Registering descriptors

A catalog holds each descriptor in a list and under four keys, two of which lead to the descriptor
and two to its id in a group. All five are kept by hand, and they stay in step with every descriptor
that is registered (`Coherent.register`), so they are in step in every catalog that is built by
registering (`coherent_ofList`), also where a key is taken twice: then the later descriptor is
found. Where no id is taken twice, what is looked up by way of the ids of a group is the group
itself (`Coherent.lookup_eq_filter`).
-/

namespace CppAdvice

/-- Where a key is not taken twice, it belongs to one entry. -/
lemma filter_eq_singleton {α β γ : Type} [DecidableEq γ] {key : α → β} {f : α → γ}
    {l : List α} {a : α} (h : (l.map key).Nodup) (hf : ∀ {x y}, f x = f y → key x = key y)
    (ha : a ∈ l) :
    l.filter (f · = f a) = [a] := by
  induction l with
  | nil => cases ha
  | cons x l ih =>
    rw [List.map_cons, List.nodup_cons] at h
    rcases List.mem_cons.1 ha with rfl | ha
    · have hrest : l.filter (f · = f a) = [] := by
        rw [List.filter_eq_nil_iff]
        intro y hy heq
        exact h.1 (List.mem_map.2 ⟨y, hy, hf (of_decide_eq_true heq)⟩)
      rw [List.filter_cons_of_pos (by simp), hrest]
    · have hne : ¬ f x = f a := fun heq => h.1 (List.mem_map.2 ⟨a, ha, (hf heq).symm⟩)
      rw [List.filter_cons_of_neg (by simpa using hne), ih h.2 ha]

namespace Index

variable {κ ν α : Type} [DecidableEq κ] {key : α → κ} {f : α → ν} {l : List α}

/-- A key that was just given a value has it; the others keep theirs. -/
lemma get?_insert (m : Index κ ν) (k other : κ) (value : ν) :
    (m.insert k value).get? other = if other = k then some value else m.get? other :=
  lookup_replace m.entries k other value

/-- A key leads to the last entry that has it. -/
def Finds (m : Index κ α) (key : α → κ) (l : List α) : Prop :=
  ∀ k, m.get? k = (l.filter (key · = k)).getLast?

/-- A key leads to what `f` says of each entry that has it, in order. -/
def Groups (m : Index κ (List ν)) (key : α → κ) (f : α → ν) (l : List α) : Prop :=
  ∀ k, (m.get? k).getD [] = (l.filter (key · = k)).map f

/-- An entry that is put in last is found under its key, in place of others. -/
lemma Finds.insert {m : Index κ α} (h : m.Finds key l) (a : α) :
    (m.insert (key a) a).Finds key (l ++ [a]) := by
  intro k
  rw [get?_insert, List.filter_append]
  by_cases hk : k = key a
  · rw [if_pos hk, List.filter_cons_of_pos (by simp [hk]), List.filter_nil, List.getLast?_concat]
  · rw [if_neg hk, List.filter_cons_of_neg (by simpa using Ne.symm hk), List.filter_nil,
      List.append_nil, h k]

/-- An entry that is put in last goes to the end of its group. -/
lemma Groups.push {m : Index κ (List ν)} (h : m.Groups key f l) (a : α) :
    (m.push (key a) (f a)).Groups key f (l ++ [a]) := by
  intro k
  rw [Index.push, get?_insert, List.filter_append, List.map_append]
  by_cases hk : k = key a
  · rw [if_pos hk, List.filter_cons_of_pos (by simp [hk]), hk, ← h (key a)]
    rfl
  · rw [if_neg hk, List.filter_cons_of_neg (by simpa using Ne.symm hk), List.filter_nil,
      List.map_nil, List.append_nil, h k]

/-- What is found under a key is an entry that has it. -/
lemma Finds.mem {m : Index κ α} (h : m.Finds key l) {k : κ} {a : α} (ha : m.get? k = some a) :
    a ∈ l ∧ key a = k := by
  rw [h k] at ha
  obtain ⟨hmem, hkey⟩ := List.mem_filter.1 (List.mem_of_getLast? ha)
  exact ⟨hmem, of_decide_eq_true hkey⟩

/-- Where no key is taken twice, each entry is found under its key. -/
lemma Finds.get?_eq_some_iff {m : Index κ α} (h : m.Finds key l) (hkeys : (l.map key).Nodup)
    {k : κ} {a : α} :
    m.get? k = some a ↔ a ∈ l ∧ key a = k := by
  refine ⟨h.mem, ?_⟩
  rintro ⟨ha, rfl⟩
  rw [h (key a), filter_eq_singleton hkeys (fun heq => heq) ha, List.getLast?_singleton]

end Index

/-! ### Parts of a list -/

/-- The groups have nothing in common, and those of the given keys make up the list. -/
structure Partitions {κ α : Type} (groups : κ → List α) (keys : List κ) (l : List α) : Prop where
  disjoint : ∀ k k', k ≠ k' → (groups k).Disjoint (groups k')
  perm : (keys.flatMap groups).Perm l

/-- Where each entry has one of the keys, the entries with each key make up the list. -/
lemma perm_flatMap_filter {κ α : Type} [DecidableEq κ] {key : α → κ} {keys : List κ} {l : List α}
    (hkeys : keys.Nodup) (h : ∀ a ∈ l, key a ∈ keys) :
    (keys.flatMap fun k => l.filter (key · = k)).Perm l := by
  induction keys generalizing l with
  | nil =>
    have hl : l = [] := List.eq_nil_iff_forall_not_mem.2 fun a ha => List.not_mem_nil (h a ha)
    rw [hl, List.flatMap_nil]
  | cons first keys ih =>
    rw [List.nodup_cons] at hkeys
    -- The other groups are those of what is left without the first one.
    have hrest : (keys.flatMap fun k => l.filter (key · = k)) =
        keys.flatMap fun k => (l.filter (key · ≠ first)).filter (key · = k) := by
      apply List.flatMap_congr
      intro k hk
      rw [List.filter_filter]
      apply List.filter_congr
      intro a _
      have hne : k ≠ first := fun heq => hkeys.1 (heq ▸ hk)
      by_cases ha : key a = k
      · simp [ha, hne]
      · simp [ha]
    have hleft : ∀ a ∈ l.filter (key · ≠ first), key a ∈ keys := by
      intro a ha
      rw [List.mem_filter, decide_eq_true_iff] at ha
      exact List.mem_of_ne_of_mem ha.2 (h a ha.1)
    rw [List.flatMap_cons, hrest]
    refine ((ih hkeys.2 hleft).append_left _).trans ?_
    simpa using List.filter_append_perm (key · = first) l

/-- The entries with each of the keys are a partition, if they all have one of them. -/
lemma partitions_filter {κ α : Type} [DecidableEq κ] {key : α → κ} {keys : List κ} {l : List α}
    (hkeys : keys.Nodup) (h : ∀ a ∈ l, key a ∈ keys) :
    Partitions (fun k => l.filter (key · = k)) keys l where
  disjoint k k' hne a ha ha' := by
    rw [List.mem_filter, decide_eq_true_iff] at ha ha'
    exact hne (ha.2.symm.trans ha'.2)
  perm := perm_flatMap_filter hkeys h

namespace Catalog

/-- What is found under each key is what the descriptors say. -/
structure Coherent (c : Catalog) : Prop where
  byId : c.byId.Finds (·.id) c.descriptors
  byName : c.byName.Finds (·.name) c.descriptors
  idsOfCategory : c.idsOfCategory.Groups (·.category) (·.id) c.descriptors
  idsOfMinTier : c.idsOfMinTier.Groups (·.minTier) (·.id) c.descriptors

variable {c : Catalog}

/-- In a catalog without descriptors there is nothing to be out of step. -/
lemma coherent_empty : Coherent {} where
  byId _ := rfl
  byName _ := rfl
  idsOfCategory _ := rfl
  idsOfMinTier _ := rfl

/-- Registering one more descriptor keeps all indexes in step. -/
lemma Coherent.register (h : c.Coherent) (d : Descriptor) : (c.register d).Coherent where
  byId := h.byId.insert d
  byName := h.byName.insert d
  idsOfCategory := h.idsOfCategory.push d
  idsOfMinTier := h.idsOfMinTier.push d

/-- All indexes are in step in every catalog that is built by registering. -/
lemma coherent_ofList (ds : List Descriptor) : (ofList ds).Coherent :=
  List.foldlRecOn ds register coherent_empty fun _ h d _ => h.register d

/-- The descriptors of a catalog are those that were registered, in order. -/
lemma descriptors_ofList (ds : List Descriptor) : (ofList ds).descriptors = ds := by
  have hfoldl : ∀ c : Catalog, (ds.foldl Catalog.register c).descriptors = c.descriptors ++ ds := by
    induction ds with
    | nil => exact fun c => (List.append_nil _).symm
    | cons d ds ih =>
      intro c
      rw [List.foldl_cons, ih, Catalog.register, List.append_assoc, List.singleton_append]
  exact hfoldl {}

/-- Going by the ids of a group gives the group. -/
lemma Coherent.lookup_eq_filter {κ : Type} [DecidableEq κ] {key : Descriptor → κ}
    {m : Index κ (List String)} (h : c.Coherent) (hm : m.Groups key (·.id) c.descriptors)
    (hids : (c.descriptors.map (·.id)).Nodup) (k : κ) :
    c.lookup (m.get? k) = c.descriptors.filter (key · = k) := by
  have hlookup : c.lookup (m.get? k) = ((m.get? k).getD []).filterMap c.get? := by
    cases m.get? k with
    | none => rfl
    | some ids => rfl
  have hself : ∀ d ∈ c.descriptors.filter (key · = k), c.get? d.id = some d := by
    intro d hd
    exact (h.byId.get?_eq_some_iff hids).2 ⟨List.mem_of_mem_filter hd, rfl⟩
  rw [hlookup, hm k, List.filterMap_map]
  exact (List.filterMap_congr hself).trans List.filterMap_some

/-- Where descriptors are registered of which no two share an id or a name, all ways to look them up
agree: the list is that of the descriptors, an id or a name leads to the one that has it, a category
or a tier to those that have it, and the categories are a partition of the catalog, as are the
tiers. -/
theorem indexes_ofList (ds : List Descriptor)
    (hids : (ds.map (·.id)).Nodup) (hnames : (ds.map (·.name)).Nodup) :
    (ofList ds).descriptors = ds ∧ (∀ id d, (ofList ds).get? id = some d ↔ d ∈ ds ∧ d.id = id) ∧
    (∀ name d, (ofList ds).findByName? name = some d ↔ d ∈ ds ∧ d.name = name) ∧
    (∀ category, (ofList ds).ofCategory category = ds.filter (·.category = category)) ∧
    (∀ tier, (ofList ds).ofMinTier tier = ds.filter (·.minTier = tier)) ∧
    Partitions (ofList ds).ofCategory Category.all ds ∧
    Partitions (ofList ds).ofMinTier Language.Tier.all ds := by
  have hds := descriptors_ofList ds
  have hc := coherent_ofList ds
  have hid := hc.byId
  have hname := hc.byName
  have hcategory := hc.lookup_eq_filter hc.idsOfCategory (hds.symm ▸ hids)
  have htier := hc.lookup_eq_filter hc.idsOfMinTier (hds.symm ▸ hids)
  rw [hds] at hid hname hcategory htier
  refine ⟨hds, fun id d => hid.get?_eq_some_iff hids, fun name d => hname.get?_eq_some_iff hnames,
    hcategory, htier, ?_, ?_⟩
  · rw [show (ofList ds).ofCategory = _ from funext hcategory]
    exact partitions_filter (by decide) fun d _ => by cases d.category <;> decide
  · rw [show (ofList ds).ofMinTier = _ from funext htier]
    exact partitions_filter (by decide) fun d _ => by cases d.minTier <;> decide

/-- An id without a dot is its own name, and a name may have dots of its own. -/
theorem indexes_ofList_dots :
    let hive : Descriptor := ⟨"prefer-hive", .standardUpgrade, "colonies", .cpp26, none⟩
    let endl : Descriptor :=
      ⟨"baseline-performance.avoid-std-endl", .baselinePerformance, "flushes", .unknown, none⟩
    let ranges : Descriptor :=
      ⟨"standard-upgrade.prefer.ranges", .standardUpgrade, "loops", .cpp20, none⟩
    let ds := [hive, endl, ranges]
    (ds.map (·.id)).Nodup ∧ (ds.map (·.name)).Nodup ∧ (ofList ds).get? "prefer-hive" = some hive ∧
    (ofList ds).findByName? "prefer.ranges" = some ranges ∧
    (ofList ds).findByName? "ranges" = none ∧
    (ofList ds).ofCategory .standardUpgrade = [hive, ranges] ∧
    (ofList ds).ofMinTier .unknown = [endl] ∧
    (Category.all.flatMap (ofList ds).ofCategory).Perm ds := by
  intro hive endl ranges ds
  have hids : (ds.map (·.id)).Nodup := by decide +kernel
  have hnames : (ds.map (·.name)).Nodup := by decide +kernel
  obtain ⟨-, hget, hfind, hcategory, htier, hparts, -⟩ := indexes_ofList ds hids hnames
  have hranges : ranges.name = "prefer.ranges" := by decide +kernel
  have hnone : ∀ d ∈ ds, d.name ≠ "ranges" := by decide +kernel
  refine ⟨hids, hnames, (hget _ _).2 ⟨.head _, rfl⟩,
    (hfind _ _).2 ⟨.tail _ (.tail _ (.head _)), hranges⟩, ?_, hcategory _, htier _, hparts.perm⟩
  rw [Option.eq_none_iff_forall_ne_some]
  intro d hd
  exact hnone d ((hfind _ _).1 hd).1 ((hfind _ _).1 hd).2

end Catalog

end CppAdvice
