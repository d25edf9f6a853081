import CppAdvice.Proofs.Rearrangement.Place

/-!
# Records in any order

The members of an object are read one after another, so reordering them comes down to two neighbours
that change places (`Record.takes_swap`): their fields have to be apart. Every record of a document
has such fields, and none of them notices what is rearranged at its own place.
-/

namespace CppAdvice.Document

open CppAdvice.Tree

/-- Two fields can be read in either order. -/
def Field.Apart {σ : Type} (f g : Field σ) : Prop :=
  ∀ v w s u, (f.read v s >>= g.read w) = .ok u ↔ (g.read w s >>= f.read v) = .ok u

/-- It does not matter which of two fields is named first. -/
instance {σ : Type} : Std.Symm (@Field.Apart σ) where
  symm _ _ h v w s u := (h w v s u).symm

/-- The same has been read, and the same fields have been seen. -/
def SameSeen {σ : Type} (a b : List String × σ) : Prop :=
  a.2 = b.2 ∧ ∀ k, k ∈ a.1 ↔ k ∈ b.1

section

variable {σ : Type} {r : Record σ}

/-- Having read and seen the same is an equivalence. -/
lemma equivalence_sameSeen : Equivalence (@SameSeen σ) where
  refl _ := ⟨rfl, fun _ => Iff.rfl⟩
  symm h := ⟨h.1.symm, fun k => (h.2 k).symm⟩
  trans h h' := ⟨h.1.trans h'.1, fun k => (h.2 k).trans (h'.2 k)⟩

namespace Record

/-- Where the same has been read and seen, a member does the same. -/
lemma takes_congr {a b t : List String × σ} {m : Json.Key × Json} (hab : SameSeen a b)
    (h : r.Takes a m t) :
    ∃ t', r.Takes b m t' ∧ SameSeen t t' := by
  obtain ⟨seen, s⟩ := b
  cases h with
  | field hfield hseen hread =>
    obtain ⟨rfl, hmem⟩ := hab
    refine ⟨_, .field hfield (fun h => hseen ((hmem _).2 h)) hread, rfl, fun k => ?_⟩
    rw [List.mem_cons, List.mem_cons, hmem]
  | other hfield hv =>
    obtain ⟨rfl, hmem⟩ := hab
    exact ⟨_, .other hfield hv, rfl, hmem⟩

/-- The field that is found under a name has it. -/
lemma name_of_find? {field : Field σ} {k : String} (h : r.fields.find? (·.name = k) = some field) :
    field.name = k := by
  simpa using List.find?_some h

/-- The fields of two different names can be read in either order. -/
lemma apart_of_find? (hr : r.fields.Pairwise Field.Apart) {f g : Field σ} {k l : String}
    (hkl : k ≠ l) (hf : r.fields.find? (·.name = k) = some f)
    (hg : r.fields.find? (·.name = l) = some g) : f.Apart g := by
  refine hr.forall (List.mem_of_find?_eq_some hf) (List.mem_of_find?_eq_some hg) ?_
  rintro rfl
  exact hkl ((name_of_find? hf).symm.trans (name_of_find? hg))

/-- Two neighbours among the members of an object may change places. -/
lemma takes_swap (hr : r.fields.Pairwise Field.Apart) {s t u : List String × σ}
    {a b : Json.Key × Json} (ha : r.Takes s a t) (hb : r.Takes t b u) :
    ∃ t' u', r.Takes s b t' ∧ r.Takes t' a u' ∧ SameSeen u u' := by
  cases ha with
  | other hfield hv =>
    cases hb with
    | other hfield' hv' => exact ⟨_, _, .other hfield' hv', .other hfield hv, rfl, fun _ => Iff.rfl⟩
    | field hfield' hseen hread =>
      exact ⟨_, _, .field hfield' hseen hread, .other hfield hv, rfl, fun _ => Iff.rfl⟩
  | field hfield hseen hread =>
    cases hb with
    | other hfield' hv =>
      exact ⟨_, _, .other hfield' hv, .field hfield hseen hread, rfl, fun _ => Iff.rfl⟩
    | field hfield' hseen' hread' =>
      rw [List.mem_cons, not_or] at hseen'
      obtain ⟨s', hread₁, hread₂⟩ := bind_eq_ok.1
        ((apart_of_find? hr hseen'.1 hfield' hfield _ _ _ _).2 (bind_eq_ok.2 ⟨_, hread, hread'⟩))
      refine ⟨_, _, .field hfield' hseen'.2 hread₁, .field hfield ?_ hread₂, rfl, fun k => ?_⟩
      · rw [List.mem_cons, not_or]
        exact ⟨fun h => hseen'.1 h.symm, hseen⟩
      · simp only [List.mem_cons]
        tauto

/-- Which fields are missing depends on which have been seen, in whatever order. -/
lemma checkMissing_congr {seen seen' : List String} (h : ∀ k, k ∈ seen ↔ k ∈ seen') :
    r.checkMissing seen = r.checkMissing seen' := by
  have hcontains : ∀ k, seen.contains k = seen'.contains k := fun k => by simp [h k]
  simp only [checkMissing, hcontains]

/-- The members of an object may change places. -/
lemma readObject_perm (hr : r.fields.Pairwise Field.Apart)
    {members members' : List (Json.Key × Json)} (hperm : members.Perm members') {start s : σ}
    (h : r.readObject start members = .ok s) :
    r.readObject start members' = .ok s := by
  obtain ⟨seen, hreads, hmissing⟩ := readObject_eq_ok.1 h
  obtain ⟨⟨seen', s'⟩, hreads', rfl, hseen⟩ :=
    @Reads.perm _ _ r.Takes SameSeen equivalence_sameSeen takes_congr (takes_swap hr)
      _ _ hperm _ _ hreads
  exact readObject_eq_ok.2 ⟨seen', hreads', checkMissing_congr hseen ▸ hmissing⟩

/-- A member that no field reads may be put anywhere. -/
lemma readObject_insert (hr : r.fields.Pairwise Field.Apart) {before after : List (Json.Key × Json)}
    {k : String} {v : Json} (hk : k ∉ r.fields.map (·.name)) (hv : v.whole = true) {start s : σ}
    (h : r.readObject start (before ++ after) = .ok s) :
    r.readObject start (before ++ (.name k, v) :: after) = .ok s := by
  have hfield : r.fields.find? (·.name = k) = none := by
    rw [List.find?_eq_none]
    simpa using hk
  refine readObject_perm hr List.perm_middle.symm ?_
  rw [readObject, readMembers_other hfield hv]
  exact h

/-- The value of a member may be exchanged for one that its field reads as the same. -/
lemma readObject_member (hr : r.fields.Pairwise Field.Apart) {before after : List (Json.Key × Json)}
    {key : Json.Key} {v v' : Json} (hwhole : v.whole = true → v'.whole = true)
    (hfield : ∀ field ∈ r.fields, key = .name field.name → ∀ {s s'}, field.read v s = .ok s' →
      field.read v' s = .ok s')
    {start s : σ} (h : r.readObject start (before ++ (key, v) :: after) = .ok s) :
    r.readObject start (before ++ (key, v') :: after) = .ok s := by
  refine readObject_perm hr List.perm_middle.symm ?_
  obtain ⟨seen, ⟨u, htakes, hreads⟩, hmissing⟩ :=
    readObject_eq_ok.1 (readObject_perm hr List.perm_middle h)
  refine readObject_eq_ok.2 ⟨seen, ⟨u, ?_, hreads⟩, hmissing⟩
  cases htakes with
  | other hnone hv => exact .other hnone (hwhole hv)
  | field hsome hseen hread =>
    have hkey := congrArg Json.Key.name (name_of_find? hsome).symm
    exact .field hsome hseen (hfield _ (List.mem_of_find?_eq_some hsome) hkey hread)

/-- An item of an array may be exchanged for one that its field reads as the same. -/
lemma readItems_item {fields : List (Field σ)} {number : Nat} {before after : List Json}
    {v v' : Json} (hfield : ∀ field, fields[before.length]? = some field →
      ∀ {s s'}, field.read v s = .ok s' → field.read v' s = .ok s')
    {s t : σ} (h : r.readItems fields number (before ++ v :: after) s = .ok ([], t)) :
    r.readItems fields number (before ++ v' :: after) s = .ok ([], t) := by
  induction fields generalizing number before s with
  | nil =>
    rw [readItems] at h
    simp at h
  | cons field fields ih =>
    cases before with
    | nil =>
      rw [List.nil_append, readItems] at h ⊢
      obtain ⟨s', hread, h⟩ := bind_eq_ok.1 h
      exact bind_eq_ok.2 ⟨s', hfield field rfl hread, h⟩
    | cons w before =>
      rw [List.cons_append, readItems] at h ⊢
      obtain ⟨s', hread, h⟩ := bind_eq_ok.1 h
      exact bind_eq_ok.2 ⟨s', hread, ih hfield h⟩

end Record

end

/-! ## The records of a document -/

/-- The fields of a record can be read in any order, and none notices changes at its own place. -/
structure Record.Lawful {σ : Type} (r : Record σ) (place : Place) : Prop where
  apart : r.fields.Pairwise Field.Apart
  follows : ∀ field ∈ r.fields, ∀ s, Follows (field.read · s) (place.member (.name field.name))

/-- Two fields can be read in either order if what they do to the record can be done in either
order. -/
lemma Field.apart_of_comm {σ α β : Type} {f g : Field σ} {readF : Json → Reading α}
    {readG : Json → Reading β} {setF : α → σ → σ} {setG : β → σ → σ}
    (hf : ∀ v s, f.read v s = (setF · s) <$> readF v)
    (hg : ∀ v s, g.read v s = (setG · s) <$> readG v)
    (h : ∀ a b s, setG b (setF a s) = setF a (setG b s)) :
    f.Apart g := by
  intro v w s u
  cases hv : readF v <;> cases hw : readG w <;> simp [hf, hg, hv, hw, Functor.map, Except.map, h]

/-- The fields of a range are lawful. -/
lemma lawful_range : rangeRecord.Lawful .range where
  apart := by
    simp only [rangeRecord, List.pairwise_cons, List.forall_mem_cons, List.not_mem_nil,
      false_implies, implies_true, List.Pairwise.nil, and_true]
    exact Field.apart_of_comm (fun _ _ => rfl) (fun _ _ => rfl) fun _ _ _ => rfl
  follows := by
    simp only [rangeRecord, List.forall_mem_cons, List.not_mem_nil, false_implies,
      implies_true, and_true]
    exact ⟨follows_needed (follows_natural _) _, follows_needed (follows_natural _) _⟩

/-- The fields of a type are lawful if reading a reference notices no changes. -/
lemma lawful_type {readReference : Json → Reading Reference} (h : Follows readReference .other) :
    (typeRecord readReference).Lawful .type where
  apart := by
    simp only [typeRecord, List.pairwise_cons, List.forall_mem_cons, List.not_mem_nil,
      false_implies, implies_true, List.Pairwise.nil, and_true]
    repeat' apply And.intro
    all_goals exact Field.apart_of_comm (fun _ _ => rfl) (fun _ _ => rfl) fun _ _ _ => rfl
  follows := by
    simp only [typeRecord, List.forall_mem_cons, List.not_mem_nil, false_implies,
      implies_true, and_true]
    exact ⟨follows_optional follows_string _, follows_optional (follows_option follows_string) _,
      follows_optional follows_bool _, follows_optional h _, follows_optional follows_bool _,
      follows_optional follows_bool _, follows_optional follows_bool _⟩

/-- The fields of a class are lawful. -/
lemma lawful_class (depth : Nat) : (classRecord depth).Lawful .record where
  apart := by
    simp only [classRecord, List.pairwise_cons, List.forall_mem_cons, List.not_mem_nil,
      false_implies, implies_true, List.Pairwise.nil, and_true]
    exact Field.apart_of_comm (fun _ _ => rfl) (fun _ _ => rfl) fun _ _ _ => rfl
  follows := by
    simp only [classRecord, List.forall_mem_cons, List.not_mem_nil, false_implies,
      implies_true, and_true]
    exact ⟨follows_needed follows_string _,
      follows_optional (follows_of_rigid (rigid_of_readList rigid_of_readString)) _⟩

/-- Language flags are lawful. -/
lemma lawful_flags : flagsRecord.Lawful .language where
  apart := by
    simp only [flagsRecord, List.pairwise_cons, List.forall_mem_cons, List.not_mem_nil,
      false_implies, implies_true, List.Pairwise.nil, and_true]
    repeat' apply And.intro
    all_goals exact Field.apart_of_comm (fun _ _ => rfl) (fun _ _ => rfl) fun _ _ _ => rfl
  follows := by
    simp only [flagsRecord, List.forall_mem_cons, List.not_mem_nil, false_implies,
      implies_true, and_true]
    exact ⟨follows_optional follows_bool _, follows_optional follows_bool _,
      follows_optional follows_bool _, follows_optional follows_bool _,
      follows_optional follows_bool _⟩

/-- The fields of a document are lawful. -/
lemma lawful_document : documentRecord.Lawful .document where
  apart := by
    simp only [documentRecord, List.pairwise_cons, List.forall_mem_cons, List.not_mem_nil,
      false_implies, implies_true, List.Pairwise.nil, and_true]
    repeat' apply And.intro
    all_goals exact Field.apart_of_comm (fun _ _ => rfl) (fun _ _ => rfl) fun _ _ _ => rfl
  follows := by
    simp only [documentRecord, List.forall_mem_cons, List.not_mem_nil, false_implies,
      implies_true, and_true]
    exact ⟨follows_optional follows_string _, follows_optional follows_string _,
      follows_optional (follows_option (follows_read id _ _)) _,
      follows_optional (follows_list follows_class 1) _, follows_needed (follows_node 1) _⟩

/-- A single field is lawful if reading it notices no changes at its place. -/
lemma lawful_soleField {α : Type} {field : Field α}
    (h : ∀ s, Follows (field.read · s) (Place.node.member (.name field.name))) :
    (soleField field).Lawful .node where
  apart := List.pairwise_singleton _ field
  follows := by simpa only [soleField, List.forall_mem_singleton] using h

/-- The fields of a function are lawful. -/
lemma lawful_function : functionRecord.Lawful .node where
  apart := by
    simp only [functionRecord, List.pairwise_cons, List.forall_mem_cons, List.not_mem_nil,
      false_implies, implies_true, List.Pairwise.nil, and_true]
    repeat' apply And.intro
    all_goals exact Field.apart_of_comm (fun _ _ => rfl) (fun _ _ => rfl) fun _ _ _ => rfl
  follows := by
    simp only [functionRecord, List.forall_mem_cons, List.not_mem_nil, false_implies,
      implies_true, and_true]
    exact ⟨follows_needed follows_string _,
      follows_optional (follows_option follows_readKeptType) _,
      follows_optional (follows_of_rigid rigid_of_readKept) _,
      follows_optional (follows_of_rigid rigid_of_readKept) _, follows_optional follows_bool _,
      follows_optional follows_bool _, follows_optional follows_bool _,
      follows_optional follows_bool _⟩

/-- The fields of a variable are lawful. -/
lemma lawful_variable : variableRecord.Lawful .node where
  apart := by
    simp only [variableRecord, List.pairwise_cons, List.forall_mem_cons, List.not_mem_nil,
      false_implies, implies_true, List.Pairwise.nil, and_true]
    exact Field.apart_of_comm (fun _ _ => rfl) (fun _ _ => rfl) fun _ _ _ => rfl
  follows := by
    simp only [variableRecord, List.forall_mem_cons, List.not_mem_nil, false_implies,
      implies_true, and_true]
    exact ⟨follows_needed follows_string _, follows_optional (follows_of_rigid rigid_of_readKept) _⟩

/-- The fields of a member call are lawful. -/
lemma lawful_memberCall : memberCallRecord.Lawful .node where
  apart := by
    simp only [memberCallRecord, List.pairwise_cons, List.forall_mem_cons, List.not_mem_nil,
      false_implies, implies_true, List.Pairwise.nil, and_true]
    repeat' apply And.intro
    all_goals exact Field.apart_of_comm (fun _ _ => rfl) (fun _ _ => rfl) fun _ _ _ => rfl
  follows := by
    simp only [memberCallRecord, List.forall_mem_cons, List.not_mem_nil, false_implies,
      implies_true, and_true]
    exact ⟨follows_needed follows_string _, follows_optional (follows_option follows_string) _,
      follows_optional follows_bool _⟩

end CppAdvice.Document
