import CppAdvice.Document.Load
import Mathlib.Tactic

/-!
# Laws of reading

What one step of a reader does: a record takes a member as a field, passes over it or stops at it; a
node takes its children, or one of its other members.
-/

namespace CppAdvice.Document

open CppAdvice.Tree

section

variable {σ α β : Type}

/-- A step that is done goes on with its value. -/
@[simp]
lemma ok_bind (a : α) (f : α → Reading β) : ((.ok a : Reading α) >>= f) = f a := rfl

/-- A fault ends the reading. -/
@[simp]
lemma error_bind (fault : Fault) (f : α → Reading β) :
    ((.error fault : Reading α) >>= f) = .error fault := rfl

/-- A reading of two steps succeeds if both do. -/
lemma bind_eq_ok {x : Reading α} {f : α → Reading β} {b : β} :
    (x >>= f) = .ok b ↔ ∃ a, x = .ok a ∧ f a = .ok b := by
  cases x with
  | error fault => simp
  | ok a => simp

/-- A reading whose value is put into another form succeeds if it does. -/
lemma map_eq_ok {x : Reading α} {f : α → β} {b : β} :
    f <$> x = .ok b ↔ ∃ a, x = .ok a ∧ f a = b := by
  cases x with
  | error fault => simp [Functor.map, Except.map]
  | ok a => simp [Functor.map, Except.map]

/-- A value of the wrong type is not read. -/
lemma wrongType_ne_ok (due : Due) (v : Json) (a : α) : wrongType due v ≠ .ok a := by
  intro h
  rw [wrongType.eq_def] at h
  split at h
  case h_5 d => cases hd : d.toFloat? <;> simp [hd, misshapen] at h
  all_goals cases h

/-- A list is read from an array for which there is room, item by item. -/
lemma readList_eq_ok {read : Nat → Json → Reading α} {depth : Nat} {v : Json} {as : List α} :
    readList read depth v = .ok as ↔
      ∃ items, v = .array items ∧ depth < depthLimit ∧ items.mapM (read (depth + 1)) = .ok as := by
  constructor
  · intro h
    rw [readList.eq_def] at h
    cases v with
    | array items =>
      simp only at h
      split_ifs at h with hdepth
      exact ⟨items, rfl, hdepth, h⟩
    | _ => exact absurd h (wrongType_ne_ok _ _ _)
  · rintro ⟨items, rfl, hdepth, h⟩
    rw [readList, if_pos hdepth, h]

/-! ## Reading one after another -/

/-- The state that reading the given things one after another leads to. -/
def Reads (step : σ → β → σ → Prop) : List β → σ → σ → Prop
  | [], s, t => s = t
  | b :: bs, s, t => ∃ u, step s b u ∧ Reads step bs u t

variable {step : σ → β → σ → Prop} {E : σ → σ → Prop}

/-- Reading some things and then others is reading both one after another. -/
lemma Reads.append {bs cs : List β} {s t : σ} :
    Reads step (bs ++ cs) s t ↔ ∃ u, Reads step bs s u ∧ Reads step cs u t := by
  induction bs generalizing s with
  | nil => simp [Reads]
  | cons b bs ih => simp only [List.cons_append, Reads, ih]; grind

/-- What every step preserves holds in the end if it holds at the start. -/
lemma Reads.holds {P : σ → Prop} (hstep : ∀ {b s t}, step s b t → P s → P t) {bs : List β} {s t : σ}
    (h : Reads step bs s t) (hs : P s) : P t := by
  induction bs generalizing s with
  | nil =>
    cases h
    exact hs
  | cons b bs ih =>
    obtain ⟨u, hb, hrest⟩ := h
    exact ih hrest (hstep hb hs)

/-- From states that are alike, reading leads to states that are alike. -/
lemma Reads.congr (hcongr : ∀ {s s' b t}, E s s' → step s b t → ∃ t', step s' b t' ∧ E t t')
    {bs : List β} {s s' t : σ} (hs : E s s') (h : Reads step bs s t) :
    ∃ t', Reads step bs s' t' ∧ E t t' := by
  induction bs generalizing s s' with
  | nil =>
    cases h
    exact ⟨s', rfl, hs⟩
  | cons b bs ih =>
    obtain ⟨u, hstep, hrest⟩ := h
    obtain ⟨u', hstep', hu⟩ := hcongr hs hstep
    obtain ⟨t', hrest', ht⟩ := ih hu hrest
    exact ⟨t', ⟨u', hstep', hrest'⟩, ht⟩

/-- If two neighbours may change places, any order leads to the same state, up to what no step looks
at. -/
lemma Reads.perm (hE : Equivalence E)
    (hcongr : ∀ {s s' b t}, E s s' → step s b t → ∃ t', step s' b t' ∧ E t t')
    (hswap : ∀ {s a b t u}, step s a t → step t b u → ∃ t' u', step s b t' ∧ step t' a u' ∧ E u u')
    {bs bs' : List β} (hperm : bs.Perm bs') {s t : σ} (h : Reads step bs s t) :
    ∃ t', Reads step bs' s t' ∧ E t t' := by
  induction hperm generalizing s t with
  | nil => exact ⟨t, h, hE.refl t⟩
  | cons b _ ih =>
    obtain ⟨u, hstep, hrest⟩ := h
    obtain ⟨t', hrest', ht⟩ := ih hrest
    exact ⟨t', ⟨u, hstep, hrest'⟩, ht⟩
  | swap a b bs =>
    obtain ⟨u, hb, w, ha, hrest⟩ := h
    obtain ⟨u', w', ha', hb', hw⟩ := hswap hb ha
    obtain ⟨t', hrest', ht⟩ := Reads.congr hcongr hw hrest
    exact ⟨t', ⟨u', ha', w', hb', hrest'⟩, ht⟩
  | trans _ _ ih₁ ih₂ =>
    obtain ⟨t₁, h₁, ht₁⟩ := ih₁ h
    obtain ⟨t₂, h₂, ht₂⟩ := ih₂ h₁
    exact ⟨t₂, h₂, hE.trans ht₁ ht₂⟩

/-! ## Records -/

namespace Field

variable {name : String} {read : Json → Reading α} {v : Json}

/-- A field that is needed takes what is read. -/
lemma read_needed {a : α} (h : read v = .ok a) (set : α → σ → σ) (s : σ) :
    (needed name read set).read v s = .ok (set a s) := by
  rw [needed]
  simp only [h]
  rfl

/-- A field that is needed passes a fault on. -/
lemma read_needed_fault {fault : Fault} (h : read v = .error fault) (set : α → σ → σ) (s : σ) :
    (needed name read set).read v s = .error fault := by
  rw [needed]
  simp only [h]
  rfl

/-- A field that may be missing takes what is read. -/
lemma read_optional {a : α} (h : read v = .ok a) (set : α → σ → σ) (s : σ) :
    (optional name read set).read v s = .ok (set a s) := by
  rw [optional]
  simp only [h]
  rfl

end Field

namespace Record

variable {r : Record σ} {field : Field σ} {k : String} {v : Json} {s : σ} {seen : List String}

/-- A member with the name of a field is read, if it is the first one with that name. -/
lemma readMembers_field {s' : σ} (hfield : r.fields.find? (·.name = k) = some field)
    (hseen : k ∉ seen) (hread : field.read v s = .ok s') (members : List (Json.Key × Json)) :
    r.readMembers ((.name k, v) :: members) seen s = r.readMembers members (k :: seen) s' := by
  rw [readMembers, hfield]
  simp only [if_neg hseen, hread]
  rfl

/-- A member that a field cannot be read from ends the reading with the fault of the field. -/
lemma readMembers_fault {fault : Fault} (hfield : r.fields.find? (·.name = k) = some field)
    (hseen : k ∉ seen) (hread : field.read v s = .error fault) (members : List (Json.Key × Json)) :
    r.readMembers ((.name k, v) :: members) seen s = .error fault := by
  rw [readMembers, hfield]
  simp only [if_neg hseen, hread]
  rfl

/-- A member without a field is passed over. -/
lemma readMembers_other (hfield : r.fields.find? (·.name = k) = none) (hv : v.whole = true)
    (members : List (Json.Key × Json)) :
    r.readMembers ((.name k, v) :: members) seen s = r.readMembers members seen s := by
  rw [readMembers, hfield]
  exact if_pos hv

/-- A member is a field that has not been seen before, or passed over. -/
inductive Takes (r : Record σ) : List String × σ → Json.Key × Json → List String × σ → Prop where
  | field {field : Field σ} {k : String} {v : Json} {s s' : σ} {seen : List String} :
    r.fields.find? (·.name = k) = some field → k ∉ seen → field.read v s = .ok s' →
    Takes r (seen, s) (.name k, v) (k :: seen, s')
  | other {k : String} {v : Json} {s : σ} {seen : List String} :
    r.fields.find? (·.name = k) = none → v.whole = true → Takes r (seen, s) (.name k, v) (seen, s)

/-- The members of a record are read one after another. -/
lemma readMembers_eq_ok {members : List (Json.Key × Json)} {t : List String × σ} :
    r.readMembers members seen s = .ok t ↔ Reads r.Takes members (seen, s) t := by
  induction members generalizing seen s with
  | nil => simp [readMembers, Reads]
  | cons m members ih =>
    obtain ⟨key, v⟩ := m
    constructor
    · intro h
      cases key with
      | garbled => cases h
      | missing => cases h
      | name k =>
        rw [readMembers] at h
        cases hfield : r.fields.find? (·.name = k) with
        | none =>
          simp only [hfield] at h
          split_ifs at h with hv
          exact ⟨_, .other hfield hv, ih.1 h⟩
        | some field =>
          simp only [hfield] at h
          split_ifs at h with hseen
          · cases h
          · obtain ⟨s', hread, h⟩ := bind_eq_ok.1 h
            exact ⟨_, .field hfield hseen hread, ih.1 h⟩
    · rintro ⟨u, htakes, h⟩
      cases htakes with
      | field hfield hseen hread => rw [readMembers_field hfield hseen hread, ih.2 h]
      | other hfield hv => rw [readMembers_other hfield hv, ih.2 h]

/-- A record is read from the members of an object if nothing that is needed is missing. -/
lemma readObject_eq_ok {start : σ} {members : List (Json.Key × Json)} :
    r.readObject start members = .ok s ↔
      ∃ seen, Reads r.Takes members ([], start) (seen, s) ∧ r.checkMissing seen = .ok () := by
  rw [readObject, bind_eq_ok]
  constructor
  · rintro ⟨⟨seen, s'⟩, hmembers, h⟩
    obtain ⟨⟨⟩, hmissing, h⟩ := bind_eq_ok.1 h
    cases h
    exact ⟨seen, readMembers_eq_ok.1 hmembers, hmissing⟩
  · rintro ⟨seen, hmembers, hmissing⟩
    exact ⟨(seen, s), readMembers_eq_ok.2 hmembers, bind_eq_ok.2 ⟨(), hmissing, rfl⟩⟩

/-- The record is read from a value: from the members of an object, or from just the items of an
array. -/
def Describes (r : Record σ) (start : σ) (v : Json) (s : σ) : Prop :=
  (∃ members, v = .object members ∧ r.readObject start members = .ok s) ∨
    ∃ items, v = .array items ∧ r.readItems r.fields 0 items start = .ok ([], s)

/-- A record is read from a value that describes it, if there is room. -/
lemma read_eq_ok {start : σ} {depth : Nat} :
    r.read start depth v = .ok s ↔ depth < depthLimit ∧ r.Describes start v s := by
  constructor
  · intro h
    rw [read.eq_def] at h
    cases v with
    | object members =>
      simp only at h
      split_ifs at h with hdepth
      exact ⟨hdepth, .inl ⟨members, rfl, h⟩⟩
    | array items =>
      simp only at h
      split_ifs at h with hdepth
      obtain ⟨⟨rest, s'⟩, hitems, h⟩ := bind_eq_ok.1 h
      split_ifs at h with hrest
      cases h
      cases List.isEmpty_iff.1 hrest
      exact ⟨hdepth, .inr ⟨items, rfl, hitems⟩⟩
    | _ => exact absurd h (wrongType_ne_ok _ _ _)
  · rintro ⟨hdepth, ⟨members, rfl, h⟩ | ⟨items, rfl, h⟩⟩
    · rw [read, if_pos hdepth, h]
    · rw [read, if_pos hdepth, h]
      rfl

/-- A record is read from a kept value that describes it. -/
lemma readKept_eq_ok {start : σ} : r.readKept start v = .ok s ↔ r.Describes start v s := by
  constructor
  · intro h
    rw [readKept.eq_def] at h
    cases v with
    | object members => exact .inl ⟨members, rfl, h⟩
    | array items =>
      simp only at h
      obtain ⟨⟨rest, s'⟩, hitems, h⟩ := bind_eq_ok.1 h
      split_ifs at h with hrest
      · cases h
        cases List.isEmpty_iff.1 hrest
        exact .inr ⟨items, rfl, hitems⟩
      · cases h
    | _ => exact absurd h (wrongType_ne_ok _ _ _)
  · rintro (⟨members, rfl, h⟩ | ⟨items, rfl, h⟩)
    · rw [readKept, h]
    · rw [readKept, h]
      rfl

section

variable {P : σ → Prop} (hfields : ∀ field ∈ r.fields, ∀ {v s s'}, P s →
  field.read v s = .ok s' → P s')
include hfields

/-- What the fields of a record preserve, every member preserves. -/
lemma holds_of_takes {m : Json.Key × Json} {u t : List String × σ} (h : r.Takes u m t)
    (hu : P u.2) : P t.2 := by
  cases h with
  | field hfield _ hread => exact hfields _ (List.mem_of_find?_eq_some hfield) hu hread
  | other => exact hu

/-- What the fields of a record preserve, the items of an array preserve. -/
lemma holds_of_readItems {fields : List (Field σ)} (hsub : ∀ field ∈ fields, field ∈ r.fields)
    {number : Nat} {items : List Json} {t : List Json × σ} (hs : P s)
    (h : r.readItems fields number items s = .ok t) : P t.2 := by
  induction fields generalizing number items s with
  | nil =>
    cases h
    exact hs
  | cons field fields ih =>
    have hrest : ∀ field ∈ fields, field ∈ r.fields :=
      fun f hf => hsub f (List.mem_cons_of_mem _ hf)
    cases items with
    | nil =>
      rw [readItems] at h
      split_ifs at h
      · cases h
      · exact ih hrest hs h
    | cons v items =>
      rw [readItems] at h
      obtain ⟨s', hread, h⟩ := bind_eq_ok.1 h
      exact ih hrest (hfields field (hsub field List.mem_cons_self) hs hread) h

/-- What is true of the start and kept by every field is true of what is read. -/
lemma holds_of_read {start : σ} (hstart : P start) {depth : Nat}
    (h : r.read start depth v = .ok s) : P s := by
  obtain ⟨-, ⟨members, -, h⟩ | ⟨items, -, h⟩⟩ := read_eq_ok.1 h
  · obtain ⟨seen, hmembers, -⟩ := readObject_eq_ok.1 h
    exact Reads.holds (P := fun t => P t.2) (holds_of_takes hfields) hmembers hstart
  · exact holds_of_readItems hfields (fun _ => id) hstart h

end

end Record

end

/-! ## Nodes -/

/-- A node is read from an object for which there is room, by its members. -/
lemma readNode_eq_ok {depth : Nat} {v : Json} {node : Node} :
    readNode depth v = .ok node ↔ ∃ members, v = .object members ∧ depth < depthLimit ∧
      ∃ d, readNodeMembers (depth + 1) members {} = .ok d ∧ d.close = .ok node := by
  constructor
  · intro h
    rw [readNode.eq_def] at h
    cases v with
    | object members =>
      simp only at h
      split_ifs at h with hdepth
      exact ⟨members, rfl, hdepth, bind_eq_ok.1 h⟩
    | _ => exact absurd h (wrongType_ne_ok _ _ _)
  · rintro ⟨members, rfl, hdepth, h⟩
    rw [readNode, if_pos hdepth]
    exact bind_eq_ok.2 h

/-- A member other than the children is dealt with on its own. -/
lemma readNodeMembers_of_ne {depth : Nat} {name : String} (h : name ≠ "children") (v : Json)
    (members : List (Json.Key × Json)) (d : NodeDraft) :
    readNodeMembers depth ((.name name, v) :: members) d =
      d.readMember depth name v >>= readNodeMembers depth members := by
  rw [readNodeMembers.eq_def]
  simp only [if_neg h]

/-- The children of a node are read as trees, one level deeper. -/
lemma readNodeMembers_children {depth : Nat} (h : depth < depthLimit) {d : NodeDraft}
    (hd : d.children = none) (items : List Json) (members : List (Json.Key × Json)) :
    readNodeMembers depth ((.name "children", .array items) :: members) d =
      readNodes (depth + 1) items >>= fun children =>
        readNodeMembers depth members { d with children := some children } := by
  rw [readNodeMembers.eq_def]
  simp [hd, h]

/-- Where the member with the children is read, it is an array, the first one, and there is room for
it. -/
lemma readNodeMembers_children_ok {depth : Nat} {v : Json} {members : List (Json.Key × Json)}
    {d d' : NodeDraft} (h : readNodeMembers depth ((.name "children", v) :: members) d = .ok d') :
    ∃ items, v = .array items ∧ depth < depthLimit ∧ d.children = none ∧
      ∃ children, readNodes (depth + 1) items = .ok children ∧
        readNodeMembers depth members { d with children := some children } = .ok d' := by
  rw [readNodeMembers.eq_def] at h
  by_cases hd : d.children.isSome
  · simp [hd, misshapen] at h
  rw [Option.not_isSome_iff_eq_none] at hd
  simp only [hd, if_true, Option.isSome_none, Bool.false_eq_true, if_false] at h
  cases v with
  | array items =>
    simp only at h
    split_ifs at h with hdepth
    exact ⟨items, rfl, hdepth, hd, bind_eq_ok.1 h⟩
  | _ => exact absurd h (wrongType_ne_ok _ _ _)

/-- Trees side by side are read one after another. -/
lemma readNodes_eq_mapM (depth : Nat) (items : List Json) :
    readNodes depth items = items.mapM (readNode depth) := by
  induction items with
  | nil => rfl
  | cons v items ih => rw [readNodes, ih, List.mapM_cons]

/-- What is read of a node where it stands. -/
inductive NodePart where
  | range
  | file
  | ty
  | children

namespace NodePart

/-- The name of the member that holds the part. -/
def name : NodePart → String
  | range => "range"
  | file => "file"
  | ty => "ty"
  | children => "children"

/-- What the part is read as. -/
def Value : NodePart → Type
  | range => Option SourceRange
  | file => Option String
  | ty => Option TypeRef
  | children => List Node

/-- The part as far as it has been read. -/
def get : (part : NodePart) → NodeDraft → Option part.Value
  | range, d => d.range
  | file, d => d.file
  | ty, d => d.ty
  | children, d => d.children

/-- The draft with the part in it. -/
def set : (part : NodePart) → part.Value → NodeDraft → NodeDraft
  | range, r, d => { d with range := some r }
  | file, s, d => { d with file := some s }
  | ty, t, d => { d with ty := some t }
  | children, nodes, d => { d with children := some nodes }

/-- How the part is read. -/
def read (depth : Nat) : (part : NodePart) → Json → Reading part.Value
  | range => readOption (rangeRecord.read ⟨0, 0⟩ depth)
  | file => readOption readString
  | ty => readOption (readType depth)
  | children => readList readNode depth

/-- A part that was just put in is there. -/
lemma get_set_self (part : NodePart) (a : part.Value) (d : NodeDraft) :
    part.get (part.set a d) = some a := by
  cases part <;> rfl

/-- Putting in another part leaves a part as it is. -/
lemma get_set_of_ne {part other : NodePart} (h : part ≠ other) (a : other.Value) (d : NodeDraft) :
    part.get (other.set a d) = part.get d := by
  cases part <;> cases other <;> first | rfl | exact absurd rfl h

/-- Two different parts can be put in in either order. -/
lemma set_comm {part other : NodePart} (h : part ≠ other) (a : part.Value) (b : other.Value)
    (d : NodeDraft) :
    part.set a (other.set b d) = other.set b (part.set a d) := by
  cases part <;> cases other <;> first | rfl | exact absurd rfl h

/-- Putting in a part leaves the kept members as they are. -/
@[simp]
lemma kept_set (part : NodePart) (a : part.Value) (d : NodeDraft) :
    (part.set a d).kept = d.kept := by
  cases part <;> rfl

/-- The parts do not depend on the kept members. -/
@[simp]
lemma get_kept (part : NodePart) (d : NodeDraft) (kept : List (Json.Key × Json)) :
    part.get { d with kept } = part.get d := by
  cases part <;> rfl

/-- Parts are put in whatever the kept members are. -/
@[simp]
lemma set_kept (part : NodePart) (a : part.Value) (d : NodeDraft) (kept : List (Json.Key × Json)) :
    part.set a { d with kept } = { part.set a d with kept } := by
  cases part <;> rfl

end NodePart

namespace NodeDraft

/-- A member is a part of the node that has not been read before, or kept. -/
inductive Takes (depth : Nat) : NodeDraft → Json.Key × Json → NodeDraft → Prop where
  | part {d : NodeDraft} {part : NodePart} {v : Json} {a : part.Value} :
    part.get d = none → part.read depth v = .ok a →
      Takes depth d (.name part.name, v) (part.set a d)
  | kept {d : NodeDraft} {k : String} {v : Json} :
    (∀ part : NodePart, k ≠ part.name) → v.readable (depthLimit - depth) = true →
    Takes depth d (.name k, v) { d with kept := (.name k, v) :: d.kept }

/-- A member that may stand once is read if it has not been read before. -/
lemma readOnce_eq_ok {α : Type} {name : String} {known : Option α} {read : Json → Reading α}
    {v : Json} {a : α} :
    readOnce name known read v = .ok a ↔ known = none ∧ read v = .ok a := by
  rw [readOnce]
  cases known with
  | none => simp
  | some b => simp [misshapen]

/-- What one member other than the children does to a draft is a step. -/
lemma takes_of_readMember {depth : Nat} {name : String} (hname : name ≠ "children") {v : Json}
    {d d' : NodeDraft} (h : d.readMember depth name v = .ok d') :
    Takes depth d (.name name, v) d' := by
  rw [readMember] at h
  split_ifs at h with hrange hfile hty hv
  · obtain ⟨r, hread, ⟨⟩⟩ := bind_eq_ok.1 h
    subst hrange
    obtain ⟨hd, hv⟩ := readOnce_eq_ok.1 hread
    exact @Takes.part depth d .range v r hd hv
  · obtain ⟨s, hread, ⟨⟩⟩ := bind_eq_ok.1 h
    subst hfile
    obtain ⟨hd, hv⟩ := readOnce_eq_ok.1 hread
    exact @Takes.part depth d .file v s hd hv
  · obtain ⟨ty, hread, ⟨⟩⟩ := bind_eq_ok.1 h
    subst hty
    obtain ⟨hd, hv⟩ := readOnce_eq_ok.1 hread
    exact @Takes.part depth d .ty v ty hd hv
  · cases h
    refine .kept ?_ hv
    rintro (_ | _ | _ | _) <;> assumption

/-- A member with the name of a part is read as the part, if it is the first one. -/
lemma readMember_part {depth : Nat} {part : NodePart} (hpart : part ≠ .children) {v : Json}
    {d : NodeDraft} {a : part.Value} (hd : part.get d = none) (hread : part.read depth v = .ok a) :
    d.readMember depth part.name v = .ok (part.set a d) := by
  cases part with
  | range =>
    rw [readMember, NodePart.name, if_pos rfl]
    exact bind_eq_ok.2 ⟨a, readOnce_eq_ok.2 ⟨hd, hread⟩, rfl⟩
  | file =>
    rw [readMember, NodePart.name, if_neg (by decide), if_pos rfl]
    exact bind_eq_ok.2 ⟨a, readOnce_eq_ok.2 ⟨hd, hread⟩, rfl⟩
  | ty =>
    rw [readMember, NodePart.name, if_neg (by decide), if_neg (by decide), if_pos rfl]
    exact bind_eq_ok.2 ⟨a, readOnce_eq_ok.2 ⟨hd, hread⟩, rfl⟩
  | children => exact absurd rfl hpart

/-- A member with no part's name is kept. -/
lemma readMember_kept {depth : Nat} {name : String} (hname : ∀ part : NodePart, name ≠ part.name)
    {v : Json} (hv : v.readable (depthLimit - depth) = true) (d : NodeDraft) :
    d.readMember depth name v = .ok { d with kept := (.name name, v) :: d.kept } := by
  have hrange : name ≠ "range" := hname .range
  have hfile : name ≠ "file" := hname .file
  have hty : name ≠ "ty" := hname .ty
  rw [readMember, if_neg hrange, if_neg hfile, if_neg hty, if_pos hv]
  rfl

end NodeDraft

/-- The members of a node are read one after another. -/
lemma readNodeMembers_eq_ok {depth : Nat} {members : List (Json.Key × Json)} {d d' : NodeDraft} :
    readNodeMembers depth members d = .ok d' ↔ Reads (NodeDraft.Takes depth) members d d' := by
  induction members generalizing d with
  | nil => simp [readNodeMembers, Reads]
  | cons m members ih =>
    obtain ⟨key, v⟩ := m
    constructor
    · intro h
      cases key with
      | garbled => cases h
      | missing => cases h
      | name name =>
        by_cases hname : name = "children"
        · subst hname
          obtain ⟨items, rfl, hdepth, hd, nodes, hitems, h⟩ := readNodeMembers_children_ok h
          have hread : NodePart.children.read depth (.array items) = .ok nodes :=
            readList_eq_ok.2 ⟨items, rfl, hdepth, readNodes_eq_mapM _ items ▸ hitems⟩
          exact ⟨_, @NodeDraft.Takes.part depth d .children _ nodes hd hread, ih.1 h⟩
        · rw [readNodeMembers_of_ne hname] at h
          obtain ⟨d₁, hmember, h⟩ := bind_eq_ok.1 h
          exact ⟨d₁, NodeDraft.takes_of_readMember hname hmember, ih.1 h⟩
    · rintro ⟨d₁, htakes, h⟩
      cases htakes with
      | kept hname hv =>
        rw [readNodeMembers_of_ne (hname .children), NodeDraft.readMember_kept hname hv,
          ok_bind, ih.2 h]
      | @part part _ a hd hread =>
        by_cases hpart : part = .children
        · subst hpart
          obtain ⟨items, rfl, hdepth, hitems⟩ := readList_eq_ok.1 hread
          rw [NodePart.name, readNodeMembers_children hdepth hd, readNodes_eq_mapM, hitems]
          exact ih.2 h
        · have hname : part.name ≠ "children" := by
            intro hname
            cases part with
            | children => exact hpart rfl
            | _ => exact absurd hname (by decide)
          rw [readNodeMembers_of_ne hname, NodeDraft.readMember_part hpart hd hread,
            ok_bind, ih.2 h]

end CppAdvice.Document
