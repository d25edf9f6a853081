import CppAdvice.Proofs.JsonText
import CppAdvice.Proofs.Rearrangement.Node
import Mathlib.Logic.Relation

/-!
# Rearranged documents load to the same document

A document says the same whatever the order of the members of its objects, and whatever members
stand among them that nothing reads. One change leaves what is read at its place as it is
(`says_of_rearrangement`), and so any number of changes leaves the document as it is
(`load_of_rearranged`).
-/

namespace CppAdvice.Document

open CppAdvice.Tree

/-- Places at which a record stands. -/
def Place.IsRecord : Place → Prop
  | node | list _ | other => False
  | _ => True

/-- At the place of a record, what every such record is read as is all that counts. -/
lemma says_of_keeps {place : Place} (hplace : place.IsRecord) {v v' : Json}
    (h : ∀ {σ : Type} (r : Record σ), r.Lawful place → r.fields.map (·.name) = place.fields →
      r.Keeps v v') :
    place.Says v v' := by
  cases place with
  | document => exact h _ lawful_document rfl
  | type =>
    exact ⟨fun depth => h _ (lawful_type (follows_of_rigid rigid_of_read)) rfl,
      h _ (lawful_type (follows_of_rigid rigid_of_readKept)) rfl⟩
  | range => exact h _ lawful_range rfl
  | record => exact fun depth => h _ (lawful_class depth) rfl
  | language => exact h _ lawful_flags rfl
  | _ => exact hplace.elim

section

variable {place : Place}

/-- The members of an object may change places. -/
lemma says_permute {members members' : List (Json.Key × Json)} (hperm : members.Perm members') :
    place.Says (.object members) (.object members') := by
  by_cases hplace : place.IsRecord
  · refine says_of_keeps hplace fun r hr _ start s h => ?_
    obtain ⟨_, ⟨⟩, h⟩ | ⟨_, ⟨⟩, _⟩ := h
    exact .inl ⟨_, rfl, Record.readObject_perm hr.apart hperm h⟩
  · cases place with
    | node => exact readNode_perm hperm
    | list items => exact nofun
    | other =>
      intro hrigid
      cases hrigid with
      | atom _ hobject => exact absurd rfl (hobject members)
      | empty => rw [List.nil_perm.1 hperm]
      | single => rw [List.singleton_perm.1 hperm]
    | _ => exact absurd trivial hplace

/-- A member that is ignored has no field's name. -/
lemma Place.Ignores.not_mem_fields {members : List (Json.Key × Json)} {k : String}
    (h : place.Ignores members k) :
    k ∉ place.fields := by
  cases place with
  | node => exact h.1
  | list items => exact h.elim
  | other => exact h.elim
  | _ => exact h

/-- A scalar member that is ignored may be put anywhere. -/
lemma says_insert {before after : List (Json.Key × Json)} {k : String} {v : Json}
    (hk : place.Ignores (before ++ after) k) (hv : IsScalar v) :
    place.Says (.object (before ++ after)) (.object (before ++ (.name k, v) :: after)) := by
  by_cases hplace : place.IsRecord
  · refine says_of_keeps hplace fun r hr hnames start s h => ?_
    obtain ⟨_, ⟨⟩, h⟩ | ⟨_, ⟨⟩, _⟩ := h
    exact .inl ⟨_, rfl, Record.readObject_insert hr.apart (hnames ▸ hk.not_mem_fields) hv.whole h⟩
  · cases place with
    | node => exact readNode_insert hk hv
    | list items => exact hk.elim
    | other => exact hk.elim
    | _ => exact absurd trivial hplace

/-- The value of a member may be changed at its place. -/
lemma says_member {before after : List (Json.Key × Json)} {key : Json.Key} {v v' : Json}
    (hstep : Rearrangement (place.member key) v v') (hsame : (place.member key).Says v v') :
    place.Says (.object (before ++ (key, v) :: after))
      (.object (before ++ (key, v') :: after)) := by
  by_cases hplace : place.IsRecord
  · refine says_of_keeps hplace fun r hr _ start s h => ?_
    obtain ⟨_, ⟨⟩, h⟩ | ⟨_, ⟨⟩, _⟩ := h
    refine .inl ⟨_, rfl, Record.readObject_member hr.apart hstep.whole ?_ h⟩
    rintro field hfield rfl s s' hread
    exact hr.follows field hfield s hstep hsame hread
  · cases place with
    | node => exact readNode_member hstep hsame
    | list items => exact nofun
    | other =>
      intro hrigid
      have hv : Rigid v := hrigid.of_mem_members (List.mem_append_right _ List.mem_cons_self)
      rw [hsame hv]
    | _ => exact absurd trivial hplace

/-- An item of an array that describes a record stands for the field with its number. -/
lemma Place.item_of_field (hplace : place.IsRecord) {i : Nat} {k : String}
    (h : place.fields[i]? = some k) :
    place.item i = place.member (.name k) := by
  have hlist : ∀ items, place ≠ list items := by
    rintro items rfl
    exact hplace
  rw [item.eq_2 _ _ hlist, h]
  rfl

/-- An item of an array may be changed at its place. -/
lemma says_item {before after : List Json} {v v' : Json}
    (hstep : Rearrangement (place.item before.length) v v')
    (hsame : (place.item before.length).Says v v') :
    place.Says (.array (before ++ v :: after)) (.array (before ++ v' :: after)) := by
  by_cases hplace : place.IsRecord
  · refine says_of_keeps hplace fun r hr hnames start s h => ?_
    obtain ⟨_, ⟨⟩, _⟩ | ⟨_, ⟨⟩, h⟩ := h
    refine .inr ⟨_, rfl, Record.readItems_item ?_ h⟩
    intro field hfield s s' hread
    have hname : place.fields[before.length]? = some field.name := by
      rw [← hnames, List.getElem?_map, hfield]
      rfl
    rw [Place.item_of_field hplace hname] at hstep hsame
    exact hr.follows field (List.mem_of_getElem? hfield) s hstep hsame hread
  · cases place with
    | node =>
      intro depth n h
      obtain ⟨_, ⟨⟩, _⟩ := readNode_eq_ok.1 h
    | list items =>
      rintro _ ⟨⟩
      exact ⟨before, v, v', after, rfl, rfl, hstep, hsame⟩
    | other =>
      intro hrigid
      have hv : Rigid v := hrigid.of_mem_items (List.mem_append_right _ List.mem_cons_self)
      rw [hsame hv]
    | _ => exact absurd trivial hplace

end

/-- What is read at a place stays the same when something there is rearranged. -/
theorem says_of_rearrangement {place : Place} {v v' : Json} (h : Rearrangement place v v') :
    place.Says v v' := by
  induction h with
  | permute hperm => exact says_permute hperm
  | insert hk hv => exact says_insert hk hv
  | member hstep ih => exact says_member hstep ih
  | item hstep ih => exact says_item hstep ih

/-- However much of a document is rearranged, it is read as the same. -/
lemma ofJson_of_rearranged {v v' : Json} {d : Document}
    (hsteps : Relation.ReflTransGen (Rearrangement .document) v v') {alone : Bool}
    (h : ofJson v alone = .ok d) :
    ofJson v' alone = .ok d := by
  induction hsteps with
  | refl => exact h
  | tail _ hstep ih =>
    obtain ⟨d', hread, hroot⟩ := bind_eq_ok.1 ih
    obtain ⟨hdepth, hread⟩ := Record.read_eq_ok.1 hread
    exact bind_eq_ok.2 ⟨d', Record.read_eq_ok.2 ⟨hdepth, says_of_rearrangement hstep hread⟩, hroot⟩

/-- A text that loads says the same document when, at any depth, the members of its objects change
places or stand among others that their objects do not know. -/
theorem load_of_rearranged {text text' : String} {v v' : Json} {d : Document}
    (hload : load text = .ok d) (hv : Json.parse text = (v, true))
    (hv' : Json.parse text' = (v', true))
    (hsteps : Relation.ReflTransGen (Rearrangement .document) v v') : load text' = .ok d := by
  rw [load, hv] at hload
  rw [load, hv']
  exact ofJson_of_rearranged hsteps hload

/-- The kind of a call comes last, among a field of another kind and a member that a document does
not know. -/
theorem load_of_rearranged_call :
    let before : Json := .ofMembers
      [("root", .ofMembers [("kind", .ofString "TranslationUnitDecl"),
        ("children",
          .array [.ofMembers [("kind", .ofString "CallExpr"), ("callee", .ofString "f")]])])];
    let after : Json := .ofMembers
      [("tool", .bool true), ("root", .ofMembers [("kind", .ofString "TranslationUnitDecl"),
        ("children", .array [.ofMembers
          [("callee", .ofString "f"), ("value", .null), ("kind", .ofString "CallExpr")]])])];
    let d : Document :=
      { root := .mk { kind := .translationUnitDecl } [.mk { kind := .callExpr (some "f") } []] };
    load before.render = .ok d ∧ load after.render = .ok d := by
  intro before after d
  have hload : load before.render = .ok d := by
    rw [load, Json.parse_render rfl]
    rfl
  refine ⟨hload, load_of_rearranged hload (Json.parse_render rfl) (Json.parse_render rfl) ?_⟩
  let rootOf (call : Json) : Json :=
    .ofMembers [("kind", .ofString "TranslationUnitDecl"), ("children", .array [call])]
  have hcall : ∀ {call call'}, Rearrangement .node call call' →
      Rearrangement .document (.ofMembers [("root", rootOf call)])
        (.ofMembers [("root", rootOf call')]) := by
    intro call call' h
    refine @Rearrangement.member _ [] [] (.name "root") _ _ ?_
    refine @Rearrangement.member _ [(.name "kind", .ofString "TranslationUnitDecl")] []
      (.name "children") _ _ ?_
    exact @Rearrangement.item _ [] [] _ _ h
  have hinsert :
      Rearrangement .node (.ofMembers [("kind", .ofString "CallExpr"), ("callee", .ofString "f")])
      (.ofMembers
        [("kind", .ofString "CallExpr"), ("value", .null), ("callee", .ofString "f")]) := by
    refine @Rearrangement.insert .node [(.name "kind", .ofString "CallExpr")]
      [(.name "callee", .ofString "f")] "value"
      .null ⟨by decide, ?_⟩ (.inl rfl)
    rintro _ ⟨⟩
    decide
  have hpermute : Rearrangement .node
      (.ofMembers [("kind", .ofString "CallExpr"), ("value", .null), ("callee", .ofString "f")])
      (.ofMembers [("callee", .ofString "f"), ("value", .null), ("kind", .ofString "CallExpr")]) :=
    .permute (List.reverse_perm _).symm
  refine .tail (.tail (.single (hcall hinsert)) (hcall hpermute)) ?_
  exact @Rearrangement.insert .document [] _ "tool" (.bool true)
    (by simp [Place.Ignores, Place.fields])
    (.inr (.inl ⟨true, rfl⟩))

end CppAdvice.Document
