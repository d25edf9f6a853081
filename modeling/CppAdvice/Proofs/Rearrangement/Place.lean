import CppAdvice.Proofs.Reading
import Mathlib.Data.List.Perm.Basic

/-!
# Rearrangements of a document

`Rearrangement` is one change to a value that nothing should notice: the members of one of its
objects change places, or one of them gets a member that its object does not know. Which members an
object knows depends on the place where it stands. `Place.Says` is what a change has to leave as it
is, and a reader follows a place if it leaves what it reads there as it is.
-/

namespace CppAdvice

namespace Tree.Tag

/-- The names of the fields that a kind adds to a node. -/
def ownFields : Tag → List String
  | .namespaceDecl | .recordDecl | .parmVarDecl | .fieldDecl | .typeAliasDecl | .declRefExpr =>
    ["name"]
  | .functionDecl =>
    ["name", "returns", "role", "special", "is_definition", "is_defaulted", "is_deleted",
      "is_noexcept"]
  | .varDecl => ["name", "storage"]
  | .callExpr => ["callee"]
  | .memberCallExpr => ["method", "class", "is_virtual"]
  | .operatorCallExpr => ["operator"]
  | .binaryOperator | .rewrittenBinaryOperator | .unaryOperator => ["opcode"]
  | .constructExpr => ["constructor"]
  | .integerLiteral => ["value"]
  | _ => []

end Tree.Tag

namespace Document

open CppAdvice.Tree

/-- What stands at a place of a document. -/
inductive Place where
  | document
  | node
  | type
  | range
  | record
  | language
  | list (items : Place)
  /-- Something that no field of its own is read from. -/
  | other

namespace Place

/-- The names of the fields that an object at the place has, whatever its kind. -/
def fields : Place → List String
  | document => ["file", "source", "language", "records", "root"]
  | node => ["kind", "range", "file", "ty", "children"]
  | type =>
    ["spelling", "decl", "is_const", "reference", "is_pointer", "is_integer", "is_scoped_enum"]
  | range => ["begin", "end"]
  | record => ["name", "methods"]
  | language => ["cplusplus", "cplusplus17", "cplusplus20", "cplusplus23", "cplusplus26"]
  | list _ | other => []

/-- The place of a member. -/
def member : Place → Json.Key → Place
  | document, .name "language" => language
  | document, .name "records" => list record
  | document, .name "root" => node
  | node, .name "range" => range
  | node, .name "ty" | node, .name "returns" => type
  | node, .name "children" => list node
  | _, _ => other

/-- The place of an item. An array that does not stand for a list has the fields of an object in
order. -/
def item : Place → Nat → Place
  | list items, _ => items
  | place, i => (place.fields[i]?.map fun k => place.member (.name k)).getD other

/-- Nothing is read from a member with the given name among the given ones. -/
def Ignores : Place → List (Json.Key × Json) → String → Prop
  | node, members, k => k ∉ node.fields ∧ ∀ tag, readTag members none = .ok tag → k ∉ tag.ownFields
  | list _, _, _ | other, _, _ => False
  | place, _, k => k ∉ place.fields

end Place

/-- Strings, booleans, `null` and whole numbers of 64 bits. -/
def IsScalar (v : Json) : Prop :=
  v = .null ∨ (∃ b, v = .bool b) ∨ (∃ s, v = .ofString s) ∨ ∃ n, v = .number (.natural n)

/-- One change to a value at a place: the members of one object change places, or one gets a member
that is ignored. -/
inductive Rearrangement : Place → Json → Json → Prop where
  | permute {place : Place} {members members' : List (Json.Key × Json)} :
    members.Perm members' → Rearrangement place (.object members) (.object members')
  | insert {place : Place} {before after : List (Json.Key × Json)} {k : String} {v : Json} :
    place.Ignores (before ++ after) k → IsScalar v →
    Rearrangement place (.object (before ++ after)) (.object (before ++ (.name k, v) :: after))
  | member {place : Place} {before after : List (Json.Key × Json)} {key : Json.Key} {v v' : Json} :
    Rearrangement (place.member key) v v' →
    Rearrangement place (.object (before ++ (key, v) :: after))
      (.object (before ++ (key, v') :: after))
  | item {place : Place} {before after : List Json} {v v' : Json} :
    Rearrangement (place.item before.length) v v' →
    Rearrangement place (.array (before ++ v :: after)) (.array (before ++ v' :: after))

/-! ## Well formed values -/

/-- Items are whole if each of them is. -/
lemma wholeItems_eq_all (items : List Json) : Json.wholeItems items = items.all Json.whole := by
  induction items with
  | nil => rfl
  | cons v items ih => rw [Json.wholeItems, ih, List.all_cons]

/-- Members are whole if each has a key and a whole value. -/
lemma wholeMembers_eq_all (members : List (Json.Key × Json)) :
    Json.wholeMembers members = members.all fun m => m.1 ≠ .missing ∧ m.2.whole := by
  induction members with
  | nil => rfl
  | cons m members ih =>
    obtain ⟨key, v⟩ := m
    cases key <;> simp [Json.wholeMembers, ih]

/-- Items can be read in some room if each of them can. -/
lemma readableItems_eq_all (room : Nat) (items : List Json) :
    Json.readableItems room items = items.all (Json.readable room) := by
  induction items with
  | nil => rfl
  | cons v items ih => rw [Json.readableItems, ih, List.all_cons]

/-- Members can be read in some room if each has a name and a value that can. -/
lemma readableMembers_eq_all (room : Nat) (members : List (Json.Key × Json)) :
    Json.readableMembers room members = members.all fun m =>
      m.1 matches .name _ && m.2.readable room := by
  induction members with
  | nil => rfl
  | cons m members ih =>
    obtain ⟨key, v⟩ := m
    cases key <;> simp [Json.readableMembers, ih]

/-- A scalar is whole. -/
lemma IsScalar.whole {v : Json} (h : IsScalar v) : v.whole = true := by
  obtain rfl | ⟨b, rfl⟩ | ⟨s, rfl⟩ | ⟨n, rfl⟩ := h <;> rfl

/-- A scalar can be read in any room. -/
lemma IsScalar.readable {v : Json} (h : IsScalar v) (room : Nat) : v.readable room = true := by
  obtain rfl | ⟨b, rfl⟩ | ⟨s, rfl⟩ | ⟨n, rfl⟩ := h <;> rfl

namespace Rearrangement

variable {place : Place} {v v' : Json}

/-- A value that is whole stays so when it is rearranged. -/
lemma whole (h : Rearrangement place v v') (hv : v.whole = true) : v'.whole = true := by
  induction h with
  | permute hperm =>
    rw [Json.whole, wholeMembers_eq_all] at hv ⊢
    rwa [← hperm.all_eq]
  | insert _ hscalar =>
    rw [Json.whole, wholeMembers_eq_all, List.all_append, Bool.and_eq_true] at hv ⊢
    rw [List.all_cons, hv.2, Bool.and_true]
    exact ⟨hv.1, by simp [hscalar.whole]⟩
  | member _ ih =>
    rw [Json.whole, wholeMembers_eq_all, List.all_append, List.all_cons, Bool.and_eq_true,
      Bool.and_eq_true, decide_eq_true_eq] at hv ⊢
    exact ⟨hv.1, ⟨hv.2.1.1, ih hv.2.1.2⟩, hv.2.2⟩
  | item _ ih =>
    rw [Json.whole, wholeItems_eq_all, List.all_append, List.all_cons, Bool.and_eq_true,
      Bool.and_eq_true] at hv ⊢
    exact ⟨hv.1, ih hv.2.1, hv.2.2⟩

/-- A value that can be read in some room stays so when it is rearranged. -/
lemma readable (h : Rearrangement place v v') {room : Nat} (hv : v.readable room = true) :
    v'.readable room = true := by
  induction h generalizing room with
  | permute hperm =>
    rw [Json.readable, readableMembers_eq_all] at hv ⊢
    rwa [← hperm.all_eq]
  | insert _ hscalar =>
    rw [Json.readable, readableMembers_eq_all, List.all_append, Bool.and_eq_true,
      Bool.and_eq_true] at hv ⊢
    rw [List.all_cons, hv.2.2, hscalar.readable]
    exact ⟨hv.1, hv.2.1, rfl⟩
  | member _ ih =>
    simp only [Json.readable, readableMembers_eq_all, List.all_append, List.all_cons,
      Bool.and_eq_true] at hv ⊢
    exact ⟨hv.1, hv.2.1, ⟨hv.2.2.1.1, ih hv.2.2.1.2⟩, hv.2.2.2⟩
  | item _ ih =>
    simp only [Json.readable, readableItems_eq_all, List.all_append, List.all_cons,
      Bool.and_eq_true] at hv ⊢
    exact ⟨hv.1, hv.2.1, ih hv.2.2.1, hv.2.2.2⟩

end Rearrangement

/-! ## What is said at a place -/

/-- Values in which there is nothing to rearrange. -/
inductive Rigid : Json → Prop where
  | atom {v : Json} : (∀ items, v ≠ .array items) → (∀ members, v ≠ .object members) → Rigid v
  | empty : Rigid (.object [])
  | single {key : Json.Key} {v : Json} : Rigid v → Rigid (.object [(key, v)])
  | array {items : List Json} : (∀ v ∈ items, Rigid v) → Rigid (.array items)

/-- The values of the members of a rigid object are rigid. -/
lemma Rigid.of_mem_members {members : List (Json.Key × Json)} {m : Json.Key × Json}
    (h : Rigid (.object members)) (hm : m ∈ members) : Rigid m.2 := by
  cases h with
  | atom _ hobject => exact absurd rfl (hobject members)
  | empty => cases hm
  | single hv =>
    cases List.mem_singleton.1 hm
    exact hv

/-- The items of a rigid array are rigid. -/
lemma Rigid.of_mem_items {items : List Json} {v : Json} (h : Rigid (.array items))
    (hv : v ∈ items) : Rigid v := by
  cases h with
  | atom harray _ => exact absurd rfl (harray items)
  | array hitems => exact hitems v hv

/-- Whatever a record is read as from one value, it is read as from the other. -/
def Record.Keeps {σ : Type} (r : Record σ) (v v' : Json) : Prop :=
  ∀ {start s}, r.Describes start v s → r.Describes start v' s

/-- Whatever is read at a place from one value is read there from the other. -/
def Place.Says : Place → Json → Json → Prop
  | document, v, v' => documentRecord.Keeps v v'
  | node, v, v' => ∀ {depth n}, readNode depth v = .ok n → readNode depth v' = .ok n
  | type, v, v' =>
    (∀ depth, (typeRecord (references.read depth)).Keeps v v') ∧
      (typeRecord references.readKept).Keeps v v'
  | range, v, v' => rangeRecord.Keeps v v'
  | record, v, v' => ∀ depth, (classRecord depth).Keeps v v'
  | language, v, v' => flagsRecord.Keeps v v'
  | list items, v, v' => ∀ {vs}, v = .array vs → ∃ before w w' after, vs = before ++ w :: after ∧
      v' = .array (before ++ w' :: after) ∧ Rearrangement items w w' ∧ items.Says w w'
  | other, v, v' => Rigid v → v' = v

/-- A reader does not notice changes to a value at the place. -/
def Follows {α : Type} (read : Json → Reading α) (place : Place) : Prop :=
  ∀ {v v' a}, Rearrangement place v v' → place.Says v v' → read v = .ok a → read v' = .ok a

section

variable {α σ : Type} {place : Place}

/-- A reader of rigid values notices no changes, since there are none. -/
lemma follows_of_rigid {read : Json → Reading α} (h : ∀ {v a}, read v = .ok a → Rigid v) :
    Follows read .other := by
  intro v v' a _ hsame hread
  rwa [hsame (h hread)]

/-- What is read neither from an array nor from an object is rigid. -/
lemma rigid_of_ne {read : Json → Reading α} (harray : ∀ items a, read (.array items) ≠ .ok a)
    (hobject : ∀ members a, read (.object members) ≠ .ok a) {v : Json} {a : α}
    (h : read v = .ok a) : Rigid v := by
  refine .atom ?_ ?_
  · rintro items rfl
    exact harray items a h
  · rintro members rfl
    exact hobject members a h

/-- A text is rigid. -/
lemma rigid_of_readString {v : Json} {s : String} : readString v = .ok s → Rigid v :=
  rigid_of_ne nofun nofun

/-- What a choice is read from is rigid. -/
lemma rigid_of_read {c : Choice α} {depth : Nat} {v : Json} {a : α} (h : c.read depth v = .ok a) :
    Rigid v := by
  rw [Choice.read.eq_def] at h
  split at h
  · exact .atom nofun nofun
  · split_ifs at h
    split at h
    · obtain ⟨variant, -, h⟩ := bind_eq_ok.1 h
      split at h
      · split_ifs at h with hrest
        cases List.isEmpty_iff.1 hrest
        exact .single (.atom nofun nofun)
      · exact absurd h (wrongType_ne_ok _ _ _)
    · cases h
  · cases h

/-- What a choice is read from among kept members is rigid. -/
lemma rigid_of_readKept {c : Choice α} {v : Json} {a : α} (h : c.readKept v = .ok a) : Rigid v := by
  rw [Choice.readKept.eq_def] at h
  split at h
  · exact .atom nofun nofun
  · obtain ⟨variant, -, h⟩ := bind_eq_ok.1 h
    split at h
    · exact .single (.atom nofun nofun)
    · exact .single .empty
    · exact absurd h (wrongType_ne_ok _ _ _)
  · cases h
  · exact absurd h (wrongType_ne_ok _ _ _)

/-- What rigid values are read from one after another is rigid. -/
lemma rigid_of_mapM {read : Json → Reading α} (hread : ∀ {v a}, read v = .ok a → Rigid v)
    {items : List Json} {as : List α} (h : items.mapM read = .ok as) : ∀ v ∈ items, Rigid v := by
  induction items generalizing as with
  | nil => exact nofun
  | cons w items ih =>
    rw [List.mapM_cons] at h
    obtain ⟨a, hw, h⟩ := bind_eq_ok.1 h
    obtain ⟨as, hitems, -⟩ := bind_eq_ok.1 h
    exact List.forall_mem_cons.2 ⟨hread hw, ih hitems⟩

/-- A list of rigid values is rigid. -/
lemma rigid_of_readList {read : Json → Reading α} (hread : ∀ {v a}, read v = .ok a → Rigid v)
    {depth : Nat} {v : Json} {as : List α} (h : readList (fun _ => read) depth v = .ok as) :
    Rigid v := by
  obtain ⟨items, rfl, -, hitems⟩ := readList_eq_ok.1 h
  exact .array (rigid_of_mapM hread hitems)

/-- Reading a text notices no changes. -/
lemma follows_string : Follows readString .other :=
  follows_of_rigid rigid_of_readString

/-- Reading a truth value notices no changes. -/
lemma follows_bool : Follows readBool .other :=
  follows_of_rigid (rigid_of_ne nofun nofun)

/-- Reading a number notices no changes. -/
lemma follows_natural (due : Due) : Follows (readNatural due) .other :=
  follows_of_rigid (rigid_of_ne nofun nofun)

/-- Reading an optional value notices no more changes than reading the value. -/
lemma follows_option {read : Json → Reading α} (h : Follows read place) :
    Follows (readOption read) place := by
  intro v v' a hstep hsame hread
  have hv : v ≠ .null := by rintro rfl; cases hstep
  have hv' : v' ≠ .null := by rintro rfl; cases hstep
  rw [readOption.eq_2 _ _ hv, map_eq_ok] at hread
  rw [readOption.eq_2 _ _ hv', map_eq_ok]
  obtain ⟨b, hb, rfl⟩ := hread
  exact ⟨b, h hstep hsame hb, rfl⟩

/-- One of several values may be exchanged for one that is read as the same. -/
lemma mapM_middle {read : Json → Reading α} {before after : List Json} {v v' : Json}
    (h : ∀ {a}, read v = .ok a → read v' = .ok a) {as : List α}
    (has : (before ++ v :: after).mapM read = .ok as) :
    (before ++ v' :: after).mapM read = .ok as := by
  rw [List.mapM_append, List.mapM_cons, bind_eq_ok] at has ⊢
  obtain ⟨bs, hbefore, has⟩ := has
  obtain ⟨cs, hcs, has⟩ := bind_eq_ok.1 has
  obtain ⟨a, ha, hcs⟩ := bind_eq_ok.1 hcs
  exact ⟨bs, hbefore, bind_eq_ok.2 ⟨cs, bind_eq_ok.2 ⟨a, h ha, hcs⟩, has⟩⟩

/-- Reading a list does not notice changes to one of its items that reading the item does not
notice. -/
lemma follows_list {read : Nat → Json → Reading α} (h : ∀ depth, Follows (read depth) place)
    (depth : Nat) :
    Follows (readList read depth) (.list place) := by
  intro v v' as _ hsame hread
  obtain ⟨items, rfl, hdepth, hitems⟩ := readList_eq_ok.1 hread
  obtain ⟨before, w, w', after, rfl, rfl, hstep, hw⟩ := hsame rfl
  exact readList_eq_ok.2 ⟨_, rfl, hdepth, mapM_middle (h _ hstep hw) hitems⟩

/-- Reading a record does not notice changes that keep what the value describes. -/
lemma follows_read {r : Record σ} (h : ∀ {v v'}, place.Says v v' → r.Keeps v v') (start : σ)
    (depth : Nat) :
    Follows (r.read start depth) place := by
  intro v v' s _ hsame hread
  obtain ⟨hdepth, hread⟩ := Record.read_eq_ok.1 hread
  exact Record.read_eq_ok.2 ⟨hdepth, h hsame hread⟩

/-- Reading the record of a class notices no changes at its place. -/
lemma follows_class (depth : Nat) :
    Follows ((classRecord (depth + 1)).read { name := "" } depth) .record :=
  @follows_read _ .record _ (fun h => h (depth + 1)) _ depth

/-- Reading a type notices no changes at its place. -/
lemma follows_type (depth : Nat) : Follows (readType depth) .type :=
  @follows_read _ .type _ (fun h => h.1 (depth + 1)) _ depth

/-- Reading a node notices no changes at its place. -/
lemma follows_node (depth : Nat) : Follows (readNode depth) .node := by
  intro v v' n _ hsame hread
  exact hsame hread

/-- Reading a type among kept members notices no changes at its place. -/
lemma follows_readKeptType : Follows readKeptType .type := by
  intro v v' ty _ hsame hread
  exact Record.readKept_eq_ok.2 (hsame.2 (Record.readKept_eq_ok.1 hread))

/-- A field that is needed notices no more changes than reading its value. -/
lemma follows_needed {name : String} {read : Json → Reading α} (h : Follows read place)
    (set : α → σ → σ) (s : σ) :
    Follows ((Field.needed name read set).read · s) place := by
  intro v v' s' hstep hsame hread
  obtain ⟨a, ha, rfl⟩ := map_eq_ok.1 hread
  exact map_eq_ok.2 ⟨a, h hstep hsame ha, rfl⟩

/-- A field that may be missing notices no more changes than reading its value. -/
lemma follows_optional {name : String} {read : Json → Reading α} (h : Follows read place)
    (set : α → σ → σ) (s : σ) :
    Follows ((Field.optional name read set).read · s) place := by
  intro v v' s' hstep hsame hread
  obtain ⟨a, ha, rfl⟩ := map_eq_ok.1 hread
  exact map_eq_ok.2 ⟨a, h hstep hsame ha, rfl⟩

end

end Document

end CppAdvice
