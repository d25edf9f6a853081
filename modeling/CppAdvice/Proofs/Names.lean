import CppAdvice.Proofs.Registration
import CppAdvice.Registry

/-!
# Names of checks

A check answers to three names: its id, its older name and its name without the category. In a
catalog where no name is taken twice and the aliases are the older names (`Catalog.Unambiguous`), a
name stands for a check exactly when the check answers to it (`resolve_eq_iff`). The catalog of all
checks is one, with the table of older names (`unambiguous_catalog`).
-/

namespace CppAdvice

namespace Descriptor

/-- Whether a name is one of the check's names. -/
def answersTo (d : Descriptor) (name : String) : Bool :=
  name = d.id || name = d.legacyName || name = d.name

/-- The names of a check are its id, its older name and its name. -/
lemma answersTo_iff {d : Descriptor} {name : String} :
    d.answersTo name = true ↔ name = d.id ∨ name = d.legacyName ∨ name = d.name := by
  simp [answersTo, or_assoc]

/-- The characters of the name without the category. -/
def nameText (d : Descriptor) : List Char :=
  (Text.afterFirst? ['.'] d.id.toList).getD d.id.toList

/-- The name is what stands behind the first dot of the id. -/
lemma toList_name (d : Descriptor) : d.name.toList = d.nameText := by
  unfold name nameText
  cases Text.afterFirst? ['.'] d.id.toList with
  | none => rfl
  | some rest => exact String.toList_ofList

/-- The older name is how older names of the category start, and the name. -/
lemma toList_legacyName (d : Descriptor) :
    d.legacyName.toList = d.category.legacyLead.toList ++ d.name.toList := by
  simp [legacyName]

/-- An older name starts like no name without its category does. -/
lemma head?_legacyName (d : Descriptor) : d.legacyName.toList.head? = some 'h' := by
  rw [toList_legacyName]
  cases d.category <;> rfl

/-- The dots of an older name are those of the name. -/
lemma dot_mem_legacyName {d : Descriptor} : '.' ∈ d.legacyName.toList ↔ '.' ∈ d.name.toList := by
  rw [toList_legacyName]
  cases d.category <;> simp [Category.legacyLead]

/-- The id of a check fixes its name. -/
lemma name_eq_of_id_eq {d d' : Descriptor} (h : d.id = d'.id) : d.name = d'.name := by
  rw [name, name, h]

/-- The older name of a check fixes its name. -/
lemma name_eq_of_legacyName_eq {d d' : Descriptor} (h : d.legacyName = d'.legacyName) :
    d.name = d'.name := by
  have hlist := congrArg String.toList h
  rw [toList_legacyName, toList_legacyName] at hlist
  cases hc : d.category <;> cases hc' : d'.category <;>
    simp [hc, hc', Category.legacyLead, String.toList_inj] at hlist
  · exact hlist
  · exact hlist

end Descriptor

namespace Catalog

/-- The aliases are the older names of the checks, and no name is taken twice. Ids and older names
differ where the names without the category do. -/
structure Unambiguous (c : Catalog) (aliases : List (String × String)) : Prop where
  coherent : c.Coherent
  aliases_eq : aliases = c.descriptors.map fun d => (d.legacyName, d.id)
  names : (c.descriptors.map (·.name)).Nodup
  dotted : ∀ d ∈ c.descriptors, '.' ∈ d.id.toList
  undotted : ∀ d ∈ c.descriptors, '.' ∉ d.name.toList
  apart : ∀ d ∈ c.descriptors, d.name.toList.head? ≠ some 'h'

namespace Unambiguous

variable {c : Catalog} {aliases : List (String × String)} {d : Descriptor}

/-- No two checks share an id. -/
lemma ids (h : c.Unambiguous aliases) : (c.descriptors.map (·.id)).Nodup := by
  have hnames := h.names
  rw [List.Nodup, List.pairwise_map] at hnames ⊢
  exact hnames.imp fun hne hid => hne (Descriptor.name_eq_of_id_eq hid)

/-- A descriptor is found under its id. -/
lemma get?_id (h : c.Unambiguous aliases) (hd : d ∈ c.descriptors) : c.get? d.id = some d :=
  (h.coherent.byId.get?_eq_some_iff h.ids).2 ⟨hd, rfl⟩

/-- A descriptor is found under its name. -/
lemma findByName?_name (h : c.Unambiguous aliases) (hd : d ∈ c.descriptors) :
    c.findByName? d.name = some d :=
  (h.coherent.byName.get?_eq_some_iff h.names).2 ⟨hd, rfl⟩

/-- An alias is the older name of a check, and stands for its id. -/
lemma lookup_aliases (h : c.Unambiguous aliases) (name : String) :
    aliases.lookup name = (c.descriptors.find? (·.legacyName = name)).map (·.id) := by
  rw [h.aliases_eq]
  exact lookup_map c.descriptors (·.legacyName) (·.id) name

/-- The older name of a check is an alias for its id. -/
lemma lookup_legacyName (h : c.Unambiguous aliases) (hd : d ∈ c.descriptors) :
    aliases.lookup d.legacyName = some d.id := by
  have hfind : c.descriptors.find? (·.legacyName = d.legacyName) = some d := by
    rw [← List.head?_filter, filter_eq_singleton h.names Descriptor.name_eq_of_legacyName_eq hd,
      List.head?_cons]
  rw [h.lookup_aliases, hfind, Option.map_some]

/-- What is no older name of a check is no alias. -/
lemma lookup_eq_none (h : c.Unambiguous aliases) {name : String}
    (hname : ∀ d ∈ c.descriptors, d.legacyName ≠ name) : aliases.lookup name = none := by
  rw [h.lookup_aliases, Option.map_eq_none_iff, List.find?_eq_none]
  intro d hd heq
  exact hname d hd (of_decide_eq_true heq)

/-- An id stands for itself: it has a dot, so it is no older name. -/
lemma resolve_id (h : c.Unambiguous aliases) (hd : d ∈ c.descriptors) :
    c.resolve aliases d.id = d.id := by
  have hlookup : aliases.lookup d.id = none := by
    apply h.lookup_eq_none
    intro d' hd' heq
    have hdot := h.dotted d hd
    rw [← heq, Descriptor.dot_mem_legacyName] at hdot
    exact h.undotted d' hd' hdot
  rw [resolve, hlookup]
  exact if_pos (List.contains_iff_mem.2 (h.dotted d hd))

/-- An older name stands for the id of its check. -/
lemma resolve_legacyName (h : c.Unambiguous aliases) (hd : d ∈ c.descriptors) :
    c.resolve aliases d.legacyName = d.id := by
  rw [resolve, h.lookup_legacyName hd]

/-- A name without the category stands for the id of its check: older names start otherwise. -/
lemma resolve_name (h : c.Unambiguous aliases) (hd : d ∈ c.descriptors) :
    c.resolve aliases d.name = d.id := by
  have hlookup : aliases.lookup d.name = none := by
    apply h.lookup_eq_none
    intro d' hd' heq
    have hhead := d'.head?_legacyName
    rw [heq] at hhead
    exact h.apart d hd hhead
  have hdot : ¬ d.name.toList.contains '.' = true := by
    rw [List.contains_iff_mem]
    exact h.undotted d hd
  rw [resolve, hlookup]
  simp only [hdot, h.findByName?_name hd]
  rfl

/-- A name stands for itself, or for a check as its older name or its name without the category. -/
lemma resolve_cases (h : c.Unambiguous aliases) (name : String) :
    c.resolve aliases name = name ∨
      ∃ d ∈ c.descriptors, (d.legacyName = name ∨ d.name = name) ∧
        c.resolve aliases name = d.id := by
  rw [resolve]
  split
  case h_1 id hlookup =>
    rw [h.lookup_aliases, Option.map_eq_some_iff] at hlookup
    obtain ⟨d, hfind, rfl⟩ := hlookup
    have hlegacy := List.find?_some hfind
    exact .inr ⟨d, List.mem_of_find?_eq_some hfind, .inl (of_decide_eq_true hlegacy), rfl⟩
  case h_2 =>
    split_ifs
    · exact .inl rfl
    · split
      case h_1 d hfind =>
        obtain ⟨hd, hname⟩ := h.coherent.byName.mem hfind
        exact .inr ⟨d, hd, .inr hname, rfl⟩
      case h_2 => exact .inl rfl

/-- What a name stands for stands for itself. -/
lemma resolve_resolve (h : c.Unambiguous aliases) (name : String) :
    c.resolve aliases (c.resolve aliases name) = c.resolve aliases name := by
  rcases h.resolve_cases name with hname | ⟨d, hd, -, hid⟩
  · rw [hname, hname]
  · rw [hid, h.resolve_id hd]

/-- A check answers to the names that stand for it. -/
lemma answersTo_of_resolve (h : c.Unambiguous aliases) (hd : d ∈ c.descriptors) {name : String}
    (hname : c.resolve aliases name = d.id) : d.answersTo name = true := by
  rw [Descriptor.answersTo_iff]
  rcases h.resolve_cases name with hself | ⟨d', hd', hnames, hid⟩
  · exact .inl (hself.symm.trans hname)
  · have hsame : d'.name = d.name := Descriptor.name_eq_of_id_eq (hid.symm.trans hname)
    obtain rfl := List.inj_on_of_nodup_map h.names hd' hd hsame
    exact .inr (hnames.imp Eq.symm Eq.symm)

/-- A name stands for a check exactly when the check answers to it. -/
lemma resolve_eq_iff (h : c.Unambiguous aliases) (hd : d ∈ c.descriptors) {name : String} :
    c.resolve aliases name = d.id ↔ d.answersTo name = true := by
  refine ⟨h.answersTo_of_resolve hd, ?_⟩
  rw [Descriptor.answersTo_iff]
  rintro (rfl | rfl | rfl)
  · exact h.resolve_id hd
  · exact h.resolve_legacyName hd
  · exact h.resolve_name hd

end Unambiguous

end Catalog

/-- The checks are those of the catalog, whatever the options. -/
lemma descriptors_allChecks (options : Options) :
    (allChecks options).map (·.descriptor) = catalog.descriptors :=
  (Catalog.descriptors_ofList _).symm

/-- The descriptor of a check is in the catalog. -/
lemma descriptor_mem_catalog {options : Options} {check : Check} (h : check ∈ allChecks options) :
    check.descriptor ∈ catalog.descriptors := by
  rw [← descriptors_allChecks options]
  exact List.mem_map_of_mem h

/-- A key that differs for all descriptors of the catalog differs for all checks. -/
lemma nodup_allChecks {α : Type} {key : Descriptor → α} (h : (catalog.descriptors.map key).Nodup)
    (options : Options) : ((allChecks options).map (key ·.descriptor)).Nodup := by
  rwa [← descriptors_allChecks options, List.map_map] at h

/-- The texts of all names, looked at once: each id is a category and a name with a dot between
them, in one line, and each alias is how older names of the category start, and the name. -/
lemma texts_catalog :
    (catalog.descriptors.map (·.nameText)).Nodup ∧
      (∀ d ∈ catalog.descriptors,
        (d.id.toList = d.category.label.toList ++ '.' :: d.nameText ∧
          '\n' ∉ d.id.toList ∧ '\r' ∉ d.id.toList) ∧
        '.' ∉ d.nameText ∧ d.nameText.head? ≠ some 'h') ∧
      aliases.map (·.1.toList) =
        catalog.descriptors.map fun d => d.category.legacyLead.toList ++ d.nameText := by
  rw [← descriptors_allChecks {}]
  decide +kernel

/-- The table of older names agrees with the checks: it has an entry for each of them, in their
order. -/
lemma aliases_eq_catalog : aliases = catalog.descriptors.map fun d => (d.legacyName, d.id) := by
  have hnames : aliases.map Prod.fst = catalog.descriptors.map (·.legacyName) := by
    apply List.map_injective_iff.2 fun s t => String.toList_inj.1
    rw [List.map_map, List.map_map]
    refine texts_catalog.2.2.trans (List.map_congr_left fun d _ => ?_)
    rw [Function.comp_apply, Descriptor.toList_legacyName, Descriptor.toList_name]
  have hids : aliases.map Prod.snd = catalog.descriptors.map (·.id) := by
    rw [← descriptors_allChecks {}]
    rfl
  calc aliases
      = (aliases.map Prod.fst).zip (aliases.map Prod.snd) := by rw [List.zip_map', List.map_id']
    _ = catalog.descriptors.map fun d => (d.legacyName, d.id) := by rw [hnames, hids, List.zip_map']

/-- No two of all checks share a name. -/
lemma unambiguous_catalog : catalog.Unambiguous aliases where
  coherent := Catalog.coherent_ofList _
  aliases_eq := aliases_eq_catalog
  names := by
    apply List.Nodup.of_map String.toList
    rw [List.map_map,
      show String.toList ∘ Descriptor.name = Descriptor.nameText from funext Descriptor.toList_name]
    exact texts_catalog.1
  dotted d hd := by
    rw [(texts_catalog.2.1 d hd).1.1]
    exact List.mem_append_right _ List.mem_cons_self
  undotted d hd := by
    rw [Descriptor.toList_name]
    exact (texts_catalog.2.1 d hd).2.1
  apart d hd := by
    rw [Descriptor.toList_name]
    exact (texts_catalog.2.1 d hd).2.2

/-- A name stands for one of all checks exactly when the check answers to it. -/
lemma resolveCheck_eq_iff {d : Descriptor} (hd : d ∈ catalog.descriptors) {name : String} :
    resolveCheck name = d.id ↔ d.answersTo name = true :=
  unambiguous_catalog.resolve_eq_iff hd

end CppAdvice
