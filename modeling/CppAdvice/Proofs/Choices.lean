import CppAdvice.Proofs.Selection
import Mathlib.Logic.Relation

/-!
# Choices of checks

Which checks run is chosen by three lists of names. Of a name only the check counts that answers to
it, and of a list only which checks it names (`Registry.filtered_congr`). So it does not matter in
which order names stand, how often, or in which spelling, nor by which of two lists a check is left
out; a name that no check answers to is an error.
-/

namespace CppAdvice

/-- Whether some check answers to a name. -/
def IsName (name : String) : Prop :=
  ∃ d ∈ catalog.descriptors, d.answersTo name = true

/-- Two lists of names stand for the same ids. -/
def SameIds (l l' : List String) : Prop :=
  ∀ id, id ∈ l.map resolveCheck ↔ id ∈ l'.map resolveCheck

namespace SameIds

variable {l l' m m' : List String}

/-- Lists that name the same checks do so one behind another. -/
lemma append (h : SameIds l l') (h' : SameIds m m') : SameIds (l ++ m) (l' ++ m') := by
  intro id
  rw [List.map_append, List.map_append, List.mem_append, List.mem_append, h id, h' id]

/-- The order of a list does not matter. -/
lemma of_perm (h : l.Perm l') : SameIds l l' :=
  fun _ => (h.map resolveCheck).mem_iff

/-- Lists that name the same checks are both empty or both not. -/
lemma isEmpty_eq (h : SameIds l l') : l.isEmpty = l'.isEmpty := by
  rw [Bool.eq_iff_iff, List.isEmpty_iff, List.isEmpty_iff,
    ← List.map_eq_nil_iff (f := resolveCheck), ← List.map_eq_nil_iff (f := resolveCheck) (l := l'),
    List.eq_nil_iff_forall_not_mem, List.eq_nil_iff_forall_not_mem]
  exact forall_congr' fun id => not_congr (h id)

/-- Of lists that name the same checks, both name a given one or neither does. -/
lemma names_eq (h : SameIds l l') (id : String) : Registry.names l id = Registry.names l' id := by
  rw [Bool.eq_iff_iff, Registry.names, Registry.names]
  simpa using h id

/-- If all names of one list are known, so are those of a list that names the same checks. -/
lemma all_isKnown (h : SameIds l l') (hl : ∀ name ∈ l, Registry.isKnown name = true) :
    ∀ name ∈ l', Registry.isKnown name = true := by
  intro name hname
  obtain ⟨other, hother, heq⟩ := List.mem_map.1 ((h _).2 (List.mem_map_of_mem hname))
  rw [Registry.isKnown, ← heq]
  exact hl other hother

end SameIds

/-- A list of names in other words: in another order, with a name once more, or with another name of
the same check. -/
inductive Reworded : List String → List String → Prop where
  | reorder {l l' : List String} (h : l.Perm l') : Reworded l l'
  | repeated {l : List String} {name : String} (h : name ∈ l) : Reworded l (name :: l)
  | respell {d : Descriptor} (hd : d ∈ catalog.descriptors) {name name' : String}
      (h : d.answersTo name = true)
      (h' : d.answersTo name' = true) (before after : List String) :
      Reworded (before ++ name :: after) (before ++ name' :: after)

/-- Another wording of a list names the same checks. -/
lemma Reworded.sameIds {l l' : List String} (h : Reworded l l') : SameIds l l' := by
  cases h with
  | reorder h => exact .of_perm h
  | repeated h =>
    intro id
    rw [List.map_cons, List.mem_cons]
    refine (or_iff_right_of_imp ?_).symm
    rintro rfl
    exact List.mem_map_of_mem h
  | respell hd h h' before after =>
    intro id
    simp only [List.map_append, List.map_cons, (resolveCheck_eq_iff hd).2 h,
      (resolveCheck_eq_iff hd).2 h']

/-- The names that checks are chosen by: those to run, if any, and two lists of those to leave
out. -/
structure Choice where
  only : List String
  skip : List String
  disabled : List String

namespace Choice

/-- A choice in other words: each list may be, and names may move between the two lists of checks to
leave out. -/
inductive Rephrased : Choice → Choice → Prop where
  | only {only only' : List String} (h : Reworded only only') (skip disabled : List String) :
      Rephrased ⟨only, skip, disabled⟩ ⟨only', skip, disabled⟩
  | skip {skip skip' : List String} (h : Reworded skip skip') (only disabled : List String) :
      Rephrased ⟨only, skip, disabled⟩ ⟨only, skip', disabled⟩
  | disabled {disabled disabled' : List String} (h : Reworded disabled disabled')
      (only skip : List String) :
      Rephrased ⟨only, skip, disabled⟩ ⟨only, skip, disabled'⟩
  | moved {skip disabled skip' disabled' : List String}
      (h : (skip ++ disabled).Perm (skip' ++ disabled'))
      (only : List String) : Rephrased ⟨only, skip, disabled⟩ ⟨only, skip', disabled'⟩

/-- Choices of the same checks. -/
def Same (c c' : Choice) : Prop :=
  SameIds c.only c'.only ∧ SameIds (c.skip ++ c.disabled) (c'.skip ++ c'.disabled)

/-- Another phrasing of a choice comes to the same. -/
lemma Rephrased.same {c c' : Choice} (h : Rephrased c c') : Same c c' := by
  cases h with
  | only h skip disabled => exact ⟨h.sameIds, fun _ => .rfl⟩
  | skip h only disabled => exact ⟨fun _ => .rfl, h.sameIds.append fun _ => .rfl⟩
  | disabled h only skip => exact ⟨fun _ => .rfl, .append (fun _ => .rfl) h.sameIds⟩
  | moved h only => exact ⟨fun _ => .rfl, .of_perm h⟩

/-- However often a choice is put in other words, it stays one of the same checks. -/
lemma same_of_eqvGen {c c' : Choice} (h : Relation.EqvGen Rephrased c c') : Same c c' := by
  induction h with
  | rel _ _ h => exact h.same
  | refl _ => exact ⟨fun _ => .rfl, fun _ => .rfl⟩
  | symm _ _ _ ih => exact ⟨fun id => (ih.1 id).symm, fun id => (ih.2 id).symm⟩
  | trans _ _ _ _ _ ih ih' =>
    exact ⟨fun id => (ih.1 id).trans (ih'.1 id), fun id => (ih.2 id).trans (ih'.2 id)⟩

end Choice

namespace Registry

/-- A name is known exactly if some check answers to it. -/
lemma isKnown_iff {name : String} : isKnown name = true ↔ IsName name := by
  constructor
  · intro h
    obtain ⟨d, hd⟩ := Option.isSome_iff_exists.1 h
    obtain ⟨hmem, hid⟩ := unambiguous_catalog.coherent.byId.mem hd
    exact ⟨d, hmem, (resolveCheck_eq_iff hmem).1 hid.symm⟩
  · rintro ⟨d, hd, h⟩
    exact isKnown_of_answersTo hd h

variable {only skip disabled : List String} {options : Options} {r : Registry}

/-- The first name that no check answers to is an error. -/
lemma filtered_eq_error_iff {fault : UnknownCheck} :
    filtered only skip disabled options = .error fault ↔
      ∃ before after, only ++ skip ++ disabled = before ++ fault.name :: after ∧
        (∀ name ∈ before, IsName name) ∧
        ¬ IsName fault.name := by
  have hfind : filtered only skip disabled options = .error fault ↔
      (only ++ skip ++ disabled).find? (fun name => !isKnown name) = some fault.name := by
    obtain ⟨name⟩ := fault
    rw [filtered]
    split
    case h_1 first hfirst =>
      rw [hfirst, Except.error.injEq, UnknownCheck.mk.injEq, Option.some.injEq]
    case h_2 hnone =>
      rw [hnone]
      exact ⟨nofun, nofun⟩
  rw [hfind, List.find?_eq_some_iff_append]
  simp only [Bool.not_not, Bool.not_eq_true', isKnown_iff, ← Bool.not_eq_true]
  constructor
  · rintro ⟨hfault, before, after, heq, hbefore⟩
    exact ⟨before, after, heq, hbefore, hfault⟩
  · rintro ⟨before, after, heq, hbefore, hfault⟩
    exact ⟨hfault, before, after, heq, hbefore⟩

/-- Where some check answers to each name, the checks that run are those that are asked for and not
left out. -/
lemma filtered_eq_ok_iff :
    filtered only skip disabled options = .ok r ↔
      (∀ name ∈ only ++ skip ++ disabled, isKnown name = true) ∧
        r = ⟨(allChecks options).filter fun check =>
          (only.isEmpty || names only check.descriptor.id) &&
            !names (skip ++ disabled) check.descriptor.id⟩ := by
  rw [filtered]
  split
  case h_1 name hname =>
    refine ⟨nofun, ?_⟩
    rintro ⟨hknown, -⟩
    have hunknown := List.find?_some hname
    rw [hknown name (List.mem_of_find?_eq_some hname)] at hunknown
    cases hunknown
  case h_2 hnone =>
    rw [List.find?_eq_none] at hnone
    have hknown : ∀ name ∈ only ++ skip ++ disabled, isKnown name = true := by simpa using hnone
    rw [Except.ok.injEq, eq_comm]
    exact (and_iff_right hknown).symm

/-- Of each list only the ids count that its names stand for. -/
lemma filtered_congr {c c' : Choice} (h : c.Same c')
    (hr : filtered c.only c.skip c.disabled options = .ok r) :
    filtered c'.only c'.skip c'.disabled options = .ok r := by
  obtain ⟨hknown, rfl⟩ := filtered_eq_ok_iff.1 hr
  rw [List.append_assoc] at hknown
  rw [filtered_eq_ok_iff, List.append_assoc, h.1.isEmpty_eq]
  refine ⟨(h.1.append h.2).all_isKnown hknown, ?_⟩
  simp only [h.1.names_eq, h.2.names_eq]

/-- Whether a check is asked for, and not left out. -/
def IsChosen (only skip disabled : List String) (d : Descriptor) : Prop :=
  (only = [] ∨ ∃ name ∈ only, d.answersTo name = true) ∧
    ∀ name ∈ skip ++ disabled, ¬ d.answersTo name = true

/-- The checks that run are those that are chosen. -/
lemma mem_of_filtered (hr : filtered only skip disabled options = .ok r) {check : Check} :
    check ∈ r.checks ↔ check ∈ allChecks options ∧
      IsChosen only skip disabled check.descriptor := by
  obtain ⟨-, rfl⟩ := filtered_eq_ok_iff.1 hr
  rw [List.mem_filter]
  refine and_congr_right fun hcheck => ?_
  have hd := descriptor_mem_catalog hcheck
  rw [names_id hd, names_id hd, IsChosen, Bool.and_eq_true, Bool.or_eq_true, List.isEmpty_iff,
    List.any_eq_true, Bool.not_eq_true', List.any_eq_false]

/-- Choosing checks fails exactly if some name is no check's, and then names the first such one.
Otherwise the checks that run are those that are chosen, in the order of the catalog and each once,
whatever words the choice is made in. -/
theorem filtered_exact (only skip disabled : List String) (options : Options) :
    ((∃ fault, filtered only skip disabled options = .error fault) ↔
        ∃ name ∈ only ++ skip ++ disabled, ¬ IsName name) ∧
      (∀ fault, filtered only skip disabled options = .error fault ↔
        ∃ before after, only ++ skip ++ disabled = before ++ fault.name :: after ∧
          (∀ name ∈ before, IsName name) ∧
          ¬ IsName fault.name) ∧
      (∀ r, filtered only skip disabled options = .ok r →
        r.checks.Sublist (allChecks options) ∧
          (r.checks.map (·.descriptor)).Sublist catalog.descriptors ∧
          (r.checks.map (·.descriptor.id)).Nodup ∧ (∀ check, check ∈ r.checks ↔
            check ∈ allChecks options ∧ IsChosen only skip disabled check.descriptor) ∧
          ∀ c, Relation.EqvGen Choice.Rephrased ⟨only, skip, disabled⟩ c →
            filtered c.only c.skip c.disabled options = .ok r) ∧
      ∀ name, resolveCheck (resolveCheck name) = resolveCheck name := by
  refine ⟨?_, fun _ => filtered_eq_error_iff, ?_, unambiguous_catalog.resolve_resolve⟩
  · constructor
    · rintro ⟨fault, hfault⟩
      obtain ⟨before, after, heq, -, hname⟩ := filtered_eq_error_iff.1 hfault
      exact ⟨fault.name, by simp [heq], hname⟩
    · rintro ⟨name, hname, hunknown⟩
      cases hresult : filtered only skip disabled options with
      | error fault => exact ⟨fault, rfl⟩
      | ok r => exact absurd (isKnown_iff.1 ((filtered_eq_ok_iff.1 hresult).1 name hname)) hunknown
  · intro r hr
    have hsub : r.checks.Sublist (allChecks options) := by
      obtain ⟨-, rfl⟩ := filtered_eq_ok_iff.1 hr
      exact List.filter_sublist
    have hids := nodup_allChecks unambiguous_catalog.ids options
    refine ⟨hsub, ?_, hids.sublist (hsub.map _), fun _ => mem_of_filtered hr, ?_⟩
    · rw [← descriptors_allChecks options]
      exact hsub.map _
    · exact fun c hc => filtered_congr (Choice.same_of_eqvGen hc) hr

/-- Two checks are asked for and one is left out. In other words, the first has its older name, and
the one to leave out stands in the other list, twice. -/
theorem filtered_exact_streams :
    let c : Choice := ⟨["avoid-std-endl", "avoid-cout-cerr"], ["prefer-hive"], []⟩
    let c' : Choice :=
      ⟨["hl-perf-avoid-std-endl", "avoid-cout-cerr"], [], ["prefer-hive", "prefer-hive"]⟩
    Relation.EqvGen Choice.Rephrased c c' ∧
      ∃ r, filtered c.only c.skip c.disabled {} = .ok r ∧
      filtered c'.only c'.skip c'.disabled {} = .ok r := by
  intro c c'
  have hmem : ∀ check ∈ [Checks.avoidStdEndl, Checks.avoidCoutCerr, Checks.preferHive],
      check.descriptor ∈ catalog.descriptors := by
    intro check hcheck
    apply @descriptor_mem_catalog {}
    simp only [List.mem_cons, List.not_mem_nil, or_false] at hcheck
    rcases hcheck with rfl | rfl | rfl
    all_goals simp only [allChecks, List.mem_cons, true_or, or_true]
  have hd : Checks.avoidStdEndl.descriptor ∈ catalog.descriptors := hmem _ (.head _)
  have hrespelled : Choice.Rephrased c ⟨c'.only, c.skip, c.disabled⟩ :=
    .only
      (.respell hd (by decide +kernel : _ = true) (by decide +kernel) [] ["avoid-cout-cerr"]) _ _
  have hmoved : Choice.Rephrased ⟨c'.only, c.skip, c.disabled⟩ ⟨c'.only, [], ["prefer-hive"]⟩ :=
    .moved (List.Perm.refl ["prefer-hive"]) _
  have hrepeated : Choice.Rephrased ⟨c'.only, [], ["prefer-hive"]⟩ c' :=
    .disabled (.repeated List.mem_cons_self) _ _
  have hrephrased : Relation.EqvGen Choice.Rephrased c c' :=
    .trans _ _ _ (.rel _ _ hrespelled) (.trans _ _ _ (.rel _ _ hmoved) (.rel _ _ hrepeated))
  have hknown : ∀ name ∈ c.only ++ c.skip ++ c.disabled, isKnown name = true := by
    intro name hname
    simp only [c, List.cons_append, List.nil_append, List.append_nil, List.mem_cons,
      List.not_mem_nil, or_false] at hname
    rcases hname with rfl | rfl | rfl
    · exact isKnown_of_answersTo hd (by decide +kernel)
    · exact isKnown_of_answersTo (hmem _ (.tail _ (.head _))) (by decide +kernel)
    · exact isKnown_of_answersTo (hmem _ (.tail _ (.tail _ (.head _)))) (by decide +kernel)
  obtain ⟨r, hr⟩ : ∃ r, filtered c.only c.skip c.disabled {} = .ok r :=
    ⟨_, filtered_eq_ok_iff.2 ⟨hknown, rfl⟩⟩
  exact ⟨hrephrased, r, hr, ((filtered_exact _ _ _ {}).2.2.1 r hr).2.2.2.2 c' hrephrased⟩

end Registry

end CppAdvice
