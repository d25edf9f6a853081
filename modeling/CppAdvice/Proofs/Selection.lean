import CppAdvice.Proofs.Names
import CppAdvice.Proofs.Outcome
import CppAdvice.Proofs.Reports

/-!
# Checks that are switched off

A check can be left out of those that run, be given a level at which it does not report, or be
silenced. All three ways agree: what is left of a report are the findings of the checks that are
still on (`analyze_selected`).

The level of a check after settings have been changed is said by the names that the check answers to
(`levelFor_set`, then `levelFor_disable` and `levelFor_withLevels` for several changes).
-/

namespace CppAdvice

/-- The level that a list of levels gives to a check, if it is mentioned. -/
def Descriptor.levelIn? (d : Descriptor) (levels : List (String × Level)) : Option Level :=
  (levels.find? fun entry => d.answersTo entry.1).map (·.2)

namespace Settings

variable {d : Descriptor}

/-- The level of a check is the one under its id, since an id stands for itself. -/
lemma levelFor_id (hd : d ∈ catalog.descriptors) (s : Settings) :
    s.levelFor d.id = (s.levels.lookup d.id).getD .warn := by
  have hself : resolveCheck d.id = d.id := unambiguous_catalog.resolve_id hd
  rw [levelFor, hself, Option.or_self]

/-- Setting a level changes that of the check that answers to the name, and no other. -/
lemma levelFor_set (hd : d ∈ catalog.descriptors) (s : Settings) (name : String) (level : Level) :
    (s.set name level).levelFor d.id = if d.answersTo name then level else s.levelFor d.id := by
  rw [levelFor_id hd, levelFor_id hd, set, lookup_replace]
  by_cases hname : resolveCheck name = d.id
  · rw [if_pos hname.symm, if_pos ((resolveCheck_eq_iff hd).1 hname), Option.getD_some]
  · rw [if_neg (Ne.symm hname), if_neg fun h => hname ((resolveCheck_eq_iff hd).2 h)]

/-- Silencing is for the checks that answer to one of the names. -/
lemma levelFor_disable (hd : d ∈ catalog.descriptors) (s : Settings) (names : List String) :
    (s.disable names).levelFor d.id = if names.any d.answersTo then .allow
      else s.levelFor d.id := by
  rw [disable]
  induction names generalizing s with
  | nil => rfl
  | cons name names ih =>
    rw [List.foldl_cons, ih, levelFor_set hd, List.any_cons]
    cases d.answersTo name <;> cases names.any d.answersTo <;> rfl

/-- Where no check is mentioned twice, each gets the level that is given to it. -/
lemma levelFor_withLevels (hd : d ∈ catalog.descriptors) (s : Settings)
    {levels : List (String × Level)}
    (hlevels : levels.Pairwise fun a b => ¬ (d.answersTo a.1 = true ∧ d.answersTo b.1 = true)) :
    (s.withLevels levels).levelFor d.id = (d.levelIn? levels).getD (s.levelFor d.id) := by
  rw [withLevels, Descriptor.levelIn?]
  induction hlevels generalizing s with
  | nil => rfl
  | @cons entry levels hentry _ ih =>
    rw [List.foldl_cons, ih, levelFor_set hd, List.find?_cons]
    cases hname : d.answersTo entry.1 with
    | false => rfl
    | true =>
      -- No later entry is for the check, so this one stays.
      have hrest : levels.find? (fun other => d.answersTo other.1) = none := by
        rw [List.find?_eq_none]
        exact fun other hother hanswers => hentry other hother ⟨hname, hanswers⟩
      rw [hrest]
      rfl

/-- A check may report unless it is silenced or its level says so. -/
lemma levelFor_disable_withLevels (hd : d ∈ catalog.descriptors) (silenced : List String)
    {levels : List (String × Level)}
    (hlevels : levels.Pairwise fun a b => ¬ (d.answersTo a.1 = true ∧ d.answersTo b.1 = true)) :
    ((withLevels {} levels).disable silenced).levelFor d.id =
      if silenced.any d.answersTo || d.levelIn? levels = some .allow then .allow else .warn := by
  rw [levelFor_disable hd, levelFor_withLevels hd _ hlevels, levelFor_id hd]
  cases silenced.any d.answersTo with
  | true => rfl
  | false =>
    cases d.levelIn? levels with
    | none => rfl
    | some level => cases level <;> rfl

end Settings

namespace Registry

/-- A name is known if a check answers to it. -/
lemma isKnown_of_answersTo {d : Descriptor} (hd : d ∈ catalog.descriptors) {name : String}
    (h : d.answersTo name = true) : isKnown name = true := by
  rw [isKnown, (resolveCheck_eq_iff hd).2 h, unambiguous_catalog.get?_id hd, Option.isSome_some]

/-- A check is named in a list if it answers to some name of the list. -/
lemma names_id {d : Descriptor} (hd : d ∈ catalog.descriptors) (list : List String) :
    names list d.id = list.any d.answersTo := by
  rw [names]
  congr 1
  funext name
  rw [Bool.eq_iff_iff, decide_eq_true_iff]
  exact resolveCheck_eq_iff hd

end Registry

/-- Whether a check is on: it is among those that are asked for, if any are, and it is neither left
out, nor silenced, nor given the level at which it does not report. -/
def Descriptor.isOn (d : Descriptor) (only skip disabled silenced : List String)
    (levels : List (String × Level)) :
    Bool :=
  (only.isEmpty || only.any d.answersTo) && !skip.any d.answersTo && !disabled.any d.answersTo &&
    !silenced.any d.answersTo && d.levelIn? levels ≠ some .allow

/-- Engines with the same checks, of which the second leaves some out, and with levels of their own:
the matches that the second reports are those that the first reports of checks that are on. -/
lemma reported?_selected {options : Options} {only skip disabled silenced : List String}
    {levels : List (String × Level)} {registry : Registry} {fallback : Language.Flags} {hit : Hit}
    (hd : hit.check.descriptor ∈ catalog.descriptors)
    (hlevels : levels.Pairwise fun a b =>
      ¬ (hit.check.descriptor.answersTo a.1 = true ∧ hit.check.descriptor.answersTo b.1 = true))
    (u : TranslationUnit) (tier : Language.Tier) :
    (if (only.isEmpty || Registry.names only hit.check.descriptor.id) &&
          !Registry.names (skip ++ disabled) hit.check.descriptor.id then
        Engine.reported? ⟨registry, (Settings.withLevels {} levels).disable silenced, fallback⟩ u
          tier hit
      else none) =
      if hit.check.descriptor.isOn only skip disabled silenced levels then
        (Engine.default options).reported? u tier hit
      else none := by
  have hlevel := Settings.levelFor_disable_withLevels hd silenced hlevels
  have hon : hit.check.descriptor.isOn only skip disabled silenced levels =
      ((only.isEmpty || only.any hit.check.descriptor.answersTo) &&
        !(skip ++ disabled).any hit.check.descriptor.answersTo &&
        !(silenced.any hit.check.descriptor.answersTo ||
          hit.check.descriptor.levelIn? levels = some .allow)) := by
    simp only [Descriptor.isOn, List.any_append, Bool.not_or, Bool.and_assoc, decide_not, ne_eq]
  rw [Registry.names_id hd, Registry.names_id hd, hon]
  cases hoff : silenced.any hit.check.descriptor.answersTo || hit.check.descriptor.levelIn? levels =
    some .allow with
  | true =>
    rw [hoff, if_pos rfl] at hlevel
    rw [reported?_eq_none hlevel, ite_self, Bool.not_true, Bool.and_false,
      if_neg Bool.false_ne_true]
  | false =>
    rw [hoff, if_neg Bool.false_ne_true] at hlevel
    have hdefault : (Engine.default options).settings.levelFor hit.check.descriptor.id = .warn :=
      Settings.levelFor_id hd {}
    rw [reported?_congr (hlevel.trans hdefault.symm), Bool.not_false, Bool.and_true]

/-- Checks do not depend on each other, and it does not matter how a check is switched off or under
which of its names: the findings of the checks that are left, at the levels that are set, are the
findings of all checks without those of checks that are off. -/
theorem analyze_selected (options : Options) (only skip disabled silenced : List String)
    (levels : List (String × Level)) (fallback : Language.Flags) (u : TranslationUnit)
    (hknown : ∀ name ∈ only ++ skip ++ disabled,
      ∃ check ∈ allChecks options, check.descriptor.answersTo name = true)
    (hlevels : levels.Pairwise fun a b => ∀ check ∈ allChecks options,
      ¬ (check.descriptor.answersTo a.1 = true ∧ check.descriptor.answersTo b.1 = true)) :
    ∃ registry, Registry.filtered only skip disabled options = .ok registry ∧
      Engine.analyze ⟨registry, (Settings.withLevels {} levels).disable silenced, fallback⟩ u =
        ((Engine.default options).analyze u).filter fun finding =>
          finding.check.isOn only skip disabled silenced levels := by
  have hfind : (only ++ skip ++ disabled).find? (fun name => !Registry.isKnown name) = none := by
    rw [List.find?_eq_none]
    intro name hname
    obtain ⟨check, hcheck, hanswers⟩ := hknown name hname
    rw [Registry.isKnown_of_answersTo (descriptor_mem_catalog hcheck) hanswers]
    exact Bool.false_ne_true
  rw [Registry.filtered, hfind]
  refine ⟨_, rfl, ?_⟩
  -- Both reports run over the matches of all checks; on the left, those of checks that do not run
  -- are left out.
  rw [analyze_eq, analyze_eq, Registry.eligible, List.filter_comm, hits_filter,
    List.filterMap_filter, List.filter_filterMap]
  apply List.filterMap_congr
  intro hit hhit
  have hcheck : hit.check ∈ allChecks options := (List.mem_filter.1 (check_mem_of_mem_hits hhit)).1
  rw [filter_reported? _ _ _ _ fun d => d.isOn only skip disabled silenced levels]
  exact reported?_selected (descriptor_mem_catalog hcheck) (hlevels.imp fun h =>
    h hit.check hcheck) u _

/-- Two checks are asked for, one under its older name and one without its category. The first has
the level at which it does not report, and a third check is left out. -/
theorem analyze_selected_streams :
    let u : TranslationUnit := .ofDocument
      { source := "std::cout << std::endl;"
        root := .mk { kind := .translationUnitDecl }
          [.mk { kind := .declRefExpr "std::cout", range := some ⟨0, 9⟩ } [],
            .mk { kind := .declRefExpr "std::endl", range := some ⟨13, 22⟩ } []] } (.ofTier .cpp17)
    let only := ["hl-perf-avoid-cout-cerr", "avoid-std-endl"]
    let skip := ["baseline-performance.prefer-vector"]
    let levels := [("avoid-cout-cerr", Level.allow), ("hl-perf-avoid-std-endl", .warn)]
    (∀ name ∈ only ++ skip ++ [], ∃ check ∈ allChecks {}, check.descriptor.answersTo name = true) ∧
      (levels.Pairwise fun a b => ∀ check ∈ allChecks {},
        ¬ (check.descriptor.answersTo a.1 = true ∧ check.descriptor.answersTo b.1 = true)) ∧
      ∃ registry, Registry.filtered only skip [] {} = .ok registry ∧
        Engine.analyze ⟨registry, (Settings.withLevels {} levels).disable ["prefer-hive"], {}⟩ u =
          ((Engine.default {}).analyze u).filter fun finding =>
            finding.check.isOn only skip [] ["prefer-hive"] levels := by
  intro u only skip levels
  have hmem : ∀ check ∈ [Checks.avoidCoutCerr, Checks.avoidStdEndl, Checks.preferVector],
      check ∈ allChecks {} := by
    intro check hcheck
    simp only [List.mem_cons, List.not_mem_nil, or_false] at hcheck
    rcases hcheck with rfl | rfl | rfl
    all_goals simp only [allChecks, List.mem_cons, true_or, or_true]
  have hcout : Checks.avoidCoutCerr ∈ allChecks {} := hmem _ (.head _)
  have hendl : Checks.avoidStdEndl ∈ allChecks {} := hmem _ (.tail _ (.head _))
  have hknown : ∀ name ∈ only ++ skip ++ [],
      ∃ check ∈ allChecks {}, check.descriptor.answersTo name = true := by
    intro name hname
    simp only [only, skip, List.cons_append, List.nil_append, List.append_nil, List.mem_cons,
      List.not_mem_nil, or_false] at hname
    rcases hname with rfl | rfl | rfl
    · exact ⟨_, hcout, by decide +kernel⟩
    · exact ⟨_, hendl, by decide +kernel⟩
    · exact ⟨_, hmem _ (.tail _ (.tail _ (.head _))), by decide +kernel⟩
  have hlevels : levels.Pairwise fun a b => ∀ check ∈ allChecks {},
      ¬ (check.descriptor.answersTo a.1 = true ∧ check.descriptor.answersTo b.1 = true) := by
    refine List.pairwise_pair.2 ?_
    rintro check hcheck ⟨hfirst, hsecond⟩
    have hd := descriptor_mem_catalog hcheck
    rw [← resolveCheck_eq_iff hd] at hfirst hsecond
    -- A check that answered to both names would have the ids of both checks.
    rw [(resolveCheck_eq_iff (descriptor_mem_catalog hcout)).2 (by decide +kernel)] at hfirst
    rw [(resolveCheck_eq_iff (descriptor_mem_catalog hendl)).2 (by decide +kernel),
      ← hfirst] at hsecond
    exact absurd hsecond (by decide +kernel)
  exact ⟨hknown, hlevels,
    analyze_selected {} only skip [] ["prefer-hive"] levels {} u hknown hlevels⟩

end CppAdvice
