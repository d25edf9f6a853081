import CppAdvice.Proofs.Bytes
import CppAdvice.Proofs.Hits
import CppAdvice.Proofs.Reports

/-!
# What holds of every finding

Documents may give nodes any ranges: reversed, past the end of the text, or through the middle of a
character. Findings are made only where a range lies within the text, and replacements only where it
also starts and ends between characters, so every finding is `WellFormed` whatever the unit
(`wellFormed_of_mem_analyze`).

The replacements are those that the checks propose. A rule `ReplacesAnchor` if it proposes none but
for the node that its advice is about; all rules of all checks do (`rules_replaceAnchor`).
-/

namespace CppAdvice

open CppAdvice.Tree CppAdvice.Text

/-- A replacement fits a place if it is for all of it, between characters and not blank, and if the
check is one that proposes replacements. -/
structure FixIt.Fits (source : List Char) (check : Descriptor) (range : SourceRange)
    (fix : FixIt) : Prop where
  place : fix.range = range
  text : ∃ before after, source = before ++ fix.replaced.toList ++ after ∧
    byteLength before = range.first.toNat ∧
    byteLength (before ++ fix.replaced.toList) = range.last.toNat
  visible : ∃ c ∈ fix.replaced.toList, isBlank c = false
  declared : check.fix.isSome = true

/-- What holds of the findings of a run. -/
structure Finding.WellFormed (e : Engine) (u : TranslationUnit) (f : Finding) : Prop where
  registered : f.check ∈ e.registry.checks.map (·.descriptor)
  cplusplus : u.language.cplusplus = true
  tier : f.check.minTier ≤ (e.run u).tier
  file : f.file = u.file
  node : ∃ id entry, u.entry? id = some entry ∧ entry.facts.file = none ∧
    entry.facts.range = some f.range
  ordered : f.range.first ≤ f.range.last
  within : f.range.last.toNat ≤ byteLength u.source
  start : f.start = u.position f.range.first.toNat
  stop : f.stop = u.position f.range.last.toNat
  start_le_stop : f.start = f.stop ∨ f.start.Before f.stop
  level : f.level = .warn
  unsilenced : (Suppression.Coverage.ofSource u.source).covers f.start.row f.check = false
  fixit : ∀ fix ∈ f.fixit, fix.Fits u.source f.check f.range

/-! ### Places -/

section

variable {u : TranslationUnit} {id : Nat} {range : SourceRange}

/-- A node has a place in the main file if it has a range there that lies within the text. -/
lemma mainFileRange?_eq_some (h : u.mainFileRange? id = some range) :
    (∃ entry, u.entry? id = some entry ∧ entry.facts.file = none ∧ entry.facts.range = some range) ∧
      range.first ≤ range.last ∧ range.last.toNat ≤ byteLength u.source := by
  obtain ⟨entry, hentry, h⟩ := Option.bind_eq_some_iff.1 h
  cases hfile : entry.facts.file with
  | some file =>
    rw [hfile] at h
    cases h
  | none =>
    rw [hfile] at h
    obtain ⟨hrange, hwithin⟩ := Option.filter_eq_some_iff.1 h
    rw [Bool.and_eq_true, decide_eq_true_iff, hasBytes_iff] at hwithin
    exact ⟨⟨entry, hentry, hfile, hrange⟩, hwithin⟩

/-- A range within the text starts no later than it stops. -/
lemma position_le (hordered : range.first ≤ range.last)
    (hwithin : range.last.toNat ≤ byteLength u.source) :
    u.position range.first.toNat = u.position range.last.toNat ∨
      (u.position range.first.toNat).Before (u.position range.last.toNat) := by
  rcases Nat.eq_or_lt_of_le (UInt64.le_iff_toNat_le.1 hordered) with heq | hlt
  · exact .inl (by rw [heq])
  · exact .inr (Position.before_ofOffset hlt hwithin)

/-- A replacement at a node fits the place of the node. -/
lemma fits_of_fixitAt? {check : Descriptor} {replacement : String} {fix : FixIt}
    (h : Step.fixitAt? u id replacement = some fix) (hrange : u.mainFileRange? id = some range)
    (hdeclared : check.fix.isSome = true) : fix.Fits u.source check range := by
  obtain ⟨r, hr, h⟩ := Option.bind_eq_some_iff.1 h
  obtain rfl := Option.some.inj (hr.symm.trans hrange)
  obtain ⟨replaced, htext, h⟩ := Option.bind_eq_some_iff.1 h
  rw [TranslationUnit.text?, hrange, Option.bind_some] at htext
  obtain ⟨before, after, hsource, hfirst, hlast⟩ := eq_of_slice? htext
  split at h
  case isTrue => cases h
  case isFalse hblank =>
    cases h
    rw [Bool.not_eq_true, List.all_eq_false] at hblank
    refine ⟨rfl, ⟨before, after, ?_⟩, ?_, hdeclared⟩
    · rw [String.toList_ofList]
      exact ⟨hsource, hfirst, hlast⟩
    · rw [String.toList_ofList]
      obtain ⟨c, hc, hvisible⟩ := hblank
      exact ⟨c, hc, Bool.not_eq_true _ ▸ hvisible⟩

end

/-! ### Replacements -/

/-- Whatever a step replaces, it says so. -/
lemma fixit_apply {u : TranslationUnit} {tier : Language.Tier} {w : Wording} {step : Step}
    {fix : FixIt} (h : (step.apply u tier w).fixit = some fix) :
    w.fixit = some fix ∨
      ∃ node replacement, step = .fixit node replacement ∧
        Step.fixitAt? u node replacement = some fix := by
  cases step with
  | fixit node replacement =>
    rcases Option.or_eq_some_iff.1 h with hfix | ⟨_, hw⟩
    · exact .inr ⟨node, replacement, rfl, hfix⟩
    · exact .inl hw
  | _ => exact .inl h

/-- The replacement that is left was there before, or is that of one of the steps. -/
lemma fixit_foldl_apply {u : TranslationUnit} {tier : Language.Tier} {w : Wording}
    {steps : List Step} {fix : FixIt} (h : (steps.foldl (Step.apply u tier) w).fixit = some fix) :
    w.fixit = some fix ∨
      ∃ node replacement, .fixit node replacement ∈ steps ∧
        Step.fixitAt? u node replacement = some fix := by
  induction steps generalizing w with
  | nil => exact .inl h
  | cons step steps ih =>
    rcases ih h with hstep | ⟨node, replacement, hmem, hfix⟩
    · rcases fixit_apply hstep with hw | ⟨node, replacement, rfl, hfix⟩
      · exact .inl hw
      · exact .inr ⟨node, replacement, List.mem_cons_self, hfix⟩
    · exact .inr ⟨node, replacement, List.mem_cons_of_mem _ hmem, hfix⟩

/-- Advice that replaces nothing but the node it is about, and that only for a check that proposes
replacements. -/
def Advice.ReplacesAnchor (check : Descriptor) (a : Advice) : Prop :=
  ∀ ⦃node replacement⦄, Step.fixit node replacement ∈ a.steps → node = a.anchor ∧
    check.fix.isSome = true

/-- The replacement of such advice fits its place. -/
lemma Advice.ReplacesAnchor.fits {check : Descriptor} {a : Advice} (ha : a.ReplacesAnchor check)
    {u : TranslationUnit} {tier : Language.Tier} {range : SourceRange} {fix : FixIt}
    (hrange : u.mainFileRange? a.anchor = some range)
    (hfix : (a.steps.foldl (Step.apply u tier) {}).fixit = some fix) :
    fix.Fits u.source check range := by
  rcases fixit_foldl_apply hfix with hnone | ⟨node, replacement, hmem, hat⟩
  · cases hnone
  · obtain ⟨rfl, hdeclared⟩ := ha hmem
    exact fits_of_fixitAt? hat hrange hdeclared

/-- Advice that only words things replaces nothing. -/
lemma Advice.ReplacesAnchor.of_wording {check : Descriptor} {a : Advice}
    (h : a.steps.all Step.isWording = true) : a.ReplacesAnchor check := by
  intro node replacement hmem
  cases List.all_eq_true.1 h _ hmem

namespace Rule

/-- All that a rule may advise replaces nothing but the node that it is about. -/
def ReplacesAnchor (check : Descriptor) (rule : Rule) : Prop :=
  ∀ ⦃u b a⦄, rule.verdict u b = some a → a.ReplacesAnchor check

variable {check : Descriptor} {name : String} {shape : Matcher} {steps : TranslationUnit →
  Nat → List Step}

/-- A rule that always speaks replaces what its advice does. -/
lemma always_replacesAnchor (h : ∀ u i, Advice.ReplacesAnchor check ⟨i, steps u i⟩) :
    (always name shape steps).ReplacesAnchor check := by
  intro u b a ha
  obtain ⟨i, _, rfl⟩ := Option.map_eq_some_iff.1 ha
  exact h u i

/-- A rule that always speaks, and only words things, replaces nothing. -/
lemma always_wording (hw : ∀ u i, (steps u i).all Step.isWording = true) :
    (always name shape steps).ReplacesAnchor check :=
  always_replacesAnchor fun u i => .of_wording (hw u i)

/-- A rule that speaks if a test holds, and only words things, replaces nothing. -/
lemma provided_wording {test : TranslationUnit → Nat → Bool}
    (hw : ∀ u i, (steps u i).all Step.isWording = true) :
    (provided name shape test steps).ReplacesAnchor check := by
  intro u b a ha
  obtain ⟨i, _, ha⟩ := Option.bind_eq_some_iff.1 ha
  split at ha
  · cases ha
    exact .of_wording (hw u i)
  · cases ha

end Rule

namespace Checks

open Rule

/-- The rules of a check propose no other replacements than their check says. -/
def ReplacesAnchor (check : Check) : Prop :=
  check.rules.Forall (Rule.ReplacesAnchor check.descriptor)

/-- The one check that proposes replacements. -/
lemma avoidStdEndl_replacesAnchor : ReplacesAnchor avoidStdEndl := by
  refine always_replacesAnchor fun u i node replacement hmem => ?_
  simp only [List.mem_cons, Step.fixit.injEq, reduceCtorEq, List.not_mem_nil, or_false,
    false_or] at hmem
  exact ⟨hmem.1, rfl⟩

/-- The check on the ends of strings replaces nothing but its anchor. -/
lemma preferStartsEndsWith_replacesAnchor : ReplacesAnchor preferStartsEndsWith := by
  refine ⟨provided_wording fun _ _ => rfl, provided_wording fun _ _ => rfl, ?_,
    provided_wording fun _ _ => rfl, provided_wording fun _ _ => rfl⟩
  intro u b a ha
  obtain ⟨call, _, rfl⟩ := Option.map_eq_some_iff.1 ha
  exact .of_wording rfl

/-- The check on removals replaces nothing but its anchor. -/
lemma preferEraseIf_replacesAnchor : ReplacesAnchor preferEraseIf := by
  intro u b a ha
  obtain ⟨call, _, ha⟩ := Option.bind_eq_some_iff.1 ha
  obtain ⟨remove, _, ha⟩ := Option.bind_eq_some_iff.1 ha
  cases ha
  exact .of_wording rfl

/-- The check on casts of enumerations replaces nothing but its anchor. -/
lemma preferToUnderlying_replacesAnchor : ReplacesAnchor preferToUnderlying := by
  intro u b a ha
  obtain ⟨cast, _, ha⟩ := Option.bind_eq_some_iff.1 ha
  obtain ⟨ty, _, ha⟩ := Option.bind_eq_some_iff.1 ha
  cases ha
  exact .of_wording rfl

/-- The check on small arrays replaces nothing but its anchor. -/
lemma preferInplaceVector_replacesAnchor (max : Nat) :
    ReplacesAnchor (preferInplaceVector max) := by
  refine ⟨?_, ?_⟩
  · intro u b a ha
    obtain ⟨call, _, ha⟩ := Option.bind_eq_some_iff.1 ha
    obtain ⟨size, _, ha⟩ := Option.bind_eq_some_iff.1 ha
    obtain ⟨vector, _, ha⟩ := Option.bind_eq_some_iff.1 ha
    split at ha
    · cases ha
      exact .of_wording rfl
    · cases ha
  · intro u b a ha
    obtain ⟨decl, _, ha⟩ := Option.bind_eq_some_iff.1 ha
    obtain ⟨size, _, ha⟩ := Option.bind_eq_some_iff.1 ha
    cases ha
    exact .of_wording rfl

/-- No check replaces anything but what it is about. Those that are not named here only have words
to say. -/
lemma rules_replaceAnchor (options : Options) : (allChecks options).Forall ReplacesAnchor := by
  refine ⟨always_wording ?_,
    ⟨always_wording ?_, always_wording ?_, always_wording ?_⟩,
    avoidStdEndl_replacesAnchor,
    always_wording ?_,
    always_wording ?_,
    ⟨always_wording ?_, always_wording ?_, always_wording ?_⟩,
    ⟨always_wording ?_, always_wording ?_⟩,
    ⟨always_wording ?_, always_wording ?_, always_wording ?_⟩,
    provided_wording ?_,
    always_wording ?_,
    always_wording fun _ _ => isWording_bindSteps _,
    ⟨always_wording ?_, always_wording ?_⟩,
    always_wording fun _ _ => isWording_moveSteps _,
    always_wording ?_,
    always_wording ?_,
    always_wording ?_,
    ⟨always_wording ?_, always_wording ?_, always_wording ?_⟩,
    ⟨always_wording ?_, provided_wording ?_⟩,
    preferStartsEndsWith_replacesAnchor,
    ⟨provided_wording ?_, provided_wording ?_, provided_wording ?_⟩,
    preferEraseIf_replacesAnchor,
    always_wording ?_,
    ⟨always_wording ?_, always_wording ?_⟩,
    ⟨always_wording ?_, always_wording ?_, always_wording ?_⟩,
    ⟨always_wording ?_, always_wording ?_⟩,
    preferToUnderlying_replacesAnchor,
    ⟨always_wording ?_, always_wording ?_, always_wording ?_⟩,
    always_wording ?_,
    preferInplaceVector_replacesAnchor options.maxInplaceSize,
    always_wording ?_,
    always_wording ?_⟩
  all_goals exact fun _ _ => rfl

/-- Every rule of every check replaces nothing but its anchor. -/
lemma replacesAnchor_of_mem {options : Options} {check : Check} (h : check ∈ allChecks options)
    {rule : Rule} (hrule : rule ∈ check.rules) : rule.ReplacesAnchor check.descriptor :=
  List.forall_iff_forall_mem.1 (List.forall_iff_forall_mem.1 (rules_replaceAnchor options) check h)
    rule hrule

end Checks

/-! ### Findings -/

/-- A level at which a check may report is the one level there is. -/
lemma Level.eq_warn_of_ne_allow {level : Level} (h : level ≠ .allow) : level = .warn := by
  cases level with
  | allow => exact absurd rfl h
  | warn => rfl

/-- Whatever the unit and its ranges, findings are within the text, in order, of a check that runs
and at a level that reports, and their replacements are for the text they are about. -/
theorem wellFormed_of_mem_analyze (e : Engine) (u : TranslationUnit)
    (hchecks : ∀ check ∈ e.registry.checks, ∃ options, check ∈ allChecks options) (f : Finding)
    (h : f ∈ e.analyze u) : f.WellFormed e u := by
  rw [analyze_eq] at h
  obtain ⟨hit, hhit, hreported⟩ := List.mem_filterMap.1 h
  obtain ⟨_, hcheck, hrule, _⟩ := mem_hitsOn hhit
  obtain ⟨hregistered, heligible⟩ := List.mem_filter.1 hcheck
  rw [Descriptor.isEligible, Bool.and_eq_true] at heligible
  obtain ⟨found, hfound, rfl⟩ := Option.map_eq_some_iff.1 hreported
  obtain ⟨hfinding, hheard⟩ := Option.filter_eq_some_iff.1 hfound
  rw [Bool.and_eq_true, Bool.not_eq_true', decide_eq_true_iff] at hheard
  obtain ⟨options, hcatalog⟩ := hchecks hit.check hregistered
  have hreplaces := Checks.replacesAnchor_of_mem hcatalog hrule
  obtain ⟨advice, hadvice, hcompose⟩ := Option.bind_eq_some_iff.1 hfinding
  obtain ⟨range, hrange, rfl⟩ := Option.map_eq_some_iff.1 hcompose
  obtain ⟨⟨entry, hentry⟩, hordered, hwithin⟩ := mainFileRange?_eq_some hrange
  exact {
    registered := List.mem_map_of_mem hregistered
    cplusplus := heligible.1
    tier := of_decide_eq_true heligible.2
    file := rfl
    node := ⟨advice.anchor, entry, hentry⟩
    ordered := hordered
    within := hwithin
    start := rfl
    stop := rfl
    start_le_stop := position_le hordered hwithin
    level := Level.eq_warn_of_ne_allow hheard.2
    unsilenced := hheard.1
    fixit := fun fix hfix => (hreplaces hadvice).fits hrange hfix }

/-- A manipulator that can be replaced, next to ranges that are reversed and that end within a
character. -/
theorem wellFormed_of_mem_analyze_endl :
    let e := Engine.default {}
    let u := e.unit
      { source := "é << std::endl;\n"
        root := .mk { kind := .translationUnitDecl }
          [.mk { kind := .declRefExpr "std::endl", range := some ⟨15, 6⟩ } [],
            .mk { kind := .declRefExpr "std::endl", range := some ⟨0, 1⟩ } [],
            .mk { kind := .declRefExpr "std::endl", range := some ⟨6, 15⟩ } []] }
    (∀ check ∈ e.registry.checks, ∃ options, check ∈ allChecks options) ∧
      ∃ f ∈ e.analyze u, f.fixit.isSome = true ∧ f.WellFormed e u := by
  intro e u
  have hchecks : ∀ check ∈ e.registry.checks, ∃ options, check ∈ allChecks options :=
    fun check hcheck => ⟨{}, hcheck⟩
  have hfound : ∃ f ∈ e.analyze u, f.fixit.isSome = true := by decide +kernel
  obtain ⟨f, hf, hfix⟩ := hfound
  exact ⟨hchecks, f, hf, hfix, wellFormed_of_mem_analyze e u hchecks f hf⟩

end CppAdvice
