import CppAdvice.Proofs.Hits
import CppAdvice.Proofs.Reports
import Mathlib.Data.List.Forall2

/-!
# Higher tiers

What a run says at a tier, it says at every higher tier, among the checks that run at both. What a
check finds does not depend on the language (`simulation_inLanguage`), only the wording of its notes
does: a facility is named at all tiers, and a remark may come in at a higher one
(`Wording.Raised.apply`, from which `Wording.Raised.foldl` for all steps). The two reports then
correspond match by match (`reported?_raised`).
-/

namespace CppAdvice

open CppAdvice.Tree CppAdvice.Matcher CppAdvice.Language

/-- The notes of a finding at a tier, and those at a higher one. -/
structure Note.Raised (low high : List Note) : Prop where
  /-- The facilities that notes name are the same, in the same order. -/
  alternatives : high.filterMap (·.alternative) = low.filterMap (·.alternative)
  /-- No other note is lost. -/
  remarks : (low.filter (·.alternative.isNone)).Sublist (high.filter (·.alternative.isNone))

/-- Notes are raised to themselves. -/
lemma Note.Raised.refl (notes : List Note) : Raised notes notes :=
  ⟨rfl, List.Sublist.refl _⟩

/-- Notes that are raised may be put behind others that are. -/
lemma Note.Raised.append {low high low' high' : List Note} (h : Raised low high)
    (h' : Raised low' high') :
    Raised (low ++ low') (high ++ high') where
  alternatives := by
    rw [List.filterMap_append, List.filterMap_append, h.alternatives, h'.alternatives]
  remarks := by
    rw [List.filter_append, List.filter_append]
    exact h.remarks.append h'.remarks

/-- Every note names a facility or is a remark. -/
lemma length_notes (notes : List Note) :
    notes.length = (notes.filterMap (·.alternative)).length +
      (notes.filter (·.alternative.isNone)).length := by
  induction notes with
  | nil => rfl
  | cons note notes ih =>
    cases halternative : note.alternative with
    | none => simp [halternative, ih]; omega
    | some alternative => simp [halternative, ih]; omega

/-- There are no fewer notes at the higher tier. -/
lemma Note.Raised.length_le {low high : List Note} (h : Raised low high) :
    low.length ≤ high.length := by
  rw [length_notes low, length_notes high, h.alternatives]
  exact Nat.add_le_add_left h.remarks.length_le _

/-- What is allowed at a tier is allowed at a higher one. -/
lemma Tier.atLeast_mono {low high required : Tier} (hle : low ≤ high)
    (h : low.atLeast required = true) :
    high.atLeast required = true :=
  decide_eq_true (Nat.le_trans (of_decide_eq_true h : required.rank ≤ low.rank) hle)

/-- The notes of a step. -/
lemma Step.notes_raised {low high : Tier} (hle : low ≤ high) (step : Step) :
    Note.Raised (step.notes low) (step.notes high) := by
  cases step with
  | message | note | noteWith | fixit => exact .refl _
  | noteAtLeast required text =>
    rw [notes, notes]
    cases hlow : low.atLeast required with
    | true =>
      rw [Tier.atLeast_mono hle hlow]
      exact .refl _
    | false =>
      -- Nothing is said at the lower tier, whatever is at the higher one.
      refine ⟨?_, List.nil_sublist _⟩
      split_ifs <;> rfl
  | upgrade alternative since advice => exact ⟨rfl, List.Sublist.refl _⟩

/-- The wording of a finding at a tier, and that at a higher one. -/
structure Wording.Raised (low high : Wording) : Prop where
  message : high.message = low.message
  notes : Note.Raised low.notes high.notes
  fixit : high.fixit = low.fixit

/-- A step keeps the wordings alike. -/
lemma Wording.Raised.apply {low high : Tier} (hle : low ≤ high) (u : TranslationUnit) (step : Step)
    {w w' : Wording} (h : Raised w w') : Raised (step.apply u low w) (step.apply u high w') := by
  have hnotes := h.notes.append (step.notes_raised hle)
  cases step with
  | message template args => exact ⟨rfl, h.notes, h.fixit⟩
  | fixit node replacement => exact ⟨h.message, h.notes, by simp only [Step.apply, h.fixit]⟩
  | note | noteWith | noteAtLeast | upgrade => exact ⟨h.message, hnotes, h.fixit⟩

/-- Steps at a higher tier raise the wording. -/
lemma Wording.Raised.foldl {low high : Tier} (hle : low ≤ high) (u : TranslationUnit)
    (steps : List Step) {w w' : Wording} (h : Raised w w') :
    Raised (steps.foldl (Step.apply u low) w) (steps.foldl (Step.apply u high) w') := by
  induction steps generalizing w w' with
  | nil => exact h
  | cons step steps ih => exact ih (h.apply hle u step)

/-- A finding at a tier, and the same finding at a higher one. -/
structure Finding.Raised (low high : Finding) : Prop where
  check : high.check = low.check
  level : high.level = low.level
  file : high.file = low.file
  range : high.range = low.range
  start : high.start = low.start
  stop : high.stop = low.stop
  message : high.message = low.message
  fixit : high.fixit = low.fixit
  notes : Note.Raised low.notes high.notes
  length_le : low.notes.length ≤ high.notes.length

/-- The same advice becomes a finding at both tiers or at neither. -/
lemma compose_raised {low high : Tier} (hle : low ≤ high) (u : TranslationUnit) (check : Descriptor)
    (anchor : Nat) (steps : List Step) :
    Option.Rel Finding.Raised (compose u low check anchor steps)
      (compose u high check anchor steps) := by
  have hstart : Wording.Raised {} {} := ⟨rfl, .refl _, rfl⟩
  have h := hstart.foldl hle u steps
  rw [compose, compose]
  cases u.mainFileRange? anchor with
  | none => exact .none
  | some range =>
    exact .some ⟨rfl, rfl, rfl, rfl, rfl, rfl, h.message, h.fixit, h.notes, h.notes.length_le⟩

/-- The unit in another language. -/
def TranslationUnit.inLanguage (u : TranslationUnit) (language : Flags) : TranslationUnit :=
  { u with language }

section

variable (u : TranslationUnit) (language : Flags)

/-- The nodes above a node do not depend on the language. -/
lemma ancestors_inLanguage (i : Nat) : (u.inLanguage language).ancestors i = u.ancestors i := by
  have hparent : (u.inLanguage language).parent? i = u.parent? i := rfl
  rw [TranslationUnit.ancestors, TranslationUnit.ancestors, hparent]
  cases u.parent? i with
  | none => rfl
  | some p =>
    dsimp only
    split_ifs with hlt
    · rw [ancestors_inLanguage p]
    · rfl
termination_by i

/-- What was written below wrappers does not depend on the language. -/
lemma skipImplicit_inLanguage (i : Nat) :
    (u.inLanguage language).skipImplicit i = u.skipImplicit i := by
  have htag : (u.inLanguage language).tag i = u.tag i := rfl
  have hchildren : (u.inLanguage language).children i = u.children i := rfl
  have hsize : (u.inLanguage language).size = u.size := rfl
  rw [TranslationUnit.skipImplicit, TranslationUnit.skipImplicit, htag, hchildren, hsize]
  cases (u.children i).head? with
  | none => rfl
  | some c =>
    dsimp only
    split_ifs with hwrapper hlt
    · rw [skipImplicit_inLanguage c]
    · rfl
    · rfl
termination_by u.size - i

/-- What a value flows into does not depend on the language. -/
lemma walk_inLanguage (transparent : List Tag) (comparison : Sentinel.Comparison) (side : Nat)
    (above : List Nat) :
    Sentinel.walk (u.inLanguage language) transparent comparison side above =
      Sentinel.walk u transparent comparison side above := by
  have hcompares :
      ∀ node side op, Sentinel.comparesAt (u.inLanguage language) comparison node side op =
      Sentinel.comparesAt u comparison node side op := by
    intro node side op
    have hchildren : (u.inLanguage language).children node = u.children node := rfl
    have hholds :
        ∀ i, comparison.marker.holdsAt (u.inLanguage language) i = comparison.marker.holdsAt u i :=
      fun _ => rfl
    simp only [Sentinel.comparesAt, hchildren, skipImplicit_inLanguage, hholds]
  induction above generalizing side with
  | nil => rfl
  | cons parent above ih =>
    have hkind : (u.inLanguage language).kind parent = u.kind parent := rfl
    simp only [Sentinel.walk, hkind, hcompares, ih]

/-- Nothing that can be asked of a node depends on the language. -/
lemma simulation_inLanguage : Simulation u (u.inLanguage language) id fun _ => True where
  file := rfl
  source := rfl
  records := rfl
  lt_iff := fun _ _ => Iff.rfl
  kind := fun _ => rfl
  type := fun _ => rfl
  range := fun _ => rfl
  children := by
    intro i _
    rw [List.map_id]
    exact List.map_congr_left fun c _ => skipImplicit_inLanguage u language c
  inside_children := fun _ _ => trivial
  below := by
    intro i _
    rw [List.map_id]
    rfl
  inside_below := fun _ _ => trivial
  function := by
    intro i _
    rw [TranslationUnit.enclosingFunction?, id_eq, ancestors_inLanguage, Option.map_id]
    rfl
  inside_function := fun _ _ => trivial
  loop := by
    intro i _
    rw [Condition.isInsideLoop, id_eq, ancestors_inLanguage]
    rfl
  compared := by
    intro i comparison _
    rw [Sentinel.isCompared, id_eq, ancestors_inLanguage, walk_inLanguage, Sentinel.isCompared]
  declaration := by
    intro i _
    rw [TranslationUnit.declaration?, id_eq, ancestors_inLanguage, Option.map_id]
    rfl
  inside_declaration := fun _ _ => trivial
  sibling := fun _ _ => rfl

end

/-- The findings on a unit in a language, by the matches in the unit. -/
lemma analyze_inLanguage (e : Engine) (hchecks : RegularChecks e.registry.checks)
    (u : TranslationUnit) (language : Flags) :
    e.analyze (u.inLanguage language) =
      (hits (e.registry.eligible language) u).filterMap (e.reported? u language.tier) := by
  have s := simulation_inLanguage u language
  have hregular : RegularChecks (e.registry.eligible language) := hchecks.filter _
  have hnodes : ∀ node ∈ u.preorder, True := fun _ _ => trivial
  have hhits : hits (e.registry.eligible language) (u.inLanguage language) =
      (hitsOn (e.registry.eligible language) u u.preorder).map (·.rename id) := by
    rw [← s.hitsOn_map hregular hnodes, List.map_id]
    rfl
  rw [analyze_eq]
  rw [show (u.inLanguage language).language = language from rfl, hhits, List.filterMap_map]
  apply List.filterMap_congr
  intro hit hhit
  rw [Function.comp_apply, Engine.reported?, s.finding?_eq hregular hnodes hhit, Engine.reported?]
  rfl

/-- A match is reported at both tiers or at neither. -/
lemma reported?_raised {low high : Tier} (hle : low ≤ high) (e : Engine) (u : TranslationUnit)
    (hit : Hit) :
    Option.Rel Finding.Raised (e.reported? u low hit) (e.reported? u high hit) := by
  have hfinding : Option.Rel Finding.Raised (hit.finding? u low) (hit.finding? u high) := by
    rw [Hit.finding?, Hit.finding?]
    cases hit.rule.verdict u hit.bindings with
    | none => exact .none
    | some advice => exact compose_raised hle u hit.check.descriptor advice.anchor advice.steps
  rw [Engine.reported?, Engine.reported?]
  generalize hit.finding? u low = found at hfinding ⊢
  generalize hit.finding? u high = found' at hfinding ⊢
  cases hfinding with
  | none => exact .none
  | some h =>
    rw [Option.filter_some, Option.filter_some, h.check, h.start]
    split_ifs
    · exact .some { h with level := congrArg (e.settings.levelFor ·.id) h.check }
    · exact .none

/-- The checks that run at a tier are among those that run at a higher one. -/
lemma eligible_low {low high : Flags} (hlow : low.cplusplus = true) (hhigh : high.cplusplus = true)
    (hle : low.tier ≤ high.tier) (r : Registry) :
    r.eligible low = (r.eligible high).filter fun check => check.descriptor.minTier ≤ low.tier := by
  rw [Registry.eligible, Registry.eligible, List.filter_filter]
  apply List.filter_congr
  intro check _
  rw [Descriptor.isEligible, Descriptor.isEligible, hlow, hhigh, Bool.true_and, Bool.true_and]
  change low.tier.atLeast check.descriptor.minTier =
    (low.tier.atLeast check.descriptor.minTier && high.tier.atLeast check.descriptor.minTier)
  cases hcheck : low.tier.atLeast check.descriptor.minTier with
  | true => rw [Tier.atLeast_mono hle hcheck, Bool.and_self]
  | false => rw [Bool.false_and]

/-- Raising the tier loses nothing: among the checks that run at the lower tier, the findings at the
higher tier are those at the lower one, in the same order, each with the same check, level, place,
message and replacement, with the same facilities named and with no remark left out. -/
theorem analyze_raised (e : Engine) (u : TranslationUnit) (low high : Flags)
    (hchecks : ∀ check ∈ e.registry.checks, ∃ options, check ∈ allChecks options)
    (hlow : low.cplusplus = true) (hhigh : high.cplusplus = true) (hle : low.tier ≤ high.tier) :
    List.Forall₂ Finding.Raised (e.analyze (u.inLanguage low))
      ((e.analyze (u.inLanguage high)).filter fun finding => finding.check.minTier ≤ low.tier) := by
  have hregular : RegularChecks e.registry.checks := by
    intro check hcheck
    obtain ⟨options, hmem⟩ := hchecks check hcheck
    exact regular_allChecks options check hmem
  -- Both reports run over the matches at the higher tier; at the lower one, those of other checks
  -- are left out.
  rw [analyze_inLanguage e hregular, analyze_inLanguage e hregular, eligible_low hlow hhigh hle,
    hits_filter, List.filterMap_filter, List.filter_filterMap]
  refine List.rel_filterMap (R := Eq) ?_ (List.forall₂_refl _)
  rintro hit _ rfl
  dsimp only
  rw [filter_reported? e u high.tier hit fun check => check.minTier ≤ low.tier]
  split_ifs
  · exact reported?_raised hle e u hit
  · exact .none

/-- A linked list at two tiers: at the higher one, the advice against it has one more remark, and
another check speaks up. -/
theorem analyze_raised_vector :
    let e : Engine := { registry := ⟨[Checks.preferVector, Checks.preferHive]⟩ }
    let u : TranslationUnit := .ofDocument
      { source := "std::list<int> xs;"
        root := .mk { kind := .translationUnitDecl }
          [.mk { kind := .varDecl "xs" .static, range := some ⟨0, 17⟩,
                 ty := some { spelling := "std::list<int>", decl := some "std::list" } } []] } {}
    (∀ check ∈ e.registry.checks, ∃ options, check ∈ allChecks options) ∧
      (Flags.ofTier .cpp17).tier ≤ (Flags.ofTier .cpp26).tier ∧
      List.Forall₂ Finding.Raised (e.analyze (u.inLanguage (.ofTier .cpp17)))
        ((e.analyze (u.inLanguage (.ofTier .cpp26))).filter fun finding =>
          finding.check.minTier ≤ (Flags.ofTier .cpp17).tier) := by
  intro e u
  have hchecks : ∀ check ∈ e.registry.checks, ∃ options, check ∈ allChecks options := by
    intro check hcheck
    refine ⟨{}, ?_⟩
    simp only [e, List.mem_cons, List.not_mem_nil, or_false] at hcheck
    rcases hcheck with rfl | rfl <;> simp [allChecks]
  exact ⟨hchecks, by decide, analyze_raised e u _ _ hchecks rfl rfl (by decide)⟩

end CppAdvice
