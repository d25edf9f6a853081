import CppAdvice.Proofs.Ladder
import CppAdvice.Proofs.Latest
import CppAdvice.Proofs.WellFormed
import Mathlib.Data.List.Induction

/-!
# What steps add up to

A finding is composed from steps in any order and number. The message is that of the last step that
gives one, and so is the replacement; the notes are those of all steps, one after another
(`foldl_apply`). Which facilities the notes name does not depend on the tier, only how (`IsSaid`).
-/

namespace CppAdvice

open CppAdvice.Tree CppAdvice.Language

/-- The range of a node that was written in the main file, with its ends in order and within the
text. -/
structure TranslationUnit.IsPlace (u : TranslationUnit) (id : Nat) (range : SourceRange) :
    Prop where
  node : ∃ entry, u.entry? id = some entry ∧ entry.facts.file = none ∧
    entry.facts.range = some range
  ordered : range.first ≤ range.last
  within : range.last.toNat ≤ Text.byteLength u.source

/-- The computed place of a node is its place. -/
lemma mainFileRange?_eq_some_iff {u : TranslationUnit} {id : Nat} {range : SourceRange} :
    u.mainFileRange? id = some range ↔ u.IsPlace id range := by
  constructor
  · intro h
    obtain ⟨hnode, hordered, hwithin⟩ := mainFileRange?_eq_some h
    exact ⟨hnode, hordered, hwithin⟩
  · rintro ⟨⟨entry, hentry, hfile, hrange⟩, hordered, hwithin⟩
    rw [TranslationUnit.mainFileRange?, hentry, Option.bind_some, hfile, hrange, Option.filter_some,
      Text.hasBytes_iff.2 hwithin, decide_eq_true hordered]
    rfl

/-- A facility, the tier that has it, and the advice to use it. -/
structure Rung where
  alternative : String
  since : Tier
  advice : String

/-- A note says about a facility what there is to say at a tier: the advice where the tier has it,
and otherwise which edition is needed for it and which is used. -/
structure Rung.IsSaid (tier : Tier) (rung : Rung) (note : Note) : Prop where
  alternative : note.alternative = some rung.alternative
  available : rung.since ≤ tier → note.message = rung.advice
  missing : ¬ rung.since ≤ tier →
    note.message = rung.alternative ++ " would be a better fit but requires " ++
    rung.since.label ++ "; current standard is " ++ tier.label

namespace Step

/-- The message that a step gives. -/
def message? : Step → Option String
  | .message template args => some (Template.render template args)
  | _ => none

/-- The replacement that a step gives. -/
def fixit? (u : TranslationUnit) : Step → Option FixIt
  | .fixit node replacement => fixitAt? u node replacement
  | _ => none

/-- The facility that a step names. -/
def rung? : Step → Option Rung
  | .upgrade alternative since advice => some ⟨alternative, since, advice⟩
  | _ => none

/-- A step gives a message. -/
def IsMessage (step : Step) (text : String) : Prop :=
  ∃ template args, step = .message template args ∧ Template.render template args = text

/-- A step replaces a text in the main file that is not blank. -/
def Replaces (u : TranslationUnit) (step : Step) (fix : FixIt) : Prop :=
  ∃ node text, step = .fixit node fix.replacement ∧ u.IsPlace node fix.range ∧
    u.text? node = some text ∧
    (∃ c ∈ text, Text.isBlank c = false) ∧ fix.replaced = String.ofList text

/-- The computed message of a step is its message. -/
lemma message?_eq_some_iff (step : Step) (text : String) :
    step.message? = some text ↔ step.IsMessage text := by
  cases step with
  | message template args => simp [message?, IsMessage]
  | _ => simp [message?, IsMessage]

/-- The computed replacement of a step is what it replaces. -/
lemma fixit?_eq_some_iff (u : TranslationUnit) (step : Step) (fix : FixIt) :
    step.fixit? u = some fix ↔ step.Replaces u fix := by
  cases step with
  | fixit node replacement =>
    rw [fixit?, fixitAt?]
    constructor
    · intro h
      obtain ⟨range, hrange, h⟩ := Option.bind_eq_some_iff.1 h
      obtain ⟨text, htext, h⟩ := Option.bind_eq_some_iff.1 h
      split at h
      case isTrue => cases h
      case isFalse hblank =>
        cases h
        rw [Bool.not_eq_true, List.all_eq_false] at hblank
        obtain ⟨c, hc, hvisible⟩ := hblank
        exact ⟨node, text, rfl, mainFileRange?_eq_some_iff.1 hrange, htext,
          ⟨c, hc, Bool.not_eq_true _ ▸ hvisible⟩, rfl⟩
    · obtain ⟨range, replaced, replacement'⟩ := fix
      rintro ⟨node', text, heq, hplace, htext, ⟨c, hc, hvisible⟩, rfl⟩
      cases heq
      have hblank : ¬ text.all Text.isBlank = true := by
        rw [List.all_eq_true]
        exact fun hall => Bool.false_ne_true (hvisible.symm.trans (hall c hc))
      rw [mainFileRange?_eq_some_iff.2 hplace, htext]
      exact if_neg hblank
  | _ =>
    constructor
    · intro h
      cases h
    · rintro ⟨node, text, heq, -⟩
      cases heq

end Step

/-- The steps of a finding give its message and its replacement last, and its notes all. -/
lemma foldl_apply (u : TranslationUnit) (tier : Tier) (steps : List Step) :
    steps.foldl (Step.apply u tier) {} =
      { message := (steps.filterMap Step.message?).getLast?.getD ""
        notes := steps.flatMap (Step.notes tier)
        fixit := (steps.filterMap (Step.fixit? u)).getLast? } := by
  induction steps using List.reverseRecOn with
  | nil => rfl
  | append_singleton steps step ih =>
    rw [List.foldl_append, List.foldl_cons, List.foldl_nil, ih]
    cases step with
    | message template args => simp [Step.apply, Step.message?, Step.fixit?, Step.notes]
    | fixit node replacement =>
      simp [Step.apply, Step.message?, Step.fixit?, Step.notes]
    | _ => simp [Step.apply, Step.message?, Step.fixit?]

/-- Facilities are named one after another, at each tier in its own words. -/
lemma forall₂_isSaid (tier : Tier) (steps : List Step) :
    List.Forall₂ (Rung.IsSaid tier) (steps.filterMap Step.rung?)
      ((steps.flatMap (Step.notes tier)).filter (·.alternative.isSome)) := by
  induction steps with
  | nil => exact .nil
  | cons step steps ih =>
    rw [List.flatMap_cons, List.filter_append]
    cases step with
    | upgrade alternative since advice =>
      refine .cons ⟨rfl, ?_, ?_⟩ ih
      · intro hle
        exact if_pos (decide_eq_true hle)
      · intro hlt
        exact if_neg (by simpa [Tier.atLeast] using hlt)
    | noteAtLeast required text =>
      rw [Step.notes]
      split_ifs
      · exact ih
      · exact ih
    | _ => exact ih

/-- The facilities that notes name are those of the steps. -/
lemma filterMap_alternative (tier : Tier) (steps : List Step) :
    (steps.flatMap (Step.notes tier)).filterMap (·.alternative) =
      (steps.filterMap Step.rung?).map (·.alternative) := by
  induction steps with
  | nil => rfl
  | cons step steps ih =>
    rw [List.flatMap_cons, List.filterMap_append, ih]
    cases step with
    | upgrade alternative since advice => rfl
    | noteAtLeast required text =>
      rw [Step.notes]
      split_ifs <;> rfl
    | _ => rfl

/-- A finding at a node is what steps add up to at a tier. -/
structure Finding.Composed (u : TranslationUnit) (tier : Tier) (check : Descriptor) (anchor : Nat)
    (steps : List Step) (f : Finding) : Prop where
  check : f.check = check
  level : f.level = .warn
  file : f.file = u.file
  place : u.IsPlace anchor f.range
  start : f.start = u.position f.range.first.toNat
  stop : f.stop = u.position f.range.last.toNat
  message : Latest Step.IsMessage steps f.message ∨
    (∀ step ∈ steps, ∀ text, ¬ step.IsMessage text) ∧ f.message = ""
  fixit : ∀ fix, f.fixit = some fix ↔ Latest (Step.Replaces u) steps fix
  alternatives :
    f.notes.filterMap (·.alternative) = (steps.filterMap Step.rung?).map (·.alternative)
  rungs : List.Forall₂ (Rung.IsSaid tier) (steps.filterMap Step.rung?)
    (f.notes.filter (·.alternative.isSome))

/-- There is no finding exactly if the anchor has no place. -/
lemma compose_eq_none_iff {u : TranslationUnit} {tier : Tier} {check : Descriptor} {anchor : Nat}
    {steps : List Step} :
    compose u tier check anchor steps = none ↔ ∀ range, ¬ u.IsPlace anchor range := by
  rw [compose, Option.map_eq_none_iff, Option.eq_none_iff_forall_ne_some]
  exact forall_congr' fun range => not_congr mainFileRange?_eq_some_iff

/-- A finding is composed of what its steps say. -/
lemma composed_of_compose {u : TranslationUnit} {tier : Tier} {check : Descriptor} {anchor : Nat}
    {steps : List Step} {f : Finding} (h : compose u tier check anchor steps = some f) :
    f.Composed u tier check anchor steps := by
  obtain ⟨range, hrange, rfl⟩ := Option.map_eq_some_iff.1 h
  have hmessage : ∀ {message}, message = (steps.filterMap Step.message?).getLast?.getD "" →
      Latest Step.IsMessage steps message ∨ (∀ step ∈ steps, ∀ text, ¬ step.IsMessage text) ∧
        message = "" := by
    rintro _ rfl
    cases hlast : (steps.filterMap Step.message?).getLast? with
    | some text => exact .inl ((getLast?_filterMap_iff Step.message?_eq_some_iff).1 hlast)
    | none => exact .inr ⟨(getLast?_filterMap_eq_none_iff Step.message?_eq_some_iff).1 hlast, rfl⟩
  simp only [foldl_apply]
  exact
    { check := rfl
      level := rfl
      file := rfl
      place := mainFileRange?_eq_some_iff.1 hrange
      start := rfl
      stop := rfl
      message := hmessage rfl
      fixit := fun fix => getLast?_filterMap_iff (Step.fixit?_eq_some_iff u)
      alternatives := filterMap_alternative tier steps
      rungs := forall₂_isSaid tier steps }

/-- Whatever the steps are, composing them gives no finding at a tier and none at a higher one
exactly if the node has no place in the main file. Otherwise there is one at both tiers, made of the
same steps; the two differ in their notes only, name the same facilities, and the higher one has
every remark of the lower one. -/
theorem compose_at_tiers {low high : Tier} (hle : low ≤ high) (u : TranslationUnit)
    (check : Descriptor) (anchor : Nat) (steps : List Step) :
    (compose u low check anchor steps = none ↔ ∀ range, ¬ u.IsPlace anchor range) ∧
      (compose u high check anchor steps = none ↔ ∀ range, ¬ u.IsPlace anchor range) ∧
      ((∃ range, u.IsPlace anchor range) →
        ∃ f g, compose u low check anchor steps = some f ∧
          compose u high check anchor steps = some g ∧
          f.Composed u low check anchor steps ∧ g.Composed u high check anchor steps ∧
          f.Raised g) := by
  refine ⟨compose_eq_none_iff, compose_eq_none_iff, ?_⟩
  rintro ⟨range, hplace⟩
  have hraised := compose_raised hle u check anchor steps
  cases hlow : compose u low check anchor steps with
  | none => exact absurd hplace (compose_eq_none_iff.1 hlow range)
  | some f =>
    cases hhigh : compose u high check anchor steps with
    | none => exact absurd hplace (compose_eq_none_iff.1 hhigh range)
    | some g =>
      rw [hlow, hhigh, Option.rel_some_some] at hraised
      exact ⟨f, g, rfl, rfl, composed_of_compose hlow, composed_of_compose hhigh, hraised⟩

/-- Steps with two messages, a facility and a remark that the lower tier does not have, and two
replacements, of which the second is for a blank text. -/
theorem compose_at_tiers_print :
    let u : TranslationUnit := .ofDocument
      { source := "std::cout << x;"
        root := .mk { kind := .translationUnitDecl }
          [.mk { kind := .declRefExpr "std::cout", range := some ⟨0, 9⟩ } [],
            .mk { kind := .unknown, range := some ⟨9, 10⟩ } []] } (.ofTier .cpp17)
    let steps : List Step :=
      [.message "a stream" [], .fixit 1 "std::print", .upgrade "std::print" .cpp23 "use std::print",
        .noteAtLeast .cpp20 "std::format is there", .message "{0} is slow" ["std::cout"],
        .fixit 2 ""]
    let check := Checks.avoidCoutCerr.descriptor
    Tier.cpp17 ≤ Tier.cpp23 ∧ u.IsPlace 1 ⟨0, 9⟩ ∧
      ∃ f g, compose u .cpp17 check 1 steps = some f ∧ compose u .cpp23 check 1 steps = some g ∧
        f.Composed u .cpp17 check 1 steps ∧ g.Composed u .cpp23 check 1 steps ∧ f.Raised g := by
  intro u steps check
  have hle : Tier.cpp17 ≤ Tier.cpp23 := by decide
  have hplace : u.IsPlace 1 ⟨0, 9⟩ := mainFileRange?_eq_some_iff.1 (by decide +kernel)
  exact ⟨hle, hplace, (compose_at_tiers hle u check 1 steps).2.2 ⟨_, hplace⟩⟩

end CppAdvice
