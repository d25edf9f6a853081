import CppAdvice.Proofs.Walk
import Mathlib.Data.List.Basic
import Mathlib.Tactic.Lemma
import Mathlib.Tactic.SplitIfs

/-!
# Reports of matches

A run read match by match: every match is reported or not (`Engine.reported?`), whatever the other
matches are, and the findings on a unit are what is reported of its matches (`analyze_eq`). A report
is of the check that matched, so leaving checks out leaves out their matches and their reports, and
nothing else (`hits_filter`, `filter_reported?`).
-/

namespace CppAdvice

open CppAdvice.Language

/-- What is reported of a match, if anything. -/
def Engine.reported? (e : Engine) (u : TranslationUnit) (tier : Tier) (hit : Hit) :
    Option Finding :=
  ((hit.finding? u tier).filter fun finding =>
    !(Suppression.Coverage.ofSource u.source).covers finding.start.row finding.check &&
      e.settings.levelFor finding.check.id ≠ .allow).map
    fun finding => { finding with level := e.settings.levelFor finding.check.id }

/-- What is handed on of matches is what is reported of each. -/
lemma passed_candidates (e : Engine) (u : TranslationUnit) (found : List Hit) :
    e.passed (.ofSource u.source) (e.candidates u found) =
      found.filterMap (e.reported? u u.language.tier) := by
  rw [Engine.passed, Engine.candidates, List.filter_filter, List.filter_filterMap,
    List.map_filterMap]
  rfl

/-- The findings on a unit are those reported of its matches. -/
lemma analyze_eq (e : Engine) (u : TranslationUnit) :
    e.analyze u =
      (hits (e.registry.eligible u.language) u).filterMap (e.reported? u u.language.tier) := by
  rw [Engine.analyze, Engine.run_eq_lists, passed_candidates]

/-- A finding is of the check that matched. -/
lemma check_of_finding? {u : TranslationUnit} {tier : Tier} {hit : Hit} {finding : Finding}
    (h : hit.finding? u tier = some finding) : finding.check = hit.check.descriptor := by
  obtain ⟨advice, _, hcompose⟩ := Option.bind_eq_some_iff.1 h
  obtain ⟨range, _, rfl⟩ := Option.map_eq_some_iff.1 hcompose
  rfl

/-- A report is of the check that matched. -/
lemma check_of_reported? {e : Engine} {u : TranslationUnit} {tier : Tier} {hit : Hit}
    {finding : Finding} (h : e.reported? u tier hit = some finding) :
    finding.check = hit.check.descriptor := by
  obtain ⟨found, hfound, rfl⟩ := Option.map_eq_some_iff.1 h
  have hcheck := check_of_finding? (Option.filter_eq_some_iff.1 hfound).1
  exact hcheck

section

variable {e e' : Engine} {hit : Hit}

/-- Nothing is reported of a check that may not report. -/
lemma reported?_eq_none (h : e.settings.levelFor hit.check.descriptor.id = .allow)
    (u : TranslationUnit) (tier : Tier) : e.reported? u tier hit = none := by
  rw [Engine.reported?]
  cases hfinding : hit.finding? u tier with
  | none => rfl
  | some finding => simp [Option.filter_some, check_of_finding? hfinding, h]

/-- What is reported of a match depends on the level of its check alone. -/
lemma reported?_congr
    (h : e.settings.levelFor hit.check.descriptor.id = e'.settings.levelFor hit.check.descriptor.id)
    (u : TranslationUnit) (tier : Tier) : e.reported? u tier hit = e'.reported? u tier hit := by
  rw [Engine.reported?, Engine.reported?]
  cases hfinding : hit.finding? u tier with
  | none => rfl
  | some finding =>
    have hlevel : e.settings.levelFor finding.check.id = e'.settings.levelFor finding.check.id := by
      rwa [check_of_finding? hfinding]
    rw [Option.filter_some, Option.filter_some, hlevel]
    split_ifs
    · rw [Option.map_some, Option.map_some, hlevel]
    · rfl

end

/-- What is reported of a match is of its check. -/
lemma filter_reported? (e : Engine) (u : TranslationUnit) (tier : Tier) (hit : Hit)
    (p : Descriptor → Bool) : (e.reported? u tier hit).filter (p ·.check) =
      if p hit.check.descriptor then e.reported? u tier hit else none := by
  cases hreported : e.reported? u tier hit with
  | none => split_ifs <;> rfl
  | some finding => rw [Option.filter_some, check_of_reported? hreported]

/-- A match of a check is of that check. -/
lemma check_of_mem_hitsAt {check : Check} {u : TranslationUnit} {node : Nat} {hit : Hit}
    (h : hit ∈ check.hitsAt u node) : hit.check = check := by
  obtain ⟨rule, _, h⟩ := List.mem_filterMap.1 h
  obtain ⟨b, _, rfl⟩ := Option.map_eq_some_iff.1 h
  rfl

/-- The matches of a check are its own. -/
lemma filter_hitsAt (check : Check) (p : Check → Bool) (u : TranslationUnit) (node : Nat) :
    (check.hitsAt u node).filter (p ·.check) = if p check then check.hitsAt u node else [] := by
  split_ifs with hp
  · rw [List.filter_eq_self]
    intro hit hhit
    rw [check_of_mem_hitsAt hhit, hp]
  · rw [List.filter_eq_nil_iff]
    intro hit hhit
    rwa [check_of_mem_hitsAt hhit]

/-- A match is of one of the checks that were tried. -/
lemma check_mem_of_mem_hits {checks : List Check} {u : TranslationUnit} {hit : Hit}
    (h : hit ∈ hits checks u) :
    hit.check ∈ checks := by
  obtain ⟨node, _, h⟩ := List.mem_flatMap.1 h
  obtain ⟨check, hcheck, h⟩ := List.mem_flatMap.1 h
  rwa [check_of_mem_hitsAt h]

/-- A match of the check in a run over the unit. -/
def Engine.Matched (e : Engine) (u : TranslationUnit) (check : Check) (hit : Hit) : Prop :=
  hit ∈ hits (e.registry.eligible u.language) u ∧ hit.check = check

/-- What it takes for a rule of a check to match in a run. -/
lemma Engine.matched_iff {e : Engine} {u : TranslationUnit} {check : Check} {hit : Hit} :
    e.Matched u check hit ↔ check ∈ e.registry.eligible u.language ∧ hit.node < u.size ∧
      hit.check = check ∧
      hit.rule ∈ check.rules ∧ hit.rule.matcher.match? u hit.node = some hit.bindings := by
  constructor
  · rintro ⟨h, rfl⟩
    obtain ⟨node, hnode, h⟩ := List.mem_flatMap.1 h
    obtain ⟨check, hcheck, h⟩ := List.mem_flatMap.1 h
    obtain ⟨rule, hrule, h⟩ := List.mem_filterMap.1 h
    obtain ⟨b, hb, rfl⟩ := Option.map_eq_some_iff.1 h
    exact ⟨hcheck, List.mem_range.1 hnode, rfl, hrule, hb⟩
  · obtain ⟨node, check', rule, b⟩ := hit
    rintro ⟨hcheck, hnode, rfl, hrule, hb⟩
    refine ⟨List.mem_flatMap.2
      ⟨node, List.mem_range.2 hnode, List.mem_flatMap.2 ⟨check', hcheck, ?_⟩⟩, rfl⟩
    exact List.mem_filterMap.2 ⟨rule, hrule, Option.map_eq_some_iff.2 ⟨b, hb, rfl⟩⟩

/-- A check runs on units of its tier and above. -/
lemma Engine.mem_eligible {e : Engine} {u : TranslationUnit} {check : Check}
    (h : check ∈ e.registry.checks) (hlanguage : u.language.cplusplus = true)
    (htier : check.descriptor.minTier ≤ u.language.tier) :
    check ∈ e.registry.eligible u.language := by
  refine List.mem_filter.2 ⟨h, ?_⟩
  rw [Descriptor.isEligible, hlanguage, Bool.true_and, Language.Tier.atLeast, decide_eq_true_iff]
  exact htier

/-- Advice is a finding exactly if it is on a node that was written in the main file. -/
lemma Hit.isSome_finding? {hit : Hit} {u : TranslationUnit} {tier : Language.Tier} {a : Advice}
    (h : hit.rule.verdict u hit.bindings = some a) :
    (hit.finding? u tier).isSome = (u.mainFileRange? a.anchor).isSome := by
  rw [finding?, h, Option.bind_some, compose, Option.isSome_map]

/-- The matches of a check with a single rule at a node are those of the rule. -/
lemma Engine.exists_matched_iff {e : Engine} {u : TranslationUnit} {check : Check} {rule : Rule}
    {node : Nat} {P : Hit → Prop} (hruns : check ∈ e.registry.eligible u.language)
    (hrules : check.rules = [rule]) (hnode : node < u.size) :
    (∃ hit, e.Matched u check hit ∧ hit.node = node ∧ P hit) ↔
      ∃ b, rule.matcher.match? u node = some b ∧ P ⟨node, check, rule, b⟩ := by
  simp only [matched_iff, hrules, List.mem_singleton]
  constructor
  · rintro ⟨⟨node, check, rule, b⟩, ⟨-, -, rfl, rfl, hmatch⟩, rfl, hP⟩
    exact ⟨b, hmatch, hP⟩
  · rintro ⟨b, hmatch, hP⟩
    exact ⟨⟨node, check, rule, b⟩, ⟨hruns, hnode, rfl, rfl, hmatch⟩, rfl, hP⟩

/-- The matches of some of the checks are the matches of all checks that are theirs. -/
lemma hits_filter (checks : List Check) (p : Check → Bool) (u : TranslationUnit) :
    hits (checks.filter p) u = (hits checks u).filter (p ·.check) := by
  rw [hits, hits, List.filter_flatMap]
  apply List.flatMap_congr
  intro node _
  rw [List.filter_flatMap]
  simp only [filter_hitsAt]
  induction checks with
  | nil => rfl
  | cons check checks ih =>
    cases hp : p check with
    | true => rw [List.filter_cons_of_pos hp, List.flatMap_cons, List.flatMap_cons, ih, if_pos hp]
    | false =>
      rw [List.filter_cons_of_neg (by rw [hp]; exact Bool.false_ne_true), List.flatMap_cons, ih,
        if_neg (by rw [hp]; exact Bool.false_ne_true), List.nil_append]

end CppAdvice
