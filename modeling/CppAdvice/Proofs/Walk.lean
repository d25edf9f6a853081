import CppAdvice.Engine
import Mathlib.Data.List.Basic
import Mathlib.Tactic.Lemma

/-!
# The walk as a list of matches

The loops of a walk take one match after another (`Engine.take`), so a walk is a fold over the list
of all matches (`walk_eq_foldl`). What such a fold does to the findings and to the counts is said
once (`foldl_take`), by what one match does to them (`take_eq`), and a run can be read off the list
of its matches (`run_eq_lists`).
-/

namespace CppAdvice

/-- The matches of a check at a node, in the order of its rules. -/
def Check.hitsAt (check : Check) (u : TranslationUnit) (node : Nat) : List Hit :=
  check.rules.filterMap fun rule =>
    (rule.matcher.match? u node).map fun bindings => { node, check, rule, bindings }

/-- The matches of several checks, by node, check and rule. -/
def hits (checks : List Check) (u : TranslationUnit) : List Hit :=
  u.preorder.flatMap fun node => checks.flatMap fun check => check.hitsAt u node

namespace Engine

variable (e : Engine) (u : TranslationUnit)

/-- The findings that matches lead to, of checks that may report, whether a comment silences them or
not. -/
def candidates (found : List Hit) : List Finding :=
  (found.filterMap (·.finding? u u.language.tier)).filter fun finding =>
    e.settings.levelFor finding.check.id ≠ .allow

/-- What a walk does with a match. -/
def take (coverage : Suppression.Coverage) (p : Progress) (hit : Hit) : Progress :=
  e.report coverage { p with hits := p.hits + 1 } (hit.finding? u u.language.tier)

/-- Trying the rules of a check at a node takes its matches there. -/
lemma foldl_tryRule (coverage : Suppression.Coverage) (node : Nat) (check : Check) (p : Progress) :
    check.rules.foldl (e.tryRule u coverage node check) p =
      (check.hitsAt u node).foldl (e.take u coverage) p := by
  rw [Check.hitsAt, List.foldl_filterMap]
  congr 1
  funext p rule
  rw [tryRule]
  cases rule.matcher.match? u node <;> rfl

/-- A walk takes the matches one after another. -/
lemma walk_eq_foldl (coverage : Suppression.Coverage) (checks : List Check) (p : Progress) :
    e.walk u coverage checks p = (hits checks u).foldl (e.take u coverage) p := by
  rw [walk, hits, List.foldl_flatMap]
  congr 1
  funext p node
  rw [List.foldl_flatMap]
  congr 1
  funext p check
  exact e.foldl_tryRule u coverage node check p

/-- The findings of a first match come before those of the others. -/
lemma candidates_cons (hit : Hit) (found : List Hit) :
    e.candidates u (hit :: found) = e.candidates u [hit] ++ e.candidates u found := by
  rw [candidates, candidates, candidates, ← List.filter_append, ← List.filterMap_append,
    List.singleton_append]

/-- What is handed on of findings of checks that may report. -/
def passed (coverage : Suppression.Coverage) (findings : List Finding) : List Finding :=
  (findings.filter fun finding => !coverage.covers finding.start.row finding.check).map
    fun finding => { finding with level := e.settings.levelFor finding.check.id }

/-- The findings that a comment silences. -/
def silenced (coverage : Suppression.Coverage) (findings : List Finding) : List Finding :=
  findings.filter fun finding => coverage.covers finding.start.row finding.check

/-- What has been done once findings of checks that may report have been dealt with, and `n` more
matches counted. -/
def after (coverage : Suppression.Coverage) (p : Progress) (n : Nat) (findings : List Finding) :
    Progress where
  sink := p.sink ++ (e.passed coverage findings).toArray
  hits := p.hits + n
  emitted := p.emitted + (e.passed coverage findings).length
  suppressed := p.suppressed + (silenced coverage findings).length

/-- Dealing with some findings and then with others is dealing with both. -/
lemma after_append (coverage : Suppression.Coverage) (p : Progress) (n m : Nat)
    (xs ys : List Finding) :
    e.after coverage (e.after coverage p n xs) m ys = e.after coverage p (n + m) (xs ++ ys) := by
  have hpassed : e.passed coverage (xs ++ ys) = e.passed coverage xs ++ e.passed coverage ys := by
    rw [passed, passed, passed, List.filter_append, List.map_append]
  have hsilenced : silenced coverage (xs ++ ys) = silenced coverage xs ++ silenced coverage ys :=
    List.filter_append xs ys
  simp only [after, hpassed, hsilenced, List.length_append, Nat.add_assoc, Array.append_assoc,
    List.append_toArray]

/-- One match is counted, and leads to at most one finding, which is handed on, silenced or
dropped. -/
lemma take_eq (coverage : Suppression.Coverage) (p : Progress) (hit : Hit) :
    e.take u coverage p hit = e.after coverage p 1 (e.candidates u [hit]) := by
  rw [take, candidates, List.filterMap_cons, List.filterMap_nil]
  cases hit.finding? u u.language.tier with
  | none => rfl
  | some finding =>
    rw [report]
    by_cases hlevel : e.settings.levelFor finding.check.id = .allow
    · simp [hlevel, after, passed, silenced]
    · by_cases hcovered : coverage.covers finding.start.row finding.check = true
      · simp [hlevel, hcovered, after, passed, silenced]
      · simp [hlevel, hcovered, after, passed, silenced]

/-- What a walk does is read off its matches. -/
lemma foldl_take (coverage : Suppression.Coverage) (found : List Hit) (p : Progress) :
    found.foldl (e.take u coverage) p = e.after coverage p found.length (e.candidates u found) := by
  induction found generalizing p with
  | nil => simp [after, passed, silenced, candidates]
  | cons hit found ih =>
    rw [List.foldl_cons, ih, take_eq, after_append, ← candidates_cons, List.length_cons,
      Nat.add_comm]

/-- The findings and counts of a run into a sink, by the list of its matches. -/
lemma analyzeInto_eq (sink : Array Finding) :
    let coverage := Suppression.Coverage.ofSource u.source
    let found := hits (e.registry.eligible u.language) u
    e.analyzeInto u sink =
      ({ tier := u.language.tier
         eligible := (e.registry.eligible u.language).length
         hits := found.length
         emitted := (e.passed coverage (e.candidates u found)).length
         suppressed := (silenced coverage (e.candidates u found)).length },
        sink ++ (e.passed coverage (e.candidates u found)).toArray) := by
  intro coverage found
  rw [analyzeInto, walk_eq_foldl, foldl_take]
  simp only [after, Nat.zero_add]
  rfl

/-- The outcome of a run, by the list of its matches. -/
lemma run_eq_lists :
    let coverage := Suppression.Coverage.ofSource u.source
    let found := hits (e.registry.eligible u.language) u
    e.run u =
      { tier := u.language.tier
        eligible := (e.registry.eligible u.language).length
        hits := found.length
        emitted := (e.passed coverage (e.candidates u found)).length
        suppressed := (silenced coverage (e.candidates u found)).length
        findings := e.passed coverage (e.candidates u found) } := by
  intro coverage found
  rw [run, analyzeInto_eq]
  simp only [Array.empty_append]
  rfl

/-- A run leaves what is in the sink, and puts the findings on the unit behind it. -/
lemma toList_analyzeInto (sink : Array Finding) :
    (e.analyzeInto u sink).2.toList = sink.toList ++ e.analyze u := by
  rw [analyze, run_eq_lists, analyzeInto_eq, Array.toList_append]

end Engine

end CppAdvice
