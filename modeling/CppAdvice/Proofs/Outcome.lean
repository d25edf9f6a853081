import CppAdvice.Matcher.Basic
import CppAdvice.Proofs.Latest

/-!
# What a matcher says about a node

A matcher is run with one set of labels that it writes to as it goes. This module says what a
matcher means without any labels given: its outcome at a node is either no match, or a match with
the labels that the matcher itself puts on nodes. Conditions are predicates, `allOf` is a
conjunction from left to right, `anyOf` and the routes take the first alternative or node that
matches, `not` has no labels, and `bind` adds its label after those of its inner matcher.

Running a matcher amounts to its outcome whatever labels are given (`answers_run`): the run succeeds
exactly when the outcome is a match, and then the given labels are overlaid with those of the
outcome. A failed run may leave any labels behind, so the proof rests on every choice starting again
from the labels before it.
-/

namespace CppAdvice

namespace Matcher

namespace Bindings

/-- Labels that are given anew on top of others. -/
def overlay (b d : Bindings) : Bindings :=
  ⟨d.nodes ++ b.nodes.filter fun entry => (d.get? entry.1).isNone⟩

/-- A label that was just put on a node is on that node; the others stay. -/
lemma get?_insert (b : Bindings) (label other : String) (id : Nat) :
    (b.insert label id).get? other = if other = label then some id else b.get? other :=
  lookup_replace b.nodes label other id

/-- A label is looked up in the newer labels first. -/
lemma get?_overlay (b d : Bindings) (label : String) :
    (b.overlay d).get? label = (d.get? label).or (b.get? label) := by
  rw [get?, overlay, List.lookup_append, lookup_filter b.nodes (fun l => (d.get? l).isNone)]
  cases h : d.get? label with
  | none =>
    rw [get?] at h
    simp [h, get?]
  | some id =>
    rw [get?] at h
    simp [h]

/-- No labels put over others change nothing. -/
lemma overlay_empty (b : Bindings) : b.overlay {} = b := by
  simp [overlay, get?, List.filter_eq_self.2]

/-- Labels put over none are those labels. -/
lemma empty_overlay (d : Bindings) : overlay {} d = d := by
  simp [overlay]

/-- Labels given in three steps. -/
lemma overlay_assoc (b d e : Bindings) : (b.overlay d).overlay e = b.overlay (d.overlay e) := by
  have hkeep : ∀ entry : String × Nat,
      ((d.overlay e).get? entry.1).isNone =
        ((e.get? entry.1).isNone && (d.get? entry.1).isNone) := by
    intro entry
    rw [get?_overlay, Option.isNone_or]
  have hb : b.overlay (d.overlay e) =
      ⟨(d.overlay e).nodes ++
        b.nodes.filter fun entry => (e.get? entry.1).isNone && (d.get? entry.1).isNone⟩ := by
    rw [overlay]
    simp only [hkeep]
  rw [hb]
  simp only [overlay, List.filter_append, List.filter_filter, List.append_assoc]

/-- A label that is put on a node after others. -/
lemma overlay_insert (b d : Bindings) (label : String) (id : Nat) :
    b.overlay (d.insert label id) = (b.overlay d).insert label id := by
  have hkeep : ∀ entry : String × Nat, ((d.insert label id).get? entry.1).isNone =
      (decide (entry.1 ≠ label) && (d.get? entry.1).isNone) := by
    intro entry
    rw [get?_insert]
    by_cases h : entry.1 = label
    · simp [h]
    · simp [h]
  have hb : b.overlay (d.insert label id) =
      ⟨(d.insert label id).nodes ++
        b.nodes.filter fun entry => decide (entry.1 ≠ label) && (d.get? entry.1).isNone⟩ := by
    rw [overlay]
    simp only [hkeep]
  rw [hb]
  simp only [insert, overlay, List.filter_append, List.filter_filter, List.cons_append]

end Bindings

open Bindings

/-- A match of each of several parts, one after another. -/
def conjunction : List (Option Bindings) → Option Bindings
  | [] => some {}
  | outcome :: outcomes => outcome.bind fun d => (conjunction outcomes).map d.overlay

mutual

/-- What a matcher says about a node: no match, or the labels that it puts on nodes. -/
def outcome (u : TranslationUnit) : Matcher → (id : Nat) → Option Bindings
  | .test condition, id => if condition.holds u id then some {} else none
  | .reach route inner, id => (route.targets u id).findSome? fun target => inner.outcome u target
  | .allOf matchers, id => conjunction (outcomes u matchers id)
  | .anyOf matchers, id => (outcomes u matchers id).findSome? fun outcome => outcome
  | .not inner, id => if (inner.outcome u id).isNone then some {} else none
  | .bind label inner, id => (inner.outcome u id).map fun d => d.insert label id

/-- What several matchers say about a node. -/
def outcomes (u : TranslationUnit) : List Matcher → (id : Nat) → List (Option Bindings)
  | [], _ => []
  | matcher :: matchers, id => matcher.outcome u id :: outcomes u matchers id

end

/-- A run from given labels amounts to an outcome. What a failed run leaves behind does not
matter. -/
def Answers (b : Bindings) : Option Bindings → Bool × Bindings → Prop
  | some d, result => result = (true, b.overlay d)
  | none, result => result.1 = false

/-- A failed run amounts to no match. -/
lemma Answers.none_iff {b : Bindings} {result : Bool × Bindings} :
    Answers b none result ↔ ∃ left, result = (false, left) := by
  obtain ⟨found, left⟩ := result
  constructor
  · intro h
    exact ⟨left, Prod.ext h rfl⟩
  · rintro ⟨left', h⟩
    rw [h]
    rfl

/-- Trying candidates in turn amounts to the outcome of the first that matches. -/
lemma answers_firstSuccess {b : Bindings} {attempt : Nat → Bindings → Bool × Bindings}
    {outcome : Nat → Option Bindings} (h : ∀ id, Answers b (outcome id) (attempt id b))
    (candidates : List Nat) :
    Answers b (candidates.findSome? outcome) (firstSuccess attempt candidates b) := by
  induction candidates with
  | nil => rfl
  | cons id candidates ih =>
    have hid := h id
    rw [List.findSome?_cons, firstSuccess]
    cases ho : outcome id with
    | none =>
      rw [ho, Answers.none_iff] at hid
      obtain ⟨left, hleft⟩ := hid
      rw [hleft]
      exact ih
    | some d =>
      rw [ho] at hid
      rw [show attempt id b = (true, b.overlay d) from hid]
      rfl

/-- A route without a choice leads to one node at most. -/
lemma targets_of_not_choice (u : TranslationUnit) (id : Nat) {route : Route}
    (h : route.isChoice = false) :
    route.targets u id = [] ∨ ∃ target, route.targets u id = [target] := by
  have htoList : ∀ (o : Option Nat) (f : Nat → Nat),
      o.toList.map f = [] ∨ ∃ target, o.toList.map f = [target] := by
    intro o f
    cases o with
    | none => exact .inl rfl
    | some target => exact .inr ⟨f target, rfl⟩
  cases route with
  | argument index =>
    rw [Route.targets]
    split
    · exact htoList _ _
    · exact .inl rfl
  | object =>
    rw [Route.targets]
    split
    · exact htoList _ _
    · exact .inl rfl
  | initializer =>
    rw [Route.targets]
    split
    · exact htoList _ _
    · exact .inl rfl
  | enclosingFunction =>
    rw [Route.targets]
    cases (u.ancestors id).find? fun a => u.tag a = .functionDecl with
    | none => exact .inl rfl
    | some target => exact .inr ⟨target, rfl⟩
  | anyArgument => cases h
  | operand => cases h
  | descendant => cases h

mutual

/-- Running a matcher amounts to its outcome, whatever labels are given. -/
lemma answers_run (u : TranslationUnit) :
    ∀ (m : Matcher) (id : Nat) (b : Bindings), Answers b (m.outcome u id) (m.run u id b)
  | .test condition, id, b => by
    rw [outcome, run]
    cases condition.holds u id with
    | false => rfl
    | true => exact Prod.ext rfl (overlay_empty b).symm
  | .reach route inner, id, b => by
    rw [outcome, run]
    cases hc : route.isChoice with
    | true => exact answers_firstSuccess (fun target => answers_run u inner target b) _
    | false =>
      -- Without a choice the inner matcher writes into the given labels.
      obtain ht | ⟨target, ht⟩ := targets_of_not_choice u id hc
      · rw [ht]
        rfl
      · rw [ht, List.findSome?_cons, List.findSome?_nil]
        have htarget := answers_run u inner target b
        cases ho : inner.outcome u target with
        | none => rwa [ho] at htarget
        | some d => rwa [ho] at htarget
  | .allOf matchers, id, b => by
    rw [outcome, run]
    exact answers_runAll u matchers id b
  | .anyOf matchers, id, b => by
    rw [outcome, run]
    exact answers_runAny u matchers id b
  | .not inner, id, b => by
    rw [outcome, run]
    have hinner := answers_run u inner id b
    cases ho : inner.outcome u id with
    | none =>
      rw [ho, Answers.none_iff] at hinner
      obtain ⟨left, hleft⟩ := hinner
      rw [hleft]
      exact Prod.ext rfl (overlay_empty b).symm
    | some d =>
      rw [ho] at hinner
      rw [show inner.run u id b = (true, b.overlay d) from hinner]
      rfl
  | .bind label inner, id, b => by
    rw [outcome, run]
    have hinner := answers_run u inner id b
    cases ho : inner.outcome u id with
    | none =>
      rw [ho, Answers.none_iff] at hinner
      obtain ⟨left, hleft⟩ := hinner
      rw [hleft]
      rfl
    | some d =>
      rw [ho] at hinner
      rw [show inner.run u id b = (true, b.overlay d) from hinner]
      exact Prod.ext rfl (overlay_insert b d label id).symm

/-- Running matchers one after another amounts to the conjunction of their outcomes. -/
lemma answers_runAll (u : TranslationUnit) :
    ∀ (matchers : List Matcher) (id : Nat) (b : Bindings),
      Answers b (conjunction (outcomes u matchers id)) (runAll u matchers id b)
  | [], id, b => by
    rw [outcomes, conjunction, runAll]
    exact Prod.ext rfl (overlay_empty b).symm
  | matcher :: matchers, id, b => by
    rw [outcomes, conjunction, runAll]
    have hfirst := answers_run u matcher id b
    cases ho : matcher.outcome u id with
    | none =>
      rw [ho, Answers.none_iff] at hfirst
      obtain ⟨left, hleft⟩ := hfirst
      rw [hleft]
      rfl
    | some d =>
      rw [ho] at hfirst
      rw [show matcher.run u id b = (true, b.overlay d) from hfirst]
      have hrest := answers_runAll u matchers id (b.overlay d)
      cases hr : conjunction (outcomes u matchers id) with
      | none => rwa [hr] at hrest
      | some e =>
        rw [hr] at hrest
        exact hrest.trans (Prod.ext rfl (overlay_assoc b d e))

/-- Trying matchers in turn amounts to the first of their outcomes that is a match. -/
lemma answers_runAny (u : TranslationUnit) :
    ∀ (matchers : List Matcher) (id : Nat) (b : Bindings),
      Answers b ((outcomes u matchers id).findSome? fun outcome => outcome) (runAny u matchers id b)
  | [], id, b => by
    rw [outcomes, runAny]
    rfl
  | matcher :: matchers, id, b => by
    rw [outcomes, runAny, List.findSome?_cons]
    have hfirst := answers_run u matcher id b
    cases ho : matcher.outcome u id with
    | none =>
      rw [ho, Answers.none_iff] at hfirst
      obtain ⟨left, hleft⟩ := hfirst
      rw [hleft]
      exact answers_runAny u matchers id b
    | some d =>
      rw [ho] at hfirst
      rw [show matcher.run u id b = (true, b.overlay d) from hfirst]
      rfl

end

/-- A match of a matcher is its outcome. -/
lemma match?_eq_outcome (m : Matcher) (u : TranslationUnit) (id : Nat) :
    m.match? u id = m.outcome u id := by
  have h := answers_run u m id {}
  rw [match?]
  cases ho : m.outcome u id with
  | none =>
    rw [ho, Answers.none_iff] at h
    obtain ⟨left, hleft⟩ := h
    rw [hleft]
  | some d =>
    rw [ho] at h
    rw [show m.run u id {} = (true, overlay {} d) from h, empty_overlay]

/-- A conjunction that is cut anywhere. -/
lemma conjunction_append (xs ys : List (Option Bindings)) :
    conjunction (xs ++ ys) = (conjunction xs).bind fun d => (conjunction ys).map d.overlay := by
  induction xs with
  | nil => cases h : conjunction ys <;> simp [conjunction, h, empty_overlay]
  | cons x xs ih =>
    rw [List.cons_append, conjunction, conjunction, ih]
    cases x with
    | none => rfl
    | some d =>
      cases conjunction xs with
      | none => rfl
      | some e =>
        cases conjunction ys with
        | none => rfl
        | some f => simp [overlay_assoc]

/-- The outcomes of several matchers, the last one apart. -/
lemma outcomes_concat (u : TranslationUnit) (matchers : List Matcher) (m : Matcher) (id : Nat) :
    outcomes u (matchers ++ [m]) id = outcomes u matchers id ++ [m.outcome u id] := by
  induction matchers with
  | nil => rfl
  | cons matcher matchers ih => rw [List.cons_append, outcomes, outcomes, ih, List.cons_append]

/-- A list of conditions that grows by one is the conjunction of the list and the new condition. -/
lemma outcome_and (u : TranslationUnit) (m other : Matcher) (id : Nat) :
    (m.and other).outcome u id = (Matcher.allOf [m, other]).outcome u id := by
  cases m with
  | allOf matchers =>
    have hpair : (Matcher.allOf [.allOf matchers, other]).outcome u id =
        (conjunction (outcomes u matchers id)).bind fun d =>
          (conjunction [other.outcome u id]).map d.overlay := by
      simp only [outcome, outcomes, conjunction]
    rw [Matcher.and, hpair, outcome, outcomes_concat, conjunction_append]
  | test condition => rfl
  | reach route inner => rfl
  | anyOf matchers => rfl
  | not inner => rfl
  | bind label inner => rfl

/-- A run with one set of labels that is written to amounts to the outcome of the matcher, which
depends on no given labels: it succeeds exactly when the outcome is a match, and then the given
labels are overlaid with those of the outcome. Joining two matchers is the conjunction of both. -/
theorem run_refines_outcome (u : TranslationUnit) (m : Matcher) (id : Nat) :
    (∀ b, Answers b (m.outcome u id) (m.run u id b)) ∧
      m.match? u id = m.outcome u id ∧
      (∀ other, (m.and other).outcome u id = (Matcher.allOf [m, other]).outcome u id) ∧
      ∀ (b d : Bindings) (label : String),
        (b.overlay d).get? label = (d.get? label).or (b.get? label) := by
  refine ⟨?_, ?_, ?_, ?_⟩
  · intro b
    exact answers_run u m id b
  · exact match?_eq_outcome m u id
  · intro other
    exact outcome_and u m other id
  · intro b d label
    exact get?_overlay b d label

end Matcher

end CppAdvice
