import CppAdvice.Proofs.Outcome
import Mathlib.Logic.Relation

/-!
# What a match says, and where its labels are

Whether a matcher matches at a node does not depend on labels, so it is said part by part
(`Matches`): a conjunction by all of its parts, a choice by one of them, a route by one of the nodes
that it leads to. The labels come from the parts too. A part is used by a matcher if a match of it
can be a piece of a match of the matcher (`Uses`), which a negated part is not, and needed if there
is no match without it (`Needs`). A label is on a node at which a used part with that label matches,
and the labels of needed parts are never missing (`labels_of_match`).
-/

namespace CppAdvice.Matcher

open Bindings Relation

/-- The matcher matches at the node. -/
def Matches (m : Matcher) (u : TranslationUnit) (id : Nat) : Prop :=
  (m.match? u id).isSome = true

/-- Whether a matcher matches can be decided. -/
instance (m : Matcher) (u : TranslationUnit) (id : Nat) : Decidable (m.Matches u id) :=
  inferInstanceAs (Decidable (_ = true))

/-- There is no match of the first matcher without a match of the second, which is a part of it. -/
inductive Needs : Matcher → Matcher → Prop where
  | reach {route inner} : Needs (.reach route inner) inner
  | allOf {matchers m} : m ∈ matchers → Needs (.allOf matchers) m
  | bind {label inner} : Needs (.bind label inner) inner

/-- The second matcher is a part of the first that is not negated. -/
inductive Uses : Matcher → Matcher → Prop where
  | needed {m part} : Needs m part → Uses m part
  | anyOf {matchers m} : m ∈ matchers → Uses (.anyOf matchers) m

section

variable {u : TranslationUnit} {id : Nat} {m : Matcher} {b : Bindings}

/-! ### Matches without their labels -/

/-- A matcher matches if it has an outcome. -/
lemma matches_iff : m.Matches u id ↔ ∃ b, m.outcome u id = some b := by
  rw [Matches, match?_eq_outcome, Option.isSome_iff_exists]

/-- The outcomes of several matchers are those of each. -/
lemma outcomes_eq_map (u : TranslationUnit) (matchers : List Matcher) (id : Nat) :
    outcomes u matchers id = matchers.map fun m => m.outcome u id := by
  induction matchers with
  | nil => rfl
  | cons matcher matchers ih => rw [outcomes, ih, List.map_cons]

/-- The parts of a conjunction that matches match. -/
lemma exists_of_mem_conjunction {os : List (Option Bindings)} {o : Option Bindings}
    (h : conjunction os = some b) (ho : o ∈ os) : ∃ d, o = some d := by
  induction os generalizing b with
  | nil => cases ho
  | cons first os ih =>
    obtain ⟨d, rfl, h⟩ := Option.bind_eq_some_iff.1 h
    obtain ⟨e, he, -⟩ := Option.map_eq_some_iff.1 h
    cases ho with
    | head => exact ⟨d, rfl⟩
    | tail _ ho => exact ih he ho

/-- Several parts match together if each of them does. -/
lemma exists_conjunction {os : List (Option Bindings)} (h : ∀ o ∈ os, ∃ d, o = some d) :
    ∃ b, conjunction os = some b := by
  induction os with
  | nil => exact ⟨{}, rfl⟩
  | cons first os ih =>
    obtain ⟨d, rfl⟩ := h first List.mem_cons_self
    obtain ⟨e, he⟩ := ih fun o ho => h o (List.mem_cons_of_mem _ ho)
    refine ⟨d.overlay e, ?_⟩
    rw [conjunction, he]
    rfl

@[simp] lemma matches_test {c : Condition} : (test c).Matches u id ↔ c.holds u id = true := by
  rw [matches_iff, outcome]
  cases c.holds u id with
  | false => simp
  | true => simp

@[simp] lemma matches_reach {route : Route} {inner : Matcher} :
    (reach route inner).Matches u id ↔ ∃ target ∈ route.targets u id, inner.Matches u target := by
  simp only [matches_iff, outcome]
  constructor
  · rintro ⟨b, h⟩
    obtain ⟨target, htarget, h⟩ := List.exists_of_findSome?_eq_some h
    exact ⟨target, htarget, b, h⟩
  · rintro ⟨target, htarget, b, h⟩
    rw [← Option.isSome_iff_exists, List.findSome?_isSome_iff]
    exact ⟨target, htarget, Option.isSome_of_eq_some h⟩

@[simp] lemma matches_allOf {matchers : List Matcher} :
    (allOf matchers).Matches u id ↔ ∀ m ∈ matchers, m.Matches u id := by
  rw [matches_iff, outcome, outcomes_eq_map]
  constructor
  · rintro ⟨b, h⟩ m hm
    exact matches_iff.2 (exists_of_mem_conjunction h (List.mem_map_of_mem hm))
  · intro h
    apply exists_conjunction
    intro o ho
    obtain ⟨m, hm, rfl⟩ := List.mem_map.1 ho
    exact matches_iff.1 (h m hm)

@[simp] lemma matches_bind {label : String} {inner : Matcher} :
    (bind label inner).Matches u id ↔ inner.Matches u id := by
  rw [matches_iff, matches_iff, outcome]
  cases inner.outcome u id with
  | none => simp
  | some d => simp

@[simp] lemma matches_and {other : Matcher} : (m.and other).Matches u id ↔ m.Matches u id ∧
    other.Matches u id := by
  rw [matches_iff, outcome_and, ← matches_iff, matches_allOf]
  simp

@[simp] lemma matches_ofTag {tag : Tree.Tag} : (ofTag tag).Matches u id ↔ u.tag id = tag := by
  rw [ofTag, matches_test, Condition.holds, decide_eq_true_iff]

@[simp] lemma matches_memberCall {methods : List String} :
    (memberCall methods).Matches u id ↔
      ∃ call, u.kind id = .memberCallExpr call ∧
        (Pattern.Name.any methods).covers call.method = true := by
  rw [memberCall, matches_and, matches_ofTag, matches_test, Condition.holds, TranslationUnit.tag]
  cases u.kind id with
  | memberCallExpr call => simp [Tree.Kind.tag]
  | _ => simp [Tree.Kind.tag]

@[simp] lemma matches_callTo {names : List String} :
    (callTo names).Matches u id ↔
      ∃ callee, u.kind id = .callExpr (some callee) ∧
        (Pattern.Name.any names).covers callee = true := by
  rw [callTo, matches_and, matches_ofTag, matches_test, Condition.holds, TranslationUnit.tag]
  cases u.kind id with
  | callExpr callee =>
    cases callee with
    | none => simp
    | some callee => simp [Tree.Kind.tag]
  | _ => simp [Tree.Kind.tag]

@[simp] lemma matches_zeroLiteral : zeroLiteral.Matches u id ↔ u.kind id = .integerLiteral 0 := by
  rw [zeroLiteral, matches_and, matches_ofTag, matches_test, Condition.holds, TranslationUnit.tag]
  cases u.kind id with
  | integerLiteral n => simp [Tree.Kind.tag, eq_comm]
  | _ => simp [Tree.Kind.tag]

@[simp] lemma matches_operatorCall {op : Tree.Opcode} :
    ((ofTag .operatorCallExpr).and (.test (.operator [op]))).Matches u id ↔
      u.kind id = .operatorCallExpr op := by
  rw [matches_and, matches_ofTag, matches_test, Condition.holds, TranslationUnit.tag]
  cases u.kind id with
  | operatorCallExpr op' => simp [Tree.Kind.tag, Tree.Kind.operator?, eq_comm]
  | _ => simp [Tree.Kind.tag]

@[simp] lemma matches_argument {index : Nat} {inner : Matcher} :
    (argument index inner).Matches u id ↔
      (u.tag id).isCallLike = true ∧ ∃ a, (u.arguments id)[index]? = some a ∧
        inner.Matches u (u.skipImplicit a) := by
  rw [argument, matches_reach, Route.targets]
  cases (u.tag id).isCallLike with
  | false => simp
  | true =>
    cases (u.arguments id)[index]? with
    | none => simp
    | some a => simp

@[simp] lemma matches_descendant {inner : Matcher} :
    (descendant inner).Matches u id ↔ ∃ x ∈ u.descendants id, inner.Matches u x := by
  rw [descendant, matches_reach, Route.targets]

/-! ### The labels of a match -/

/-- A label of a conjunction is one of a part. -/
lemma get?_of_conjunction {os : List (Option Bindings)} {label : String} {x : Nat}
    (h : conjunction os = some b) (hx : b.get? label = some x) :
    ∃ d, some d ∈ os ∧ d.get? label = some x := by
  induction os generalizing b with
  | nil =>
    cases h
    cases hx
  | cons first os ih =>
    obtain ⟨d, rfl, h⟩ := Option.bind_eq_some_iff.1 h
    obtain ⟨e, he, rfl⟩ := Option.map_eq_some_iff.1 h
    rw [get?_overlay] at hx
    rcases Option.or_eq_some_iff.1 hx with hx | ⟨-, hx⟩
    · obtain ⟨d', hd', hx⟩ := ih he hx
      exact ⟨d', List.mem_cons_of_mem _ hd', hx⟩
    · exact ⟨d, List.mem_cons_self, hx⟩

/-- A label of a part is one of the conjunction, though a later part may have put it on another
node. -/
lemma isSome_get?_conjunction {os : List (Option Bindings)} {label : String} {d : Bindings}
    (h : conjunction os = some b) (hd : some d ∈ os) (hlabel : (d.get? label).isSome = true) :
    (b.get? label).isSome = true := by
  induction os generalizing b with
  | nil => cases hd
  | cons first os ih =>
    obtain ⟨d', rfl, h⟩ := Option.bind_eq_some_iff.1 h
    obtain ⟨e, he, rfl⟩ := Option.map_eq_some_iff.1 h
    rw [get?_overlay, Option.isSome_or, Bool.or_eq_true]
    cases hd with
    | head => exact .inr hlabel
    | tail _ hd => exact .inl (ih he hd)

/-- A conjunction of two matchers has the labels of both, and those of the second on top. -/
lemma outcome_and_eq_some {other : Matcher} :
    (m.and other).outcome u id = some b ↔
      ∃ d e, m.outcome u id = some d ∧ other.outcome u id = some e ∧ b = d.overlay e := by
  rw [outcome_and]
  simp only [outcome, outcomes, conjunction, Option.map_some, overlay_empty, Option.bind_fun_some,
    Option.bind_eq_some_iff, Option.map_eq_some_iff]
  constructor
  · rintro ⟨d, hd, e, he, rfl⟩
    exact ⟨d, e, hd, he, rfl⟩
  · rintro ⟨d, e, hd, he, rfl⟩
    exact ⟨d, hd, e, he, rfl⟩

/-- A search leaves its label on the first node that matches. -/
lemma find?_of_outcome_reach {route : Route} {label : String} {inner : Matcher}
    (h : (reach route (.bind label inner)).outcome u id = some b) :
    ∃ x, (route.targets u id).find? (inner.Matches u ·) = some x ∧ b.get? label = some x := by
  rw [outcome] at h
  obtain ⟨before, x, after, htargets, hx, hbefore⟩ := List.findSome?_eq_some_iff.1 h
  rw [outcome] at hx
  obtain ⟨d, hd, rfl⟩ := Option.map_eq_some_iff.1 hx
  refine ⟨x, ?_, ?_⟩
  · rw [List.find?_eq_some_iff_append]
    refine ⟨decide_eq_true (matches_iff.2 ⟨d, hd⟩), before, after, htargets, ?_⟩
    intro y hy
    rw [Bool.not_eq_true', decide_eq_false_iff_not, matches_iff]
    rintro ⟨e, he⟩
    have hnone := hbefore y hy
    rw [outcome, he] at hnone
    cases hnone
  · rw [get?_insert, if_pos rfl]

/-- A label is put on a node by a part that is not negated, and what the part asks for is found
there. -/
lemma exists_bind_of_get? {label : String} {x : Nat} :
    ∀ {m : Matcher} {id : Nat} {b : Bindings}, m.outcome u id = some b → b.get? label = some x →
      ∃ inner, ReflTransGen Uses m (.bind label inner) ∧ inner.Matches u x
  | .test c, id, b, h, hx => by
    rw [outcome] at h
    split at h
    · cases h
      cases hx
    · cases h
  | .reach route inner, id, b, h, hx => by
    rw [outcome] at h
    obtain ⟨target, -, h⟩ := List.exists_of_findSome?_eq_some h
    obtain ⟨inner', huses, hmatch⟩ := exists_bind_of_get? h hx
    exact ⟨inner', .head (.needed .reach) huses, hmatch⟩
  | .allOf matchers, id, b, h, hx => by
    rw [outcome, outcomes_eq_map] at h
    obtain ⟨d, hd, hx⟩ := get?_of_conjunction h hx
    obtain ⟨m, hm, hd⟩ := List.mem_map.1 hd
    obtain ⟨inner', huses, hmatch⟩ := exists_bind_of_get? hd hx
    exact ⟨inner', .head (.needed (.allOf hm)) huses, hmatch⟩
  | .anyOf matchers, id, b, h, hx => by
    rw [outcome, outcomes_eq_map] at h
    obtain ⟨o, ho, h⟩ := List.exists_of_findSome?_eq_some h
    obtain ⟨m, hm, rfl⟩ := List.mem_map.1 ho
    obtain ⟨inner', huses, hmatch⟩ := exists_bind_of_get? h hx
    exact ⟨inner', .head (.anyOf hm) huses, hmatch⟩
  | .not inner, id, b, h, hx => by
    rw [outcome] at h
    split at h
    · cases h
      cases hx
    · cases h
  | .bind other inner, id, b, h, hx => by
    rw [outcome] at h
    obtain ⟨d, hd, rfl⟩ := Option.map_eq_some_iff.1 h
    rw [get?_insert] at hx
    split at hx
    case isTrue heq =>
      -- The label is the matcher's own, whatever the inner matcher has done with it.
      cases hx
      subst heq
      exact ⟨inner, .refl, matches_iff.2 ⟨d, hd⟩⟩
    case isFalse =>
      obtain ⟨inner', huses, hmatch⟩ := exists_bind_of_get? hd hx
      exact ⟨inner', .head (.needed .bind) huses, hmatch⟩

/-- A label that a needed part never leaves out is never left out. -/
lemma isSome_get?_of_needs {part : Matcher} {label : String} (hneeds : Needs m part)
    (hpart : ∀ {id d}, part.outcome u id = some d →
      (d.get? label).isSome = true) (h : m.outcome u id = some b) :
    (b.get? label).isSome = true := by
  cases hneeds with
  | reach =>
    rw [outcome] at h
    obtain ⟨target, -, h⟩ := List.exists_of_findSome?_eq_some h
    exact hpart h
  | @allOf matchers _ hm =>
    rw [outcome, outcomes_eq_map] at h
    have hmem : part.outcome u id ∈ matchers.map fun m => m.outcome u id := List.mem_map_of_mem hm
    obtain ⟨d, hd⟩ := exists_of_mem_conjunction h hmem
    exact isSome_get?_conjunction h (hd ▸ hmem) (hpart hd)
  | @bind other _ =>
    rw [outcome] at h
    obtain ⟨d, hd, rfl⟩ := Option.map_eq_some_iff.1 h
    rw [get?_insert]
    split
    · rfl
    · exact hpart hd

/-- A label on a part that is needed is put on a node by every match. -/
lemma isSome_get?_of_reflTransGen {label : String} {inner : Matcher}
    (hneeds : ReflTransGen Needs m (.bind label inner)) (h : m.outcome u id = some b) :
    (b.get? label).isSome = true := by
  induction hneeds using ReflTransGen.head_induction_on generalizing id b with
  | refl =>
    rw [outcome] at h
    obtain ⟨d, -, rfl⟩ := Option.map_eq_some_iff.1 h
    rw [get?_insert, if_pos rfl]
    rfl
  | head hneeds _ ih => exact isSome_get?_of_needs hneeds ih h

end

/-- Every label of a match is on a node at which a part with that label matches on its own, a part
that is not negated; and no label is missing that a part has which is needed for the match. -/
theorem labels_of_match (m : Matcher) (u : TranslationUnit) (id : Nat) (b : Bindings)
    (h : m.match? u id = some b) : (∀ label x, b.get? label = some x →
      ∃ inner, ReflTransGen Uses m (.bind label inner) ∧ inner.Matches u x) ∧
    ∀ label inner, ReflTransGen Needs m (.bind label inner) → ∃ x, b.get? label = some x := by
  rw [match?_eq_outcome] at h
  constructor
  · intro label x hx
    exact exists_bind_of_get? h hx
  · intro label inner hneeds
    exact Option.isSome_iff_exists.1 (isSome_get?_of_reflTransGen hneeds h)

/-- A label that is put on a call, then on its first argument; an alternative that fails and a
negated part have it too. -/
theorem labels_of_match_rebound :
    let u : TranslationUnit := .ofDocument
      { root := .mk { kind := .translationUnitDecl }
          [.mk { kind := .memberCallExpr { method := "erase" } }
            [.mk { kind := .declRefExpr "v" } [],
              .mk { kind := .callExpr (some "std::remove") } []]] } (.ofTier .cpp20)
    let inner := Matcher.callTo ["::std::remove"]
    let m : Matcher := .allOf
      [.bind "call" (.memberCall ["erase"]),
        .not (.descendant (.bind "call" (.ofTag .lambdaExpr))),
        .anyOf [.object (.bind "call" (.ofTag .lambdaExpr)), .argument 0 (.bind "call" inner)]]
    let b : Bindings := ⟨[("call", 3)]⟩
    m.match? u 1 = some b ∧
      (∀ label x, b.get? label = some x →
        ∃ inner, ReflTransGen Uses m (.bind label inner) ∧ inner.Matches u x) ∧
      ∀ label inner, ReflTransGen Needs m (.bind label inner) → ∃ x, b.get? label = some x := by
  intro u inner m b
  have hmatch : m.match? u 1 = some b := by decide +kernel
  exact ⟨hmatch, labels_of_match m u 1 b hmatch⟩

end CppAdvice.Matcher
