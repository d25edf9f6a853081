import CppAdvice.Proofs.Clashes
import CppAdvice.Proofs.Labels
import CppAdvice.Proofs.Reports
import CppAdvice.Proofs.Subtrees
import Mathlib.Order.Bounds.Basic

/-!
# Calls that are looked for anywhere below a node

Two rules look for a call anywhere below the node that they match, and take the first one in
preorder. A start of a string that is compared is looked for below a test for equality, so it can
also be a start that is passed to a function whose result is compared. A call that moves elements to
the end is looked for below a call of `erase`, so it can also be in the object of that call and not
in its arguments. For both rules it is said exactly what they find and when this is what they mean
to find (`preferStartsEndsWith_substr_iff`, `preferEraseIf_iff`).
-/

namespace CppAdvice

open CppAdvice.Tree CppAdvice.Matcher

/-! ### Starts of strings -/

/-- The first of growing numbers with a property is the least. -/
lemma find?_eq_some_iff_isLeast {ids : List Nat} {p : Nat → Prop} [DecidablePred p] {x : Nat}
    (hids : ids.Pairwise (· < ·)) : ids.find? (p ·) = some x ↔ IsLeast {y | y ∈ ids ∧ p y} x := by
  rw [List.find?_eq_some_iff_append, decide_eq_true_iff]
  constructor
  · rintro ⟨hx, before, after, rfl, hbefore⟩
    obtain ⟨-, hafter, -⟩ := List.pairwise_append.1 hids
    refine ⟨⟨List.mem_append_right _ List.mem_cons_self, hx⟩, ?_⟩
    rintro y ⟨hy, hpy⟩
    rcases List.mem_append.1 hy with hy | hy
    · simpa [hpy] using hbefore y hy
    · rcases List.mem_cons.1 hy with rfl | hy
      · exact Nat.le_refl _
      · exact Nat.le_of_lt (List.rel_of_pairwise_cons hafter hy)
  · rintro ⟨⟨hx, hpx⟩, hleast⟩
    obtain ⟨before, after, rfl⟩ := List.append_of_mem hx
    refine ⟨hpx, before, after, rfl, ?_⟩
    intro y hy
    have hlt : y < x := (List.pairwise_append.1 hids).2.2 y hy x List.mem_cons_self
    rw [Bool.not_eq_true', decide_eq_false_iff_not]
    intro hpy
    exact absurd (hleast ⟨List.mem_append_left _ hy, hpy⟩) (Nat.not_le.2 hlt)

namespace TranslationUnit

/-- A call of `substr` that takes the start of a string, on a class that declares `starts_with`. -/
structure TakesStart (u : TranslationUnit) (c : Nat) : Prop where
  call : ∃ call, u.kind c = .memberCallExpr call ∧ Describe.lastSegment call.method = "substr" ∧
    ∃ className, call.className = some className ∧ u.declares className "starts_with" = true
  start : ∃ a, (u.arguments c)[0]? = some a ∧ u.kind (u.skipImplicit a) = .integerLiteral 0

/-- One of the two sides of a test for equality. -/
def IsEquated (u : TranslationUnit) (c : Nat) : Prop :=
  ∃ p, u.kind p = .operatorCallExpr .eq ∧ ∃ x ∈ (u.children p).take 2, u.skipImplicit x = c

end TranslationUnit

namespace Checks

variable {u : TranslationUnit} {c p : Nat}

/-- A member call is matched by the last segment of its method. -/
lemma matches_memberCall_singleton {method : String} (hmethod : ':' ∉ method.toList) :
    (Matcher.memberCall [method]).Matches u c ↔
      ∃ call, u.kind c = .memberCallExpr call ∧ Describe.lastSegment call.method = method := by
  have hcolons : ∀ m ∈ [method], ':' ∉ m.toList := by rwa [List.forall_mem_singleton]
  simp only [matches_memberCall, Pattern.Name.covers_any_iff hcolons, List.mem_singleton]

/-- What is matched as the start of a string. -/
lemma matches_substr : ((stringMethod "substr").and (.argument 0 .zeroLiteral)).Matches u c ↔
    u.TakesStart c := by
  rw [stringMethod, matches_and, matches_and, matches_memberCall_singleton (by decide),
    matches_test, matches_argument, Condition.holds]
  simp only [matches_zeroLiteral]
  constructor
  · rintro ⟨⟨⟨call, hkind, hmethod⟩, hclass⟩, -, hstart⟩
    rw [hkind] at hclass
    obtain ⟨className, hclassName, hdeclares⟩ := Option.any_eq_true .. |>.1 hclass
    exact ⟨⟨call, hkind, hmethod, className, hclassName, hdeclares⟩, hstart⟩
  · rintro ⟨⟨call, hkind, hmethod, className, hclassName, hdeclares⟩, hstart⟩
    refine ⟨⟨⟨call, hkind, hmethod⟩, ?_⟩, ?_, hstart⟩
    · rw [hkind]
      simp [hclassName, hdeclares]
    · rw [TranslationUnit.tag, hkind]
      rfl

/-- The rule on starts of strings that are compared. -/
def substrRule : Rule :=
  preferStartsEndsWith.rules.get ⟨2, by decide⟩

/-- The rule is known by its name. -/
lemma eq_substrRule {rule : Rule} (h : rule ∈ preferStartsEndsWith.rules)
    (hname : rule.name = "substr-eq") :
    rule = substrRule := by
  rcases h with _ | ⟨_, _ | ⟨_, _ | ⟨_, _ | ⟨_, _ | ⟨_, h⟩⟩⟩⟩⟩
  · exact absurd hname (by decide)
  · exact absurd hname (by decide)
  · rfl
  · exact absurd hname (by decide)
  · exact absurd hname (by decide)
  · cases h

/-- The matcher of the rule on starts of strings. -/
lemma matcher_substrRule : substrRule.matcher =
    ((Matcher.ofTag .operatorCallExpr).and (.test (.operator [.eq]))).and
      (.descendant (.bind Rule.site ((stringMethod "substr").and (.argument 0 .zeroLiteral)))) :=
  rfl

/-- The label is on the first start of a string below the test for equality. -/
lemma label_of_substrRule {b : Bindings} (h : substrRule.matcher.outcome u p = some b) :
    ∃ x, b.get? Rule.site = some x ∧ u.kind p = .operatorCallExpr .eq ∧
      IsLeast {x | x ∈ u.descendants p ∧ u.TakesStart x} x := by
  rw [matcher_substrRule] at h
  obtain ⟨d, e, hd, he, rfl⟩ := outcome_and_eq_some.1 h
  obtain ⟨x, hx, hlabel⟩ := find?_of_outcome_reach he
  rw [Route.targets, find?_eq_some_iff_isLeast (u.pairwise_descendants p)] at hx
  simp only [matches_substr] at hx
  refine ⟨x, ?_, matches_operatorCall.1 (matches_iff.2 ⟨d, hd⟩), hx⟩
  rw [Bindings.get?_overlay, hlabel, Option.some_or]

/-- What the rule on starts of strings matches: any comparison with such a call somewhere below it.
-/
lemma matches_substrRule :
    substrRule.matcher.Matches u p ↔
      u.kind p = .operatorCallExpr .eq ∧ ∃ x ∈ u.descendants p, u.TakesStart x := by
  rw [matcher_substrRule, matches_and, matches_operatorCall, matches_descendant]
  simp only [matches_bind, matches_substr]

/-- The rule speaks about the first start of a string below a test for equality. -/
lemma speaks_substrRule :
    (∃ b a, substrRule.matcher.match? u p = some b ∧ substrRule.verdict u b = some a ∧
      a.anchor = c) ↔
      u.kind p = .operatorCallExpr .eq ∧ IsLeast {x | x ∈ u.descendants p ∧ u.TakesStart x} c := by
  simp only [match?_eq_outcome]
  constructor
  · rintro ⟨b, a, hb, ha, rfl⟩
    obtain ⟨x, hlabel, hkind, hx⟩ := label_of_substrRule hb
    obtain ⟨y, hy, rfl⟩ := Option.map_eq_some_iff.1 ha
    cases hlabel.symm.trans hy
    exact ⟨hkind, hx⟩
  · rintro ⟨hkind, hc⟩
    obtain ⟨b, hb⟩ := matches_iff.1 (matches_substrRule.2 ⟨hkind, c, hc.1⟩)
    obtain ⟨x, hlabel, -, hx⟩ := label_of_substrRule hb
    exact ⟨b, _, hb, Option.map_eq_some_iff.2 ⟨x, hlabel, rfl⟩, hx.unique hc⟩

end Checks

namespace TranslationUnit

variable {u : TranslationUnit} {c p x : Nat}

/-- The left side of a test for equality comes before all that could be taken for it. -/
lemma Rooted.isLeast_of_left (hu : u.Rooted) (hx : (u.children p).head? = some x)
    (hc : u.skipImplicit x = c) (hstart : u.TakesStart c) :
    IsLeast {x | x ∈ u.descendants p ∧ u.TakesStart x} c := by
  obtain ⟨hbelow, hwrappers⟩ := hu.skipImplicit_head? hx
  rw [hc] at hbelow hwrappers
  refine ⟨⟨hbelow, hstart⟩, ?_⟩
  rintro y ⟨hy, ⟨call, hkind, -⟩, -⟩
  by_contra hlt
  have hwrapper := hwrappers y (lt_of_mem_descendants hu.toLinked hy).1 (Nat.lt_of_not_le hlt)
  rw [tag, hkind] at hwrapper
  cases hwrapper

end TranslationUnit

/-- What is reported as a start of a string that is compared is the first call below a test for
equality that takes a start. It is one of the sides of such a test exactly if it is one whenever
it is such a first call. The left side of a test for equality is always reported if it takes a
start. -/
theorem preferStartsEndsWith_substr_iff (e : Engine) (d : Document) (c : Nat) :
    let u := e.unit d
    let runs := Checks.preferStartsEndsWith ∈ e.registry.eligible u.language ∧
        (u.mainFileRange? c).isSome = true
    let reported := ∃ hit a, e.Matched u Checks.preferStartsEndsWith hit ∧
        hit.rule.name = "substr-eq" ∧
      hit.rule.verdict u hit.bindings = some a ∧ a.anchor = c ∧
      (hit.finding? u u.language.tier).isSome = true
    let first := fun p => IsLeast {x | x ∈ u.descendants p ∧ u.TakesStart x} c
    (reported ↔ runs ∧ ∃ p, u.kind p = .operatorCallExpr .eq ∧ first p) ∧
      ((reported → u.IsEquated c ∧ u.TakesStart c) ↔
        (runs → ∀ p, u.kind p = .operatorCallExpr .eq → first p → u.IsEquated c)) ∧
      (runs → ∀ p x, u.kind p = .operatorCallExpr .eq → (u.children p).head? = some x →
        u.skipImplicit x = c →
        u.TakesStart c → reported) := by
  intro u runs reported first
  have hu : u.Rooted := TranslationUnit.rooted_ofDocument d e.fallback
  have hreported : reported ↔ runs ∧ ∃ p, u.kind p = .operatorCallExpr .eq ∧ first p := by
    constructor
    · rintro ⟨hit, a, hmatched, hname, ha, rfl, hfinding⟩
      obtain ⟨hruns, -, -, hrule, hmatch⟩ := Engine.matched_iff.1 hmatched
      rw [Hit.isSome_finding? ha] at hfinding
      rw [Checks.eq_substrRule hrule hname] at ha hmatch
      exact ⟨⟨hruns, hfinding⟩, hit.node,
        Checks.speaks_substrRule.1 ⟨hit.bindings, a, hmatch, ha, rfl⟩⟩
    · rintro ⟨⟨hruns, hrange⟩, p, hkind, hfirst⟩
      obtain ⟨b, a, hmatch, ha, rfl⟩ := Checks.speaks_substrRule.2 ⟨hkind, hfirst⟩
      have hlt := TranslationUnit.lt_of_mem_descendants hu.toLinked hfirst.1.1
      let hit : Hit := ⟨p, Checks.preferStartsEndsWith, Checks.substrRule, b⟩
      have hmatched : e.Matched u Checks.preferStartsEndsWith hit :=
        Engine.matched_iff.2 ⟨hruns, Nat.lt_trans hlt.1 hlt.2, rfl, List.get_mem _ _, hmatch⟩
      have hfinding : (hit.finding? u u.language.tier).isSome = true := by
        rwa [Hit.isSome_finding? ha]
      exact ⟨hit, a, hmatched, rfl, ha, rfl, hfinding⟩
  refine ⟨hreported, ?_, ?_⟩
  · rw [hreported]
    constructor
    · intro h hruns p hkind hfirst
      exact (h ⟨hruns, p, hkind, hfirst⟩).1
    · rintro h ⟨hruns, p, hkind, hfirst⟩
      exact ⟨h hruns p hkind hfirst, hfirst.1.2⟩
  · intro hruns p x hkind hx hc hstart
    exact hreported.2 ⟨hruns, p, hkind, hu.isLeast_of_left hx hc hstart⟩

/-- The start of a string is passed to a function, and what that function makes of it is
compared. -/
theorem preferStartsEndsWith_substr_passed :
    let e : Engine := { registry := .default {}, fallback := .ofTier .cpp20 }
    let d : Document :=
      { file := "a.cpp"
        source := "bool b = trim(s.substr(0, 1)) == x;\n"
        records := [{ name := "std::string", methods := ["starts_with"] }]
        root := .mk { kind := .translationUnitDecl }
          [.mk { kind := .operatorCallExpr .eq, range := some ⟨9, 34⟩ }
            [.mk { kind := .callExpr (some "trim"), range := some ⟨9, 29⟩ }
                [.mk { kind := .memberCallExpr { method := "substr",
                                                 className := some "std::string" },
                       range := some ⟨14, 28⟩ }
                  [.mk { kind := .declRefExpr "s" } [],
                    .mk { kind := .integerLiteral 0 } [],
                    .mk { kind := .integerLiteral 1 } []]],
              .mk { kind := .declRefExpr "x", range := some ⟨33, 34⟩ } []]] }
    let u := e.unit d
    (∃ hit a, e.Matched u Checks.preferStartsEndsWith hit ∧ hit.rule.name = "substr-eq" ∧
      hit.rule.verdict u hit.bindings = some a ∧ a.anchor = 3 ∧
      (hit.finding? u u.language.tier).map (·.range) = some ⟨14, 28⟩) ∧ ¬ u.IsEquated 3 := by
  intro e d u
  have hu : u.Rooted := TranslationUnit.rooted_ofDocument d e.fallback
  let hit : Hit :=
    { node := 1
      check := Checks.preferStartsEndsWith
      rule := Checks.substrRule
      bindings := ⟨[(Rule.site, 3)]⟩ }
  have hruns : Checks.preferStartsEndsWith ∈ e.registry.eligible u.language :=
    List.mem_filter.2 ⟨List.mem_of_getElem? (i := 18) rfl, by decide +kernel⟩
  have hmatched : e.Matched u Checks.preferStartsEndsWith hit :=
    Engine.matched_iff.2 ⟨hruns, by decide +kernel, rfl, List.get_mem _ _, by decide +kernel⟩
  refine ⟨⟨hit, _, hmatched, rfl, rfl, rfl, by decide +kernel⟩, ?_⟩
  rintro ⟨p, hkind, x, hx, hc⟩
  have hlt := hu.child (List.mem_of_mem_take hx)
  have hother : ∀ p < u.size, u.kind p = .operatorCallExpr .eq → ∀ x ∈ (u.children p).take 2,
      u.skipImplicit x ≠ 3 := by
    decide +kernel
  exact hother p (Nat.lt_trans hlt.1 hlt.2) hkind x hx hc

/-! ### Elements that are removed in two steps -/

/-- The function that moves elements to the end, by a predicate or by value. -/
def Checks.remover (byPredicate : Bool) : String :=
  if byPredicate then "std::remove_if" else "std::remove"

/-- What to use in place of the function and `erase`. -/
def Checks.eraseText (byPredicate : Bool) : String :=
  if byPredicate then
    "erase-remove_if idiom is verbose and error-prone; use std::erase_if(container, predicate) (C++20)"
  else "erase-remove idiom is verbose and error-prone; use std::erase(container, value) (C++20)"

namespace TranslationUnit

/-- A call of `erase` with two arguments. -/
structure ErasesRange (u : TranslationUnit) (c : Nat) : Prop where
  call : ∃ call, u.kind c = .memberCallExpr call ∧ Describe.lastSegment call.method = "erase"
  range : (u.arguments c).length = 2

/-- A call that moves elements to the end. -/
def isRemoval (u : TranslationUnit) (id : Nat) : Bool :=
  u.kind id = .callExpr (some (Checks.remover true)) ||
    u.kind id = .callExpr (some (Checks.remover false))

/-- The first call in these subtrees that moves elements to the end. -/
def removal? (u : TranslationUnit) (ids : List Nat) : Option Nat :=
  (ids.flatMap u.subtree).find? u.isRemoval

variable {u : TranslationUnit} {c x : Nat}

/-- A removal is a call of one of two functions. -/
lemma isRemoval_iff :
    u.isRemoval x = true ↔
      ∃ byPredicate, u.kind x = .callExpr (some (Checks.remover byPredicate)) := by
  rw [isRemoval, Bool.or_eq_true, decide_eq_true_iff, decide_eq_true_iff, Bool.exists_bool, or_comm]

/-- The removal that is found is a call of one of two functions. -/
lemma kind_of_removal? {ids : List Nat} (h : u.removal? ids = some x) :
    ∃ byPredicate, u.kind x = .callExpr (some (Checks.remover byPredicate)) :=
  isRemoval_iff.1 (List.find?_some h)

/-- Two calls that move elements to the end are of the same function if both or none of them take a
predicate. -/
lemma kind_eq_iff_of_removal? {ids others : List Nat} {o a : Nat} (ho : u.removal? ids = some o)
    (ha : u.removal? others = some a) :
    u.kind a = u.kind o ↔
      (u.kind o = .callExpr (some (Checks.remover true)) ↔
        u.kind a = .callExpr (some (Checks.remover true))) := by
  obtain ⟨p, hp⟩ := kind_of_removal? ho
  obtain ⟨q, hq⟩ := kind_of_removal? ha
  rw [hp, hq]
  cases p <;> cases q <;> decide

/-- A search below a call looks through its object before its arguments. -/
lemma Rooted.find?_isRemoval (hu : u.Rooted) (hc : u.tag c = .memberCallExpr) :
    (u.descendants c).find? u.isRemoval =
      (u.removal? ((u.children c).take 1)).or (u.removal? (u.arguments c)) := by
  rw [arguments, hc, removal?, removal?, ← List.find?_append, ← List.flatMap_append,
    List.take_append_drop, hu.below]
  rfl

/-- A member call is a node of the unit. -/
lemma lt_size_of_memberCall (hc : u.tag c = .memberCallExpr) : c < u.size := by
  apply lt_size_of_kind
  intro hkind
  rw [tag, hkind] at hc
  cases hc

end TranslationUnit

namespace Checks

variable {u : TranslationUnit} {c x : Nat}

/-- The rule on elements that are removed in two steps. -/
def eraseRule : Rule :=
  preferEraseIf.rules.head (List.cons_ne_nil _ _)

/-- The matcher of the rule on removals. -/
lemma matcher_eraseRule : eraseRule.matcher =
    .bind Rule.site
      (((Matcher.memberCall ["erase"]).and (.test (.argumentCount 2))).and
        (.descendant (.bind removeLabel (.callTo ["::std::remove", "::std::remove_if"])))) :=
  rfl

/-- What is matched as a call that erases a range. -/
lemma matches_erase :
    ((Matcher.memberCall ["erase"]).and (.test (.argumentCount 2))).Matches u c ↔
      u.ErasesRange c := by
  rw [matches_and, matches_memberCall_singleton (by decide), matches_test, Condition.holds,
    Bool.and_eq_true, decide_eq_true_iff]
  constructor
  · rintro ⟨hcall, -, hrange⟩
    exact ⟨hcall, hrange⟩
  · rintro ⟨⟨call, hkind, hmethod⟩, hrange⟩
    refine ⟨⟨call, hkind, hmethod⟩, ?_, hrange⟩
    rw [TranslationUnit.tag, hkind]
    rfl

/-- What is matched as a removal. -/
lemma matches_removal :
    (Matcher.callTo ["::std::remove", "::std::remove_if"]).Matches u x ↔ u.isRemoval x = true := by
  have hnames :
      ["::std::remove", "::std::remove_if"] = ([false, true].map remover).map ("::" ++ ·) := by
    decide
  rw [matches_callTo, TranslationUnit.isRemoval_iff, hnames]
  simp only [Pattern.Name.covers_any_qualified, List.mem_map]
  constructor
  · rintro ⟨callee, hkind, p, -, rfl⟩
    exact ⟨p, hkind⟩
  · rintro ⟨p, hkind⟩
    exact ⟨_, hkind, p, by cases p <;> simp, rfl⟩

/-- One label is on the call of `erase`, the other on the first call below it that moves elements to
the end. -/
lemma label_of_eraseRule {b : Bindings} (h : eraseRule.matcher.outcome u c = some b) :
    b.get? Rule.site = some c ∧ u.ErasesRange c ∧
      ∃ x, b.get? removeLabel = some x ∧ (u.descendants c).find? u.isRemoval = some x := by
  rw [matcher_eraseRule] at h
  refine ⟨(Rule.get?_site h).1, ?_⟩
  rw [outcome] at h
  obtain ⟨b, hb, rfl⟩ := Option.map_eq_some_iff.1 h
  obtain ⟨d, e, hd, he, rfl⟩ := outcome_and_eq_some.1 hb
  obtain ⟨x, hx, hlabel⟩ := find?_of_outcome_reach he
  simp only [Route.targets, matches_removal, Bool.decide_eq_true] at hx
  refine ⟨matches_erase.1 (matches_iff.2 ⟨d, hd⟩), x, ?_, hx⟩
  rw [Bindings.get?_insert, if_neg (by decide), Bindings.get?_overlay, hlabel, Option.some_or]

/-- What the rule on removals matches: a removal may be anywhere below the call. -/
lemma matches_eraseRule :
    eraseRule.matcher.Matches u c ↔
      u.ErasesRange c ∧ ((u.descendants c).find? u.isRemoval).isSome = true := by
  rw [matcher_eraseRule, matches_bind, matches_and, matches_erase, matches_descendant,
    List.find?_isSome]
  simp only [matches_bind, matches_removal]

/-- The advice on a removal is that on the first one below the call. -/
lemma verdict_of_eraseRule {b : Bindings} {p : Bool} (h : eraseRule.matcher.outcome u c = some b)
    (hfound : (u.descendants c).find? u.isRemoval = some x)
    (hkind : u.kind x = .callExpr (some (remover p))) :
    eraseRule.verdict u b = some ⟨c, eraseSteps p⟩ := by
  obtain ⟨hsite, -, y, hlabel, hy⟩ := label_of_eraseRule h
  cases hfound.symm.trans hy
  have hsegment : ∀ p, decide ((some (remover p)).map Describe.lastSegment = some "remove_if") =
      p := by decide
  have hcallee : Describe.callee? u x = some (remover p) := by rw [Describe.callee?, hkind]
  have hverdict : eraseRule.verdict u b = (b.get? Rule.site).bind fun call =>
    (b.get? removeLabel).bind fun remove =>
      some ⟨call, eraseSteps
        ((Describe.callee? u remove).map Describe.lastSegment = some "remove_if")⟩ :=
    rfl
  rw [hverdict, hsite, Option.bind_some, hlabel, Option.bind_some, hcallee, hsegment]

/-- The message is the one on the function that was found. -/
lemma message_of_compose {tier : Language.Tier} {check : Descriptor} {p : Bool} {f : Finding}
    (h : compose u tier check c (eraseSteps p) = some f) : f.message = eraseText p := by
  obtain ⟨range, -, rfl⟩ := Option.map_eq_some_iff.1 h
  have hrender : ∀ p, Template.render (eraseText p) [] = eraseText p := by decide +kernel
  exact hrender p

/-- The message is about the first call below that moves elements to the end. -/
lemma message_of_eraseRule {tier : Language.Tier} {p : Bool}
    (hrange : (u.mainFileRange? c).isSome = true) : (∃ b, eraseRule.matcher.match? u c = some b ∧
        ∃ f, Hit.finding? ⟨c, preferEraseIf, eraseRule, b⟩ u tier = some f ∧
          f.message = eraseText p) ↔
      u.ErasesRange c ∧
        ∃ x, (u.descendants c).find? u.isRemoval = some x ∧
          u.kind x = .callExpr (some (remover p)) := by
  simp only [match?_eq_outcome]
  constructor
  · rintro ⟨b, hb, f, hf, hmessage⟩
    obtain ⟨-, herase, x, -, hx⟩ := label_of_eraseRule hb
    obtain ⟨q, hkind⟩ := TranslationUnit.isRemoval_iff.1 (List.find?_some hx)
    rw [Hit.finding?, verdict_of_eraseRule hb hx hkind, Option.bind_some] at hf
    have hinjective : ∀ p q, eraseText q = eraseText p → q = p := by decide
    cases hinjective p q ((message_of_compose hf).symm.trans hmessage)
    exact ⟨herase, x, hx, hkind⟩
  · rintro ⟨herase, x, hx, hkind⟩
    obtain ⟨b, hb⟩ := matches_iff.1 (matches_eraseRule.2 ⟨herase, Option.isSome_of_eq_some hx⟩)
    have hverdict := verdict_of_eraseRule hb hx hkind
    have hfinding : (Hit.finding? ⟨c, preferEraseIf, eraseRule, b⟩ u tier).isSome = true := by
      rwa [Hit.isSome_finding? hverdict]
    obtain ⟨f, hf⟩ := Option.isSome_iff_exists.1 hfinding
    refine ⟨b, hb, f, hf, ?_⟩
    rw [Hit.finding?, hverdict, Option.bind_some] at hf
    exact message_of_compose hf

end Checks

/-- A call of `erase` with two arguments is matched exactly if a call that moves elements to the end
is in its object or in its arguments, and the message is about the first one, in the object if there
is one. Nothing but the arguments matters exactly if a first such call in the object comes with a
first one in the arguments, of the same function. -/
theorem preferEraseIf_iff (e : Engine) (d : Document) (c : Nat) :
    let u := e.unit d
    Checks.preferEraseIf ∈ e.registry.checks → u.language.cplusplus = true →
    Language.Tier.cpp20 ≤ u.language.tier → u.tag c = .memberCallExpr →
    (u.mainFileRange? c).isSome = true →
    let inObject := u.removal? ((u.children c).take 1)
    let inArguments := u.removal? (u.arguments c)
    let matched := ∃ hit, e.Matched u Checks.preferEraseIf hit ∧ hit.node = c
    let words := fun text => ∃ hit, e.Matched u Checks.preferEraseIf hit ∧ hit.node = c ∧
      ∃ f, hit.finding? u u.language.tier = some f ∧ f.message = text
    (matched ↔ u.ErasesRange c ∧ (inObject.or inArguments).isSome = true) ∧
      (∀ p, words (Checks.eraseText p) ↔ u.ErasesRange c ∧
        ∃ x, inObject.or inArguments = some x ∧ u.kind x = .callExpr (some (Checks.remover p))) ∧
      ((matched ↔ u.ErasesRange c ∧ inArguments.isSome = true) ∧
          (matched → (words (Checks.eraseText true) ↔
            ∃ a, inArguments = some a ∧ u.kind a = .callExpr (some (Checks.remover true)))) ↔
        (u.ErasesRange c → ∀ o, inObject = some o → ∃ a, inArguments = some a ∧
          u.kind a = u.kind o)) := by
  intro u hcheck hlanguage htier hcall hrange inObject inArguments matched words
  have hu : u.Rooted := TranslationUnit.rooted_ofDocument d e.fallback
  have hruns := e.mem_eligible hcheck hlanguage htier
  have hrules : Checks.preferEraseIf.rules = [Checks.eraseRule] := rfl
  have hlt := TranslationUnit.lt_size_of_memberCall hcall
  have hfound : (u.descendants c).find? u.isRemoval = inObject.or inArguments :=
    hu.find?_isRemoval hcall
  have hmatched : matched ↔ u.ErasesRange c ∧ (inObject.or inArguments).isSome = true := by
    have hiff := Engine.exists_matched_iff (P := fun _ => True) hruns hrules hlt
    simp only [and_true] at hiff
    rw [← hfound, ← Checks.matches_eraseRule, Matches, Option.isSome_iff_exists]
    exact hiff
  have hwords : ∀ p, words (Checks.eraseText p) ↔ u.ErasesRange c ∧
      ∃ x, inObject.or inArguments = some x ∧ u.kind x = .callExpr (some (Checks.remover p)) := by
    intro p
    rw [← hfound, ← Checks.message_of_eraseRule hrange]
    exact Engine.exists_matched_iff hruns hrules hlt
  refine ⟨hmatched, hwords, ?_⟩
  rw [hmatched, hwords]
  by_cases herase : u.ErasesRange c
  · cases hobject : inObject with
    | none => simp [herase]
    | some o =>
      cases harguments : inArguments with
      | none => simp [herase]
      | some a => simp [herase, TranslationUnit.kind_eq_iff_of_removal? hobject harguments]
  · simp [herase]

/-- The first argument takes a predicate below a conversion, and the second argument moves elements
by value. -/
theorem preferEraseIf_iff_arguments :
    let e : Engine := { registry := .default {}, fallback := .ofTier .cpp20 }
    let d : Document :=
      { source := "v.erase(std::remove_if(a, b, p), last(std::remove(c, d, 0)));\n"
        root := .mk { kind := .translationUnitDecl }
          [.mk { kind := .memberCallExpr { method := "std::vector::erase" }, range := some ⟨0, 60⟩ }
            [.mk { kind := .declRefExpr "v" } [],
              .mk { kind := .implicitCastExpr }
                [.mk { kind := .callExpr (some "std::remove_if") } []],
              .mk { kind := .callExpr (some "last") }
                [.mk { kind := .callExpr (some "std::remove") } []]]] }
    let u := e.unit d
    (Checks.preferEraseIf ∈ e.registry.checks ∧ u.language.cplusplus = true ∧
      Language.Tier.cpp20 ≤ u.language.tier ∧ u.tag 1 = .memberCallExpr ∧
      (u.mainFileRange? 1).isSome = true) ∧
    u.ErasesRange 1 ∧ u.removal? ((u.children 1).take 1) = none ∧
    u.removal? (u.arguments 1) = some 4 ∧
    (∃ hit, e.Matched u Checks.preferEraseIf hit ∧ hit.node = 1) ∧
    ∃ hit, e.Matched u Checks.preferEraseIf hit ∧ hit.node = 1 ∧
      ∃ f, hit.finding? u u.language.tier = some f ∧ f.message = Checks.eraseText true := by
  intro e d u
  have hcheck : Checks.preferEraseIf ∈ e.registry.checks := List.mem_of_getElem? (i := 20) rfl
  have hlanguage : u.language.cplusplus = true := by decide +kernel
  have htier : Language.Tier.cpp20 ≤ u.language.tier := by decide +kernel
  have hcall : u.tag 1 = .memberCallExpr := by decide +kernel
  have hrange : (u.mainFileRange? 1).isSome = true := by decide +kernel
  have herase : u.ErasesRange 1 :=
    ⟨⟨{ method := "std::vector::erase" }, by decide +kernel, by decide +kernel⟩, by decide +kernel⟩
  have hobject : u.removal? ((u.children 1).take 1) = none := by decide +kernel
  have harguments : u.removal? (u.arguments 1) = some 4 := by decide +kernel
  have hkind : u.kind 4 = .callExpr (some (Checks.remover true)) := by decide +kernel
  obtain ⟨hmatched, hwords, -⟩ := preferEraseIf_iff e d 1 hcheck hlanguage htier hcall hrange
  refine ⟨⟨hcheck, hlanguage, htier, hcall, hrange⟩, herase, hobject, harguments,
    hmatched.2 ⟨herase, ?_⟩, (hwords true).2 ⟨herase, 4, ?_, hkind⟩⟩
  · rw [hobject, harguments]
    rfl
  · rw [hobject, harguments]
    rfl

/-- The call that moves elements to the end picks the container, and the arguments have nothing to
do with it. -/
theorem preferEraseIf_iff_object :
    let e : Engine := { registry := .default {}, fallback := .ofTier .cpp20 }
    let d : Document :=
      { file := "a.cpp"
        source := "pick(std::remove(a, b, 0)).erase(i, j);\n"
        root := .mk { kind := .translationUnitDecl }
          [.mk { kind := .memberCallExpr { method := "erase", className := some "std::vector" },
                 range := some ⟨0, 38⟩ }
            [.mk { kind := .callExpr (some "pick"), range := some ⟨0, 26⟩ }
                [.mk { kind := .callExpr (some "std::remove"), range := some ⟨5, 25⟩ }
                  [.mk { kind := .declRefExpr "a" } [],
                    .mk { kind := .declRefExpr "b" } [],
                    .mk { kind := .integerLiteral 0 } []]],
              .mk { kind := .declRefExpr "i" } [],
              .mk { kind := .declRefExpr "j" } []]] }
    let u := e.unit d
    (∃ hit, e.Matched u Checks.preferEraseIf hit ∧ hit.node = 1 ∧
      (hit.finding? u u.language.tier).map (·.message) = some (Checks.eraseText false)) ∧
    u.removal? (u.arguments 1) = none := by
  intro e d u
  let hit : Hit :=
    { node := 1
      check := Checks.preferEraseIf
      rule := Checks.eraseRule
      bindings := ⟨[(Rule.site, 1), (Checks.removeLabel, 3)]⟩ }
  have hruns : Checks.preferEraseIf ∈ e.registry.eligible u.language :=
    List.mem_filter.2 ⟨List.mem_of_getElem? (i := 20) rfl, by decide +kernel⟩
  have hmatched : e.Matched u Checks.preferEraseIf hit :=
    Engine.matched_iff.2
      ⟨hruns, by decide +kernel, rfl, List.mem_singleton.2 rfl, by decide +kernel⟩
  exact ⟨⟨hit, hmatched, rfl, by decide +kernel⟩, by decide +kernel⟩

end CppAdvice
