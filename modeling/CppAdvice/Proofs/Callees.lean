import CppAdvice.Checks.Strings
import CppAdvice.Proofs.Labels
import CppAdvice.Proofs.Layout
import CppAdvice.Proofs.RegexText

/-!
# Calls by the written form of their names

A pattern for callees is the written form of an expression. The matcher made from it matches the
calls whose name, with `::` before it, is as a whole one of the texts that the form denotes
(`callMatchingText?_matches`); a name of which only a part is such a text is not matched. The names
are those of the unit, in which they are normalized. The patterns that checks have for callees are
given by their written forms (`callMatchingText?_checks`).
-/

namespace CppAdvice

open CppAdvice.Tree CppAdvice.Pattern

/-- The calls of a unit are those of its document, by their normalized names. -/
lemma TranslationUnit.callee_ofDocument (d : Document) (fallback : Language.Flags) (id : Nat)
    (name : String) : (ofDocument d fallback).kind id = .callExpr (some name) ↔
      ∃ parent node callee, Node.Numbered d.root parent id node ∧
        node.facts.kind = .callExpr (some callee) ∧
        Name.normalize callee = name := by
  rw [TranslationUnit.kind, entry?_ofDocument]
  constructor
  · intro h
    cases hentry : (d.root.entries none 0)[id]? with
    | none =>
      rw [hentry] at h
      cases h
    | some e =>
      obtain ⟨parent, node, hnode, rfl⟩ := Node.Numbered.of_getElem?_entries .root hentry
      rw [Nat.zero_add] at hnode
      rw [hentry] at h
      have hkind : node.facts.kind.normalize = .callExpr (some name) := h
      cases hfacts : node.facts.kind with
      | callExpr callee =>
        rw [hfacts, Kind.normalize, Kind.callExpr.injEq] at hkind
        obtain ⟨callee, rfl, hname⟩ := Option.map_eq_some_iff.1 hkind
        exact ⟨parent, node, callee, hnode, hfacts, hname⟩
      | _ =>
        rw [hfacts] at hkind
        cases hkind
  · rintro ⟨parent, node, callee, hnode, hfacts, rfl⟩
    rw [hnode.getElem?_entries]
    show node.facts.kind.normalize = _
    rw [hfacts]
    rfl

namespace Matcher

/-- A call is matched by its whole name, with `::` before it. -/
lemma matches_callMatching {r : Regex} (h : r.Ready) {u : TranslationUnit} {id : Nat} :
    (callMatching r).Matches u id ↔
      ∃ callee, u.kind id = .callExpr (some callee) ∧
        "::".toList ++ callee.toList ∈ r.language := by
  rw [callMatching, matches_and, matches_ofTag, matches_test, Condition.holds, TranslationUnit.tag]
  cases u.kind id with
  | callExpr callee =>
    cases callee with
    | none => simp
    | some callee => simp [Kind.tag, Regex.occursIn_whole h.1 h.2]
  | _ => simp [Kind.tag]

/-- A form is read as a pattern with its language, unless it is nested too deep. -/
lemma callMatchingText?_eq (f : Regex.Form) : ∃ r : Regex, r.Ready ∧ r.language = f.language ∧
    callMatchingText? f.text = if f.depth + 2 ≤ Regex.maxDepth then some (callMatching r)
      else none := by
  obtain ⟨r, hready, hlanguage, htext⟩ := Regex.wholeOfText?_eq f
  refine ⟨r, hready, hlanguage, ?_⟩
  rw [callMatchingText?, htext]
  split <;> rfl

/-- The written forms of the patterns that checks have for callees. -/
lemma callMatchingText?_checks :
    callMatchingText? "::std::regex_(search|match|replace)" =
      some (callMatching Checks.regexCallees) ∧
    callMatchingText? "::std::sto(i|l|ll|ul|ull|f|d|ld)" = some (callMatching Checks.stoCallees) ∧
    callMatchingText? "::(std::)?ato(i|l|f|ll)" = some (callMatching Checks.atoCallees) := by
  have hregex : Regex.wholeOfText? "::std::regex_(search|match|replace)" =
      some Checks.regexCallees.whole := by decide +kernel
  have hsto : Regex.wholeOfText? "::std::sto(i|l|ll|ul|ull|f|d|ld)" =
      some Checks.stoCallees.whole := by decide +kernel
  have hato : Regex.wholeOfText? "::(std::)?ato(i|l|f|ll)" =
      some Checks.atoCallees.whole := by decide +kernel
  rw [callMatchingText?, callMatchingText?, callMatchingText?, hregex, hsto, hato]
  exact ⟨rfl, rfl, rfl⟩

/-- The written form of an expression is a pattern for callees unless it is nested too deep, and the
calls that it matches are those whose whole name, with `::` before it, is one of the texts that the
form denotes. -/
theorem callMatchingText?_matches (f : Regex.Form) :
    ((callMatchingText? f.text).isSome = true ↔ f.depth + 2 ≤ Regex.maxDepth) ∧
    ∀ m, callMatchingText? f.text = some m →
      (∀ u id, m.Matches u id ↔
        ∃ callee, u.kind id = .callExpr (some callee) ∧ "::".toList ++ callee.toList ∈ f.language) ∧
      ∀ d fallback id, m.Matches (.ofDocument d fallback) id ↔
        ∃ parent node callee, Node.Numbered d.root parent id node ∧
          node.facts.kind = .callExpr (some callee) ∧
          "::".toList ++ (Name.normalize callee).toList ∈ f.language := by
  obtain ⟨r, hready, hlanguage, htext⟩ := callMatchingText?_eq f
  rw [htext, ← hlanguage]
  constructor
  · split <;> simp [*]
  · intro m hm
    obtain ⟨-, hm⟩ := Option.ite_none_right_eq_some.1 hm
    cases hm
    refine ⟨fun u id => matches_callMatching hready, fun d fallback id => ?_⟩
    rw [matches_callMatching hready]
    constructor
    · rintro ⟨name, hkind, hname⟩
      obtain ⟨parent, node, callee, hnode, hfacts, rfl⟩ :=
        (TranslationUnit.callee_ofDocument ..).1 hkind
      exact ⟨parent, node, callee, hnode, hfacts, hname⟩
    · rintro ⟨parent, node, callee, hnode, hfacts, hname⟩
      exact ⟨_, (TranslationUnit.callee_ofDocument ..).2 ⟨parent, node, callee, hnode, hfacts, rfl⟩,
        hname⟩

/-- Alternatives at the top, one of them with a repetition that may match nothing inside of
another. -/
theorem callMatchingText?_matches_alternatives :
    let char (c : Char) (h : c ∉ Regex.specials) := Regex.Branch.cons (.letter (.bare c h)) []
    let qualified (b : Regex.Branch) := char ':' (by decide) (char ':' (by decide) b)
    let repeated :=
      Regex.Atom.group true (.one (.cons (.letter (.bare 'a' (by decide))) [.star] .nil))
    let f : Regex.Form :=
      .or (qualified (.cons repeated [.star] (char 'f' (by decide) .nil)))
        (.one (qualified (char 'g' (by decide) .nil)))
    let d : Document :=
      { root := .mk { kind := .translationUnitDecl }
          [.mk { kind := .callExpr (some " ::aaf") } [], .mk { kind := .callExpr (some "ag") } [],
            .mk { kind := .callExpr (some "gg") } []] }
    let u := TranslationUnit.ofDocument d (.ofTier .cpp23)
    f.text = "::(a*)*f|::g" ∧
    "::aaf".toList ∈ f.language ∧ "::ag".toList ∉ f.language ∧ "::gg".toList ∉ f.language ∧
    ∃ m, callMatchingText? "::(a*)*f|::g" = some m ∧ m.Matches u 1 ∧ ¬ m.Matches u 2 ∧
    ¬ m.Matches u 3 := by
  intro char qualified repeated f d u
  have htext : f.text = "::(a*)*f|::g" := by decide +kernel
  obtain ⟨hsome, hmatches⟩ := callMatchingText?_matches f
  obtain ⟨m, hm⟩ := Option.isSome_iff_exists.1 (hsome.2 (by decide +kernel))
  have hrun : (callMatchingText? f.text).all fun m => m.Matches u 1 ∧ ¬ m.Matches u 2 ∧
      ¬ m.Matches u 3 := by
    decide +kernel
  rw [hm, Option.all_some, decide_eq_true_iff] at hrun
  have hlanguage (id : Nat) (name : String) (hkind : u.kind id = .callExpr (some name)) :
      m.Matches u id ↔ "::".toList ++ name.toList ∈ f.language := by
    rw [(hmatches m hm).1, hkind]
    simp
  refine ⟨htext, ?_, ?_, ?_, m, htext ▸ hm, hrun⟩
  · exact (hlanguage 1 "aaf" (by decide +kernel)).1 hrun.1
  · exact mt (hlanguage 2 "ag" (by decide +kernel)).2 hrun.2.1
  · exact mt (hlanguage 3 "gg" (by decide +kernel)).2 hrun.2.2

end Matcher

end CppAdvice
