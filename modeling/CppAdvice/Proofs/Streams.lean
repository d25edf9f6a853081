import CppAdvice.Proofs.Clashes
import CppAdvice.Proofs.Labels
import CppAdvice.Proofs.Layout
import CppAdvice.Proofs.Reports

/-!
# Chains of output

What is written to a stream in one statement is a chain of shifts, each with the one before it on
its left. Wrappers may stand between the links, and anything on their right. Only the innermost
shift has the stream itself on its left, so a chain is matched once, there, however long it is
(`StreamChain.filter_matches`).
-/

namespace CppAdvice

open CppAdvice.Tree CppAdvice.Matcher

namespace TranslationUnit

/-- What stands on the left of an operator, as it was written. -/
def leftOperand? (u : TranslationUnit) (id : Nat) : Option Nat :=
  (u.children id).head?.map u.skipImplicit

/-- A reference to one of the two streams for output and errors. -/
def IsOutputStream (u : TranslationUnit) (id : Nat) : Prop :=
  u.kind id = .declRefExpr "std::cout" ∨ u.kind id = .declRefExpr "std::cerr"

/-- Shifts into a stream, from the innermost one outwards: the first one has the stream on its left,
and each further one has the shift before it there. -/
structure StreamChain (u : TranslationUnit) (first : Nat) (rest : List Nat) : Prop where
  shift : ∀ link ∈ first :: rest, u.kind link = .operatorCallExpr .shl
  stream : ∃ stream, u.leftOperand? first = some stream ∧ u.IsOutputStream stream
  linked : (first :: rest).IsChain fun link outer => u.leftOperand? outer = some link

end TranslationUnit

namespace Checks

variable {u : TranslationUnit} {id : Nat}

/-- The rule on shifts into a stream. -/
def streamRule : Rule :=
  preferPrint.rules.getLast (List.cons_ne_nil _ _)

/-- The matcher of the rule on streams. -/
lemma matcher_streamRule : streamRule.matcher =
    .bind Rule.site (((Matcher.ofTag .operatorCallExpr).and (.test (.operator [.shl]))).and
      (.argument 0 (.declRef ["::std::cout", "::std::cerr"]))) :=
  rfl

/-- What is matched as an output stream. -/
lemma matches_outputStream :
    (Matcher.declRef ["::std::cout", "::std::cerr"]).Matches u id ↔ u.IsOutputStream id := by
  have hnames : ["::std::cout", "::std::cerr"] = ["std::cout", "std::cerr"].map ("::" ++ ·) := by
    decide
  have hcovers (name : String) :
      (Pattern.Name.any ["::std::cout", "::std::cerr"]).covers name = true ↔
      name = "std::cout" ∨ name = "std::cerr" := by
    rw [hnames, Pattern.Name.covers_any_qualified, List.mem_cons, List.mem_singleton]
  rw [Matcher.declRef, matches_and, matches_ofTag, matches_test, Condition.holds,
    TranslationUnit.tag, TranslationUnit.IsOutputStream]
  cases u.kind id with
  | declRefExpr name => simp [hcovers, Kind.tag]
  | _ => simp [Kind.tag]

/-- What the rule on streams matches: an output whose left operand is a stream. -/
lemma matches_streamRule :
    streamRule.matcher.Matches u id ↔
      u.kind id = .operatorCallExpr .shl ∧ ∃ stream, u.leftOperand? id = some stream ∧
        u.IsOutputStream stream := by
  rw [matcher_streamRule, matches_bind, matches_and, matches_operatorCall, matches_argument]
  refine and_congr_right fun hkind => ?_
  have htag : u.tag id = .operatorCallExpr := by rw [TranslationUnit.tag, hkind]; rfl
  have harguments : u.arguments id = u.children id := by rw [TranslationUnit.arguments, htag]
  rw [htag, harguments, TranslationUnit.leftOperand?, ← List.head?_eq_getElem?]
  simp only [matches_outputStream]
  cases (u.children id).head? with
  | none => simp
  | some child => simp [Tag.isCallLike]

/-- The other rules on output are about calls. -/
lemma rule_preferPrint {rule : Rule} (h : rule ∈ preferPrint.rules) :
    rule = streamRule ∨ rule.name ≠ "stream-shift" ∧
      ∃ names, rule.matcher = .bind Rule.site (.callTo names) := by
  simp only [preferPrint, List.mem_cons, List.not_mem_nil, or_false] at h
  rcases h with rfl | rfl | rfl
  · exact .inr ⟨by decide, _, rfl⟩
  · exact .inr ⟨by decide, _, rfl⟩
  · exact .inl rfl

end Checks

namespace TranslationUnit.StreamChain

variable {u : TranslationUnit} {first outer : Nat} {rest : List Nat}

/-- What is not innermost has another link of the chain on its left. -/
lemma exists_leftOperand? (h : u.StreamChain first rest) (houter : outer ∈ rest) :
    ∃ link ∈ first :: rest, u.leftOperand? outer = some link := by
  have hlinked := h.linked
  clear h
  -- The induction is on the links from the innermost one on, which changes with every step.
  induction rest generalizing first with
  | nil => cases houter
  | cons next rest ih =>
    rw [List.isChain_cons_cons] at hlinked
    rcases List.mem_cons.1 houter with rfl | houter
    · exact ⟨first, List.mem_cons_self, hlinked.1⟩
    · obtain ⟨link, hlink, hleft⟩ := ih houter hlinked.2
      exact ⟨link, List.mem_cons_of_mem _ hlink, hleft⟩

/-- The first link of a chain is matched. -/
lemma matches_first (h : u.StreamChain first rest) : Checks.streamRule.matcher.Matches u first :=
  Checks.matches_streamRule.2 ⟨h.shift first List.mem_cons_self, h.stream⟩

/-- A shift is no reference to a stream. -/
lemma not_matches_of_mem (h : u.StreamChain first rest) (houter : outer ∈ rest) :
    ¬ Checks.streamRule.matcher.Matches u outer := by
  rw [Checks.matches_streamRule]
  rintro ⟨-, stream, hstream, href⟩
  obtain ⟨link, hlink, hleft⟩ := h.exists_leftOperand? houter
  cases hleft.symm.trans hstream
  rcases href with href | href
  all_goals cases (h.shift stream hlink).symm.trans href

/-- A link of a chain is no call of a function. -/
lemma not_matches_callTo (h : u.StreamChain first rest) {link : Nat} (hlink : link ∈ first :: rest)
    (names : List String) : ¬ (Matcher.bind Rule.site (.callTo names)).Matches u link := by
  rw [matches_bind, matches_callTo]
  rintro ⟨callee, hcallee, -⟩
  cases (h.shift link hlink).symm.trans hcallee

/-- Of the links of a chain, the rule on streams matches the innermost one, and no other rule
matches any. -/
lemma filter_matches (h : u.StreamChain first rest) {rule : Rule}
    (hrule : rule ∈ Checks.preferPrint.rules) :
    (first :: rest).filter (fun link => rule.matcher.Matches u link) =
      if rule.name = "stream-shift" then [first] else [] := by
  rcases Checks.rule_preferPrint hrule with rfl | ⟨hname, names, hmatcher⟩
  · have hrest : rest.filter (fun link => Checks.streamRule.matcher.Matches u link) = [] :=
      List.filter_eq_nil_iff.2 fun outer houter => by simpa using h.not_matches_of_mem houter
    rw [List.filter_cons_of_pos (by simpa using h.matches_first), hrest]
    rfl
  · rw [if_neg hname, hmatcher, List.filter_eq_nil_iff]
    exact fun link hlink => by simpa using h.not_matches_callTo hlink names

end TranslationUnit.StreamChain

/-- A chain of output is matched once, at its innermost shift, by the rule on streams and by no
other; so a run has one match in it. -/
theorem preferPrint_matches_once {u : TranslationUnit} {first : Nat} {rest : List Nat}
    (h : u.StreamChain first rest) : (∀ rule ∈ Checks.preferPrint.rules,
      (first :: rest).filter (fun link => rule.matcher.Matches u link) =
        if rule.name = "stream-shift" then [first] else []) ∧
    ∀ e : Engine, Checks.preferPrint ∈ e.registry.eligible u.language →
      ∃ hit, e.Matched u Checks.preferPrint hit ∧ hit.node = first ∧
        hit.rule.name = "stream-shift" ∧
        ∀ other, e.Matched u Checks.preferPrint other → other.node ∈ first :: rest →
          other = hit := by
  refine ⟨fun rule hrule => h.filter_matches hrule, ?_⟩
  intro e hruns
  have hlt : first < u.size := by
    apply TranslationUnit.lt_size_of_kind
    intro hunknown
    cases (h.shift first List.mem_cons_self).symm.trans hunknown
  obtain ⟨b, hb⟩ := Option.isSome_iff_exists.1 h.matches_first
  have hrule : Checks.streamRule ∈ Checks.preferPrint.rules := List.getLast_mem _
  refine ⟨⟨first, Checks.preferPrint, Checks.streamRule, b⟩, ?_, rfl, rfl, ?_⟩
  · exact Engine.matched_iff.2 ⟨hruns, hlt, rfl, hrule, hb⟩
  · rintro ⟨node, check, rule, b'⟩ hother hnode
    obtain ⟨-, -, rfl, hrule', hb'⟩ := Engine.matched_iff.1 hother
    have hmatches : rule.matcher.Matches u node := Option.isSome_of_eq_some hb'
    rcases Checks.rule_preferPrint hrule' with rfl | ⟨-, names, hmatcher⟩
    · rcases List.mem_cons.1 hnode with rfl | hnode
      · cases hb.symm.trans hb'
        rfl
      · exact absurd hmatches (h.not_matches_of_mem hnode)
    · rw [hmatcher] at hmatches
      exact absurd hmatches (h.not_matches_callTo hnode names)

/-- A chain of three shifts with a wrapper inside, whose middle one has a chain of its own on its
right. -/
theorem preferPrint_matches_once_nested :
    let e : Engine := { registry := .default {}, fallback := .ofTier .cpp23 }
    let d : Document :=
      { root := .mk { kind := .translationUnitDecl }
          [.mk { kind := .operatorCallExpr .shl }
            [.mk { kind := .operatorCallExpr .shl }
              [.mk { kind := .implicitCastExpr }
                [.mk { kind := .operatorCallExpr .shl }
                  [.mk { kind := .declRefExpr "::std::cout" } [],
                    .mk { kind := .declRefExpr "x" } []]],
                .mk { kind := .operatorCallExpr .shl }
                  [.mk { kind := .declRefExpr "std::cerr" } []]],
              .mk { kind := .declRefExpr "y" } []]] }
    let u := e.unit d
    u.StreamChain 4 [2, 1] ∧
    [4, 2, 1].filter (fun link => Checks.streamRule.matcher.Matches u link) = [4] ∧
    ∃ hit, e.Matched u Checks.preferPrint hit ∧ hit.node = 4 := by
  intro e d u
  have hchain : u.StreamChain 4 [2, 1] := by
    constructor
    case shift => decide +kernel
    case stream => exact ⟨5, by decide +kernel, .inl (by decide +kernel)⟩
    case linked => decide +kernel
  have hruns : Checks.preferPrint ∈ e.registry.eligible u.language :=
    e.mem_eligible (List.mem_of_getElem? (i := 26) rfl) (by decide +kernel) (by decide +kernel)
  obtain ⟨hfilter, hrun⟩ := preferPrint_matches_once hchain
  obtain ⟨hit, hmatched, hnode, -⟩ := hrun e hruns
  exact ⟨hchain, hfilter _ (List.getLast_mem _), hit, hmatched, hnode⟩

end CppAdvice
