import CppAdvice.Proofs.Accounting
import CppAdvice.Proofs.Advice
import CppAdvice.Proofs.Clashes
import CppAdvice.Proofs.Flow
import CppAdvice.Proofs.Labels
import CppAdvice.Proofs.Names
import CppAdvice.Proofs.WellFormed

/-!
# What is reported twice

Most rules speak about the node that they match, and the rules of a check look for things that no
node is at once, so a check has one thing to say about a node. There are three ways to have two,
which make up `Repeatable`: a search whose result flows into a rewritten comparison, which stands
for any comparison; a parameter that is a reference and also a pointer; and a piece of a string
below two tests for equality. Where no two nodes share a range, no other node is reported twice by
one check (`pairwise_analyze`).
-/

namespace CppAdvice

open CppAdvice.Tree CppAdvice.Matcher

/-- A check may have two things to say about a node. -/
inductive Repeatable (u : TranslationUnit) : Descriptor → Nat → Prop where
  /-- A search, on a class with both sorts of lookup, whose result flows into a rewritten
  comparison. -/
  | lookup {call side p op} :
    (Condition.method (.any ["find"])).holds u call = true →
    (Condition.classDeclares "contains").holds u call = true →
    (Condition.classDeclares "starts_with").holds u call = true →
    Relation.ReflTransGen (Sentinel.PassesUp u Sentinel.defaultTransparent) call side →
    u.parent? side = some p →
    u.kind p = .rewrittenBinaryOperator op →
    Repeatable u Checks.preferContains.descriptor call
  /-- A parameter whose type is a reference to a constant array, and a pointer too. -/
  | parameter {param} :
    u.tag param = .parmVarDecl →
    (Condition.type (.constRef (.one "::std::vector"))).holds u param = true →
    (Condition.type .pointer).holds u param = true →
    Repeatable u Checks.preferSpan.descriptor param
  /-- A piece of a string below two tests for equality. -/
  | piece {call outer inner} :
    (Condition.method (.any ["substr"])).holds u call = true →
    outer ≠ inner →
    u.kind outer = .operatorCallExpr .eq →
    u.kind inner = .operatorCallExpr .eq →
    call ∈ u.descendants outer →
    call ∈ u.descendants inner →
    Repeatable u Checks.preferStartsEndsWith.descriptor call

namespace Rule

/-- At a node, the rule has something to say about the anchor. -/
def Speaks (rule : Rule) (u : TranslationUnit) (node anchor : Nat) : Prop :=
  ∃ b advice, rule.matcher.outcome u node = some b ∧ rule.verdict u b = some advice ∧
    advice.anchor = anchor

/-- The rule speaks about no node but the one that it matches. -/
def IsLocal (rule : Rule) : Prop :=
  ∀ ⦃u node anchor⦄, rule.Speaks u node anchor → anchor = node

/-- Whatever the rule speaks about is matched by the subject. -/
def Concerns (rule : Rule) (subject : Matcher) : Prop :=
  ∀ ⦃u node anchor⦄, rule.Speaks u node anchor → ∃ b, subject.outcome u anchor = some b

/-- The rule speaks about a node at two others only where this is known to happen. -/
def Single (check : Descriptor) (rule : Rule) : Prop :=
  ∀ ⦃u node node' anchor⦄, rule.Speaks u node anchor → rule.Speaks u node' anchor →
    node = node' ∨ Repeatable u check anchor

/-- Two rules of a check speak about the same node only where this is known to happen. -/
def Exclusive (check : Descriptor) (r s : Rule) : Prop :=
  ∀ ⦃u⦄, TranslationUnit.Linked u → ∀ ⦃node node' anchor⦄, r.Speaks u node anchor →
    s.Speaks u node' anchor →
    Repeatable u check anchor

section

variable {rule : Rule} {name : String} {shape : Matcher} {steps : TranslationUnit → Nat → List Step}
  {test : TranslationUnit → Nat → Bool} {u : TranslationUnit} {node anchor : Nat}

/-- A rule whose advice is about the node that was matched is local. -/
lemma isLocal_of_site {verdict : TranslationUnit → Bindings → Option Advice}
    (h : ∀ u b advice, verdict u b = some advice → b.get? site = some advice.anchor) :
    IsLocal { name, matcher := .bind site shape, verdict } := by
  rintro u node _ ⟨b, advice, hb, hadvice, rfl⟩
  exact Option.some.inj ((h u b advice hadvice).symm.trans (get?_site hb).1)

/-- A rule that always speaks is local. -/
lemma always_isLocal : (always name shape steps).IsLocal := by
  apply isLocal_of_site
  intro u b advice h
  obtain ⟨id, hid, rfl⟩ := Option.map_eq_some_iff.1 h
  exact hid

/-- A rule that speaks if a test holds is local. -/
lemma provided_isLocal : (provided name shape test steps).IsLocal := by
  apply isLocal_of_site
  intro u b advice h
  obtain ⟨id, hid, h⟩ := Option.bind_eq_some_iff.1 h
  split_ifs at h
  cases h
  exact hid

/-- Where a rule with a test speaks, the test holds. -/
lemma Speaks.passes (h : (provided name shape test steps).Speaks u node anchor) :
    test u anchor = true := by
  obtain ⟨b, advice, _, hadvice, rfl⟩ := h
  obtain ⟨id, _, h⟩ := Option.bind_eq_some_iff.1 hadvice
  split_ifs at h with htest
  cases h
  exact htest

/-- A rule that speaks about something below the node that it matches. -/
lemma Speaks.below {outer inner : Matcher} {steps : List Step}
    (h : Speaks
      { name
        matcher := outer.and (.descendant (.bind site inner))
        verdict := fun _ b => (b.get? site).map fun id => ⟨id, steps⟩ } u node anchor) :
    anchor ∈ u.descendants node ∧ (∃ b, outer.outcome u node = some b) ∧
      ∃ b, inner.outcome u anchor = some b := by
  obtain ⟨b, advice, hb, hadvice, rfl⟩ := h
  obtain ⟨id, hid, rfl⟩ := Option.map_eq_some_iff.1 hadvice
  obtain ⟨d, e, hd, he, rfl⟩ := outcome_and_eq_some.1 hb
  obtain ⟨target, htarget, hlabel⟩ := find?_of_outcome_reach he
  -- The label that was written last is the one that counts.
  rw [Bindings.get?_overlay, hlabel] at hid
  cases hid
  have hinner : inner.Matches u id := by simpa using List.find?_some htarget
  exact ⟨List.mem_of_find?_eq_some htarget, ⟨d, hd⟩, matches_iff.1 hinner⟩

/-- A local rule speaks at most once of a node. -/
lemma IsLocal.single {check : Descriptor} (h : rule.IsLocal) : rule.Single check := by
  intro u node node' anchor hspeaks hspeaks'
  exact .inl ((h hspeaks).symm.trans (h hspeaks'))

/-- A local rule speaks only of nodes that it matches. -/
lemma IsLocal.concerns (h : rule.IsLocal) : rule.Concerns rule.matcher := by
  intro u node anchor hspeaks
  obtain rfl := h hspeaks
  obtain ⟨b, _, hb, _⟩ := hspeaks
  exact ⟨b, hb⟩

/-- What a rule concerns meets all conditions on it. -/
lemma Concerns.holds {m : Matcher} {c : Condition} (h : rule.Concerns m)
    (hc : .test c ∈ m.conjuncts) (hspeaks : rule.Speaks u node anchor) :
    c.holds u anchor = true := by
  obtain ⟨b, hb⟩ := h hspeaks
  exact holds_of_mem_conjuncts hb hc

/-- Two rules that concern what nothing can be do not both speak of a node. -/
lemma Exclusive.of_clashes {check : Descriptor} {r s : Rule} {m n : Matcher}
    (h : m.clashes n = true) (hr : r.Concerns m) (hs : s.Concerns n) : Exclusive check r s := by
  intro u _ node node' anchor hspeaks hspeaks'
  obtain ⟨b, hb⟩ := hr hspeaks
  obtain ⟨d, hd⟩ := hs hspeaks'
  exact (false_of_clashes h hb hd).elim

end

end Rule

namespace Check

/-- A check says two things about a node only where this is known to happen. -/
structure Unrepeated (check : Check) : Prop where
  single : check.rules.Forall (Rule.Single check.descriptor)
  exclusive : check.rules.Pairwise (Rule.Exclusive check.descriptor)

variable {check : Check}

/-- Whether any two of the matchers clash. -/
def areExclusive (matchers : List Matcher) : Bool :=
  decide (matchers.Pairwise fun m n => m.clashes n = true)

/-- Rules that concern subjects of which no two match the same node. -/
lemma exclusive_of_concerns (subjects : List (Rule × Matcher))
    (hconcerns : subjects.Forall fun x => x.1.Concerns x.2)
    (hclash : areExclusive (subjects.map (·.2)) = true) (d : Descriptor) :
    (subjects.map (·.1)).Pairwise (Rule.Exclusive d) := by
  have hpairs := List.pairwise_map.1 (of_decide_eq_true hclash)
  rw [List.pairwise_map]
  refine hpairs.imp_of_mem ?_
  intro x y hx hy hclash
  have hconcerns := List.forall_iff_forall_mem.1 hconcerns
  exact .of_clashes hclash (hconcerns x hx) (hconcerns y hy)

/-- A check whose rules speak about the nodes that they match. -/
lemma Unrepeated.of_pairwise (hlocal : check.rules.Forall Rule.IsLocal)
    (hexclusive : check.rules.Pairwise (Rule.Exclusive check.descriptor)) : check.Unrepeated where
  single := hlocal.imp fun _ => Rule.IsLocal.single
  exclusive := hexclusive

/-- A check with local rules, no two of which match one node, repeats itself nowhere. -/
lemma Unrepeated.of_isLocal (hlocal : check.rules.Forall Rule.IsLocal)
    (hclash : areExclusive (check.rules.map (·.matcher)) = true) : check.Unrepeated := by
  refine .of_pairwise hlocal ?_
  have hexclusive := exclusive_of_concerns (check.rules.map fun rule => (rule, rule.matcher))
    ((List.forall_map_iff _).2 (hlocal.imp fun _ => Rule.IsLocal.concerns)) (by rwa [List.map_map])
      check.descriptor
  simpa [Function.comp_def] using hexclusive

/-- One thing is said about a node, by one rule and at one node. -/
lemma Unrepeated.eq_or_repeatable (hcheck : check.Unrepeated) {u : TranslationUnit}
    (hu : u.Linked) {i j : Nat} {r s : Rule} (hi : check.rules[i]? = some r)
    (hj : check.rules[j]? = some s) {node node' anchor : Nat} (hr : r.Speaks u node anchor)
    (hs : s.Speaks u node' anchor) :
    node = node' ∧ i = j ∨ Repeatable u check.descriptor anchor := by
  obtain ⟨hilt, rfl⟩ := List.getElem?_eq_some_iff.1 hi
  obtain ⟨hjlt, rfl⟩ := List.getElem?_eq_some_iff.1 hj
  have hpairs := List.pairwise_iff_getElem.1 hcheck.exclusive
  rcases Nat.lt_trichotomy i j with hlt | rfl | hlt
  · exact .inr (hpairs i j hilt hjlt hlt hu hr hs)
  · have hsingle := List.forall_iff_forall_mem.1 hcheck.single _ (List.getElem_mem hilt)
    rcases hsingle hr hs with heq | hrepeat
    · exact .inl ⟨heq, rfl⟩
    · exact .inr hrepeat
  · exact .inr (hpairs j i hjlt hilt hlt hu hs hr)

end Check

namespace Checks

open Rule Check

/-- The check on removals repeats itself only where this is known to happen. -/
lemma preferEraseIf_unrepeated : preferEraseIf.Unrepeated := by
  refine .of_isLocal (isLocal_of_site ?_) (by decide +kernel)
  intro u b advice h
  obtain ⟨call, hcall, h⟩ := Option.bind_eq_some_iff.1 h
  obtain ⟨remove, _, h⟩ := Option.bind_eq_some_iff.1 h
  cases h
  exact hcall

/-- The check on casts of enumerations repeats itself only where this is known to happen. -/
lemma preferToUnderlying_unrepeated : preferToUnderlying.Unrepeated := by
  refine .of_isLocal (isLocal_of_site ?_) (by decide +kernel)
  intro u b advice h
  obtain ⟨cast, hcast, h⟩ := Option.bind_eq_some_iff.1 h
  obtain ⟨ty, _, h⟩ := Option.bind_eq_some_iff.1 h
  cases h
  exact hcast

/-- The check on small arrays repeats itself only where this is known to happen. -/
lemma preferInplaceVector_unrepeated (max : Nat) : (preferInplaceVector max).Unrepeated := by
  have hmatchers : (preferInplaceVector max).rules.map (·.matcher) =
      (preferInplaceVector 0).rules.map (·.matcher) :=
    rfl
  refine .of_isLocal ⟨isLocal_of_site ?_, isLocal_of_site ?_⟩ ?_
  · intro u b advice h
    obtain ⟨call, hcall, h⟩ := Option.bind_eq_some_iff.1 h
    obtain ⟨size, _, h⟩ := Option.bind_eq_some_iff.1 h
    obtain ⟨vector, _, h⟩ := Option.bind_eq_some_iff.1 h
    split_ifs at h
    cases h
    exact hcall
  · intro u b advice h
    obtain ⟨decl, hdecl, h⟩ := Option.bind_eq_some_iff.1 h
    obtain ⟨size, _, h⟩ := Option.bind_eq_some_iff.1 h
    cases h
    exact hdecl
  · rw [hmatchers]
    decide +kernel

/-- The check on ranges of elements repeats itself only where this is known to happen. -/
lemma preferSpan_unrepeated : preferSpan.Unrepeated := by
  refine .of_pairwise ⟨always_isLocal, provided_isLocal⟩ ?_
  refine List.pairwise_pair.2 ?_
  intro u _ node node' anchor h h'
  have htag := always_isLocal.concerns.holds (c := .tag .parmVarDecl) (.head _) h
  have hreference := always_isLocal.concerns.holds (.tail _ (.head _)) h
  have hpointer := provided_isLocal.concerns.holds (.tail _ (.head _)) h'
  exact .parameter (of_decide_eq_true htag) hreference hpointer

/-- The two searches are told apart by what their results are compared with, and a rewritten
comparison does not say. -/
lemma preferContains_unrepeated : preferContains.Unrepeated := by
  refine .of_pairwise ⟨provided_isLocal, provided_isLocal, provided_isLocal⟩ ?_
  refine List.pairwise_cons.2 ⟨List.forall_iff_forall_mem.1 ⟨?_, ?_⟩, List.pairwise_pair.2 ?_⟩
  · exact .of_clashes (by decide +kernel) provided_isLocal.concerns provided_isLocal.concerns
  · exact .of_clashes (by decide +kernel) provided_isLocal.concerns provided_isLocal.concerns
  · intro u hu node node' anchor h h'
    have hmethod :=
      provided_isLocal.concerns.holds (c := .method (.any ["find"])) (.tail _ (.head _)) h
    have hcontains := provided_isLocal.concerns.holds (.tail _ (.tail _ (.head _))) h
    have hstartsWith := provided_isLocal.concerns.holds (.tail _ (.tail _ (.head _))) h'
    have hend := (Sentinel.isCompared_iff hu).1 h.passes
    obtain ⟨side, p, op, hchain, hp, hkind⟩ :=
      Sentinel.rewritten_of_flowsInto hu (fun _ =>
        Sentinel.Marker.npos_of_endIterator) hend h'.passes
    exact .lookup hmethod hcontains hstartsWith hchain hp hkind

/-- The one rule that speaks about what is below the node that it matches. -/
lemma preferStartsEndsWith_unrepeated : preferStartsEndsWith.Unrepeated := by
  constructor
  · refine ⟨provided_isLocal.single, provided_isLocal.single, ?_, provided_isLocal.single,
      provided_isLocal.single⟩
    intro u node node' anchor h h'
    obtain ⟨hbelow, houter, d, hd⟩ := h.below
    obtain ⟨hbelow', houter', -⟩ := h'.below
    have hequality := matches_operatorCall.1 (matches_iff.2 houter)
    have hequality' := matches_operatorCall.1 (matches_iff.2 houter')
    have hmethod := holds_of_mem_conjuncts (c := .method (.any ["substr"])) hd (.tail _ (.head _))
    by_cases heq : node = node'
    · exact .inl heq
    · exact .inr (.piece hmethod heq hequality hequality' hbelow hbelow')
  · -- All but one of the rules concern what they match.
    refine exclusive_of_concerns
      (preferStartsEndsWith.rules.zip ((preferStartsEndsWith.rules.map (·.matcher)).set 2
      ((stringMethod "substr").and (.argument 0 .zeroLiteral)))) ?_ (by decide +kernel) _
    refine ⟨provided_isLocal.concerns, provided_isLocal.concerns, ?_, provided_isLocal.concerns,
      provided_isLocal.concerns⟩
    intro u node anchor h
    exact h.below.2.2

/-- What no check says twice. The checks that are not named here say one thing about every node. -/
lemma unrepeated_allChecks (options : Options) : (allChecks options).Forall Unrepeated := by
  refine ⟨.of_isLocal always_isLocal ?_,
    .of_isLocal ⟨always_isLocal, always_isLocal, always_isLocal⟩ ?_,
    .of_isLocal always_isLocal ?_,
    .of_isLocal always_isLocal ?_,
    .of_isLocal always_isLocal ?_,
    .of_isLocal ⟨always_isLocal, always_isLocal, always_isLocal⟩ ?_,
    .of_isLocal ⟨always_isLocal, always_isLocal⟩ ?_,
    .of_isLocal ⟨always_isLocal, always_isLocal, always_isLocal⟩ ?_,
    .of_isLocal provided_isLocal ?_,
    .of_isLocal always_isLocal ?_,
    .of_isLocal always_isLocal ?_,
    .of_isLocal ⟨always_isLocal, always_isLocal⟩ ?_,
    .of_isLocal always_isLocal ?_,
    .of_isLocal always_isLocal ?_,
    .of_isLocal always_isLocal ?_,
    .of_isLocal always_isLocal ?_,
    .of_isLocal ⟨always_isLocal, always_isLocal, always_isLocal⟩ ?_,
    preferSpan_unrepeated,
    preferStartsEndsWith_unrepeated,
    preferContains_unrepeated,
    preferEraseIf_unrepeated,
    .of_isLocal always_isLocal ?_,
    .of_isLocal ⟨always_isLocal, always_isLocal⟩ ?_,
    .of_isLocal ⟨always_isLocal, always_isLocal, always_isLocal⟩ ?_,
    .of_isLocal ⟨always_isLocal, always_isLocal⟩ ?_,
    preferToUnderlying_unrepeated,
    .of_isLocal ⟨always_isLocal, always_isLocal, always_isLocal⟩ ?_,
    .of_isLocal always_isLocal ?_,
    preferInplaceVector_unrepeated options.maxInplaceSize,
    .of_isLocal always_isLocal ?_,
    .of_isLocal always_isLocal ?_⟩
  all_goals decide +kernel

end Checks

namespace TranslationUnit

/-- No two nodes that have a range have the same one. -/
def HasOwnRanges (u : TranslationUnit) : Prop :=
  (u.entries.toList.filterMap (·.facts.range)).Nodup

/-- Whether no two nodes have the same range can be decided. -/
instance (u : TranslationUnit) : Decidable u.HasOwnRanges :=
  inferInstanceAs (Decidable (List.Nodup _))

variable {u : TranslationUnit} {a b : Nat} {range : SourceRange}

/-- A node is known by its range. -/
lemma HasOwnRanges.eq (hu : u.HasOwnRanges) (ha : u.mainFileRange? a = some range)
    (hb : u.mainFileRange? b = some range) : a = b := by
  obtain ⟨⟨x, hx, -, hxrange⟩, -⟩ := mainFileRange?_eq_some ha
  obtain ⟨⟨y, hy, -, hyrange⟩, -⟩ := mainFileRange?_eq_some hb
  obtain ⟨halt, rfl⟩ := Array.getElem?_eq_some_iff.1 hx
  obtain ⟨hblt, rfl⟩ := Array.getElem?_eq_some_iff.1 hy
  have hpairs := List.pairwise_iff_getElem.1 (List.pairwise_filterMap.1 hu)
  rcases Nat.lt_trichotomy a b with hlt | heq | hlt
  · exact absurd rfl (hpairs a b halt hblt hlt range hxrange range hyrange)
  · exact heq
  · exact absurd rfl (hpairs b a hblt halt hlt range hyrange range hxrange)

end TranslationUnit

/-- A report is of what the rule speaks about. -/
lemma speaks_of_reported? {e : Engine} {u : TranslationUnit} {tier : Language.Tier} {hit : Hit}
    {node : Nat} {f : Finding} (h : e.reported? u tier hit = some f)
    (hmatch : hit.rule.matcher.match? u node = some hit.bindings) :
    ∃ anchor, hit.rule.Speaks u node anchor ∧ u.mainFileRange? anchor = some f.range := by
  obtain ⟨found, hfound, rfl⟩ := Option.map_eq_some_iff.1 h
  obtain ⟨hfinding, -⟩ := Option.filter_eq_some_iff.1 hfound
  obtain ⟨advice, hadvice, hcompose⟩ := Option.bind_eq_some_iff.1 hfinding
  obtain ⟨range, hrange, rfl⟩ := Option.map_eq_some_iff.1 hcompose
  rw [match?_eq_outcome] at hmatch
  exact ⟨advice.anchor, ⟨hit.bindings, advice, hmatch, hadvice, rfl⟩, hrange⟩

/-- A check is known by its descriptor. -/
lemma number_eq_of_descriptor_eq {options : Options} {i j : Nat} {check check' : Check}
    (hi : (allChecks options)[i]? = some check) (hj : (allChecks options)[j]? = some check')
    (h : check.descriptor = check'.descriptor) : i = j := by
  have hnodup : ((allChecks options).map (·.descriptor)).Nodup := by
    rw [descriptors_allChecks]
    exact .of_map _ unambiguous_catalog.names
  obtain ⟨hlt, -⟩ := List.getElem?_eq_some_iff.1 hi
  refine (List.getElem?_inj (by rwa [List.length_map]) hnodup).1 ?_
  rw [List.getElem?_map, List.getElem?_map, hi, hj, Option.map_some, Option.map_some, h]

/-- In a unit whose nodes have ranges of their own, no check reports the same place twice, other
than where it may have two things to say about one node. -/
theorem pairwise_analyze (options : Options) (settings : Settings) (fallback : Language.Flags)
    (d : Document) :
    let e : Engine := { registry := .default options, settings, fallback }
    let u := e.unit d
    u.HasOwnRanges →
      (e.analyze u).Pairwise fun f g => f.check = g.check → f.range = g.range →
        ∃ node, u.mainFileRange? node = some f.range ∧ Repeatable u f.check node := by
  intro e u hranges
  have hu : u.Linked := TranslationUnit.linked_ofDocument d fallback
  have hsites := List.pairwise_map.1 (e.pairwise_emissions u)
  rw [analyze_eq, ← e.map_snd_emissions, List.pairwise_map]
  refine hsites.imp_of_mem ?_
  rintro ⟨s, f⟩ ⟨t, g⟩ hf hg hbefore hcheck hrange
  obtain ⟨hit, hhit, hf⟩ := (e.mem_emissions u).1 hf
  obtain ⟨hit', hhit', hg⟩ := (e.mem_emissions u).1 hg
  obtain ⟨anchor, hspeaks, hanchor⟩ := speaks_of_reported? hf hhit.matched
  obtain ⟨anchor', hspeaks', hanchor'⟩ := speaks_of_reported? hg hhit'.matched
  rw [← hrange] at hanchor'
  obtain rfl : anchor = anchor' := hranges.eq hanchor hanchor'
  -- The checks are the same, so the two reports are of two rules or at two nodes.
  have hdescriptor : hit.check.descriptor = hit'.check.descriptor := by
    rw [← check_of_reported? hf, ← check_of_reported? hg, hcheck]
  have hnumber : s.check = t.check := number_eq_of_descriptor_eq hhit.check hhit'.check hdescriptor
  have hsame : hit.check = hit'.check := by
    have hcheck' := hhit'.check
    rw [← hnumber, hhit.check] at hcheck'
    exact Option.some.inj hcheck'
  have hunrepeated := List.forall_iff_forall_mem.1 (Checks.unrepeated_allChecks options) hit.check
    (List.mem_of_getElem? hhit.check)
  have hrule' := hhit'.rule
  rw [← hsame] at hrule'
  rcases hunrepeated.eq_or_repeatable hu hhit.rule hrule' hspeaks hspeaks' with
    ⟨hnode, hrule⟩ | hrepeat
  · have hsite : s = t := by
      cases s
      cases t
      exact (Site.mk.injEq ..).mpr ⟨hnode, hnumber, hrule⟩
    exact absurd hsite hbefore.ne
  · rw [check_of_reported? hf]
    exact ⟨anchor, hanchor, hrepeat⟩

/-- Two searches on a class with both sorts of lookup, one compared with the end and one with
`npos`. -/
theorem pairwise_analyze_lookups :
    let e : Engine := { registry := .default {}, fallback := .ofTier .cpp20 }
    let d : Document :=
      { source := "void f(const V& v) { b(m.find(k) != m.end(), m.find(k) != npos); }\n"
        records := [{ name := "Table", methods := ["contains", "starts_with"] }]
        root := .mk { kind := .translationUnitDecl }
          [.mk { kind := .parmVarDecl "v", range := some ⟨7, 17⟩,
                 ty := some { decl := some "std::vector", isConst := true,
                              reference := .lvalue } } [],
            .mk { kind := .binaryOperator .ne, range := some ⟨23, 43⟩ }
              [.mk { kind := .memberCallExpr { method := "find", className := "Table" },
                     range := some ⟨23, 32⟩ } [],
                .mk { kind := .memberCallExpr { method := "end" }, range := some ⟨36, 43⟩ } []],
            .mk { kind := .binaryOperator .ne, range := some ⟨45, 62⟩ }
              [.mk { kind := .memberCallExpr { method := "find", className := "Table" },
                     range := some ⟨45, 54⟩ } [],
                .mk { kind := .declRefExpr "npos", range := some ⟨58, 62⟩ } []]] }
    let u := e.unit d
    (u.HasOwnRanges ∧ (e.analyze u).length = 3) ∧
      (e.analyze u).Pairwise fun f g => f.check = g.check → f.range = g.range →
        ∃ node, u.mainFileRange? node = some f.range ∧ Repeatable u f.check node := by
  intro e d u
  have hranges : u.HasOwnRanges := by decide +kernel
  exact ⟨⟨hranges, by decide +kernel⟩, pairwise_analyze {} {} (.ofTier .cpp20) d hranges⟩

/-- Nodes with ranges of their own do not keep a check from reporting a place twice: a search whose
result flows into a rewritten comparison, a parameter that is a reference to a pointer, and a piece
of a string below two tests for equality. -/
theorem analyze_not_nodup :
    let e : Engine := { registry := .default {}, fallback := .ofTier .cpp20 }
    let search : Document :=
      { source := "bool b = m.find(k) != m.end();\n"
        records := [{ name := "Table", methods := ["contains", "starts_with"] }]
        root := .mk { kind := .translationUnitDecl }
          [.mk { kind := .rewrittenBinaryOperator .ne, range := some ⟨9, 29⟩ }
            [.mk { kind := .memberCallExpr { method := "find", className := "Table" },
                   range := some ⟨9, 18⟩ } [],
              .mk { kind := .memberCallExpr { method := "end", className := "Table" },
                    range := some ⟨22, 29⟩ } []]] }
    let parameter : Document :=
      { source := "void f(const std::vector<int>* const& data);\n"
        root := .mk { kind := .translationUnitDecl }
          [.mk { kind := .parmVarDecl "data", range := some ⟨7, 42⟩,
                 ty := some { decl := some "std::vector", isConst := true, reference := .lvalue,
                              isPointer := true } }
            []] }
    let piece : Document :=
      { source := "bool b = (s.substr(0, 1) == x) == y;\n"
        records := [{ name := "std::string", methods := ["starts_with"] }]
        root := .mk { kind := .translationUnitDecl }
          [.mk { kind := .operatorCallExpr .eq, range := some ⟨9, 35⟩ }
            [.mk { kind := .parenExpr, range := some ⟨9, 30⟩ }
              [.mk { kind := .operatorCallExpr .eq, range := some ⟨10, 29⟩ }
                [.mk { kind := .memberCallExpr { method := "substr",
                                                 className := some "std::string" },
                       range := some ⟨10, 24⟩ }
                  [.mk { kind := .declRefExpr "s", range := some ⟨10, 11⟩ } [],
                    .mk { kind := .integerLiteral 0, range := some ⟨19, 20⟩ } []]]]]] }
    ∀ d ∈ [search, parameter, piece],
      (e.unit d).HasOwnRanges ∧
        ¬ ((e.analyze (e.unit d)).map fun f => (f.check, f.range)).Nodup := by
  decide +kernel

end CppAdvice
