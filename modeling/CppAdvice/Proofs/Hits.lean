import CppAdvice.Proofs.Advice
import CppAdvice.Proofs.Walk

/-!
# Matches on units that look alike

The matches of checks at a node and at its image under a `Simulation` are the same up to the numbers
of nodes (`Simulation.hitsOn_map`), and lead to the same findings (`Simulation.finding?_eq`).
Wrappers have no matches, so they can be left out of the nodes that a run visits (`hitsOn_filter`).
Runs are compared with these lemmas alone (`Simulation.analyzeInto_eq`), and none of them looks at a
particular check.
-/

namespace CppAdvice

open CppAdvice.Tree CppAdvice.Matcher

/-- What is known of the rules of every check. -/
structure Rule.Regular (rule : Rule) : Prop where
  stable : rule.matcher.isStable = true
  rejects : rule.matcher.rejectsWrappers = true
  carries : rule.Carries

/-- All rules of all the checks are regular. -/
def RegularChecks (checks : List Check) : Prop :=
  ∀ check ∈ checks, ∀ rule ∈ check.rules, rule.Regular

/-- The checks that there are have regular rules. -/
lemma regular_allChecks (options : Options) : RegularChecks (allChecks options) := by
  -- Which tags a matcher asks for can be computed, whatever the options.
  have hmatchers : ((allChecks options).all fun check => check.rules.all fun rule =>
      rule.matcher.isStable && rule.matcher.rejectsWrappers) = true := rfl
  intro check hcheck rule hrule
  have hmatcher := List.all_eq_true.1 (List.all_eq_true.1 hmatchers check hcheck) rule hrule
  have hcarries := List.forall_iff_forall_mem.1 (Checks.rules_carry options) check hcheck
  rw [Bool.and_eq_true] at hmatcher
  exact ⟨hmatcher.1, hmatcher.2, List.forall_iff_forall_mem.1 hcarries rule hrule⟩

/-- Some of several checks with regular rules have regular rules. -/
lemma RegularChecks.filter {checks : List Check} (h : RegularChecks checks) (p : Check → Bool) :
    RegularChecks (checks.filter p) :=
  fun check hcheck => h check (List.mem_filter.1 hcheck).1

/-- The match at the node with another number. -/
def Hit.rename (f : Nat → Nat) (hit : Hit) : Hit :=
  { hit with node := f hit.node, bindings := hit.bindings.rename f }

/-- The matches of several checks at several nodes. -/
def hitsOn (checks : List Check) (u : TranslationUnit) (nodes : List Nat) : List Hit :=
  nodes.flatMap fun node => checks.flatMap (·.hitsAt u node)

/-- What it means to be a match. -/
lemma mem_hitsOn {checks : List Check} {u : TranslationUnit} {nodes : List Nat} {hit : Hit}
    (h : hit ∈ hitsOn checks u nodes) :
    hit.node ∈ nodes ∧ hit.check ∈ checks ∧ hit.rule ∈ hit.check.rules ∧
      hit.rule.matcher.outcome u hit.node = some hit.bindings := by
  obtain ⟨node, hnode, h⟩ := List.mem_flatMap.1 h
  obtain ⟨check, hcheck, h⟩ := List.mem_flatMap.1 h
  obtain ⟨rule, hrule, h⟩ := List.mem_filterMap.1 h
  obtain ⟨b, hb, rfl⟩ := Option.map_eq_some_iff.1 h
  exact ⟨hnode, hcheck, hrule, by rwa [match?_eq_outcome] at hb⟩

/-- A wrapper has no matches. -/
lemma hitsAt_wrapper {checks : List Check} (hchecks : RegularChecks checks) {u : TranslationUnit}
    {node : Nat} (h : u.isWritten node = false) : checks.flatMap (·.hitsAt u node) = [] := by
  rw [List.flatMap_eq_nil_iff]
  intro check hcheck
  rw [Check.hitsAt, List.filterMap_eq_nil_iff]
  intro rule hrule
  rw [match?_eq_outcome,
    outcome_eq_none_of_rejectsWrappers (hchecks check hcheck rule hrule).rejects h, Option.map_none]

/-- Wrappers can be left out. -/
lemma hitsOn_filter {checks : List Check} (hchecks : RegularChecks checks) (u : TranslationUnit)
    (nodes : List Nat) : hitsOn checks u (nodes.filter u.isWritten) = hitsOn checks u nodes := by
  induction nodes with
  | nil => rfl
  | cons node nodes ih =>
    rw [hitsOn] at ih ⊢
    cases hnode : u.isWritten node with
    | true =>
      rw [List.filter_cons_of_pos hnode, List.flatMap_cons, ih, hitsOn, hitsOn, List.flatMap_cons]
    | false =>
      rw [List.filter_cons_of_neg (by rw [hnode]; exact Bool.false_ne_true), ih, hitsOn, hitsOn,
        List.flatMap_cons, hitsAt_wrapper hchecks hnode, List.nil_append]

namespace Simulation

variable {u v : TranslationUnit} {f : Nat → Nat} {inside : Nat → Prop}

/-- The matches of a check at a node and at its image. -/
lemma hitsAt_eq (s : Simulation u v f inside) {check : Check}
    (hrules : ∀ rule ∈ check.rules, rule.Regular) {i} (h : inside i) :
    check.hitsAt v (f i) = (check.hitsAt u i).map (·.rename f) := by
  rw [Check.hitsAt, Check.hitsAt, List.map_filterMap]
  apply List.filterMap_congr
  intro rule hrule
  rw [match?_eq_outcome, match?_eq_outcome, (s.outcome_eq (hrules rule hrule).stable h).eq]
  cases rule.matcher.outcome u i <;> rfl

/-- The matches at the images of nodes are the images of the matches. -/
lemma hitsOn_map (s : Simulation u v f inside) {checks : List Check}
    (hchecks : RegularChecks checks) {nodes : List Nat} (hnodes : ∀ node ∈ nodes, inside node) :
    hitsOn checks v (nodes.map f) = (hitsOn checks u nodes).map (·.rename f) := by
  rw [hitsOn, hitsOn, List.flatMap_map, List.map_flatMap]
  apply List.flatMap_congr
  intro node hnode
  rw [List.map_flatMap]
  apply List.flatMap_congr
  intro check hcheck
  exact s.hitsAt_eq (hchecks check hcheck) (hnodes node hnode)

/-- A match at a node and at its image leads to the same finding. -/
lemma finding?_eq (s : Simulation u v f inside) {checks : List Check}
    (hchecks : RegularChecks checks) {nodes : List Nat}
    (hnodes : ∀ node ∈ nodes, inside node) {hit : Hit} (hhit : hit ∈ hitsOn checks u nodes)
    (tier : Language.Tier) : (hit.rename f).finding? v tier = hit.finding? u tier := by
  obtain ⟨hnode, hcheck, hrule, houtcome⟩ := mem_hitsOn hhit
  have hregular := hchecks hit.check hcheck hit.rule hrule
  have hnode := hnodes hit.node hnode
  have hbindings := (s.outcome_eq hregular.stable hnode).inside houtcome
  have hcarried := hregular.carries s hnode hbindings houtcome
  rw [Hit.finding?, Hit.finding?, Hit.rename, hcarried.eq]
  cases hverdict : hit.rule.verdict u hit.bindings with
  | none => rfl
  | some a => exact s.compose_eq (hcarried.inside hverdict) tier hit.check.descriptor

/-- Matches at nodes and at their images lead to the same findings. -/
lemma findings_eq (s : Simulation u v f inside) {checks : List Check}
    (hchecks : RegularChecks checks) {nodes : List Nat} (hnodes : ∀ node ∈ nodes, inside node)
    (tier : Language.Tier) : (hitsOn checks v (nodes.map f)).filterMap (·.finding? v tier) =
      (hitsOn checks u nodes).filterMap (·.finding? u tier) := by
  rw [s.hitsOn_map hchecks hnodes, List.filterMap_map]
  apply List.filterMap_congr
  intro hit hhit
  exact s.finding?_eq hchecks hnodes hhit tier

/-- Two units that look alike where nodes were written, with the same language, have the same runs:
what is handed on is the same, and so is every count. -/
lemma analyzeInto_eq (s : Simulation u v f fun _ => True) (hlanguage : v.language = u.language)
    (hpreorder : v.preorder.filter v.isWritten = (u.preorder.filter u.isWritten).map f) (e : Engine)
    (hchecks : RegularChecks e.registry.checks) (sink : Array Finding) :
    e.analyzeInto v sink = e.analyzeInto u sink := by
  have hregular : RegularChecks (e.registry.eligible u.language) := hchecks.filter _
  have hnodes : ∀ node ∈ u.preorder.filter u.isWritten, True := fun _ _ => trivial
  have hhits : ∀ w : TranslationUnit, hits (e.registry.eligible u.language) w =
      hitsOn (e.registry.eligible u.language) w (w.preorder.filter w.isWritten) :=
    fun w => (hitsOn_filter hregular w w.preorder).symm
  have hlength : (hits (e.registry.eligible u.language) v).length =
      (hits (e.registry.eligible u.language) u).length := by
    rw [hhits, hhits, hpreorder, s.hitsOn_map hregular hnodes, List.length_map]
  have hcandidates : e.candidates v (hits (e.registry.eligible u.language) v) =
      e.candidates u (hits (e.registry.eligible u.language) u) := by
    rw [Engine.candidates, Engine.candidates, hhits, hhits, hpreorder, hlanguage,
      s.findings_eq hregular hnodes]
  simp only [Engine.analyzeInto_eq, hlanguage, s.source, hlength, hcandidates]

end Simulation

end CppAdvice
