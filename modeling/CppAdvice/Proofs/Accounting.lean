import CppAdvice.Proofs.Reports
import Mathlib.Data.Set.Card

/-!
# The accounts of a run

A run gets to its sites one after another: to every node, there to every check of the registry, and
there to every rule of the check. What there is at a site is said without the walk (`Engine.HitAt`,
`Engine.CallsFor`). The matches of a run, each with its site (`Engine.located`), come in the order
of the sites and are all that there are, so the counts of a run are numbers of sites, and what it
hands on comes in their order (`analyzeInto_accounts`).
-/

namespace CppAdvice

/-- A node, the number of a check in a registry, and the number of one of its rules. -/
structure Site where
  node : Nat
  check : Nat
  rule : Nat
deriving DecidableEq

/-- The order in which sites are reached: by node, then by check, then by rule. -/
def Site.Before (a b : Site) : Prop :=
  a.node < b.node ∨ a.node = b.node ∧ (a.check < b.check ∨ a.check = b.check ∧ a.rule < b.rule)

/-- A site is not before itself. -/
lemma Site.Before.ne {a b : Site} (h : a.Before b) : a ≠ b := by
  rintro rfl
  rcases h with h | ⟨-, h | ⟨-, h⟩⟩
  · exact Nat.lt_irrefl _ h
  · exact Nat.lt_irrefl _ h
  · exact Nat.lt_irrefl _ h

namespace Engine

variable (e : Engine) (u : TranslationUnit)

/-- The rule at a site is one of a check that can run, and it matches at the node. -/
structure HitAt (s : Site) (hit : Hit) : Prop where
  node : hit.node = s.node
  visited : s.node < u.size
  check : e.registry.checks[s.check]? = some hit.check
  eligible : hit.check.descriptor.isEligible u.language = true
  rule : hit.check.rules[s.rule]? = some hit.rule
  matched : hit.rule.matcher.match? u s.node = some hit.bindings

/-- There is something to say about a match, at a node with a place in the main file, and its check
may report. -/
def CallsFor (hit : Hit) : Prop :=
  ∃ advice, hit.rule.verdict u hit.bindings = some advice ∧
    (u.mainFileRange? advice.anchor).isSome = true ∧
    e.settings.levelFor hit.check.descriptor.id ≠ .allow

/-- The matches of a check with the given number, each with its site. -/
def locatedAt (node : Nat) (check : Check) (number : Nat) : List (Site × Hit) :=
  check.rules.zipIdx.filterMap fun (rule, r) =>
    (rule.matcher.match? u node).map fun bindings =>
      (⟨node, number, r⟩, { node, check, rule, bindings })

/-- The matches of a run, each with its site. -/
def located : List (Site × Hit) :=
  u.preorder.flatMap fun node =>
    (e.registry.checks.zipIdx.filter fun (check, _) =>
      check.descriptor.isEligible u.language).flatMap
      fun (check, c) => locatedAt u node check c

/-- Without the sites, these are the matches of the check at the node. -/
lemma map_snd_locatedAt (node : Nat) (check : Check) (number : Nat) :
    (locatedAt u node check number).map (·.2) = check.hitsAt u node := by
  have hrules : check.rules.zipIdx.map Prod.fst = check.rules := List.zipIdx_map_fst 0 check.rules
  rw [locatedAt, Check.hitsAt, List.map_filterMap]
  conv_rhs => rw [← hrules, List.filterMap_map]
  apply List.filterMap_congr
  intro x _
  cases hmatch : x.1.matcher.match? u node with
  | none => simp [hmatch]
  | some bindings => simp [hmatch]

/-- Without the sites, these are the matches of the run. -/
lemma map_snd_located : (e.located u).map (·.2) = hits (e.registry.eligible u.language) u := by
  have hchecks :
      (e.registry.checks.zipIdx.filter fun x => x.1.descriptor.isEligible u.language).map Prod.fst =
      e.registry.eligible u.language := by
    rw [Registry.eligible]
    conv_rhs => rw [← List.zipIdx_map_fst 0 e.registry.checks, List.filter_map]
    rfl
  rw [located, hits, List.map_flatMap]
  apply List.flatMap_congr
  intro node _
  rw [← hchecks, List.map_flatMap, List.flatMap_map]
  apply List.flatMap_congr
  intro x _
  exact map_snd_locatedAt u node x.1 x.2

/-- The matches of a check at a node are those of its rules, each at the site of its rule. -/
lemma mem_locatedAt {node : Nat} {check : Check} {number : Nat} {s : Site} {hit : Hit} :
    (s, hit) ∈ locatedAt u node check number ↔
      s.node = node ∧ s.check = number ∧ hit.node = node ∧ hit.check = check ∧
        check.rules[s.rule]? = some hit.rule ∧
        hit.rule.matcher.match? u node = some hit.bindings := by
  rw [locatedAt, List.mem_filterMap]
  constructor
  · rintro ⟨⟨rule, r⟩, hrule, h⟩
    obtain ⟨bindings, hmatch, h⟩ := Option.map_eq_some_iff.1 h
    obtain ⟨rfl, rfl⟩ := Prod.mk.inj h
    exact ⟨rfl, rfl, rfl, rfl, List.mem_zipIdx_iff_getElem?.1 hrule, hmatch⟩
  · obtain ⟨n, c, r⟩ := s
    obtain ⟨n', check', rule, bindings⟩ := hit
    rintro ⟨rfl, rfl, rfl, rfl, hrule, hmatch⟩
    refine ⟨(rule, r), List.mem_zipIdx_iff_getElem?.2 hrule, ?_⟩
    rw [Option.map_eq_some_iff]
    exact ⟨bindings, hmatch, rfl⟩

/-- Every match is found, and nothing else. -/
lemma mem_located {s : Site} {hit : Hit} : (s, hit) ∈ e.located u ↔ e.HitAt u s hit := by
  rw [located, List.mem_flatMap]
  constructor
  · rintro ⟨node, hnode, h⟩
    obtain ⟨⟨check, c⟩, hcheck, h⟩ := List.mem_flatMap.1 h
    obtain ⟨hcheck, heligible⟩ := List.mem_filter.1 hcheck
    obtain ⟨rfl, rfl, hhit, rfl, hrule, hmatch⟩ := (mem_locatedAt u).1 h
    exact ⟨hhit, List.mem_range.1 hnode, List.mem_zipIdx_iff_getElem?.1 hcheck, heligible,
      hrule, hmatch⟩
  · intro h
    refine ⟨s.node, List.mem_range.2 h.visited, ?_⟩
    rw [List.mem_flatMap]
    refine ⟨(hit.check, s.check), ?_, ?_⟩
    · exact List.mem_filter.2 ⟨List.mem_zipIdx_iff_getElem?.2 h.check, h.eligible⟩
    · exact (mem_locatedAt u).2 ⟨rfl, rfl, h.node, rfl, h.rule, h.matched⟩

/-- Numbers that are given to entries increase. -/
lemma pairwise_zipIdx {α : Type} (l : List α) : l.zipIdx.Pairwise fun a b => a.2 < b.2 := by
  have h : (l.zipIdx.map Prod.snd).Pairwise (· < ·) := by
    rw [List.zipIdx_map_snd]
    exact List.pairwise_lt_range'
  exact List.pairwise_map.1 h

/-- The matches of a check at a node come in the order of its rules. -/
lemma pairwise_locatedAt (node : Nat) (check : Check) (number : Nat) :
    (locatedAt u node check number).Pairwise fun a b => a.1.Before b.1 := by
  rw [locatedAt, List.pairwise_filterMap]
  refine (pairwise_zipIdx check.rules).imp fun {x y} hxy a ha b hb => ?_
  obtain ⟨_, _, rfl⟩ := Option.map_eq_some_iff.1 ha
  obtain ⟨_, _, rfl⟩ := Option.map_eq_some_iff.1 hb
  exact .inr ⟨rfl, .inr ⟨rfl, hxy⟩⟩

/-- The matches come in the order of their sites. -/
lemma pairwise_located : (e.located u).Pairwise fun a b => a.1.Before b.1 := by
  rw [located, List.pairwise_flatMap]
  constructor
  · intro node _
    rw [List.pairwise_flatMap]
    constructor
    · intro x _
      exact pairwise_locatedAt u node x.1 x.2
    · refine ((pairwise_zipIdx _).filter _).imp fun {x y} hxy a ha b hb => ?_
      obtain ⟨hnode, hcheck, -⟩ := (mem_locatedAt u).1 ha
      obtain ⟨hnode', hcheck', -⟩ := (mem_locatedAt u).1 hb
      exact .inr ⟨hnode.trans hnode'.symm, .inl (by rwa [hcheck, hcheck'])⟩
  · refine List.pairwise_lt_range.imp fun {n m} hnm a ha b hb => ?_
    obtain ⟨x, _, ha⟩ := List.mem_flatMap.1 ha
    obtain ⟨y, _, hb⟩ := List.mem_flatMap.1 hb
    obtain ⟨hnode, -⟩ := (mem_locatedAt u).1 ha
    obtain ⟨hnode', -⟩ := (mem_locatedAt u).1 hb
    exact .inl (by rwa [hnode, hnode'])

/-- The number of sites with a match of some sort is the number of such matches: no site has two. -/
lemma ncard_hitAt (p : Hit → Prop) [DecidablePred p] :
    {s | ∃ hit, e.HitAt u s hit ∧ p hit}.ncard = ((e.located u).map (·.2)).countP (p ·) := by
  have hsites : (((e.located u).filter (p ·.2)).map (·.1)).Nodup := by
    rw [List.Nodup, List.pairwise_map]
    exact ((e.pairwise_located u).filter _).imp Site.Before.ne
  have hset : {s | ∃ hit, e.HitAt u s hit ∧ p hit} =
      (((e.located u).filter (p ·.2)).map (·.1)).toFinset := by
    ext s
    simp [mem_located]
  rw [hset, Set.ncard_coe_finset, List.toFinset_card_of_nodup hsites, List.length_map,
    List.countP_map, List.countP_eq_length_filter]
  rfl

/-- A match that calls for a report leads to one finding of a check that may report, any other to
none. -/
lemma length_candidates_singleton [DecidablePred (e.CallsFor u)] (hit : Hit) :
    (e.candidates u [hit]).length = if e.CallsFor u hit then 1 else 0 := by
  cases hverdict : hit.rule.verdict u hit.bindings with
  | none => simp [candidates, CallsFor, Hit.finding?, hverdict]
  | some advice =>
    cases hrange : u.mainFileRange? advice.anchor with
    | none => simp [candidates, CallsFor, Hit.finding?, compose, hverdict, hrange]
    | some range =>
      by_cases hlevel : e.settings.levelFor hit.check.descriptor.id = .allow
      · simp [candidates, CallsFor, Hit.finding?, compose, hverdict, hrange, hlevel]
      · simp [candidates, CallsFor, Hit.finding?, compose, hverdict, hrange, hlevel]

/-- As many findings are of checks that may report as there are matches that call for one. -/
lemma length_candidates [DecidablePred (e.CallsFor u)] (found : List Hit) :
    (e.candidates u found).length = found.countP (e.CallsFor u ·) := by
  induction found with
  | nil => rfl
  | cons hit found ih =>
    rw [candidates_cons, List.length_append, length_candidates_singleton, ih, List.countP_cons,
      Nat.add_comm]
    simp only [decide_eq_true_eq]

/-- What is silenced and what is handed on make up the findings of checks that may report. -/
lemma length_passed_add_silenced (coverage : Suppression.Coverage) (findings : List Finding) :
    (e.passed coverage findings).length + (silenced coverage findings).length =
      findings.length := by
  rw [passed, silenced, List.length_map, Nat.add_comm]
  exact (List.length_eq_length_filter_add _).symm

/-- The findings that a run hands on, each with its site. -/
def emissions : List (Site × Finding) :=
  (e.located u).filterMap fun (s, hit) => (e.reported? u u.language.tier hit).map (s, ·)

/-- Without the sites, these are the findings that are reported of the matches. -/
lemma map_snd_emissions : (e.emissions u).map (·.2) =
    (hits (e.registry.eligible u.language) u).filterMap (e.reported? u u.language.tier) := by
  rw [emissions, ← map_snd_located, List.map_filterMap, List.filterMap_map]
  apply List.filterMap_congr
  intro x _
  cases hreported : e.reported? u u.language.tier x.2 with
  | none => simp [hreported]
  | some finding => simp [hreported]

/-- The findings come in the order of their sites. -/
lemma pairwise_emissions : ((e.emissions u).map (·.1)).Pairwise Site.Before := by
  rw [List.pairwise_map, emissions, List.pairwise_filterMap]
  refine (e.pairwise_located u).imp fun {x y} hxy a ha b hb => ?_
  obtain ⟨_, _, rfl⟩ := Option.map_eq_some_iff.1 ha
  obtain ⟨_, _, rfl⟩ := Option.map_eq_some_iff.1 hb
  exact hxy

/-- At a site is what is reported of the match there, and nothing else. -/
lemma mem_emissions {s : Site} {f : Finding} :
    (s, f) ∈ e.emissions u ↔ ∃ hit, e.HitAt u s hit ∧
      e.reported? u u.language.tier hit = some f := by
  rw [emissions, List.mem_filterMap]
  constructor
  · rintro ⟨⟨s', hit⟩, hlocated, h⟩
    obtain ⟨f', hreported, h⟩ := Option.map_eq_some_iff.1 h
    obtain ⟨rfl, rfl⟩ := Prod.mk.inj h
    exact ⟨hit, (e.mem_located u).1 hlocated, hreported⟩
  · rintro ⟨hit, hhit, hreported⟩
    refine ⟨(s, hit), (e.mem_located u).2 hhit, ?_⟩
    rw [Option.map_eq_some_iff]
    exact ⟨f, hreported, rfl⟩

end Engine

/-- The summary accounts for the run. Whatever is in the sink, a run adds to its end as many
findings as it says, in the order of their sites and at most one for each site, namely what is
reported of the match there; it counts the sites with a match; and what it hands on or silences is
one finding for each site where a match calls for a report. -/
theorem analyzeInto_accounts (e : Engine) (u : TranslationUnit) (sink : Array Finding) :
    let summary := (e.analyzeInto u sink).1
    ∃ emitted : List (Site × Finding),
      (e.analyzeInto u sink).2.toList = sink.toList ++ emitted.map (·.2) ∧
      summary.emitted = emitted.length ∧
      (emitted.map (·.1)).Pairwise Site.Before ∧
      (∀ s f, (s, f) ∈ emitted ↔ ∃ hit, e.HitAt u s hit ∧
        e.reported? u u.language.tier hit = some f) ∧
      summary.hits = {s | ∃ hit, e.HitAt u s hit}.ncard ∧
      summary.emitted + summary.suppressed = {s | ∃ hit, e.HitAt u s hit ∧ e.CallsFor u hit}.ncard ∧
      summary.emitted + summary.suppressed ≤ summary.hits := by
  classical
  intro summary
  have hsummary := e.analyzeInto_eq u sink
  have hfindings := (passed_candidates e u (hits (e.registry.eligible u.language) u)).trans
    (e.map_snd_emissions u).symm
  have htotal : summary.emitted + summary.suppressed =
      (hits (e.registry.eligible u.language) u).countP (e.CallsFor u ·) := by
    rw [← e.length_candidates u, ← e.length_passed_add_silenced (.ofSource u.source)]
    exact congrArg (fun out => out.1.emitted + out.1.suppressed) hsummary
  have hhits : summary.hits = (hits (e.registry.eligible u.language) u).length :=
    congrArg (·.1.hits) hsummary
  refine ⟨e.emissions u, ?_, ?_, e.pairwise_emissions u, fun s f => e.mem_emissions u, ?_, ?_, ?_⟩
  · rw [hsummary, Array.toList_append, hfindings]
  · rw [← List.length_map (·.2), ← hfindings]
    exact congrArg (·.1.emitted) hsummary
  · have hcount := e.ncard_hitAt u fun _ => True
    simp only [and_true, decide_true, List.countP_true, e.map_snd_located u] at hcount
    rw [hhits, hcount]
  · rw [htotal, e.ncard_hitAt u (e.CallsFor u), e.map_snd_located u]
  · rw [htotal, hhits]
    exact List.countP_le_length

end CppAdvice
