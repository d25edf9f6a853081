import CppAdvice.Proofs.Neighbours

/-!
# Lookups stay within a unit

The numbers of nodes are taken from entries and put into bindings, walks and advice, and nothing on
the way compares them with the number of nodes. To tell whether a lookup leaves the unit, put
further entries behind the last node: `u.extend rest` has those of `rest` there, whatever they say,
and a lookup outside of `u` finds them. `u.Confines look` says that `look` has the same answer for
all of them.

The numbers that a unit has for its nodes lead from a node to nodes (`Closed`). So every matcher
(`run_extend`), every walk up to a comparison (`isCompared_extend`), every search for a declaration
(`declaration?_extend`) and every verdict (`verdict_extend`) at a node is confined to the unit,
however few or many children its nodes have for their kinds.
-/

namespace CppAdvice

open CppAdvice.Tree CppAdvice.Matcher

namespace TranslationUnit

/-- The unit with further entries behind its last node. -/
def extend (u : TranslationUnit) (rest : Array Entry) : TranslationUnit :=
  { u with entries := u.entries ++ rest }

/-- No entry behind the last node is looked at: the answer is the same whatever there is. -/
def Confines {α : Type} (u : TranslationUnit) (look : TranslationUnit → α) : Prop :=
  ∀ rest, look (u.extend rest) = look u

/-- Every way from a node leads to nodes. -/
structure Closed (u : TranslationUnit) : Prop where
  parent : ∀ {i p}, u.parent? i = some p → p < i ∧ i < u.size
  child : ∀ {i c}, c ∈ u.children i → i < c ∧ c < u.size
  above : ∀ {i a}, i < u.size → a ∈ u.ancestors i → a < u.size
  below : ∀ {i j}, j ∈ u.descendants i → j < u.size
  written : ∀ {i}, i < u.size → u.skipImplicit i < u.size
  declaration : ∀ {i j}, u.declaration? i = some j → j < u.size
  target : ∀ {i j} {route : Route}, i < u.size → j ∈ route.targets u i → j < u.size

variable {u : TranslationUnit} {rest : Array Entry}

/-- A unit has no more nodes than it has with more entries. -/
lemma size_le_size_extend : u.size ≤ (u.extend rest).size := by
  rw [size, size, extend, Array.size_append]
  exact Nat.le_add_right _ _

/-- The entries of a unit stay where they are. -/
lemma entry?_extend {i : Nat} (hi : i < u.size) :
    TranslationUnit.entry? (u.extend rest) i = TranslationUnit.entry? u i := by
  rw [TranslationUnit.entry?, TranslationUnit.entry?, extend, Array.getElem?_append_left hi]

/-! ### What an entry says -/

/-- The kind of a node is read off the entries of the unit. -/
lemma kind_extend {i : Nat} (hi : i < u.size) : (u.extend rest).kind i = u.kind i := by
  rw [kind, entry?_extend hi, kind]

/-- The tag of a node is read off the entries of the unit. -/
lemma tag_extend {i : Nat} (hi : i < u.size) : (u.extend rest).tag i = u.tag i := by
  rw [tag, kind_extend hi, tag]

/-- The type of a node is read off the entries of the unit. -/
lemma type?_extend {i : Nat} (hi : i < u.size) : (u.extend rest).type? i = u.type? i := by
  rw [type?, entry?_extend hi, type?]

/-- The parent of a node is read off the entries of the unit. -/
lemma parent?_extend {i : Nat} (hi : i < u.size) : (u.extend rest).parent? i = u.parent? i := by
  rw [parent?, entry?_extend hi, parent?]

/-- The children of a node are read off the entries of the unit. -/
lemma children_extend {i : Nat} (hi : i < u.size) : (u.extend rest).children i = u.children i := by
  rw [children, entry?_extend hi, children]

/-- The place of a node in the file is read off the entries of the unit. -/
lemma mainFileRange?_extend {i : Nat} (hi : i < u.size) :
    (u.extend rest).mainFileRange? i = u.mainFileRange? i := by
  rw [mainFileRange?, entry?_extend hi, mainFileRange?]
  rfl

/-- What is below a node is read off the entries of the unit. -/
lemma descendants_extend {i : Nat} (hi : i < u.size) :
    (u.extend rest).descendants i = u.descendants i := by
  rw [descendants, subtreeEnd, entry?_extend hi, descendants, subtreeEnd]

/-! ### Walks down and up -/

/-- A walk down never leaves the unit, since a child is a node. -/
lemma skipImplicit_extend (hu : u.Linked) {i : Nat} (hi : i < u.size) :
    (u.extend rest).skipImplicit i = u.skipImplicit i := by
  rw [skipImplicit, tag_extend hi, children_extend hi, skipImplicit]
  cases hc : (u.children i).head? with
  | none => rfl
  | some c =>
    have hlt := hu.child (List.mem_of_head? hc)
    have hsize : c < (u.extend rest).size := Nat.lt_of_lt_of_le hlt.2 size_le_size_extend
    simp only [hsize, hlt, and_self, if_true]
    rw [skipImplicit_extend hu hlt.2]
termination_by u.size - i

/-- Nor does a walk up. -/
lemma ancestors_extend {i : Nat} (hi : i < u.size) :
    (u.extend rest).ancestors i = u.ancestors i := by
  rw [ancestors, parent?_extend hi, ancestors]
  cases u.parent? i with
  | none => rfl
  | some p =>
    by_cases hlt : p < i
    · simp only [hlt, if_true]
      rw [ancestors_extend (Nat.lt_trans hlt hi)]
    · simp only [hlt, if_false]
termination_by i

/-- The way up to a function stays in the unit. -/
lemma enclosingFunction?_extend {i : Nat} (hi : i < u.size) :
    (u.extend rest).enclosingFunction? i = u.enclosingFunction? i := by
  rw [enclosingFunction?, ancestors_extend hi, enclosingFunction?]
  apply List.find?_congr
  intro a ha
  rw [tag_extend (Part.lt_size_of_mem_ancestors hi ha)]

/-- The way up to a loop stays in the unit. -/
lemma isInsideLoop_extend {i : Nat} (hi : i < u.size) :
    Condition.isInsideLoop (u.extend rest) i = Condition.isInsideLoop u i := by
  have htags : (u.ancestors i).map (u.extend rest).tag = (u.ancestors i).map u.tag :=
    List.map_congr_left fun a ha => tag_extend (Part.lt_size_of_mem_ancestors hi ha)
  rw [Condition.isInsideLoop, ancestors_extend hi, htags, Condition.isInsideLoop]

/-! ### Comparisons -/

/-- A marker is recognized by the entries of the unit. -/
lemma holdsAt_extend (marker : Sentinel.Marker) {i : Nat} (hi : i < u.size) :
    marker.holdsAt (u.extend rest) i = marker.holdsAt u i := by
  unfold Sentinel.Marker.holdsAt
  rw [kind_extend hi]

/-- An operator may have any number of children; only those that it has are looked at. -/
lemma comparesAt_extend (hu : u.Linked) (comparison : Sentinel.Comparison) {node : Nat}
    (hnode : node < u.size) (side : Nat) (op : Opcode) :
    Sentinel.comparesAt (u.extend rest) comparison node side op =
      Sentinel.comparesAt u comparison node side op := by
  have hmarker : ∀ c ∈ u.children node,
      comparison.marker.holdsAt (u.extend rest) ((u.extend rest).skipImplicit c) =
        comparison.marker.holdsAt u (u.skipImplicit c) := by
    intro c hc
    have hc := (hu.child hc).2
    rw [skipImplicit_extend hu hc, holdsAt_extend _ (skipImplicit_bounds hu hc).2]
  rw [Sentinel.comparesAt, Sentinel.comparesAt, children_extend hnode]
  rcases hchildren : u.children node with _ | ⟨lhs, _ | ⟨rhs, _⟩⟩
  · rfl
  · rfl
  · simp only [hmarker lhs (by simp [hchildren]), hmarker rhs (by simp [hchildren])]

/-- The walk up from a value stays in the unit, if the nodes above do. -/
lemma walk_extend (hu : u.Linked) (transparent : List Tag) (comparison : Sentinel.Comparison)
    (side : Nat) {above : List Nat} (habove : ∀ a ∈ above, a < u.size) :
    Sentinel.walk (u.extend rest) transparent comparison side above =
      Sentinel.walk u transparent comparison side above := by
  induction above generalizing side with
  | nil => rfl
  | cons a above ih =>
    rw [List.forall_mem_cons] at habove
    rw [Sentinel.walk, Sentinel.walk, kind_extend habove.1, ih a habove.2]
    simp only [comparesAt_extend hu comparison habove.1]

/-- The way to a comparison stays in the unit. -/
lemma isCompared_extend (hu : u.Linked) (transparent : List Tag)
    (comparison : Sentinel.Comparison) {i : Nat} (hi : i < u.size) :
    Sentinel.isCompared (u.extend rest) transparent comparison i =
      Sentinel.isCompared u transparent comparison i := by
  rw [Sentinel.isCompared, ancestors_extend hi, Sentinel.isCompared]
  exact walk_extend hu transparent comparison i fun a ha => Part.lt_size_of_mem_ancestors hi ha

/-! ### Declarations -/

/-- The search for a declaration in a scope stays in the unit. -/
lemma declarationIn?_extend (hu : u.Linked) (name : String) (before : Nat) {scope : Nat}
    (hscope : scope < u.size) :
    (u.extend rest).declarationIn? name before scope = u.declarationIn? name before scope := by
  rw [declarationIn?, children_extend hscope, declarationIn?]
  congr 1
  apply List.filter_congr
  intro c hc
  rw [declaresVariable, kind_extend (hu.child ((List.takeWhile_sublist _).subset hc)).2,
    declaresVariable]

/-- The search for the declaration of a name stays in the unit. -/
lemma declaration?_extend (hu : u.Linked) {i : Nat} (hi : i < u.size) :
    (u.extend rest).declaration? i = u.declaration? i := by
  rw [declaration?, declaration?, kind_extend hi]
  split
  · rw [ancestors_extend hi, ← List.head?_filterMap, ← List.head?_filterMap]
    congr 1
    apply List.filterMap_congr
    intro a ha
    exact declarationIn?_extend hu _ i (Part.lt_size_of_mem_ancestors hi ha)
  · rfl

/-- A declaration that is found is the child of some node. -/
lemma lt_size_of_declaration? (hu : u.Linked) {i j : Nat} (h : u.declaration? i = some j) :
    j < u.size := by
  rw [declaration?] at h
  split at h
  · obtain ⟨scope, _, hscope⟩ := List.exists_of_findSome?_eq_some h
    have hmem := (List.mem_filter.1 (List.mem_of_getLast? hscope)).1
    exact (hu.child ((List.takeWhile_sublist _).subset hmem)).2
  · cases h

/-- The search for a size among the next parameters stays in the unit. -/
lemma followedBySize_extend (hu : u.Linked) {i : Nat} (hi : i < u.size) :
    Checks.followedBySize (u.extend rest) i = Checks.followedBySize u i := by
  rw [Checks.followedBySize, Checks.followedBySize, parent?_extend hi]
  cases hp : u.parent? i with
  | none => rfl
  | some p =>
    have hsiblings : ∀ c ∈ (u.children p).dropWhile (fun c => decide (c ≠ i)), c < u.size :=
      fun c hc => (hu.child ((List.dropWhile_sublist _).subset hc)).2
    simp only [children_extend (Nat.lt_trans (hu.parent hp).1 hi)]
    rcases hafter : (u.children p).dropWhile (fun c => decide (c ≠ i)) with _ | ⟨_, _ | ⟨next, _⟩⟩
    · rfl
    · rfl
    · have hnext := hsiblings next (by rw [hafter]; simp)
      simp only [tag_extend hnext, type?_extend hnext]

end TranslationUnit

section

open TranslationUnit

variable {u : TranslationUnit} {rest : Array Entry}

/-- The nodes of a unit look the same with more entries behind them. -/
lemma simulation_extend (hu : u.Linked) : Simulation u (u.extend rest) id (· < u.size) where
  file := rfl
  source := rfl
  records := rfl
  lt_iff := fun _ _ => Iff.rfl
  kind := kind_extend
  type := type?_extend
  range := mainFileRange?_extend
  children := by
    intro i hi
    rw [id, children_extend hi, List.map_id]
    exact List.map_congr_left fun c hc => skipImplicit_extend hu (hu.child hc).2
  inside_children := fun _ hc => (skipImplicit_bounds hu (hu.child hc).2).2
  below := by
    intro i hi
    rw [id, descendants_extend hi, List.map_id]
    apply List.filter_congr
    intro j hj
    rw [isWritten, tag_extend (lt_of_mem_descendants hu hj).2, isWritten]
  inside_below := fun _ hj => (lt_of_mem_descendants hu hj).2
  function := fun hi => by rw [id, enclosingFunction?_extend hi, Option.map_id, id]
  inside_function := fun hi hj => Part.lt_size_of_mem_ancestors hi (List.mem_of_find?_eq_some hj)
  loop := isInsideLoop_extend
  compared := fun comparison hi => isCompared_extend hu Sentinel.defaultTransparent comparison hi
  declaration := fun hi => by rw [id, declaration?_extend hu hi, Option.map_id, id]
  inside_declaration := fun _ hj => lt_size_of_declaration? hu hj
  sibling := fun hi _ => followedBySize_extend hu hi

/-- The nodes that a route leads to are found in the unit. -/
lemma targets_extend (hu : u.Linked) {i : Nat} (hi : i < u.size) (route : Route) :
    route.targets (u.extend rest) i = route.targets u i := by
  by_cases hroute : route = .descendant
  · subst hroute
    exact descendants_extend hi
  · rw [← List.map_id (route.targets u i)]
    exact (simulation_extend hu).targets hi hroute

/-! ### Matchers -/

/-- A run of a matcher over a unit and over what extends it: they end alike, and put labels on nodes
of the unit only, if those that they started from were. -/
structure Confined (u : TranslationUnit) (b : Bindings) (result result' : Bool × Bindings) :
    Prop where
  eq : result' = result
  inside : b.Inside (· < u.size) → result.2.Inside (· < u.size)

/-- A run that changes no label stays in the unit. -/
lemma Confined.refl {b : Bindings} {found : Bool} : Confined u b (found, b) (found, b) :=
  ⟨rfl, id⟩

/-- A search for the first success stays in the unit if every attempt does. -/
lemma confined_firstSuccess {attempt attempt' : Nat → Bindings → Bool × Bindings} {b : Bindings}
    {candidates : List Nat} (h : ∀ i ∈ candidates, Confined u b (attempt i b) (attempt' i b)) :
    Confined u b (firstSuccess attempt candidates b) (firstSuccess attempt' candidates b) := by
  induction candidates with
  | nil => exact .refl
  | cons i candidates ih =>
    rw [List.forall_mem_cons] at h
    obtain ⟨heq, hinside⟩ := h.1
    rw [firstSuccess, firstSuccess, heq]
    generalize attempt i b = result at hinside ⊢
    obtain ⟨found, labels⟩ := result
    cases found with
    | true => exact ⟨rfl, hinside⟩
    | false => exact ih h.2

mutual

/-- A run of a matcher at a node, by recursion on the matcher: its conditions look at nodes, and its
routes lead to nodes, where the matchers inside it run. -/
lemma run_extend (hu : u.Linked) :
    ∀ (m : Matcher) {i : Nat} (b : Bindings), i < u.size →
      Confined u b (m.run u i b) (m.run (u.extend rest) i b)
  | .test c, i, b, hi => by
    rw [run, run,
      show c.holds (u.extend rest) i = c.holds u i from (simulation_extend hu).holds hi c]
    exact .refl
  | .reach route inner, i, b, hi => by
    have hinner : ∀ target ∈ route.targets u i,
        Confined u b (inner.run u target b) (inner.run (u.extend rest) target b) :=
      fun target htarget =>
        run_extend hu inner b ((@simulation_extend u rest hu).inside_targets hi htarget)
    rw [run, run, targets_extend hu hi]
    split
    · exact confined_firstSuccess hinner
    · cases htargets : route.targets u i with
      | nil => exact .refl
      | cons target others => exact hinner target (by rw [htargets]; exact List.mem_cons_self)
  | .allOf matchers, i, b, hi => by
    rw [run, run]
    exact runAll_extend hu matchers b hi
  | .anyOf matchers, i, b, hi => by
    rw [run, run]
    exact runAny_extend hu matchers b hi
  | .not inner, i, b, hi => by
    rw [run, run, (run_extend hu inner b hi).eq]
    exact .refl
  | .bind label inner, i, b, hi => by
    obtain ⟨heq, hinside⟩ := run_extend hu inner b hi
    rw [run, run, heq]
    generalize inner.run u i b = result at hinside ⊢
    obtain ⟨found, labels⟩ := result
    cases found with
    | true => exact ⟨rfl, fun hb => (hinside hb).insert label hi⟩
    | false => exact ⟨rfl, hinside⟩

/-- Matchers that all have to match stay in the unit. -/
lemma runAll_extend (hu : u.Linked) :
    ∀ (matchers : List Matcher) {i : Nat} (b : Bindings), i < u.size →
      Confined u b (runAll u matchers i b) (runAll (u.extend rest) matchers i b)
  | [], i, b, _ => by
    rw [runAll, runAll]
    exact .refl
  | matcher :: matchers, i, b, hi => by
    obtain ⟨heq, hinside⟩ := run_extend hu matcher b hi
    rw [runAll, runAll, heq]
    generalize matcher.run u i b = result at hinside ⊢
    obtain ⟨found, labels⟩ := result
    cases found with
    | true =>
      have hothers := runAll_extend hu matchers labels hi
      exact ⟨hothers.eq, fun hb => hothers.inside (hinside hb)⟩
    | false => exact ⟨rfl, hinside⟩

/-- Matchers of which one has to match stay in the unit. -/
lemma runAny_extend (hu : u.Linked) :
    ∀ (matchers : List Matcher) {i : Nat} (b : Bindings), i < u.size →
      Confined u b (runAny u matchers i b) (runAny (u.extend rest) matchers i b)
  | [], i, b, _ => by
    rw [runAny, runAny]
    exact .refl
  | matcher :: matchers, i, b, hi => by
    obtain ⟨heq, hinside⟩ := run_extend hu matcher b hi
    rw [runAny, runAny, heq]
    generalize matcher.run u i b = result at hinside ⊢
    obtain ⟨found, labels⟩ := result
    cases found with
    | true => exact ⟨rfl, hinside⟩
    | false => exact runAny_extend hu matchers b hi

end

/-- A matcher says the same with more entries. -/
lemma match?_extend (hu : u.Linked) (m : Matcher) {i : Nat} (hi : i < u.size) :
    m.match? (u.extend rest) i = m.match? u i := by
  rw [match?, (run_extend hu m {} hi).eq, match?]

/-- A match puts labels on nodes only. -/
lemma inside_of_match? (hu : u.Linked) {m : Matcher} {i : Nat} {b : Bindings} (hi : i < u.size)
    (h : m.match? u i = some b) : b.Inside (· < u.size) := by
  have hrun := (@run_extend u #[] hu m i {} hi).inside (List.forall_mem_nil _)
  rw [match?] at h
  generalize m.run u i {} = result at h hrun
  obtain ⟨found, labels⟩ := result
  cases found with
  | true =>
    cases h
    exact hrun
  | false => cases h

/-! ### Verdicts -/

/-- Labels are not changed by leaving numbers as they are. -/
lemma Matcher.Bindings.rename_id (b : Bindings) : b.rename id = b := by
  simp [Bindings.rename]

/-- Advice is not changed by leaving numbers as they are. -/
lemma Advice.rename_id (a : Advice) : a.rename id = a := by
  have hstep : ∀ step : Step, step.rename id = step := fun step => by cases step <;> rfl
  simp [Advice.rename, hstep]

/-- What a rule says about a match, and the nodes that it says it about. -/
lemma verdict_extend (hu : u.Linked) {rule : Rule} (hrule : rule.Carries) {i : Nat} {b : Bindings}
    (hi : i < u.size) (h : rule.matcher.match? u i = some b) :
    rule.verdict (u.extend rest) b = rule.verdict u b ∧
      ∀ advice, rule.verdict u b = some advice → advice.Inside (· < u.size) := by
  have hb := inside_of_match? hu hi h
  rw [match?_eq_outcome] at h
  have hcarried := hrule (@simulation_extend u rest hu) hi hb h
  refine ⟨?_, fun advice => hcarried.inside⟩
  have heq := hcarried.eq
  rw [Bindings.rename_id] at heq
  rw [heq]
  cases rule.verdict u b with
  | none => rfl
  | some advice => rw [Option.map_some, Advice.rename_id]

/-- A match leads to the same finding with more entries. -/
lemma finding?_extend (hu : u.Linked) {hit : Hit} (hrule : hit.rule.Carries)
    (hi : hit.node < u.size) (h : hit.rule.matcher.match? u hit.node = some hit.bindings)
    (tier : Language.Tier) :
    hit.finding? (u.extend rest) tier = hit.finding? u tier := by
  obtain ⟨heq, hinside⟩ := @verdict_extend u rest hu _ hrule _ _ hi h
  rw [Hit.finding?, heq, Hit.finding?]
  cases hverdict : hit.rule.verdict u hit.bindings with
  | none => rfl
  | some advice =>
    have hcompose :=
      (@simulation_extend u rest hu).compose_eq (hinside advice hverdict) tier hit.check.descriptor
    rwa [Advice.rename_id] at hcompose

/-- Trying a rule at a node does the same with more entries. -/
lemma tryRule_extend (hu : u.Linked) (e : Engine) (coverage : Suppression.Coverage) {node : Nat}
    (hnode : node < u.size) (check : Check) (p : Progress) {rule : Rule} (hrule : rule.Carries) :
    e.tryRule (u.extend rest) coverage node check p rule =
      e.tryRule u coverage node check p rule := by
  rw [Engine.tryRule, match?_extend hu rule.matcher hnode, Engine.tryRule]
  cases hmatch : rule.matcher.match? u node with
  | none => rfl
  | some bindings =>
    let hit : Hit := { node, check, rule, bindings }
    have hfinding := @finding?_extend u rest hu hit hrule hnode hmatch u.language.tier
    exact congrArg (e.report coverage _) hfinding

end

/-! ### Units of documents -/

/-- A lookup is confined to a unit exactly if it is for one of its nodes. -/
lemma confines_entry?_iff (u : TranslationUnit) (i : Nat) :
    u.Confines (fun v => TranslationUnit.entry? v i) ↔ i < u.size := by
  constructor
  · intro h
    by_contra hi
    have hnone : TranslationUnit.entry? u i = none := Array.getElem?_eq_none (Nat.le_of_not_gt hi)
    -- With enough entries behind the last node, one of them has the number.
    let blank : Entry :=
      { facts := { kind := .unknown }, parent := none, children := [], subtreeEnd := 0 }
    have hsize := Array.getElem?_eq_none_iff.1 ((h (Array.replicate (i + 1) blank)).trans hnone)
    rw [TranslationUnit.extend, Array.size_append, Array.size_replicate] at hsize
    omega
  · exact fun hi rest => TranslationUnit.entry?_extend hi

/-- In a unit whose links are in range, every way from a node leads to a node. -/
lemma TranslationUnit.Linked.closed {u : TranslationUnit} (hu : u.Linked) : u.Closed where
  parent := fun hp => ⟨(hu.parent hp).1, (hu.child (hu.parent hp).2).2⟩
  child := hu.child
  above := Part.lt_size_of_mem_ancestors
  below := fun hj => (lt_of_mem_descendants hu hj).2
  written := fun hi => (skipImplicit_bounds hu hi).2
  declaration := lt_size_of_declaration? hu
  target := fun hi hj => (@simulation_extend u #[] hu).inside_targets hi hj

/-- Whatever an analysis asks at a node is answered from the entries of nodes, and answered with
nodes. -/
structure AnalyzedWithin (u : TranslationUnit) (i : Nat) : Prop where
  above : u.Confines fun v => v.ancestors i
  below : u.Confines fun v => v.descendants i
  written : u.Confines fun v => v.skipImplicit i
  target : ∀ route : Route, u.Confines fun v => route.targets v i
  run : ∀ (m : Matcher) (b : Bindings), u.Confines fun v => m.run v i b
  bindings : ∀ {m : Matcher} {b}, m.match? u i = some b → ∀ entry ∈ b.nodes, entry.2 < u.size
  compared : ∀ transparent comparison, u.Confines fun v =>
    Sentinel.isCompared v transparent comparison i
  declaration : u.Confines fun v => v.declaration? i
  verdict : ∀ {options check rule b}, check ∈ allChecks options → rule ∈ check.rules →
    rule.matcher.match? u i = some b → u.Confines fun v => rule.verdict v b
  advice : ∀ {options check rule b a}, check ∈ allChecks options → rule ∈ check.rules →
    rule.matcher.match? u i = some b → rule.verdict u b = some a → a.Inside (· < u.size)
  visit : ∀ {options check rule} (e : Engine) coverage p, check ∈ allChecks options →
    rule ∈ check.rules →
    u.Confines fun v => e.tryRule v coverage i check p rule

/-- An analysis never looks up a number outside of its unit. In the unit of any document, whatever
children its nodes have, the numbers that nodes have for each other are those of nodes, and
matchers, walks, verdicts and the visit of a node by the checks depend on the entries of nodes
alone; the nodes that a match labels are among them. -/
theorem analyzedWithin_ofDocument (d : Document) (fallback : Language.Flags) :
    let u := TranslationUnit.ofDocument d fallback
    (∀ i, u.Confines (fun v => TranslationUnit.entry? v i) ↔ i < u.size) ∧ u.Closed ∧
      ∀ i ∈ u.preorder, AnalyzedWithin u i := by
  intro u
  have hu : u.Linked := TranslationUnit.linked_ofDocument d fallback
  refine ⟨confines_entry?_iff u, hu.closed, fun i hi => ?_⟩
  rw [TranslationUnit.preorder, List.mem_range] at hi
  have hcarries : ∀ {options check rule}, check ∈ allChecks options → rule ∈ check.rules →
      rule.Carries :=
    fun hcheck hrule => (regular_allChecks _ _ hcheck _ hrule).carries
  constructor
  case above => exact fun rest => TranslationUnit.ancestors_extend hi
  case below => exact fun rest => TranslationUnit.descendants_extend hi
  case written => exact fun rest => TranslationUnit.skipImplicit_extend hu hi
  case target => exact fun route rest => targets_extend hu hi route
  case run => exact fun m b rest => (run_extend hu m b hi).eq
  case bindings => exact fun hb => inside_of_match? hu hi hb
  case compared =>
    intro transparent comparison rest
    exact TranslationUnit.isCompared_extend hu transparent comparison hi
  case declaration => exact fun rest => TranslationUnit.declaration?_extend hu hi
  case verdict =>
    exact fun hcheck hrule hb rest => (verdict_extend hu (hcarries hcheck hrule) hi hb).1
  case advice =>
    exact fun hcheck hrule hb => (@verdict_extend u #[] hu _ (hcarries hcheck hrule) i _ hi hb).2 _
  case visit =>
    intro options check rule e coverage p hcheck hrule rest
    exact tryRule_extend hu e coverage hi check p (hcarries hcheck hrule)

/-- A comparison with one side, a call on no object, a cast of nothing and a wrapper around nothing,
followed by what would be the other side: the call is matched, and found not to be compared, without
looking there. -/
theorem analyzedWithin_ofDocument_malformed :
    let d : Document :=
      { root := .mk { kind := .translationUnitDecl }
          [.mk { kind := .functionDecl { name := "f" } }
            [.mk { kind := .staticCastExpr, ty := some { isInteger := true } } [],
              .mk { kind := .implicitCastExpr } [],
              .mk { kind := .binaryOperator .ne }
                [.mk { kind := .memberCallExpr { method := "find", className := some "C" } } []]]]
        records := [{ name := "C", methods := ["contains"] }] }
    let u := TranslationUnit.ofDocument d (.ofTier .cpp20)
    let other : Entry :=
      { facts := { kind := .memberCallExpr { method := "end" } }, parent := some 4, children := [],
        subtreeEnd := 7 }
    let rule := Checks.preferContains.rules.get ⟨1, by decide⟩
    (5 ∈ u.preorder ∧ rule.matcher.match? u 5 = some ⟨[("site", 5)]⟩) ∧
      rule.matcher.run (u.extend #[other]) 5 {} = (true, ⟨[("site", 5)]⟩) ∧
      rule.verdict (u.extend #[other]) ⟨[("site", 5)]⟩ = none := by
  intro d u other rule
  have hnode : 5 ∈ u.preorder := by decide +kernel
  have hmatch : rule.matcher.match? u 5 = some ⟨[("site", 5)]⟩ := by decide +kernel
  have hrun : rule.matcher.run u 5 {} = (true, ⟨[("site", 5)]⟩) := by decide +kernel
  have hverdict : rule.verdict u ⟨[("site", 5)]⟩ = none := by decide +kernel
  have hcheck : Checks.preferContains ∈ allChecks {} := by simp [allChecks]
  have hwithin := (analyzedWithin_ofDocument d (.ofTier .cpp20)).2.2 5 hnode
  exact ⟨⟨hnode, hmatch⟩, (hwithin.run rule.matcher {} #[other]).trans hrun,
    (hwithin.verdict hcheck (List.get_mem _ _) hmatch #[other]).trans hverdict⟩

end CppAdvice
