import CppAdvice.Checks.Ownership
import CppAdvice.Proofs.Outcome
import CppAdvice.Sentinel

/-!
# Units that look alike

What a matcher or the advice of a check can ask about a node is little: its kind, type and range,
what was written as its children, what is below it, and a few questions on what is around it.
`Simulation u v f inside` says that every node of `u` that is `inside` has an image in `v`, its
number under `f`, where all these questions have the same answers. The two units may differ in
wrappers that a compiler puts around expressions, in their numbers, and in all that is not inside.

A matcher then has the same outcome at a node and at its image (`Simulation.outcome_eq`), up to the
numbers of the labelled nodes. The only route that comes upon wrappers is the one to whatever is
below; the matchers that look for nodes there must not match wrappers (`Matcher.isStable`), which is
read off the tags that they ask for (`Matcher.admits`).
-/

namespace CppAdvice

open CppAdvice.Tree CppAdvice.Matcher

namespace TranslationUnit

/-- Whether a node is no wrapper that a compiler puts around an expression. -/
def isWritten (u : TranslationUnit) (id : Nat) : Bool :=
  !(u.tag id).isImplicitWrapper

/-- The nearest function around a node. -/
def enclosingFunction? (u : TranslationUnit) (id : Nat) : Option Nat :=
  (u.ancestors id).find? fun a => u.tag a = .functionDecl

end TranslationUnit

namespace Matcher

mutual

/-- Whether a matcher may match a node with the given tag, as far as the tags tell that it asks
for. -/
def admits : Matcher → Tag → Bool
  | .test (.tag t), tag => tag = t
  | .test _, _ => true
  | .reach _ _, _ => true
  | .allOf matchers, tag => admitsAll matchers tag
  | .anyOf matchers, tag => admitsAny matchers tag
  | .not _, _ => true
  | .bind _ inner, tag => inner.admits tag

/-- Whether all of several matchers may match a node with the given tag. -/
def admitsAll : List Matcher → Tag → Bool
  | [], _ => true
  | matcher :: matchers, tag => matcher.admits tag && admitsAll matchers tag

/-- Whether some of several matchers may match a node with the given tag. -/
def admitsAny : List Matcher → Tag → Bool
  | [], _ => false
  | matcher :: matchers, tag => matcher.admits tag || admitsAny matchers tag

end

/-- Whether the tags that a matcher asks for rule out wrappers. -/
def rejectsWrappers (m : Matcher) : Bool :=
  Tag.known.all fun tag => !(tag.isImplicitWrapper && m.admits tag)

mutual

/-- Whether a matcher never takes a wrapper for a node that it looks for below another. -/
def isStable : Matcher → Bool
  | .test _ => true
  | .reach .descendant inner => inner.rejectsWrappers && inner.isStable
  | .reach _ inner => inner.isStable
  | .allOf matchers => areStable matchers
  | .anyOf matchers => areStable matchers
  | .not inner => inner.isStable
  | .bind _ inner => inner.isStable

/-- Whether several matchers never take a wrapper for a node that they look for below another. -/
def areStable : List Matcher → Bool
  | [] => true
  | matcher :: matchers => matcher.isStable && areStable matchers

end

mutual

/-- A matcher matches only nodes with a tag that it admits. -/
lemma admits_of_outcome {u : TranslationUnit} {id : Nat} :
    ∀ {m : Matcher} {d : Bindings}, m.outcome u id = some d → m.admits (u.tag id) = true
  | .test c, d, h => by
    rw [outcome] at h
    cases c with
    | tag t =>
      by_cases ht : u.tag id = t
      · simp [admits, ht]
      · simp [Condition.holds, ht] at h
    | _ => rw [admits]; nofun
  | .reach route inner, d, _ => by rw [admits]
  | .allOf matchers, d, h => by
    rw [outcome] at h
    rw [admits]
    exact admitsAll_of_outcomes h
  | .anyOf matchers, d, h => by
    rw [outcome] at h
    rw [admits]
    exact admitsAny_of_outcomes h
  | .not inner, d, _ => by rw [admits]
  | .bind label inner, d, h => by
    rw [outcome] at h
    obtain ⟨e, he, _⟩ := Option.map_eq_some_iff.1 h
    rw [admits]
    exact admits_of_outcome he

/-- All of several matchers match only nodes with a tag that they all admit. -/
lemma admitsAll_of_outcomes {u : TranslationUnit} {id : Nat} :
    ∀ {matchers : List Matcher} {d : Bindings}, conjunction (outcomes u matchers id) = some d →
      admitsAll matchers (u.tag id) = true
  | [], d, _ => by rw [admitsAll]
  | matcher :: matchers, d, h => by
    rw [outcomes, conjunction] at h
    obtain ⟨e, he, h'⟩ := Option.bind_eq_some_iff.1 h
    obtain ⟨e', he', _⟩ := Option.map_eq_some_iff.1 h'
    rw [admitsAll, admits_of_outcome he, admitsAll_of_outcomes he']
    rfl

/-- Some of several matchers match only nodes with a tag that some of them admits. -/
lemma admitsAny_of_outcomes {u : TranslationUnit} {id : Nat} :
    ∀ {matchers : List Matcher} {d : Bindings},
      (outcomes u matchers id).findSome? (fun outcome => outcome) = some d →
      admitsAny matchers (u.tag id) = true
  | [], d, h => by
    rw [outcomes] at h
    cases h
  | matcher :: matchers, d, h => by
    rw [outcomes, List.findSome?_cons] at h
    rw [admitsAny, Bool.or_eq_true]
    cases ho : matcher.outcome u id with
    | some e => exact .inl (admits_of_outcome ho)
    | none =>
      rw [ho] at h
      exact .inr (admitsAny_of_outcomes h)

end

/-- A matcher whose tags rule out wrappers does not match them. -/
lemma outcome_eq_none_of_rejectsWrappers {m : Matcher} {u : TranslationUnit} {id : Nat}
    (hm : m.rejectsWrappers = true) (hid : u.isWritten id = false) : m.outcome u id = none := by
  have hwrapper : (u.tag id).isImplicitWrapper = true := by
    rwa [TranslationUnit.isWritten, Bool.not_eq_false'] at hid
  have hknown : u.tag id ∈ Tag.known := by
    cases ht : u.tag id <;> simp_all [Tag.isImplicitWrapper, Tag.known]
  cases ho : m.outcome u id with
  | none => rfl
  | some d =>
    have hno := List.all_eq_true.1 hm (u.tag id) hknown
    rw [hwrapper, admits_of_outcome ho] at hno
    cases hno

namespace Bindings

/-- The labels on nodes with other numbers. -/
def rename (b : Bindings) (f : Nat → Nat) : Bindings :=
  ⟨b.nodes.map fun entry => (entry.1, f entry.2)⟩

/-- All labels are on nodes inside. -/
def Inside (inside : Nat → Prop) (b : Bindings) : Prop :=
  ∀ entry ∈ b.nodes, inside entry.2

/-- A label is on the node with the other number. -/
lemma get?_rename (b : Bindings) (f : Nat → Nat) (label : String) :
    (b.rename f).get? label = (b.get? label).map f := by
  rw [get?, rename, get?]
  induction b.nodes with
  | nil => rfl
  | cons entry nodes ih =>
    rw [List.map_cons, List.lookup_cons, List.lookup_cons, ih]
    cases label == entry.1 <;> rfl

/-- A label that is put on a node is found on its image. -/
lemma rename_insert (b : Bindings) (f : Nat → Nat) (label : String) (id : Nat) :
    (b.insert label id).rename f = (b.rename f).insert label (f id) := by
  simp [insert, rename, List.filter_map, Function.comp_def]

/-- Labels that are put over others are found on the images of their nodes. -/
lemma rename_overlay (b d : Bindings) (f : Nat → Nat) :
    (b.overlay d).rename f = (b.rename f).overlay (d.rename f) := by
  have hkeep : ∀ label, ((d.rename f).get? label).isNone = (d.get? label).isNone := by
    intro label
    rw [get?_rename, Option.isNone_map]
  simp only [overlay, hkeep]
  simp [rename, List.filter_map, Function.comp_def]

/-- The labelled nodes are inside. -/
lemma Inside.get? {inside : Nat → Prop} {b : Bindings} (h : b.Inside inside)
    {label : String} {id : Nat} (hid : b.get? label = some id) : inside id := by
  rw [Bindings.get?] at hid
  obtain ⟨l₁, l₂, hnodes, _⟩ := List.lookup_eq_some_iff.1 hid
  exact h (label, id) (by rw [hnodes]; simp)

/-- A label may be put on a node that is inside. -/
lemma Inside.insert {inside : Nat → Prop} {b : Bindings} (h : b.Inside inside)
    (label : String) {id : Nat} (hid : inside id) : (b.insert label id).Inside inside := by
  intro entry hentry
  rw [Bindings.insert, List.mem_cons] at hentry
  cases hentry with
  | inl hentry =>
    rw [hentry]
    exact hid
  | inr hentry => exact h entry (List.mem_filter.1 hentry).1

/-- Labels that are inside may be put over others that are. -/
lemma Inside.overlay {inside : Nat → Prop} {b d : Bindings} (hb : b.Inside inside)
    (hd : d.Inside inside) : (b.overlay d).Inside inside := by
  intro entry hentry
  rw [Bindings.overlay, List.mem_append] at hentry
  cases hentry with
  | inl hentry => exact hd entry hentry
  | inr hentry => exact hb entry (List.mem_filter.1 hentry).1

end Bindings

end Matcher

/-- Nodes that do not match can be left out. -/
lemma findSome?_filter {α : Type} {ts : List Nat} {keep : Nat → Bool} {o : Nat → Option α}
    (h : ∀ t, keep t = false → o t = Option.none) :
    (ts.filter keep).findSome? o = ts.findSome? o := by
  induction ts with
  | nil => rfl
  | cons t ts ih =>
    cases ht : keep t with
    | true => rw [List.filter_cons_of_pos ht, List.findSome?_cons, List.findSome?_cons, ih]
    | false =>
      rw [List.filter_cons_of_neg (by rw [ht]; exact Bool.false_ne_true), ih,
        List.findSome?_cons, h t ht]

/-- The nodes inside one unit have images in another that look alike. -/
structure Simulation (u v : TranslationUnit) (f : Nat → Nat) (inside : Nat → Prop) : Prop where
  file : v.file = u.file
  source : v.source = u.source
  records : v.records = u.records
  lt_iff : ∀ {i j}, inside i → inside j → (f i < f j ↔ i < j)
  kind : ∀ {i}, inside i → v.kind (f i) = u.kind i
  type : ∀ {i}, inside i → v.type? (f i) = u.type? i
  range : ∀ {i}, inside i → v.mainFileRange? (f i) = u.mainFileRange? i
  children : ∀ {i}, inside i →
    (v.children (f i)).map v.skipImplicit = ((u.children i).map u.skipImplicit).map f
  inside_children : ∀ {i c}, inside i → c ∈ u.children i → inside (u.skipImplicit c)
  below : ∀ {i}, inside i →
    (v.descendants (f i)).filter v.isWritten = ((u.descendants i).filter u.isWritten).map f
  inside_below : ∀ {i j}, inside i → j ∈ u.descendants i → inside j
  function : ∀ {i}, inside i → v.enclosingFunction? (f i) = (u.enclosingFunction? i).map f
  inside_function : ∀ {i j}, inside i → u.enclosingFunction? i = some j → inside j
  loop : ∀ {i}, inside i → Condition.isInsideLoop v (f i) = Condition.isInsideLoop u i
  compared : ∀ {i} (c : Sentinel.Comparison), inside i →
    Sentinel.isCompared v Sentinel.defaultTransparent c (f i) =
      Sentinel.isCompared u Sentinel.defaultTransparent c i
  declaration : ∀ {i}, inside i → v.declaration? (f i) = (u.declaration? i).map f
  inside_declaration : ∀ {i j}, inside i → u.declaration? i = some j → inside j
  /-- What comes after a parameter. -/
  sibling : ∀ {i}, inside i → u.tag i = .parmVarDecl →
    Checks.followedBySize v (f i) = Checks.followedBySize u i

namespace Simulation

variable {u v : TranslationUnit} {f : Nat → Nat} {inside : Nat → Prop}

/-- The tag of a node is the same at its image. -/
lemma tag (s : Simulation u v f inside) {i} (h : inside i) : v.tag (f i) = u.tag i := by
  rw [TranslationUnit.tag, s.kind h, TranslationUnit.tag]

/-- Classes declare the same methods. -/
lemma declares (s : Simulation u v f inside) (className method : String) :
    v.declares className method = u.declares className method := by
  rw [TranslationUnit.declares, TranslationUnit.methods?, s.records, TranslationUnit.declares,
    TranslationUnit.methods?]

/-- A node and its image have the same arguments. -/
lemma arguments (s : Simulation u v f inside) {i} (h : inside i) :
    (v.arguments (f i)).map v.skipImplicit = ((u.arguments i).map u.skipImplicit).map f := by
  have hc := s.children h
  rw [TranslationUnit.arguments, TranslationUnit.arguments, s.tag h]
  split
  · rw [List.map_drop, hc, List.map_drop, List.map_drop]
  · exact hc

/-- A call has as many arguments at its image. -/
lemma length_arguments (s : Simulation u v f inside) {i} (h : inside i) :
    (v.arguments (f i)).length = (u.arguments i).length := by
  have hl := congrArg List.length (s.arguments h)
  rwa [List.length_map, List.length_map, List.length_map] at hl

/-- A condition holds at a node exactly when it holds at its image. -/
lemma holds (s : Simulation u v f inside) {i} (h : inside i) (c : Condition) :
    c.holds v (f i) = c.holds u i := by
  cases c with
  | tag t => rw [Condition.holds, Condition.holds, s.tag h]
  | type ty => rw [Condition.holds, Condition.holds, s.type h]
  | classDeclares m =>
    rw [Condition.holds, Condition.holds, s.kind h]
    simp only [s.declares]
  | argumentCount n =>
    rw [Condition.holds, Condition.holds, s.tag h, s.length_arguments h]
  | insideLoop => exact s.loop h
  | _ => rw [Condition.holds, Condition.holds, s.kind h]

/-- The first child of a node, as it was written, and that of its image. -/
lemma firstChild (s : Simulation u v f inside) {i} (h : inside i) :
    Route.firstChild v (f i) = (Route.firstChild u i).map f := by
  have hc := s.children h
  rw [Route.firstChild, Route.firstChild]
  cases hu : u.children i with
  | nil =>
    rw [hu, List.map_nil, List.map_nil, List.map_eq_nil_iff] at hc
    rw [hc]
    rfl
  | cons c cs =>
    rw [hu, List.map_cons, List.map_cons] at hc
    obtain ⟨d, ds, hv, hd, _⟩ := List.map_eq_cons_iff.1 hc
    rw [hv]
    exact congrArg (fun x => [x]) hd

/-- A route other than the one to what is below leads from the image of a node to the images of
where it leads from the node. -/
lemma targets (s : Simulation u v f inside) {i} (h : inside i) {route : Route}
    (hroute : route ≠ .descendant) : route.targets v (f i) = (route.targets u i).map f := by
  cases route with
  | argument index =>
    have hget : ∀ (w : TranslationUnit) (j : Nat),
        (w.arguments j)[index]?.toList.map w.skipImplicit =
          ((w.arguments j).map w.skipImplicit)[index]?.toList := by
      intro w j
      rw [List.getElem?_map]
      cases (w.arguments j)[index]? <;> rfl
    rw [Route.targets, Route.targets, s.tag h, hget, hget, s.arguments h]
    split
    · rw [List.getElem?_map]
      cases ((u.arguments i).map u.skipImplicit)[index]? <;> rfl
    · rfl
  | anyArgument =>
    rw [Route.targets, Route.targets, s.tag h, s.arguments h]
    split <;> rfl
  | object =>
    rw [Route.targets, Route.targets, s.tag h, s.firstChild h]
    split <;> rfl
  | operand =>
    rw [Route.targets, Route.targets, s.kind h, List.map_take, s.children h]
    split
    · rw [List.map_take, List.map_take]
    · rfl
  | initializer =>
    rw [Route.targets, Route.targets, s.tag h, s.firstChild h]
    split <;> rfl
  | enclosingFunction =>
    have hfunction := s.function h
    rw [TranslationUnit.enclosingFunction?, TranslationUnit.enclosingFunction?] at hfunction
    rw [Route.targets, Route.targets, hfunction]
    cases (u.ancestors i).find? fun a => u.tag a = .functionDecl <;> rfl
  | descendant => exact absurd rfl hroute

/-- A route leads from a node inside to nodes inside. -/
lemma inside_targets (s : Simulation u v f inside) {i} (h : inside i) {route : Route} {t : Nat}
    (ht : t ∈ route.targets u i) : inside t := by
  have hskip : ∀ {cs : List Nat}, (∀ c ∈ cs, c ∈ u.children i) → t ∈ cs.map u.skipImplicit →
      inside t := by
    intro cs hcs ht
    obtain ⟨c, hc, rfl⟩ := List.mem_map.1 ht
    exact s.inside_children h (hcs c hc)
  have harguments : ∀ c ∈ u.arguments i, c ∈ u.children i := by
    intro c hc
    rw [TranslationUnit.arguments] at hc
    split at hc
    · exact List.mem_of_mem_drop hc
    · exact hc
  have hhead : ∀ c ∈ (u.children i).head?.toList, c ∈ u.children i := by
    intro c hc
    exact List.mem_of_head? (Option.mem_toList.1 hc)
  cases route with
  | argument index =>
    rw [Route.targets] at ht
    split at ht
    · exact hskip (fun c hc => harguments c (List.mem_of_getElem? (Option.mem_toList.1 hc))) ht
    · cases ht
  | anyArgument =>
    rw [Route.targets] at ht
    split at ht
    · exact hskip harguments ht
    · cases ht
  | object =>
    rw [Route.targets] at ht
    split at ht
    · exact hskip hhead ht
    · cases ht
  | operand =>
    rw [Route.targets] at ht
    split at ht
    · exact hskip (fun c hc => List.mem_of_mem_take hc) ht
    · cases ht
  | descendant => exact s.inside_below h ht
  | initializer =>
    rw [Route.targets] at ht
    split at ht
    · exact hskip hhead ht
    · cases ht
  | enclosingFunction => exact s.inside_function h (Option.mem_toList.1 ht)

/-- An outcome at the image of a node is the outcome at the node with other numbers, all inside. -/
structure Carried (f : Nat → Nat) (inside : Nat → Prop) (o o' : Option Bindings) : Prop where
  eq : o' = o.map (·.rename f)
  inside : ∀ {d}, o = some d → d.Inside inside

/-- A match without labels is carried over. -/
lemma Carried.empty : Carried f inside (some {}) (some {}) where
  eq := rfl
  inside := by
    intro d hd
    cases hd
    exact List.forall_mem_nil _

/-- No match is carried over to no match. -/
lemma Carried.none : Carried f inside none none where
  eq := rfl
  inside := nofun

/-- The first match among images. -/
lemma Carried.findSome? {ts : List Nat} {o o' : Nat → Option Bindings}
    (h : ∀ t ∈ ts, Carried f inside (o t) (o' (f t))) :
    Carried f inside (ts.findSome? o) ((ts.map f).findSome? o') := by
  induction ts with
  | nil => exact .none
  | cons t ts ih =>
    have ht := h t List.mem_cons_self
    rw [List.map_cons, List.findSome?_cons, List.findSome?_cons, ht.eq]
    cases ho : o t with
    | none => exact ih fun t' ht' => h t' (List.mem_cons_of_mem t ht')
    | some d => exact ⟨rfl, fun hd => ht.inside (ho.trans hd)⟩

mutual

/-- A stable matcher has the same outcome at a node and at its image. -/
lemma outcome_eq (s : Simulation u v f inside) :
    ∀ {m : Matcher} {i : Nat}, m.isStable = true → inside i →
      Carried f inside (m.outcome u i) (m.outcome v (f i))
  | .test c, i, _, h => by
    rw [outcome, outcome, s.holds h]
    split
    · exact .empty
    · exact .none
  | .reach route inner, i, hm, h => by
    rw [outcome, outcome]
    by_cases hroute : route = .descendant
    · subst hroute
      rw [isStable, Bool.and_eq_true] at hm
      -- On both sides the wrappers can be left out, and what remains corresponds.
      have hskip :
      ∀ (w : TranslationUnit) (j : Nat), (w.descendants j).findSome? (inner.outcome w) =
          ((w.descendants j).filter w.isWritten).findSome? (inner.outcome w) :=
        fun w j => (findSome?_filter fun t ht => outcome_eq_none_of_rejectsWrappers hm.1 ht).symm
      rw [Route.targets, Route.targets, hskip u, hskip v, s.below h]
      apply Carried.findSome?
      intro t ht
      exact s.outcome_eq hm.2 (s.inside_below h (List.mem_filter.1 ht).1)
    · have hinner : inner.isStable = true := by
        cases route with
        | descendant => exact absurd rfl hroute
        | _ => rwa [isStable] at hm; nofun
      rw [s.targets h hroute]
      apply Carried.findSome?
      intro t ht
      exact s.outcome_eq hinner (s.inside_targets h ht)
  | .allOf matchers, i, hm, h => by
    rw [outcome, outcome]
    rw [isStable] at hm
    exact s.conjunction_eq hm h
  | .anyOf matchers, i, hm, h => by
    rw [outcome, outcome]
    rw [isStable] at hm
    exact s.first_eq hm h
  | .not inner, i, hm, h => by
    rw [isStable] at hm
    rw [outcome, outcome, (s.outcome_eq hm h).eq, Option.isNone_map]
    split
    · exact .empty
    · exact .none
  | .bind label inner, i, hm, h => by
    rw [isStable] at hm
    have hinner := s.outcome_eq hm h
    rw [outcome, outcome, hinner.eq]
    cases ho : inner.outcome u i with
    | none => exact .none
    | some d =>
      refine ⟨?_, ?_⟩
      · simp [Bindings.rename_insert]
      · intro e he
        cases he
        exact (hinner.inside ho).insert label h

/-- Stable matchers have the same conjunction at a node and at its image. -/
lemma conjunction_eq (s : Simulation u v f inside) :
    ∀ {matchers : List Matcher} {i : Nat}, areStable matchers = true → inside i →
      Carried f inside (conjunction (outcomes u matchers i))
        (conjunction (outcomes v matchers (f i)))
  | [], i, _, _ => by
    rw [outcomes, outcomes]
    exact .empty
  | matcher :: matchers, i, hm, h => by
    rw [areStable, Bool.and_eq_true] at hm
    have hfirst := s.outcome_eq hm.1 h
    have hrest := s.conjunction_eq hm.2 h
    rw [outcomes, outcomes, conjunction, conjunction, hfirst.eq, hrest.eq]
    cases ho : matcher.outcome u i with
    | none => exact .none
    | some d =>
      cases hc : conjunction (outcomes u matchers i) with
      | none => exact .none
      | some e =>
        refine ⟨?_, ?_⟩
        · simp [Bindings.rename_overlay]
        · intro d' hd'
          cases hd'
          exact (hfirst.inside ho).overlay (hrest.inside hc)

/-- Stable matchers have the same first match at a node and at its image. -/
lemma first_eq (s : Simulation u v f inside) :
    ∀ {matchers : List Matcher} {i : Nat}, areStable matchers = true → inside i →
      Carried f inside ((outcomes u matchers i).findSome? fun outcome => outcome)
        ((outcomes v matchers (f i)).findSome? fun outcome => outcome)
  | [], i, _, _ => by
    rw [outcomes, outcomes]
    exact .none
  | matcher :: matchers, i, hm, h => by
    rw [areStable, Bool.and_eq_true] at hm
    have hfirst := s.outcome_eq hm.1 h
    rw [outcomes, outcomes, List.findSome?_cons, List.findSome?_cons, hfirst.eq]
    cases ho : matcher.outcome u i with
    | none => exact s.first_eq hm.2 h
    | some d => exact ⟨rfl, fun hd => hfirst.inside (ho.trans hd)⟩

end

end Simulation

end CppAdvice
