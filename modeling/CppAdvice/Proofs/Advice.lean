import CppAdvice.Engine
import CppAdvice.Proofs.Simulation
import Mathlib.Data.List.Basic

/-!
# Advice on units that look alike

What a check says about a node, it says about every image of the node under a `Simulation`. A rule
`Carries` if its verdict at the image is its verdict at the node, up to the numbers of the nodes
that the advice is about; all rules of all checks do (`rules_carry`). Composing the advice then
gives one and the same finding (`Simulation.compose_eq`).

Most rules say the same whatever the unit; the others look at a few properties of a node, each of
which has a lemma under `Simulation`.
-/

namespace CppAdvice

open CppAdvice.Tree CppAdvice.Matcher

namespace Step

/-- The step about a node with another number. -/
def rename (f : Nat → Nat) : Step → Step
  | .fixit node replacement => .fixit (f node) replacement
  | step => step

/-- Whatever node a step is about is inside. -/
def Inside (inside : Nat → Prop) : Step → Prop
  | .fixit node _ => inside node
  | _ => True

/-- Whether a step is about no node. -/
def isWording : Step → Bool
  | .fixit _ _ => false
  | _ => true

/-- A step that only words things names no node. -/
lemma rename_of_isWording {step : Step} (h : step.isWording = true) (f : Nat → Nat) :
    step.rename f = step := by
  cases step with
  | fixit node replacement => cases h
  | _ => rfl

/-- A step that only words things has all its nodes inside. -/
lemma inside_of_isWording {step : Step} (h : step.isWording = true) (inside : Nat → Prop) :
    step.Inside inside := by
  cases step with
  | fixit node replacement => cases h
  | _ => exact trivial

end Step

namespace Advice

/-- The advice on nodes with other numbers. -/
def rename (f : Nat → Nat) (a : Advice) : Advice where
  anchor := f a.anchor
  steps := a.steps.map (·.rename f)

/-- All nodes that an advice is about are inside. -/
structure Inside (inside : Nat → Prop) (a : Advice) : Prop where
  anchor : inside a.anchor
  steps : ∀ step ∈ a.steps, step.Inside inside

/-- Advice on an image is the advice on the node with other numbers, all inside. -/
structure Carried (f : Nat → Nat) (inside : Nat → Prop) (a a' : Option Advice) : Prop where
  eq : a' = a.map (·.rename f)
  inside : ∀ {d}, a = some d → d.Inside inside

/-- No advice is carried over to no advice. -/
lemma Carried.none {f : Nat → Nat} {inside : Nat → Prop} : Carried f inside none none where
  eq := rfl
  inside := nofun

/-- Advice that names no node but its anchor. -/
lemma Carried.wording {f : Nat → Nat} {inside : Nat → Prop} {i : Nat} {steps : List Step}
    (h : inside i) (hw : steps.all Step.isWording = true) :
    Carried f inside (some ⟨i, steps⟩) (some ⟨f i, steps⟩) where
  eq := by
    have hsteps : steps.map (·.rename f) = steps := by
      rw [List.map_congr_left fun step hstep =>
        Step.rename_of_isWording (List.all_eq_true.1 hw step hstep) f, List.map_id']
    rw [Option.map_some, rename, hsteps]
  inside := by
    intro d hd
    cases hd
    exact ⟨h, fun step hstep => Step.inside_of_isWording (List.all_eq_true.1 hw step hstep) inside⟩

end Advice

/-- What comes first in a growing list, up to a bound, is what is below the bound. -/
lemma takeWhile_lt_eq_filter {ids : List Nat} (hids : ids.Pairwise (· < ·)) (bound : Nat) :
    ids.takeWhile (· < bound) = ids.filter (· < bound) := by
  induction hids with
  | nil => rfl
  | @cons id ids hlt _ ih =>
    by_cases hid : id < bound
    · rw [List.takeWhile_cons_of_pos (by simpa using hid),
        List.filter_cons_of_pos (by simpa using hid), ih]
    · rw [List.takeWhile_cons_of_neg (by simpa using hid), eq_comm, List.filter_eq_nil_iff]
      intro j hj
      rw [decide_eq_true_iff]
      cases hj with
      | head => exact hid
      | tail _ hj => exact fun hlt' => hid (Nat.lt_trans (hlt j hj) hlt')

namespace Checks

/-- Whether a member call reserves room for the variable. -/
def reserves (u : TranslationUnit) (name : String) (id : Nat) : Bool :=
  Describe.method? u id = some "reserve" && Describe.objectVariable? u id = some name

/-- Wrappers reserve no room. -/
lemma isWritten_of_reserves {u : TranslationUnit} {name : String} {id : Nat}
    (h : reserves u name id = true) :
    u.isWritten id = true := by
  rw [reserves, Bool.and_eq_true, decide_eq_true_iff, Describe.method?] at h
  split at h
  case h_1 call hkind => rw [TranslationUnit.isWritten, TranslationUnit.tag, hkind]; rfl
  case h_2 => cases h.1

/-- What reserves room before a call in a function, wrappers left out. -/
lemma any_reserves (u : TranslationUnit) (name : String) (call function : Nat) :
    ((u.descendants function).takeWhile (· < call)).any (reserves u name) =
      ((u.descendants function).filter u.isWritten).any fun id =>
        id < call && reserves u name id := by
  have hgrow : (u.descendants function).Pairwise (· < ·) := List.pairwise_lt_range'
  rw [takeWhile_lt_eq_filter hgrow, List.any_filter, List.any_filter]
  congr 1
  funext id
  cases hr : reserves u name id with
  | false => rw [Bool.and_false, Bool.and_false]
  | true => rw [isWritten_of_reserves hr, Bool.true_and]

end Checks

namespace Simulation

variable {u v : TranslationUnit} {f : Nat → Nat} {inside : Nat → Prop}

/-- The text of a node is the same at its image. -/
lemma text (s : Simulation u v f inside) {i} (h : inside i) : v.text? (f i) = u.text? i := by
  rw [TranslationUnit.text?, TranslationUnit.text?, s.range h, s.source]

/-- A step adds the same to the wording. -/
lemma apply_eq (s : Simulation u v f inside) {step : Step} (h : step.Inside inside)
    (tier : Language.Tier) (w : Wording) :
    (step.rename f).apply v tier w = step.apply u tier w := by
  cases step with
  | fixit node replacement =>
    have hfix : Step.fixitAt? v (f node) replacement = Step.fixitAt? u node replacement := by
      rw [Step.fixitAt?, Step.fixitAt?, s.range h, s.text h]
    rw [Step.rename, Step.apply, Step.apply, hfix]
  | _ => rfl

/-- Steps lead to the same wording, whichever of two units that look alike they are taken in. -/
lemma foldl_apply_eq (s : Simulation u v f inside) (tier : Language.Tier) {steps : List Step}
    (w : Wording) (h : ∀ step ∈ steps, step.Inside inside) :
    (steps.map (·.rename f)).foldl (Step.apply v tier) w = steps.foldl (Step.apply u tier) w := by
  induction steps generalizing w with
  | nil => rfl
  | cons step steps ih =>
    rw [List.forall_mem_cons] at h
    rw [List.map_cons, List.foldl_cons, List.foldl_cons, s.apply_eq h.1, ih _ h.2]

/-- Advice on a node and on its image becomes the same finding. -/
lemma compose_eq (s : Simulation u v f inside) {a : Advice} (h : a.Inside inside)
    (tier : Language.Tier) (check : Descriptor) :
    compose v tier check (a.rename f).anchor (a.rename f).steps =
      compose u tier check a.anchor a.steps := by
  have hposition : v.position = u.position := by
    funext offset
    rw [TranslationUnit.position, s.source, TranslationUnit.position]
  rw [compose, compose, Advice.rename, s.range h.anchor, s.foldl_apply_eq tier {} h.steps,
    s.file, hposition]

/-- A node and its image are declared alike. -/
lemma declarationWord (s : Simulation u v f inside) {i} (h : inside i) :
    Describe.declaration v (f i) = Describe.declaration u i := by
  rw [Describe.declaration, Describe.declaration, s.kind h]

/-- The type of a node is described in the same way at its image. -/
lemma nodeType (s : Simulation u v f inside) {i} (h : inside i) :
    Describe.nodeType v (f i) = Describe.nodeType u i := by
  rw [Describe.nodeType, Describe.nodeType, s.type h]

/-- The callee is the same at the image of a call. -/
lemma callee (s : Simulation u v f inside) {i} (h : inside i) :
    Describe.callee? v (f i) = Describe.callee? u i := by
  rw [Describe.callee?, Describe.callee?, s.kind h]

/-- The method is the same at the image of a call. -/
lemma method (s : Simulation u v f inside) {i} (h : inside i) :
    Describe.method? v (f i) = Describe.method? u i := by
  rw [Describe.method?, Describe.method?, s.kind h]

/-- What a reference refers to is the same at its image. -/
lemma target (s : Simulation u v f inside) {i} (h : inside i) :
    Describe.target? v (f i) = Describe.target? u i := by
  rw [Describe.target?, Describe.target?, s.kind h]

/-- The name of a declaration is the same at its image. -/
lemma nameOf (s : Simulation u v f inside) {i} (h : inside i) :
    Checks.nameOf v (f i) = Checks.nameOf u i := by
  rw [Checks.nameOf, Checks.nameOf, s.kind h]

/-- Whatever can be told of the first child, as it was written. -/
lemma bind_firstChild {α : Type} (s : Simulation u v f inside) {i} (h : inside i)
    {g : TranslationUnit → Nat → Option α} (hg : ∀ {j}, inside j → g v (f j) = g u j) :
    ((v.children (f i)).head?.bind fun c => g v (v.skipImplicit c)) =
      (u.children i).head?.bind fun c => g u (u.skipImplicit c) := by
  have hc := s.children h
  cases hu : u.children i with
  | nil =>
    rw [hu, List.map_nil, List.map_nil, List.map_eq_nil_iff] at hc
    rw [hc]
    rfl
  | cons c cs =>
    rw [hu, List.map_cons, List.map_cons] at hc
    obtain ⟨d, ds, hv, hd, _⟩ := List.map_eq_cons_iff.1 hc
    have hinside : inside (u.skipImplicit c) :=
      s.inside_children h (by rw [hu]; exact List.mem_cons_self)
    rw [hv, List.head?_cons, List.head?_cons, Option.bind_some, Option.bind_some, hd, hg hinside]

/-- A member call and its image are made on the same variable. -/
lemma objectVariable (s : Simulation u v f inside) {i} (h : inside i) :
    Describe.objectVariable? v (f i) = Describe.objectVariable? u i :=
  s.bind_firstChild h s.target

/-- The enumeration that a cast leads away from is the same at the image of the cast. -/
lemma castEnum (s : Simulation u v f inside) {i} (h : inside i) :
    Checks.castEnum? v (f i) = Checks.castEnum? u i :=
  s.bind_firstChild h
    (g := fun w j => (w.type? j).filter Pattern.TypePattern.scopedEnum.covers)
    fun hj => by rw [s.type hj]

/-- A reference and its image both name a local array, or neither does. -/
lemma refersToLocal (s : Simulation u v f inside) {i} (h : inside i) :
    Checks.refersToLocal v (f i) = Checks.refersToLocal u i := by
  rw [Checks.refersToLocal, Checks.refersToLocal, s.declaration h]
  cases hd : u.declaration? i with
  | none => rfl
  | some decl =>
    have hdecl := s.inside_declaration h hd
    rw [Option.map_some]
    simp only [s.type hdecl, s.kind hdecl]

/-- A small size is the same by the images of the labels. -/
lemma smallSize (s : Simulation u v f inside) {b : Bindings} (h : b.Inside inside) (max : Nat) :
    Checks.smallSize? max v (b.rename f) = Checks.smallSize? max u b := by
  rw [Checks.smallSize?, Checks.smallSize?, Bindings.get?_rename]
  cases hsize : b.get? Checks.sizeLabel with
  | none => rfl
  | some id =>
    have hid := h.get? hsize
    simp only [Option.map_some, Option.bind_eq_bind, Option.bind_some, s.kind hid]

/-- Room was reserved before a call exactly when it was before its image. -/
lemma reservedEarlier (s : Simulation u v f inside) {i} (h : inside i) :
    Checks.reservedEarlier v (f i) = Checks.reservedEarlier u i := by
  have hfunction := s.function h
  have hinside := @s.inside_function i
  rw [TranslationUnit.enclosingFunction?, TranslationUnit.enclosingFunction?] at hfunction
  rw [Checks.reservedEarlier, Checks.reservedEarlier, s.objectVariable h, hfunction]
  cases Describe.objectVariable? u i with
  | none => rfl
  | some name =>
    cases hu : (u.ancestors i).find? fun a => u.tag a = .functionDecl with
    | none => rfl
    | some function =>
      have hf := hinside h hu
      have hbelow : ∀ id ∈ (u.descendants function).filter u.isWritten,
          (f id < f i && Checks.reserves v name (f id)) =
            (id < i && Checks.reserves u name id) := by
        intro id hid
        have hid := s.inside_below hf (List.mem_filter.1 hid).1
        rw [Checks.reserves, Checks.reserves, s.method hid, s.objectVariable hid,
          decide_eq_decide.2 (s.lt_iff hid h)]
      -- Wrappers are left out on both sides, as the nodes without them correspond.
      calc ((v.descendants (f function)).takeWhile (· < f i)).any (Checks.reserves v name)
        _ = (((u.descendants function).filter u.isWritten).map f).any
              fun id => id < f i && Checks.reserves v name id := by
                rw [Checks.any_reserves, s.below hf]
        _ = ((u.descendants function).filter u.isWritten).any
              fun id => id < i && Checks.reserves u name id := by
              simpa only [List.any_map, Function.comp_def, id_eq] using
                congrArg (·.any id) (List.map_congr_left hbelow)
        _ = ((u.descendants function).takeWhile (· < i)).any (Checks.reserves u name) :=
              (Checks.any_reserves ..).symm

end Simulation

/-- Steps about a node are, with other numbers, the steps about each of its images. -/
def StepsCarry (steps : TranslationUnit → Nat → List Step) : Prop :=
  ∀ ⦃u v f inside⦄, Simulation u v f inside → ∀ ⦃i⦄, inside i →
    steps v (f i) = (steps u i).map (·.rename f) ∧ ∀ step ∈ steps u i, step.Inside inside

/-- Steps that are about no node and are worded alike for a node and its images. -/
lemma StepsCarry.of_wording {steps : TranslationUnit → Nat → List Step}
    (hw : ∀ u i, (steps u i).all Step.isWording = true)
    (heq : ∀ ⦃u v f inside⦄, Simulation u v f inside → ∀ ⦃i⦄, inside i →
      steps v (f i) = steps u i) :
    StepsCarry steps := by
  intro u v f inside s i h
  have hcarried := Advice.Carried.wording (f := f) h (hw u i)
  have ha := Option.some.inj hcarried.eq
  exact ⟨(heq s h).trans (congrArg Advice.steps ha), (hcarried.inside rfl).steps⟩

/-- Fixed wording carries over. -/
lemma StepsCarry.const {steps : List Step} (hw : steps.all Step.isWording = true) :
    StepsCarry fun _ _ => steps :=
  .of_wording (fun _ _ => hw) fun _ _ _ _ _ _ _ => rfl

namespace Rule

/-- What a rule says about a node is, with other numbers, what it says about each of its images. -/
def Carries (rule : Rule) : Prop :=
  ∀ ⦃u v f inside⦄, Simulation u v f inside → ∀ ⦃i b⦄, inside i → b.Inside inside →
    rule.matcher.outcome u i = some b →
    Advice.Carried f inside (rule.verdict u b) (rule.verdict v (b.rename f))

/-- The node that a rule speaks about is the one it matches. -/
lemma get?_site {shape : Matcher} {u : TranslationUnit} {i : Nat} {b : Bindings}
    (h : (Matcher.bind site shape).outcome u i = some b) :
    b.get? site = some i ∧ shape.admits (u.tag i) = true := by
  rw [outcome] at h
  obtain ⟨d, hd, rfl⟩ := Option.map_eq_some_iff.1 h
  refine ⟨?_, admits_of_outcome hd⟩
  rw [Bindings.get?_insert, if_pos rfl]

/-- A rule that speaks about every node it matches. -/
lemma always_carries {name : String} {shape : Matcher} {steps : TranslationUnit → Nat → List Step}
    (hsteps : StepsCarry steps) : (always name shape steps).Carries := by
  intro u v f inside s i b h _ hmatch
  obtain ⟨hsite, _⟩ := get?_site hmatch
  obtain ⟨heq, hinside⟩ := hsteps s h
  simp only [always, Bindings.get?_rename, hsite, Option.map_some]
  refine ⟨by rw [heq]; rfl, ?_⟩
  intro a ha
  cases ha
  exact ⟨h, hinside⟩

/-- A rule that speaks about nodes where a test holds; it need only be the same for images of nodes
with a tag that the shape admits. -/
lemma provided_carries {name : String} {shape : Matcher} {test : TranslationUnit → Nat → Bool}
    {steps : TranslationUnit → Nat → List Step}
    (htest : ∀ ⦃u v f inside⦄, Simulation u v f inside → ∀ ⦃i⦄, inside i →
      shape.admits (u.tag i) = true → test v (f i) = test u i)
    (hsteps : StepsCarry steps) : (provided name shape test steps).Carries := by
  intro u v f inside s i b h hb hmatch
  obtain ⟨hsite, hadmits⟩ := get?_site hmatch
  -- Where the test holds, the rule is one that always speaks.
  have hcarries : (always name shape steps).Carries := always_carries hsteps
  have halways := hcarries s h hb hmatch
  simp only [always, provided, Bindings.get?_rename, hsite, Option.map_some, Option.bind_some,
    htest s h hadmits] at halways ⊢
  split
  · exact halways
  · exact .none

/-- A rule with fixed wording carries over. -/
lemma const_carries {name : String} {shape : Matcher} {steps : List Step}
    (hw : steps.all Step.isWording = true) : (always name shape fun _ _ => steps).Carries :=
  always_carries (.const hw)

end Rule

/-! ### The checks -/

namespace Checks

open Rule

/-- The rules of a check carry. -/
def Carries (check : Check) : Prop :=
  check.rules.Forall Rule.Carries

/-- The message names the kind of declaration. -/
lemma avoidStdFunction_carries : Carries avoidStdFunction :=
  always_carries (.of_wording (fun _ _ => rfl) fun _ _ _ _ s _ h => by
    simp only [s.declarationWord h])

/-- The advice on linked lists carries over. -/
lemma preferVector_carries : Carries preferVector :=
  always_carries (.of_wording (fun _ _ => rfl) fun _ _ _ _ s _ h => by simp only [s.nodeType h])

/-- The replacement is for the node itself. -/
lemma avoidStdEndl_carries : Carries avoidStdEndl := by
  refine always_carries fun u v f inside s i h => ⟨rfl, ?_⟩
  simp only [List.forall_mem_cons]
  exact ⟨trivial, trivial, h, List.forall_mem_nil _⟩

/-- Room that was reserved earlier is found from an image as well. -/
lemma preferReserve_carries : Carries preferReserve :=
  provided_carries (fun _ _ _ _ s _ h _ => congrArg Bool.not (s.reservedEarlier h)) (.const rfl)

/-- The steps on binders only word things. -/
lemma isWording_bindSteps (binder : String) : (bindSteps binder).all Step.isWording = true := by
  rw [bindSteps]
  split_ifs <;> rfl

/-- The wording depends on the binder. -/
lemma avoidStdBind_carries : Carries avoidStdBind :=
  always_carries (.of_wording (fun _ _ => isWording_bindSteps _) fun _ _ _ _ s _ h => by
    simp only [s.callee h])

/-- The steps on moves only word things. -/
lemma isWording_moveSteps (isConstructor : Bool) :
    (moveSteps isConstructor).all Step.isWording = true := by
  rw [moveSteps]
  split_ifs <;> rfl

/-- The wording depends on which move it is. -/
lemma preferNoexceptMove_carries : Carries preferNoexceptMove := by
  refine always_carries (.of_wording (fun _ _ => isWording_moveSteps _) fun _ _ _ _ s _ h => ?_)
  rw [isMoveConstructor, isMoveConstructor, s.kind h]

/-- The advice on global streams carries over. -/
lemma avoidCoutCerr_carries : Carries avoidCoutCerr :=
  always_carries (.of_wording (fun _ _ => rfl) fun _ _ _ _ s _ h => by simp only [s.target h])

/-- The advice on virtual calls in loops carries over. -/
lemma avoidVirtualInLoop_carries : Carries avoidVirtualInLoop :=
  always_carries (.of_wording (fun _ _ => rfl) fun _ _ _ _ s _ h => by simp only [s.method h])

/-- A pointer is judged by its name and by what comes after it. -/
lemma preferSpan_carries : Carries preferSpan := by
  refine ⟨const_carries rfl, provided_carries ?_ (.of_wording (fun _ _ => rfl) ?_)⟩
  · intro u v f inside s i h hadmits
    -- Only parameters are known to have images with alike siblings, and the shape admits no others.
    have htag : u.tag i = .parmVarDecl := by
      simpa [ofTag, typed, Matcher.and, admits, admitsAll] using hadmits
    simp only [s.nameOf h, s.sibling h htag]
  · intro u v f inside s i h
    simp only [s.nameOf h]

/-- Whether a position is compared with the start is the same for an image. -/
lemma preferStartsEndsWith_carries : Carries preferStartsEndsWith := by
  have hcompared : ∀ {name shape steps}, steps.all Step.isWording = true →
      (provided name shape comparedWithZero fun _ _ => steps).Carries := by
    intro name shape steps hw
    exact provided_carries (fun _ _ _ _ s _ h _ => s.compared equalsZero h) (.const hw)
  refine ⟨hcompared rfl, hcompared rfl, ?_, hcompared rfl, hcompared rfl⟩
  intro u v f inside s i b _ hb _
  simp only [Bindings.get?_rename]
  cases hsite : b.get? site with
  | none => exact .none
  | some call => exact .wording (hb.get? hsite) rfl

/-- Whether a lookup flows into a comparison is the same for an image. -/
lemma preferContains_carries : Carries preferContains := by
  have hflows : ∀ {name shape comparison steps}, steps.all Step.isWording = true →
      (provided name shape (flowsInto comparison) fun _ _ => steps).Carries := by
    intro name shape comparison steps hw
    exact provided_carries (fun _ _ _ _ s _ h _ => s.compared comparison h) (.const hw)
  exact ⟨hflows rfl, hflows rfl, hflows rfl⟩

/-- The wording depends on the labelled call. -/
lemma preferEraseIf_carries : Carries preferEraseIf := by
  intro u v f inside s i b _ hb _
  simp only [Bindings.get?_rename]
  cases hsite : b.get? site with
  | none => exact .none
  | some call =>
    cases hremove : b.get? removeLabel with
    | none => exact .none
    | some remove =>
      simp only [Option.map_some, Option.bind_eq_bind, Option.bind_some, s.callee (hb.get? hremove)]
      exact .wording (hb.get? hsite) rfl

/-- The advice on tree-based containers carries over. -/
lemma preferFlatContainers_carries : Carries preferFlatContainers :=
  always_carries (.of_wording (fun _ _ => rfl) fun _ _ _ _ s _ h => by simp only [s.nodeType h])

/-- The advice on casts of enumerations carries over. -/
lemma preferToUnderlying_carries : Carries preferToUnderlying := by
  intro u v f inside s i b _ hb _
  simp only [Bindings.get?_rename]
  cases hsite : b.get? site with
  | none => exact .none
  | some cast =>
    simp only [Option.map_some, Option.bind_eq_bind, Option.bind_some, s.castEnum (hb.get? hsite)]
    cases castEnum? u cast with
    | none => exact .none
    | some ty => exact .wording (hb.get? hsite) rfl

/-- The size is that of the labelled literal, and an array is local for an image as well. -/
lemma preferInplaceVector_carries (max : Nat) : Carries (preferInplaceVector max) := by
  refine ⟨?_, ?_⟩
  · intro u v f inside s i b _ hb _
    simp only [Bindings.get?_rename, s.smallSize hb]
    cases hsite : b.get? site with
    | none => exact .none
    | some call =>
      cases smallSize? max u b with
      | none => exact .none
      | some size =>
        cases hvector : b.get? vectorLabel with
        | none => exact .none
        | some vector =>
          simp only [Option.map_some, Option.bind_eq_bind, Option.bind_some,
            s.refersToLocal (hb.get? hvector)]
          split
          · exact .wording (hb.get? hsite) rfl
          · exact .none
  · intro u v f inside s i b _ hb _
    simp only [Bindings.get?_rename, s.smallSize hb]
    cases hsite : b.get? site with
    | none => exact .none
    | some decl =>
      cases smallSize? max u b with
      | none => exact .none
      | some size => exact .wording (hb.get? hsite) rfl

/-- The advice on copyable functions carries over. -/
lemma preferCopyableFunction_carries : Carries preferCopyableFunction :=
  always_carries (.of_wording (fun _ _ => rfl) fun _ _ _ _ s _ h => by
    simp only [s.declarationWord h])

/-- The advice on linked lists that keep pointers stable carries over. -/
lemma preferHive_carries : Carries preferHive :=
  always_carries (.of_wording (fun _ _ => rfl) fun _ _ _ _ s _ h => by simp only [s.nodeType h])

/-- The rules of all checks carry. Those of the checks that are not named here say the same about
all nodes. -/
lemma rules_carry (options : Options) : (allChecks options).Forall Carries :=
  ⟨avoidStdFunction_carries,
    ⟨const_carries rfl, const_carries rfl, const_carries rfl⟩,
    avoidStdEndl_carries, preferVector_carries,
    const_carries rfl,
    ⟨const_carries rfl, const_carries rfl, const_carries rfl⟩,
    ⟨const_carries rfl, const_carries rfl⟩,
    ⟨const_carries rfl, const_carries rfl, const_carries rfl⟩,
    preferReserve_carries,
    const_carries rfl,
    avoidStdBind_carries,
    ⟨const_carries rfl, const_carries rfl⟩,
    preferNoexceptMove_carries, avoidCoutCerr_carries, avoidVirtualInLoop_carries,
    const_carries rfl,
    ⟨const_carries rfl, const_carries rfl, const_carries rfl⟩,
    preferSpan_carries, preferStartsEndsWith_carries, preferContains_carries, preferEraseIf_carries,
    preferFlatContainers_carries,
    ⟨const_carries rfl, const_carries rfl⟩,
    ⟨const_carries rfl, const_carries rfl, const_carries rfl⟩,
    ⟨const_carries rfl, const_carries rfl⟩,
    preferToUnderlying_carries,
    ⟨const_carries rfl, const_carries rfl, const_carries rfl⟩,
    const_carries rfl,
    preferInplaceVector_carries options.maxInplaceSize, preferCopyableFunction_carries,
    preferHive_carries⟩

end Checks

end CppAdvice
