import CppAdvice.Proofs.Subtrees
import Mathlib.Order.Bounds.Basic

/-!
# Which declaration a reference names

A reference is resolved from the inside out: of the nodes above it, the nearest one with a
declaration of the name among its children, and there the last one before the reference. Numbers say
it at once: the declaration is the one with the greatest number among all that are `Visible`
(`Rooted.declaration?_eq_some_iff`). The two agree because a declaration in an outer scope comes
before everything in the inner ones: were it within the inner scope, its parent would be too
(`Rooted.lt_of_outer`).
-/

namespace CppAdvice.TranslationUnit

open CppAdvice.Tree

/-- A node is a declaration of a variable or a parameter with the given name, directly in a scope
and before the node `r`. -/
structure DeclaredIn (u : TranslationUnit) (name : String) (r scope v : Nat) : Prop where
  declares : (∃ storage, u.kind v = .varDecl name storage) ∨ u.kind v = .parmVarDecl name
  parent : u.parent? v = some scope
  before : v < r

/-- A node is a declaration that can be seen from the node `r`: before it, and directly in a scope
above it. -/
def Visible (u : TranslationUnit) (name : String) (r v : Nat) : Prop :=
  ∃ scope ∈ u.ancestors r, u.DeclaredIn name r scope v

/-- A node is the last declaration before the node `r` in the innermost scope above it that has
one. -/
def Innermost (u : TranslationUnit) (name : String) (r v : Nat) : Prop :=
  ∃ inner scope outer, u.ancestors r = inner ++ scope :: outer ∧
    (∀ s ∈ inner, ∀ v, ¬ u.DeclaredIn name r s v) ∧ IsGreatest {v | u.DeclaredIn name r scope v} v

variable {u : TranslationUnit} {name : String} {r s v w : Nat}

/-- A variable is declared by a variable or a parameter with its name. -/
lemma declaresVariable_iff : u.declaresVariable name v = true ↔
    (∃ storage, u.kind v = .varDecl name storage) ∨ u.kind v = .parmVarDecl name := by
  rw [declaresVariable, decide_eq_true_iff]
  cases u.kind v with
  | varDecl other storage => simp [Kind.variableName?]
  | parmVarDecl other => simp [Kind.variableName?]
  | _ => simp [Kind.variableName?]

/-- The last of numbers that grow is the greatest. -/
lemma isGreatest_of_getLast? {ids : List Nat} (hids : ids.Pairwise (· < ·))
    (h : ids.getLast? = some v) :
    IsGreatest {w | w ∈ ids} v := by
  obtain ⟨front, rfl⟩ := List.getLast?_eq_some_iff.1 h
  refine ⟨List.mem_append_right _ List.mem_cons_self, ?_⟩
  intro w hw
  rcases List.mem_append.1 hw with hw | hw
  · exact Nat.le_of_lt ((List.pairwise_append.1 hids).2.2 w hw v List.mem_cons_self)
  · exact Nat.le_of_eq (List.mem_singleton.1 hw)

namespace Linked

/-- Above the first node above a node is what is above that one. -/
lemma tail_ancestors (hu : u.Linked) {above : List Nat} (h : u.ancestors r = s :: above) :
    above = u.ancestors s := by
  cases hp : u.parent? r with
  | none =>
    rw [ancestors, hp] at h
    cases h
  | some p =>
    rw [hu.ancestors_eq hp] at h
    obtain ⟨rfl, habove⟩ := List.cons.inj h
    exact habove.symm

/-- After a node on the way up comes what is above that node. -/
lemma ancestors_suffix (hu : u.Linked) {inner outer : List Nat}
    (h : u.ancestors r = inner ++ s :: outer) :
    outer = u.ancestors s := by
  induction inner generalizing r with
  | nil => exact hu.tail_ancestors h
  | cons a inner ih => exact ih (hu.tail_ancestors h).symm

end Linked

namespace Rooted

/-- The declarations that are looked through in a scope are those in it before the reference. -/
lemma mem_declarations (hu : u.Rooted) :
    v ∈ ((u.children s).takeWhile (· < r)).filter (u.declaresVariable name) ↔
      u.DeclaredIn name r s v := by
  rw [takeWhile_lt_eq_filter (hu.sorted s), List.mem_filter, List.mem_filter, declaresVariable_iff,
    decide_eq_true_iff]
  constructor
  · rintro ⟨⟨hchild, hlt⟩, hvariable⟩
    exact ⟨hvariable, hu.parent_of_child hchild, hlt⟩
  · rintro ⟨hvariable, hparent, hlt⟩
    exact ⟨⟨(hu.parent hparent).2, hlt⟩, hvariable⟩

/-- Nothing is found in a scope if nothing is declared there. -/
lemma declarationIn?_eq_none (hu : u.Rooted) :
    u.declarationIn? name r s = none ↔ ∀ v, ¬ u.DeclaredIn name r s v := by
  rw [declarationIn?, List.getLast?_eq_none_iff, List.eq_nil_iff_forall_not_mem]
  simp only [hu.mem_declarations]

/-- What is found in a scope is the last declaration there. -/
lemma isGreatest_declarationIn? (hu : u.Rooted) (h : u.declarationIn? name r s = some v) :
    IsGreatest {v | u.DeclaredIn name r s v} v := by
  have hsorted :
      (((u.children s).takeWhile (· < r)).filter (u.declaresVariable name)).Pairwise (· < ·) :=
    ((hu.sorted s).sublist (List.takeWhile_sublist _)).filter _
  have hgreatest := isGreatest_of_getLast? hsorted h
  simpa only [hu.mem_declarations] using hgreatest

/-- The last declaration in a scope is found, and nothing else. -/
lemma declarationIn?_eq_some_iff (hu : u.Rooted) :
    u.declarationIn? name r s = some v ↔ IsGreatest {v | u.DeclaredIn name r s v} v := by
  constructor
  · exact hu.isGreatest_declarationIn?
  · intro h
    cases hlast : u.declarationIn? name r s with
    | none => exact absurd h.1 (hu.declarationIn?_eq_none.1 hlast v)
    | some w => rw [(hu.isGreatest_declarationIn? hlast).unique h]

/-- What comes after a node above `r`, but not after `r`, is below that node. -/
lemma mem_descendants_of_le (hu : u.Rooted) (hs : s ∈ u.ancestors r) (hv : s < v) (hvr : v ≤ r) :
    v ∈ u.descendants s := by
  have hr := hu.mem_descendants_iff.2 hs
  rw [descendants, List.mem_range'_1] at hr ⊢
  omega

/-- A declaration in an outer scope comes before what is in an inner one. -/
lemma lt_of_outer (hu : u.Rooted) {outer : Nat} (hs : s ∈ u.ancestors r)
    (houter : outer ∈ u.ancestors s) (hw : u.DeclaredIn name r outer w)
    (hv : u.DeclaredIn name r s v) : w < v := by
  have hsv := (hu.parent hv.parent).1
  by_contra hvw
  -- Otherwise the outer declaration is below the inner scope, and so is its parent, or it is the
  -- inner scope.
  have hbelow :=
    hu.mem_descendants_of_le hs (Nat.lt_of_lt_of_le hsv (Nat.le_of_not_lt hvw))
      (Nat.le_of_lt hw.before)
  have habove := hu.mem_descendants_iff.1 hbelow
  rw [hu.ancestors_eq hw.parent, List.mem_cons] at habove
  have hlt := lt_of_mem_ancestors houter
  rcases habove with heq | habove
  · exact Nat.ne_of_lt hlt heq.symm
  · exact Nat.lt_asymm hlt (lt_of_mem_ancestors habove)

/-- What is last in the innermost scope is the greatest of all that can be seen. -/
lemma isGreatest_of_innermost (hu : u.Rooted) (h : u.Innermost name r v) :
    IsGreatest {v | u.Visible name r v} v := by
  obtain ⟨inner, scope, outer, hancestors, hinner, hv, hgreatest⟩ := h
  have hscope : scope ∈ u.ancestors r := by
    rw [hancestors]
    exact List.mem_append_right _ List.mem_cons_self
  refine ⟨⟨scope, hscope, hv⟩, ?_⟩
  rintro w ⟨t, ht, hw⟩
  rw [hancestors, hu.ancestors_suffix hancestors, List.mem_append, List.mem_cons] at ht
  rcases ht with ht | rfl | ht
  · exact absurd hw (hinner t ht w)
  · exact hgreatest hw
  · exact Nat.le_of_lt (hu.lt_of_outer hscope ht hw hv)

section

variable (hu : u.Rooted) (hr : u.kind r = .declRefExpr name)

include hu hr

/-- A name means nothing if no declaration of it is visible. -/
lemma declaration?_eq_none_iff : u.declaration? r = none ↔ ∀ v, ¬ u.Visible name r v := by
  rw [declaration?, hr]
  simp only [List.findSome?_eq_none_iff, hu.declarationIn?_eq_none]
  constructor
  · rintro h v ⟨scope, hscope, hv⟩
    exact h scope hscope v hv
  · intro h scope hscope v hv
    exact h v ⟨scope, hscope, hv⟩

/-- A name means the last declaration in the innermost scope that has one. -/
lemma declaration?_eq_some_iff_innermost : u.declaration? r = some v ↔ u.Innermost name r v := by
  rw [declaration?, hr]
  simp only [List.findSome?_eq_some_iff, hu.declarationIn?_eq_none, hu.declarationIn?_eq_some_iff]
  constructor
  · rintro ⟨inner, scope, outer, hancestors, hv, hinner⟩
    exact ⟨inner, scope, outer, hancestors, hinner, hv⟩
  · rintro ⟨inner, scope, outer, hancestors, hinner, hv⟩
    exact ⟨inner, scope, outer, hancestors, hv, hinner⟩

/-- A name means the last of the declarations that are visible. -/
lemma declaration?_eq_some_iff :
    u.declaration? r = some v ↔ IsGreatest {v | u.Visible name r v} v := by
  constructor
  · intro h
    exact hu.isGreatest_of_innermost ((declaration?_eq_some_iff_innermost hu hr).1 h)
  · intro h
    cases hfound : u.declaration? r with
    | none => exact absurd h.1 ((declaration?_eq_none_iff hu hr).1 hfound v)
    | some w =>
      have hw := hu.isGreatest_of_innermost ((declaration?_eq_some_iff_innermost hu hr).1 hfound)
      rw [hw.unique h]

end

end Rooted

/-- A reference names the declaration with the greatest number among those that can be seen from it,
which is the last one in the innermost scope that has one, and nothing if none can be seen. Nodes
that are no references name nothing. -/
theorem declaration?_ofDocument (d : Document) (fallback : Language.Flags) (r : Nat) :
    let u := ofDocument d fallback
    (∀ name, u.kind r = .declRefExpr name →
      (∀ v, u.declaration? r = some v ↔ IsGreatest {v | u.Visible name r v} v) ∧
      (u.declaration? r = none ↔ ∀ v, ¬ u.Visible name r v) ∧
      ∀ v, u.declaration? r = some v ↔ u.Innermost name r v) ∧
    ((∀ name, u.kind r ≠ .declRefExpr name) → u.declaration? r = none) := by
  intro u
  have hu : u.Rooted := rooted_ofDocument d fallback
  constructor
  · intro name hr
    exact ⟨fun v => hu.declaration?_eq_some_iff hr, hu.declaration?_eq_none_iff hr,
      fun v => hu.declaration?_eq_some_iff_innermost hr⟩
  · intro hr
    rw [declaration?]
    split
    · rename_i name hkind
      exact absurd hkind (hr name)
    · rfl

/-- A variable in whose initial value its own name is used hides a parameter of that name; the
variable of an earlier block cannot be seen. -/
theorem declaration?_ofDocument_shadowed :
    let d : Document :=
      { root := .mk { kind := .translationUnitDecl }
          [.mk { kind := .functionDecl { name := "f" } }
            [.mk { kind := .parmVarDecl "x" } [],
              .mk { kind := .compoundStmt }
                [.mk { kind := .varDecl "x" .automatic } []],
              .mk { kind := .compoundStmt }
                [.mk { kind := .varDecl "x" .automatic } [.mk { kind := .declRefExpr "x" } []],
                  .mk { kind := .callExpr none } []]]] }
    let u := ofDocument d (.ofTier .cpp17)
    (u.kind 7 = .declRefExpr "x" ∧ IsGreatest {v | u.Visible "x" 7 v} 6) ∧
      (∀ name, u.kind 8 ≠ .declRefExpr name) ∧ u.declaration? 8 = none := by
  intro d u
  have hreference : u.kind 7 = .declRefExpr "x" := by decide +kernel
  have hdeclaration : u.declaration? 7 = some 6 := by decide +kernel
  have hcall : u.kind 8 = .callExpr none := by decide +kernel
  have hother : ∀ name, u.kind 8 ≠ .declRefExpr name := by
    intro name hname
    rw [hcall] at hname
    cases hname
  exact ⟨⟨hreference, (((declaration?_ofDocument d (.ofTier .cpp17) 7).1 "x" hreference).1 6).1
    hdeclaration⟩, hother, (declaration?_ofDocument d (.ofTier .cpp17) 8).2 hother⟩

end CppAdvice.TranslationUnit
