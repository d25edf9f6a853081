import CppAdvice.Proofs.Hits
import CppAdvice.Proofs.Wrapping
import Mathlib.Data.List.Sort

/-!
# Wrappers do not show

Putting a node into a wrapper leaves the outcome of a run as it is. The unit with the wrapper is
related to the one without it by `Wraps`: all nodes are there under their new numbers, and the
wrapper passes on whatever is asked of it. From this comes a `Simulation`, one question at a time:
what was written as the children of a node, what is below and above it, which comparison its value
flows into, which variable it names. The wrapper itself has no matches.
-/

namespace CppAdvice

open CppAdvice.Tree CppAdvice.Matcher

/-- The entry of the node `i` after a wrapper has got in around the node `k`. -/
def Tree.Entry.moved (k i : Nat) (e : Entry) : Entry :=
  if i = k then e.wrapped k else e.bump k

namespace Tree.Entry

/-- The facts of a node stay as they are. -/
@[simp]
lemma facts_moved (k i : Nat) (e : Entry) : (e.moved k i).facts = e.facts := by
  rw [moved]
  split_ifs <;> rfl

/-- The children of a node move with the wrapper. -/
@[simp]
lemma children_moved (k i : Nat) (e : Entry) :
    (e.moved k i).children = e.children.map (slide k) := by
  rw [moved]
  split_ifs <;> rfl

/-- The end of a subtree moves with the wrapper. -/
@[simp]
lemma subtreeEnd_moved (k i : Nat) (e : Entry) :
    (e.moved k i).subtreeEnd = slide k e.subtreeEnd := by
  rw [moved]
  split_ifs <;> rfl

end Tree.Entry

/-- One unit is another one with a wrapper around the node `k`, which declares no variable. -/
structure Wraps (u v : TranslationUnit) (k : Nat) : Prop where
  file : v.file = u.file
  source : v.source = u.source
  records : v.records = u.records
  language : v.language = u.language
  size : v.size = u.size + 1
  lt_size : k < u.size
  entry : ∀ i, v.entry? (lift k i) = (u.entry? i).map (·.moved k i)
  tag_wrapper : (v.tag k).isImplicitWrapper = true
  parent_wrapper : v.parent? k = u.parent? k
  children_wrapper : v.children k = [k + 1]
  variableName : (u.kind k).variableName? = none
  sorted : ∀ i, (u.children i).Pairwise (· < ·)

/-- The entry of a node after an entry has got in. -/
lemma getElem?_splice {α : Type} {before after : List α} {x : α} {w : α} {f g : α → α} (i : Nat) :
    (before.map f ++ w :: g x :: after.map f)[lift before.length i]? =
      (before ++ x :: after)[i]?.map fun y => if i = before.length then g y else f y := by
  rcases Nat.lt_trichotomy i before.length with hi | rfl | hi
  · rw [lift, if_pos hi, List.getElem?_append_left (by rwa [List.length_map]),
      List.getElem?_append_left hi, List.getElem?_map]
    simp only [Nat.ne_of_lt hi, if_false]
  · rw [lift_self, List.getElem?_append_right (by rw [List.length_map]; omega),
      List.getElem?_append_right (Nat.le_refl _), List.length_map, Nat.add_sub_cancel_left,
      Nat.sub_self]
    simp
  · obtain ⟨j, rfl⟩ : ∃ j, i = before.length + 1 + j := ⟨i - (before.length + 1), by omega⟩
    have hne : before.length + 1 + j ≠ before.length := by omega
    rw [lift, if_neg (by omega), List.getElem?_append_right (by rw [List.length_map]; omega),
      List.getElem?_append_right (by omega), List.length_map]
    rw [show before.length + 1 + j + 1 - before.length = j + 2 by omega,
      show before.length + 1 + j - before.length = j + 1 by omega]
    simp only [List.getElem?_cons_succ, List.getElem?_map, hne, if_false]

/-- A document with a node in a wrapper describes a unit with a wrapper. -/
lemma wraps_ofDocument {d : Document} {w : Facts} {root : Node}
    (hw : w.kind.tag.isImplicitWrapper = true) (h : Node.Wrapped w d.root root)
    (fallback : Language.Flags) :
    ∃ k, Wraps (.ofDocument d fallback) (.ofDocument { d with root } fallback) k := by
  have hparent : ∀ p ∈ (none : Option Nat), p < 0 := nofun
  obtain ⟨k, _, hk, before, e, after, hes, hlength, hname, hes'⟩ := h.spliced hparent
  rw [Nat.zero_add] at hk hlength
  subst hlength
  have hnode : (d.root.entries none 0)[before.length]? = some e := by
    rw [hes, List.getElem?_append_right (Nat.le_refl _), Nat.sub_self, List.getElem?_cons_zero]
  have hwrapper : (root.entries none 0)[before.length]? =
      some (e.wrapper w.normalize before.length) := by
    rw [hes', List.getElem?_append_right (by rw [List.length_map]), List.length_map, Nat.sub_self,
      List.getElem?_cons_zero]
  refine ⟨before.length, ?_⟩
  constructor
  case file | source | records | language => rfl
  case size => rw [TranslationUnit.size_ofDocument, TranslationUnit.size_ofDocument, h.size_eq]
  case lt_size => rwa [TranslationUnit.size_ofDocument]
  case entry =>
    intro i
    rw [TranslationUnit.entry?_ofDocument, TranslationUnit.entry?_ofDocument, hes, hes',
      getElem?_splice]
    rfl
  case tag_wrapper =>
    rw [TranslationUnit.tag, TranslationUnit.kind, TranslationUnit.entry?_ofDocument, hwrapper]
    exact (congrArg Tag.isImplicitWrapper (Kind.tag_normalize w.kind)).trans hw
  case parent_wrapper =>
    rw [TranslationUnit.parent?, TranslationUnit.parent?, TranslationUnit.entry?_ofDocument,
      TranslationUnit.entry?_ofDocument, hwrapper, hnode]
    rfl
  case children_wrapper =>
    rw [TranslationUnit.children, TranslationUnit.entry?_ofDocument, hwrapper]
    rfl
  case variableName =>
    rw [TranslationUnit.kind, TranslationUnit.entry?_ofDocument, hnode]
    exact hname
  case sorted => exact (TranslationUnit.linked_ofDocument d fallback).sorted

namespace Wraps

variable {u v : TranslationUnit} {k : Nat}

/-- The kind of a node stays as it is. -/
lemma kind (h : Wraps u v k) (i : Nat) : v.kind (lift k i) = u.kind i := by
  rw [TranslationUnit.kind, TranslationUnit.kind, h.entry]
  cases u.entry? i <;> simp

/-- The tag of a node stays as it is. -/
lemma tag (h : Wraps u v k) (i : Nat) : v.tag (lift k i) = u.tag i := by
  rw [TranslationUnit.tag, h.kind, TranslationUnit.tag]

/-- The type of a node stays as it is. -/
lemma type (h : Wraps u v k) (i : Nat) : v.type? (lift k i) = u.type? i := by
  rw [TranslationUnit.type?, TranslationUnit.type?, h.entry]
  cases u.entry? i <;> simp

/-- The place of a node in the file stays as it is. -/
lemma range (h : Wraps u v k) (i : Nat) : v.mainFileRange? (lift k i) = u.mainFileRange? i := by
  rw [TranslationUnit.mainFileRange?, TranslationUnit.mainFileRange?, h.entry, h.source]
  cases u.entry? i <;> simp

/-- A node has the children that it had, one of them maybe in the wrapper. -/
lemma children (h : Wraps u v k) (i : Nat) :
    v.children (lift k i) = (u.children i).map (slide k) := by
  rw [TranslationUnit.children, TranslationUnit.children, h.entry]
  cases u.entry? i <;> simp

/-- The end of the subtree of a node moves with the wrapper. -/
lemma subtreeEnd (h : Wraps u v k) (i : Nat) :
    v.subtreeEnd (lift k i) = slide k (u.subtreeEnd i) := by
  rw [TranslationUnit.subtreeEnd, TranslationUnit.subtreeEnd, h.entry]
  cases u.entry? i with
  | none => exact (if_pos (Nat.zero_le k)).symm
  | some e => simp

/-- A node has the parent that it had, unless it is the one in the wrapper. -/
lemma parent (h : Wraps u v k) {i : Nat} (hi : i ≠ k) :
    v.parent? (lift k i) = (u.parent? i).map (lift k) := by
  rw [TranslationUnit.parent?, TranslationUnit.parent?, h.entry]
  cases u.entry? i with
  | none => rfl
  | some e => simp [Entry.moved, hi, Entry.bump]

/-- The node in the wrapper has the wrapper as its parent. -/
lemma parent_self (h : Wraps u v k) : v.parent? (k + 1) = some k := by
  have hk : u.entry? k ≠ none := by
    rw [TranslationUnit.entry?, Ne, Array.getElem?_eq_none_iff]
    exact Nat.not_le.2 h.lt_size
  obtain ⟨e, he⟩ := Option.ne_none_iff_exists'.1 hk
  rw [← lift_self, TranslationUnit.parent?, h.entry, he]
  simp [Entry.moved, Entry.wrapped]

/-- A child is in the order that it was to the nodes. -/
lemma lt_child_iff (h : Wraps u v k) {i c : Nat} :
    lift k i < slide k c ∧ slide k c < v.size ↔ i < c ∧ c < u.size := by
  have hk := h.lt_size
  rw [lift_lt_slide, h.size, slide]
  split_ifs <;> omega

/-- A child leads to the same expression as its node, through the wrapper if need be. -/
lemma skipImplicit_slide (h : Wraps u v k) (c : Nat) :
    v.skipImplicit (slide k c) = v.skipImplicit (lift k c) := by
  by_cases hc : c = k
  · have hsize : k + 1 < v.size := by
      rw [h.size]
      exact Nat.succ_lt_succ h.lt_size
    rw [hc, slide_self, lift_self, TranslationUnit.skipImplicit, if_pos h.tag_wrapper,
      h.children_wrapper]
    exact if_pos ⟨Nat.lt_succ_self k, hsize⟩
  · rw [slide_eq_lift hc]

/-- The expression that was written below the wrappers is the same. -/
lemma skipImplicit (h : Wraps u v k) (i : Nat) :
    v.skipImplicit (lift k i) = lift k (u.skipImplicit i) := by
  rw [TranslationUnit.skipImplicit, TranslationUnit.skipImplicit, h.tag, h.children, List.head?_map]
  cases (u.children i).head? with
  | none => split_ifs <;> rfl
  | some c =>
    -- The guards on the child are the same, so both sides go on or both stop.
    simp only [Option.map_some, h.lt_child_iff]
    split_ifs with hi hc
    · rw [h.skipImplicit_slide, h.skipImplicit c]
    · rfl
    · rfl
termination_by u.size - i

/-- What was written as the children of a node is the same. -/
lemma written_children (h : Wraps u v k) (i : Nat) :
    (v.children (lift k i)).map v.skipImplicit =
      ((u.children i).map u.skipImplicit).map (lift k) := by
  rw [h.children, List.map_map, List.map_map]
  apply List.map_congr_left
  intro c _
  exact (h.skipImplicit_slide c).trans (h.skipImplicit c)

/-- The wrapper itself was not written. -/
lemma isWritten_self (h : Wraps u v k) : v.isWritten k = false := by
  rw [TranslationUnit.isWritten, h.tag_wrapper, Bool.not_true]

/-- What was written is the same apart from the wrapper. -/
lemma isWritten (h : Wraps u v k) (i : Nat) : v.isWritten (lift k i) = u.isWritten i := by
  rw [TranslationUnit.isWritten, h.tag, TranslationUnit.isWritten]

/-- A stretch of numbers without that of the wrapper holds the nodes that it held before. -/
lemma filter_range' {k first stop first' stop' : Nat} (hfirst : ∀ j, first' ≤ lift k j ↔ first ≤ j)
    (hstop : ∀ j, lift k j < stop' ↔ j < stop) :
    (List.range' first' (stop' - first')).filter (· ≠ k) =
      (List.range' first (stop - first)).map (lift k) := by
  apply List.Pairwise.eq_of_mem_iff (r := (· < ·))
  · exact List.Pairwise.filter _ List.pairwise_lt_range'
  · exact List.Pairwise.map _ (fun i j hij => lift_lt_lift.2 hij) List.pairwise_lt_range'
  intro x
  rw [List.mem_filter, List.mem_map, List.mem_range'_1, decide_eq_true_iff]
  constructor
  · rintro ⟨⟨hx, hx'⟩, hne⟩
    -- Every number but that of the wrapper is the new number of a node.
    obtain ⟨j, rfl⟩ : ∃ j, lift k j = x := by
      rcases Nat.lt_or_gt_of_ne hne with hlt | hgt
      · exact ⟨x, if_pos hlt⟩
      · exact ⟨x - 1, by rw [lift, if_neg (by omega)]; omega⟩
    have hj := (hfirst j).1 hx
    have hj' := (hstop j).1 (by omega)
    exact ⟨j, List.mem_range'_1.2 ⟨hj, by omega⟩, rfl⟩
  · rintro ⟨j, hj, rfl⟩
    obtain ⟨hj, hj'⟩ := List.mem_range'_1.1 hj
    have hx := (hfirst j).2 hj
    have hx' := (hstop j).2 (by omega)
    exact ⟨⟨hx, by omega⟩, lift_ne k j⟩

/-- The nodes of a stretch that were written, where the nodes are those that were in the stretch
before. -/
lemma filter_isWritten (h : Wraps u v k) {first stop first' stop' : Nat}
    (hfirst : ∀ j, first' ≤ lift k j ↔ first ≤ j) (hstop : ∀ j, lift k j < stop' ↔ j < stop) :
    (List.range' first' (stop' - first')).filter v.isWritten =
      ((List.range' first (stop - first)).filter u.isWritten).map (lift k) := by
  have hskip : ∀ ids :
      List Nat, ids.filter v.isWritten = (ids.filter (· ≠ k)).filter v.isWritten := by
    intro ids
    rw [List.filter_filter]
    apply List.filter_congr
    intro id _
    by_cases hid : id = k
    · rw [hid, h.isWritten_self, Bool.false_and]
    · rw [decide_eq_true hid, Bool.and_true]
  have hcomp : v.isWritten ∘ lift k = u.isWritten := funext h.isWritten
  rw [hskip, filter_range' hfirst hstop, List.filter_map, hcomp]

/-- What was written below a node is the same under its new numbers. -/
lemma below (h : Wraps u v k) (i : Nat) :
    (v.descendants (lift k i)).filter v.isWritten =
      ((u.descendants i).filter u.isWritten).map (lift k) := by
  rw [TranslationUnit.descendants, TranslationUnit.descendants, h.subtreeEnd]
  exact h.filter_isWritten (fun _ => lift_lt_lift) fun _ => lift_lt_slide

/-- What was written in the unit is the same under its new numbers. -/
lemma preorder (h : Wraps u v k) :
    v.preorder.filter v.isWritten = (u.preorder.filter u.isWritten).map (lift k) := by
  have hlt : ∀ j, lift k j < v.size ↔ j < u.size := by
    intro j
    have hk := h.lt_size
    rw [h.size, lift]
    split_ifs <;> omega
  rw [TranslationUnit.preorder, TranslationUnit.preorder, List.range_eq_range',
    List.range_eq_range']
  exact h.filter_isWritten (fun _ => by simp only [Nat.zero_le]) hlt

/-- The wrapper around a node, if it has one. -/
def around (k i : Nat) : List Nat :=
  if i = k then [k] else []

/-- The nodes above a node are those that there were, and the wrapper. -/
lemma ancestors (h : Wraps u v k) (i : Nat) :
    v.ancestors (lift k i) =
      around k i ++ (u.ancestors i).flatMap fun a => lift k a :: around k a := by
  -- A parent and what is above it, as they are found from any node below.
  have hup : ∀ p, p < i → lift k p :: v.ancestors (lift k p) =
      (p :: u.ancestors p).flatMap fun a => lift k a :: around k a := by
    intro p _
    rw [h.ancestors p]
    rfl
  by_cases hi : i = k
  -- From the node in the wrapper, the way up leads through the wrapper to the parent that the node
  -- had.
  · subst hi
    have hself : v.ancestors (i + 1) = i :: v.ancestors i := by
      rw [TranslationUnit.ancestors, h.parent_self]
      exact if_pos (Nat.lt_succ_self i)
    rw [around, if_pos rfl, lift_self, hself, TranslationUnit.ancestors, h.parent_wrapper,
      TranslationUnit.ancestors]
    cases u.parent? i with
    | none => rfl
    | some p =>
      by_cases hlt : p < i
      · have hp := hup p hlt
        rw [show lift i p = p from if_pos hlt] at hp
        simp only [hlt, if_true, hp]
        rfl
      · simp only [hlt, if_false]
        rfl
  · rw [around, if_neg hi, List.nil_append, TranslationUnit.ancestors, h.parent hi,
      TranslationUnit.ancestors]
    cases u.parent? i with
    | none => rfl
    | some p =>
      simp only [Option.map_some, lift_lt_lift]
      split_ifs with hlt
      · exact hup p hlt
      · rfl
termination_by i

/-- Apart from the wrapper, the nodes above a node are those that there were. -/
lemma filter_ancestors (h : Wraps u v k) (i : Nat) :
    (v.ancestors (lift k i)).filter (· ≠ k) = (u.ancestors i).map (lift k) := by
  have haround : ∀ a, (around k a).filter (· ≠ k) = [] := by
    intro a
    rw [around]
    split_ifs <;> simp
  have hnode : ∀ a, (lift k a :: around k a).filter (· ≠ k) = [lift k a] := by
    intro a
    rw [List.filter_cons, if_pos (decide_eq_true (lift_ne k a)), haround]
  rw [h.ancestors, List.filter_append, haround, List.nil_append, List.filter_flatMap,
    List.map_eq_flatMap]
  simp only [hnode]

/-- The nearest node above that meets a condition is the same, if the wrapper does not meet it. -/
lemma find?_ancestors (h : Wraps u v k) (i : Nat) {p : Nat → Bool} (hp : p k = false) :
    (v.ancestors (lift k i)).find? p = ((u.ancestors i).find? (p ∘ lift k)).map (lift k) := by
  rw [← List.find?_map, ← h.filter_ancestors, List.find?_filter]
  congr 1
  funext a
  by_cases ha : a = k
  · simp [ha, hp]
  · simp [ha]

/-- The nearest answer of a node above is the same, if the wrapper does not answer. -/
lemma findSome?_ancestors {α : Type} (h : Wraps u v k) (i : Nat) {g : Nat → Option α}
    (hg : g k = none) :
    (v.ancestors (lift k i)).findSome? g = (u.ancestors i).findSome? (g ∘ lift k) := by
  rw [← List.findSome?_map, ← h.filter_ancestors]
  refine (findSome?_filter ?_).symm
  intro a ha
  rw [decide_eq_false_iff_not, not_not] at ha
  rw [ha, hg]

/-- A wrapper is no function, no lambda and no loop. -/
lemma tag_wrapper_ne (h : Wraps u v k) :
    v.tag k ≠ .functionDecl ∧ v.tag k ≠ .lambdaExpr ∧ (v.tag k).isLoop = false := by
  have hk := h.tag_wrapper
  generalize v.tag k = t at hk
  revert hk
  cases t <;> decide

/-- The nearest function around a node is the same. -/
lemma function (h : Wraps u v k) (i : Nat) :
    v.enclosingFunction? (lift k i) = (u.enclosingFunction? i).map (lift k) := by
  rw [TranslationUnit.enclosingFunction?, TranslationUnit.enclosingFunction?,
    h.find?_ancestors i (decide_eq_false h.tag_wrapper_ne.1)]
  simp only [Function.comp_def, h.tag]

/-- A search for a loop ends at the nearest node that is a loop, a function or a lambda. -/
lemma isInsideLoop_eq (u : TranslationUnit) (i : Nat) :
    Condition.isInsideLoop u i = ((u.ancestors i).find? fun a =>
      u.tag a = .functionDecl || u.tag a = .lambdaExpr || (u.tag a).isLoop).any fun a =>
        (u.tag a).isLoop := by
  rw [Condition.isInsideLoop]
  induction u.ancestors i with
  | nil => rfl
  | cons a above ih =>
    rw [List.map_cons, List.takeWhile_cons, List.find?_cons]
    by_cases hfunction : u.tag a = .functionDecl
    · simp [hfunction, Tag.isLoop]
    by_cases hlambda : u.tag a = .lambdaExpr
    · simp [hlambda, Tag.isLoop]
    cases hloop : (u.tag a).isLoop with
    | true => simp [hfunction, hlambda, hloop]
    | false => simpa [hfunction, hlambda, hloop] using ih

/-- A node is inside of a loop as before: a wrapper is none. -/
lemma loop (h : Wraps u v k) (i : Nat) :
    Condition.isInsideLoop v (lift k i) = Condition.isInsideLoop u i := by
  obtain ⟨hfunction, hlambda, hloop⟩ := h.tag_wrapper_ne
  rw [isInsideLoop_eq, isInsideLoop_eq, h.find?_ancestors i (by simp [hfunction, hlambda, hloop])]
  simp only [Function.comp_def, h.tag, Option.any_map]

/-- A wrapper declares no variable. -/
lemma declaresVariable_self (h : Wraps u v k) (name : String) :
    v.declaresVariable name k = false := by
  have hk := h.tag_wrapper
  rw [TranslationUnit.tag] at hk
  rw [TranslationUnit.declaresVariable]
  cases hkind : v.kind k with
  | varDecl name storage => rw [hkind] at hk; cases hk
  | parmVarDecl name => rw [hkind] at hk; cases hk
  | _ => rfl

/-- A child declares a variable if its node does; the wrapper and the node in it do not. -/
lemma declaresVariable_slide (h : Wraps u v k) (name : String) (c : Nat) :
    v.declaresVariable name (slide k c) = u.declaresVariable name c := by
  by_cases hc : c = k
  · rw [hc, slide_self, h.declaresVariable_self, TranslationUnit.declaresVariable, h.variableName]
    rfl
  · rw [slide_eq_lift hc, TranslationUnit.declaresVariable, h.kind,
      TranslationUnit.declaresVariable]

/-- The node in the wrapper declares no variable. -/
lemma declaresVariable_ne (h : Wraps u v k) {name : String} {c : Nat}
    (hc : u.declaresVariable name c = true) : c ≠ k := by
  rintro rfl
  rw [← h.declaresVariable_slide, slide_self, h.declaresVariable_self] at hc
  cases hc

/-- The declarations in a scope before a node are those that there were. -/
lemma declarationIn (h : Wraps u v k) (name : String) (before scope : Nat) :
    v.declarationIn? name (lift k before) (lift k scope) =
      (u.declarationIn? name before scope).map (lift k) := by
  have hsorted : ((u.children scope).map (slide k)).Pairwise (· < ·) :=
    List.Pairwise.map _ (fun _ _ hij => slide_lt_slide.2 hij) (h.sorted scope)
  -- Only the node in the wrapper may be on the other side of the bound, and it is no declaration.
  have hkeep : ∀ c, (v.declaresVariable name (slide k c) && decide (slide k c < lift k before)) =
      (u.declaresVariable name c && decide (c < before)) := by
    intro c
    rw [h.declaresVariable_slide]
    cases hc : u.declaresVariable name c with
    | false => rfl
    | true => rw [slide_eq_lift (h.declaresVariable_ne hc), decide_eq_decide.2 lift_lt_lift]
  rw [TranslationUnit.declarationIn?, h.children, takeWhile_lt_eq_filter hsorted,
    TranslationUnit.declarationIn?, takeWhile_lt_eq_filter (h.sorted scope), List.filter_filter,
    List.filter_filter, List.filter_map, List.getLast?_map]
  simp only [Function.comp_def, hkeep]
  apply Option.map_congr
  intro c hc
  have hdeclares := (List.mem_filter.1 (List.mem_of_getLast? hc)).2
  rw [Bool.and_eq_true] at hdeclares
  exact slide_eq_lift (h.declaresVariable_ne hdeclares.1)

/-- There are no declarations in the wrapper. -/
lemma declarationIn_self (h : Wraps u v k) (name : String) (before : Nat) :
    v.declarationIn? name before k = none := by
  have hnode : v.declaresVariable name (k + 1) = false := by
    rw [← lift_self, TranslationUnit.declaresVariable, h.kind, h.variableName]
    rfl
  rw [TranslationUnit.declarationIn?, h.children_wrapper, List.getLast?_eq_none_iff,
    List.filter_eq_nil_iff]
  intro c hc
  obtain rfl := List.mem_singleton.1 ((List.takeWhile_sublist _).subset hc)
  rw [hnode]
  exact Bool.false_ne_true

/-- A reference names the same variable. -/
lemma declaration (h : Wraps u v k) (i : Nat) :
    v.declaration? (lift k i) = (u.declaration? i).map (lift k) := by
  rw [TranslationUnit.declaration?, TranslationUnit.declaration?, h.kind]
  split
  · rw [h.findSome?_ancestors i (h.declarationIn_self _ _), List.map_findSome?]
    congr 1
    funext a
    exact h.declarationIn _ i a
  · rfl

/-- A marker is recognized as before. -/
lemma holdsAt (h : Wraps u v k) (marker : Sentinel.Marker) (i : Nat) :
    marker.holdsAt v (lift k i) = marker.holdsAt u i := by
  unfold Sentinel.Marker.holdsAt
  rw [h.kind]

/-- An operator compares a child as it did. -/
lemma comparesAt (h : Wraps u v k) (comparison : Sentinel.Comparison) (node side : Nat)
    (op : Opcode) :
    Sentinel.comparesAt v comparison (lift k node) (slide k side) op =
      Sentinel.comparesAt u comparison node side op := by
  rw [Sentinel.comparesAt, Sentinel.comparesAt, h.children]
  match u.children node with
  | [] | [_] => rfl
  | lhs :: rhs :: _ =>
    simp only [List.map_cons, slide_inj, h.skipImplicit_slide, h.skipImplicit, h.holdsAt]

/-- The wrapper passes a value on. -/
lemma walk_around (h : Wraps u v k) (comparison : Sentinel.Comparison) (i : Nat)
    (above : List Nat) :
    Sentinel.walk v Sentinel.defaultTransparent comparison (lift k i) (around k i ++ above) =
      Sentinel.walk v Sentinel.defaultTransparent comparison (slide k i) above := by
  by_cases hi : i = k
  · have hk := h.tag_wrapper
    have hcontains : Sentinel.defaultTransparent.contains (v.tag k) = true := by
      generalize v.tag k = t at hk
      revert hk
      cases t <;> decide
    rw [TranslationUnit.tag] at hk hcontains
    rw [hi, around, if_pos rfl, slide_self, List.singleton_append, Sentinel.walk]
    split
    case h_1 hkind => rw [hkind] at hk; cases hk
    case h_2 hkind => rw [hkind] at hk; cases hk
    case h_3 hkind => rw [hkind] at hk; cases hk
    case h_4 => rw [hcontains, Bool.true_and]
  · rw [around, if_neg hi, List.nil_append, slide_eq_lift hi]

/-- A value flows up the same way. -/
lemma walk (h : Wraps u v k) (comparison : Sentinel.Comparison) (side : Nat) (above : List Nat) :
    Sentinel.walk v Sentinel.defaultTransparent comparison (slide k side)
      (above.flatMap fun a => lift k a :: around k a) =
      Sentinel.walk u Sentinel.defaultTransparent comparison side above := by
  induction above generalizing side with
  | nil => rfl
  | cons a above ih =>
    rw [List.flatMap_cons, List.cons_append, Sentinel.walk, Sentinel.walk,
      h.walk_around, ih, h.kind]
    simp only [h.comparesAt]

/-- The value of a node flows into a comparison if it did. -/
lemma compared (h : Wraps u v k) (comparison : Sentinel.Comparison) (i : Nat) :
    Sentinel.isCompared v Sentinel.defaultTransparent comparison (lift k i) =
      Sentinel.isCompared u Sentinel.defaultTransparent comparison i := by
  rw [Sentinel.isCompared, h.ancestors, h.walk_around, h.walk, Sentinel.isCompared]

/-- Whether a node is a parameter of integer type. -/
def isSize (u : TranslationUnit) (id : Nat) : Bool :=
  u.tag id = .parmVarDecl && (u.type? id).any fun ty => ty.isInteger && !ty.isPointer

/-- The node in the wrapper is no parameter. -/
lemma ne_of_parameter (h : Wraps u v k) {i : Nat} (hi : u.tag i = .parmVarDecl) : i ≠ k := by
  rintro rfl
  have hname := h.variableName
  rw [TranslationUnit.tag] at hi
  cases hkind : u.kind i with
  | parmVarDecl name => rw [hkind] at hname; cases hname
  | _ => rw [hkind] at hi; cases hi

/-- A child is a parameter of integer type if its node is; the wrapper and the node in it are
none. -/
lemma isSize_slide (h : Wraps u v k) (c : Nat) : isSize v (slide k c) = isSize u c := by
  by_cases hc : c = k
  · have hwrapper : v.tag k ≠ .parmVarDecl := by
      intro htag
      have hk := h.tag_wrapper
      rw [htag] at hk
      cases hk
    have hnode : u.tag k ≠ .parmVarDecl := fun htag => h.ne_of_parameter htag rfl
    rw [hc, slide_self, isSize, isSize, decide_eq_false hwrapper, decide_eq_false hnode,
      Bool.false_and, Bool.false_and]
  · rw [slide_eq_lift hc, isSize, isSize, h.tag, h.type]

/-- A parameter is followed by a size if it was. -/
lemma sibling (h : Wraps u v k) {i : Nat} (hi : u.tag i = .parmVarDecl) :
    Checks.followedBySize v (lift k i) = Checks.followedBySize u i := by
  have hik := h.ne_of_parameter hi
  rw [Checks.followedBySize, Checks.followedBySize, h.parent hik]
  cases u.parent? i with
  | none => rfl
  | some function =>
    have hsearch : (fun c => decide (c ≠ lift k i)) ∘ slide k = fun c => decide (c ≠ i) := by
      funext c
      rw [Function.comp_apply, ← slide_eq_lift hik, decide_eq_decide, Ne, slide_inj]
    rw [Option.map_some]
    -- The next sibling may be the wrapper, but then neither it nor the node in it is a parameter.
    simp only [h.children, List.dropWhile_map, hsearch]
    match (u.children function).dropWhile fun c => decide (c ≠ i) with
    | [] | [_] => rfl
    | _ :: next :: _ => exact h.isSize_slide next

/-- The unit with the wrapper looks like the one without it. -/
lemma simulation (h : Wraps u v k) : Simulation u v (lift k) fun _ => True where
  file := h.file
  source := h.source
  records := h.records
  lt_iff := fun _ _ => lift_lt_lift
  kind := fun _ => h.kind _
  type := fun _ => h.type _
  range := fun _ => h.range _
  children := fun _ => h.written_children _
  inside_children := fun _ _ => trivial
  below := fun _ => h.below _
  inside_below := fun _ _ => trivial
  function := fun _ => h.function _
  inside_function := fun _ _ => trivial
  loop := fun _ => h.loop _
  compared := fun comparison _ => h.compared comparison _
  declaration := fun _ => h.declaration _
  inside_declaration := fun _ _ => trivial
  sibling := fun _ htag => h.sibling htag

end Wraps

/-- Wrappers never change a report: a node that declares no variable and no parameter can be put
into a wrapper of any type and place, and a run of all checks, whatever their options and levels and
whatever the sink holds, hands on the same findings and has the same summary. -/
theorem analyzeInto_wrapped (options : Options) (settings : Settings) (fallback : Language.Flags)
    (d : Document) (w : Facts) (root : Node) (hw : w.kind.tag.isImplicitWrapper = true)
    (hroot : Node.Wrapped w d.root root) (sink : Array Finding) :
    let e : Engine := ⟨.default options, settings, fallback⟩
    e.analyze (e.unit { d with root }) = e.analyze (e.unit d) ∧
    (e.analyzeInto (e.unit { d with root }) sink).2 = (e.analyzeInto (e.unit d) sink).2 ∧
    (e.analyzeInto (e.unit { d with root }) sink).1 = (e.analyzeInto (e.unit d) sink).1 := by
  intro e
  obtain ⟨k, hwraps⟩ := wraps_ofDocument hw hroot fallback
  have hrun : ∀ sink, e.analyzeInto (e.unit { d with root }) sink = e.analyzeInto (e.unit d) sink :=
    hwraps.simulation.analyzeInto_eq hwraps.language hwraps.preorder e (regular_allChecks options)
  refine ⟨?_, congrArg (·.2) (hrun sink), congrArg (·.1) (hrun sink)⟩
  rw [Engine.analyze, Engine.analyze, Engine.run, Engine.run, hrun #[]]

/-- A lookup that is compared with zero: with the call in a wrapper, its value flows through the
wrapper, and its one finding is handed on and counted as before. -/
theorem analyzeInto_wrapped_lookup :
    let call : Node :=
      .mk { kind := .memberCallExpr { method := "find", className := some "std::string" }
            range := some ⟨0, 9⟩ }
        [.mk { kind := .declRefExpr "s" } [], .mk { kind := .stringLiteral } []]
    let comparison : Node → Node := fun lookup =>
      .mk { kind := .translationUnitDecl }
        [.mk { kind := .binaryOperator .eq } [lookup, .mk { kind := .integerLiteral 0 } []]]
    let w : Facts := { kind := .implicitCastExpr, file := some "string" }
    let d : Document :=
      { source := "s.find(x) == 0"
        records := [{ name := "std::string", methods := ["find", "starts_with"] }]
        root := comparison call }
    let e : Engine := ⟨.default {}, {}, .ofTier .cpp20⟩
    let wrapped := e.unit { d with root := comparison (.mk w [call]) }
    w.kind.tag.isImplicitWrapper = true ∧ Node.Wrapped w d.root (comparison (.mk w [call])) ∧
    (e.analyzeInto (e.unit d) #[]).1.emitted = 1 ∧
    e.analyze wrapped = e.analyze (e.unit d) ∧
    (e.analyzeInto wrapped #[]).2 = (e.analyzeInto (e.unit d) #[]).2 ∧
    (e.analyzeInto wrapped #[]).1 = (e.analyzeInto (e.unit d) #[]).1 := by
  intro call comparison w d e wrapped
  have hroot : Node.Wrapped w d.root (comparison (.mk w [call])) :=
    @Node.Wrapped.deeper w _ [] _ _ [] (@Node.Wrapped.here w _ [] call _ nofun nofun)
  have hemitted : (e.analyzeInto (e.unit d) #[]).1.emitted = 1 := by decide +kernel
  exact ⟨rfl, hroot, hemitted, analyzeInto_wrapped {} {} (.ofTier .cpp20) d w _ rfl hroot #[]⟩

end CppAdvice
