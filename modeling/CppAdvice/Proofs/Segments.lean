import CppAdvice.Proofs.Pieces
import CppAdvice.Tree.Name

/-!
# The segments of a qualified name

A qualified name is spelled by its segments with `::` between them, with more of `::` in front and
blanks around it (`Spelled`). However it is spelled, its segments are found again
(`segments_intercalate`), and the canonical spelling has the last of them and those before it that
are no inline namespace (`normalize_of_spelled`).
-/

namespace CppAdvice.Tree.Name

open CppAdvice.Text

/-- The inline namespaces of the standard libraries: `__cxx11`, or two underscores and one or more
digits. -/
def IsInlineNamespace (segment : List Char) : Prop :=
  segment = "__cxx11".toList ∨
    ∃ digits : List Char, digits ≠ [] ∧ (∀ c ∈ digits, c.isDigit = true) ∧
      segment = '_' :: '_' :: digits

/-- Something that can stand between two separators: it has no colon, and no blanks at its ends. -/
structure IsSegment (segment : List Char) : Prop where
  ne_nil : segment ≠ []
  colon : ':' ∉ segment
  head : ∀ c ∈ segment.head?, isBlank c = false
  last : ∀ c ∈ segment.getLast?, isBlank c = false

/-- A spelling of a name by its segments, with any number of leading separators, between blanks. -/
def Spelled (name : List Char) (parts : List (List Char)) : Prop :=
  ∃ before n after, (∀ c ∈ before, isBlank c = true) ∧ (∀ c ∈ after, isBlank c = true) ∧
    name = before ++ ((List.replicate n "::".toList).flatten ++ "::".toList.intercalate parts) ++
      after

/-- The second list is the first one with inline namespaces put in anywhere. -/
inductive Inserted : List (List Char) → List (List Char) → Prop where
  | nil : Inserted [] []
  | keep {segment parts more} :
    Inserted parts more →
    Inserted (segment :: parts) (segment :: more)
  | insert {segment parts more} :
    IsInlineNamespace segment →
    Inserted parts more →
    Inserted parts (segment :: more)

/-- The computed test is for inline namespaces. -/
lemma isInline_iff {segment : List Char} : isInline segment = true ↔ IsInlineNamespace segment := by
  unfold isInline
  rw [Bool.or_eq_true, decide_eq_true_iff, IsInlineNamespace]
  refine or_congr Iff.rfl ?_
  constructor
  · intro h
    split at h
    case h_1 digits =>
      rw [Bool.and_eq_true, List.all_eq_true] at h
      exact ⟨digits, by simpa using h.1, h.2, rfl⟩
    case h_2 => cases h
  · rintro ⟨digits, hne, hdigits, rfl⟩
    simpa [hne] using hdigits

/-- Whether a segment is an inline namespace can be decided. -/
instance (segment : List Char) : Decidable (IsInlineNamespace segment) :=
  decidable_of_iff (isInline segment = true) isInline_iff

variable {segment last s name : List Char} {init parts more : List (List Char)}

/-! ### Cutting at the separators -/

/-- The first segment grows by a character other than a colon. -/
lemma segments_cons {c : Char} (hc : c ≠ ':') (hs : segments s = segment :: parts) :
    segments (c :: s) = (c :: segment) :: parts := by
  rw [segments, hs]
  exact fun _ hcolon => absurd hcolon hc

/-- A separator ends a segment. -/
lemma segments_append (h : ':' ∉ segment) :
    segments (segment ++ separator ++ s) = segment :: segments s := by
  induction segment with
  | nil => rfl
  | cons c segment ih =>
    obtain ⟨hc, hsegment⟩ := List.ne_and_not_mem_of_not_mem_cons h
    exact segments_cons hc.symm (ih hsegment)

/-- A text without a colon is one segment. -/
lemma segments_of_notMem (h : ':' ∉ segment) : segments segment = [segment] := by
  induction segment with
  | nil => rfl
  | cons c segment ih =>
    obtain ⟨hc, hsegment⟩ := List.ne_and_not_mem_of_not_mem_cons h
    exact segments_cons hc.symm (ih hsegment)

/-- Segments without a colon are found again. -/
lemma segments_intercalate (hne : parts ≠ []) (h : ∀ segment ∈ parts, ':' ∉ segment) :
    segments (separator.intercalate parts) = parts := by
  induction parts with
  | nil => exact absurd rfl hne
  | cons segment parts ih =>
    rw [List.forall_mem_cons] at h
    cases parts with
    | nil => rw [List.intercalate_singleton, segments_of_notMem h.1]
    | cons next parts =>
      rw [List.intercalate_cons_cons, segments_append h.1, ih (List.cons_ne_nil _ _) h.2]

/-- Any number of leading separators is taken off. -/
lemma dropLeading_append (n : Nat) (s : List Char) :
    dropLeading ((List.replicate n separator).flatten ++ s) = dropLeading s := by
  induction n with
  | zero => rfl
  | succ n ih =>
    rw [List.replicate_succ, List.flatten_cons, List.append_assoc]
    exact ih

/-- There is nothing to take off a text that does not start with a colon. -/
lemma dropLeading_of_head (h : ':' ∉ s.head?) : dropLeading s = s := by
  fun_cases dropLeading s with
  | case1 => simp at h
  | case2 => rfl

/-! ### The canonical segments -/

/-- Inline namespaces are left out before the last segment. -/
lemma canonicalSegments_concat (init : List (List Char)) (last : List Char) :
    canonicalSegments (init ++ [last]) = init.filter (fun segment => ¬ IsInlineNamespace segment) ++
      [last] := by
  induction init with
  | nil => rfl
  | cons segment init ih =>
    rw [List.cons_append, canonicalSegments, ih]
    · by_cases h : IsInlineNamespace segment
      · rw [if_pos (isInline_iff.2 h), List.filter_cons_of_neg (by simpa using h)]
      · rw [if_neg (mt isInline_iff.1 h), List.filter_cons_of_pos (by simpa using h),
          List.cons_append]
    · exact List.append_ne_nil_of_right_ne_nil _ (List.cons_ne_nil _ _)

/-- Blanks and leading separators are taken off, and nothing else. -/
lemma dropLeading_trim_of_spelled (h : ∀ segment ∈ init ++ [last], IsSegment segment)
    (hname : Spelled name (init ++ [last])) :
    dropLeading (trim name) = separator.intercalate (init ++ [last]) := by
  obtain ⟨before, n, after, hbefore, hafter, rfl⟩ := hname
  obtain ⟨first, rest, hparts⟩ :=
    List.exists_cons_of_ne_nil (List.append_ne_nil_of_right_ne_nil init (List.cons_ne_nil last []))
  have hfirst : IsSegment first := h first (hparts ▸ List.mem_cons_self)
  have hlast : IsSegment last := h last (List.mem_append_right _ List.mem_cons_self)
  have hhead : (separator.intercalate (init ++ [last])).head? = first.head? := by
    rw [hparts, head?_intercalate separator hfirst.ne_nil]
  have hend : (separator.intercalate (init ++ [last])).getLast? = last.getLast? :=
    getLast?_intercalate separator init hlast.ne_nil
  have hne : separator.intercalate (init ++ [last]) ≠ [] := by
    rw [← List.getLast?_isSome, hend, List.getLast?_isSome]
    exact hlast.ne_nil
  have htrim :
      trim (before ++
        ((List.replicate n separator).flatten ++ separator.intercalate (init ++ [last])) ++ after) =
      (List.replicate n separator).flatten ++ separator.intercalate (init ++ [last]) := by
    refine trims_iff.1 ⟨⟨before, after, rfl, hbefore, hafter⟩, ?_, ?_⟩
    · -- The first character is a colon or that of the first segment.
      intro c hc
      cases n with
      | zero =>
        rw [List.replicate_zero, List.flatten_nil, List.nil_append, hhead] at hc
        exact hfirst.head c hc
      | succ n =>
        cases hc
        rfl
    · intro c hc
      rw [List.getLast?_append_of_ne_nil _ hne, hend] at hc
      exact hlast.last c hc
  have hcolon : ':' ∉ (separator.intercalate (init ++ [last])).head? := by
    rw [hhead]
    exact fun hmem => hfirst.colon (List.mem_of_mem_head? hmem)
  exact (congrArg dropLeading htrim).trans
    ((dropLeading_append n _).trans (dropLeading_of_head hcolon))

/-- The canonical spelling has the last segment, and of those before it the ones that are no inline
namespace. -/
lemma normalize_of_spelled {name : String} (h : ∀ segment ∈ init ++ [last], IsSegment segment)
    (hname : Spelled name.toList (init ++ [last])) :
    normalize name = String.ofList ("::".toList.intercalate
      (init.filter (fun segment => ¬ IsInlineNamespace segment) ++ [last])) := by
  have hne : init ++ [last] ≠ [] := List.append_ne_nil_of_right_ne_nil _ (List.cons_ne_nil _ _)
  have hsegments := segments_intercalate hne fun segment hsegment => (h segment hsegment).colon
  rw [normalize, dropLeading_trim_of_spelled h hname, hsegments, canonicalSegments_concat]
  rfl

/-- Segments with separators between them, and nothing else, are a spelling. -/
lemma spelled_intercalate (parts : List (List Char)) :
    Spelled ("::".toList.intercalate parts) parts :=
  ⟨[], 0, [], by simp, by simp, by simp⟩

/-! ### Inline namespaces -/

/-- An inline namespace is a segment. -/
lemma IsInlineNamespace.isSegment (h : IsInlineNamespace segment) : IsSegment segment := by
  rcases h with rfl | ⟨digits, hne, hdigits, rfl⟩
  · exact ⟨by decide, by decide, by rintro c ⟨⟩; rfl, by rintro c ⟨⟩; rfl⟩
  · constructor
    case ne_nil => exact List.cons_ne_nil _ _
    case colon =>
      intro hcolon
      have hmem : ':' ∈ digits := by simpa using hcolon
      exact absurd (hdigits _ hmem) (by decide)
    case head =>
      intro c hc
      cases hc
      rfl
    case last =>
      intro c hc
      have hlast : digits.getLast? = some c := by
        rwa [List.getLast?_cons_of_ne_nil (List.cons_ne_nil _ _),
          List.getLast?_cons_of_ne_nil hne] at hc
      exact isBlank_of_isDigit (hdigits c (List.mem_of_getLast? hlast))

/-- Inserting inline namespaces does not change the other segments. -/
lemma Inserted.filter_eq (h : Inserted parts more) :
    more.filter (fun segment => ¬ IsInlineNamespace segment) =
      parts.filter (fun segment => ¬ IsInlineNamespace segment) := by
  induction h with
  | nil => rfl
  | keep _ ih => rw [List.filter_cons, List.filter_cons, ih]
  | insert hinline _ ih => rw [List.filter_cons_of_neg (by simpa using hinline), ih]

/-- Inserting inline namespaces among segments leaves segments. -/
lemma Inserted.isSegment (h : Inserted parts more) (hparts : ∀ segment ∈ parts, IsSegment segment) :
    ∀ segment ∈ more, IsSegment segment := by
  induction h with
  | nil => exact hparts
  | keep _ ih =>
    rw [List.forall_mem_cons] at hparts ⊢
    exact ⟨hparts.1, ih hparts.2⟩
  | insert hinline _ ih =>
    rw [List.forall_mem_cons]
    exact ⟨hinline.isSegment, ih hparts⟩

/-- The canonical spelling of a name that is spelled by segments is found, spelling it again changes
nothing, and neither do inline namespaces that are put in before the last segment. -/
theorem normalize_spelled {name : String} {init : List (List Char)} {last : List Char}
    (hparts : ∀ segment ∈ init ++ [last], IsSegment segment)
    (hname : Spelled name.toList (init ++ [last])) :
    normalize name = String.ofList ("::".toList.intercalate
      (init.filter (fun segment => ¬ IsInlineNamespace segment) ++ [last])) ∧
    normalize (normalize name) = normalize name ∧
    ∀ more (other : String), Inserted init more → Spelled other.toList (more ++ [last]) →
      normalize other = normalize name := by
  have hnormal := normalize_of_spelled hparts hname
  rw [List.forall_mem_append] at hparts
  refine ⟨hnormal, ?_, ?_⟩
  · have hkept : ∀ segment ∈ init.filter (fun segment => ¬ IsInlineNamespace segment) ++
        [last], IsSegment segment := by
      rw [List.forall_mem_append]
      exact ⟨fun segment hsegment => hparts.1 segment (List.mem_of_mem_filter hsegment), hparts.2⟩
    have hspelled : Spelled (normalize name).toList
        (init.filter (fun segment => ¬ IsInlineNamespace segment) ++ [last]) := by
      rw [hnormal, String.toList_ofList]
      exact spelled_intercalate _
    rw [normalize_of_spelled hkept hspelled, hnormal, List.filter_filter]
    simp only [Bool.and_self]
  · intro more other hmore hother
    have hsegments : ∀ segment ∈ more ++ [last], IsSegment segment := by
      rw [List.forall_mem_append]
      exact ⟨hmore.isSegment hparts.1, hparts.2⟩
    rw [normalize_of_spelled hsegments hother, hmore.filter_eq, hnormal]

/-- The last segment stays, whatever it is. -/
theorem normalize_spelled_last :
    Spelled "\t::::std::__1::__cxx11 ".toList (["std".toList, "__1".toList] ++ ["__cxx11".toList]) ∧
    normalize "\t::::std::__1::__cxx11 " = "std::__cxx11" ∧
    Inserted ["std".toList, "__1".toList] ["__2".toList, "std".toList, "__1".toList] ∧
    normalize "__2::std::__1::__cxx11" = normalize "\t::::std::__1::__cxx11 " := by
  have hparts : ∀ segment ∈ ["std".toList, "__1".toList] ++ ["__cxx11".toList],
      IsSegment segment := by
    intro segment hsegment
    simp only [List.cons_append, List.nil_append, List.mem_cons, List.not_mem_nil,
      or_false] at hsegment
    rcases hsegment with rfl | rfl | rfl
    all_goals exact ⟨by decide, by decide, by rintro c ⟨⟩; rfl, by rintro c ⟨⟩; rfl⟩
  have hname : Spelled "\t::::std::__1::__cxx11 ".toList (["std".toList, "__1".toList] ++
      ["__cxx11".toList]) :=
    ⟨['\t'], 2, [' '], List.forall_mem_singleton.2 rfl, List.forall_mem_singleton.2 rfl, by decide⟩
  have hmore : Inserted ["std".toList, "__1".toList] ["__2".toList, "std".toList, "__1".toList] :=
    .insert (.inr ⟨['2'], by decide, List.forall_mem_singleton.2 rfl, rfl⟩) (.keep (.keep .nil))
  obtain ⟨hnormal, -, hinsert⟩ := normalize_spelled hparts hname
  have hother : Spelled "__2::std::__1::__cxx11".toList
      (["__2".toList, "std".toList, "__1".toList] ++ ["__cxx11".toList]) :=
    ⟨[], 0, [], List.forall_mem_nil _, List.forall_mem_nil _, by decide⟩
  exact ⟨hname, hnormal, hmore, hinsert _ _ hmore hother⟩

end CppAdvice.Tree.Name
