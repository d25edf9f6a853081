import CppAdvice.Text.Blank
import CppAdvice.Text.Pieces
import Mathlib.Data.List.DropRight
import Mathlib.Data.List.Infix
import Mathlib.Tactic.Lemma

/-!
# Texts cut into pieces, and without their blanks

What is known of the pieces between separators, and of pieces that are joined, beyond what holds of
all lists. Trimming leaves the one part between blanks that has none at its ends (`trims_iff`).
-/

namespace CppAdvice.Text

/-! ### Pieces -/

variable {sep : Char} {s : List Char}

/-- The first piece grows by a character that does not separate. -/
lemma splitOn_cons_of_ne {c : Char} (hc : c ≠ sep) {piece : List Char} {pieces : List (List Char)}
    (hs : s.splitOn sep = piece :: pieces) : (c :: s).splitOn sep = (c :: piece) :: pieces := by
  rw [List.splitOn_cons_eq_if_modifyHead, if_neg (by simpa using hc), hs, List.modifyHead_cons]

/-- A separator at the start follows an empty piece. -/
lemma splitOn_cons_self (sep : Char) (s : List Char) :
    (sep :: s).splitOn sep = [] :: s.splitOn sep := by
  rw [List.splitOn_cons_eq_if_modifyHead, if_pos (beq_self_eq_true sep)]

/-- No piece holds the separator. -/
lemma notMem_of_mem_splitOn {piece : List Char} (h : piece ∈ s.splitOn sep) : sep ∉ piece := by
  induction s generalizing piece with
  | nil =>
    rw [List.splitOn_nil, List.mem_singleton] at h
    rw [h]
    exact List.not_mem_nil
  | cons c s ih =>
    by_cases hc : c = sep
    · rw [hc, splitOn_cons_self, List.mem_cons] at h
      rcases h with rfl | h
      · exact List.not_mem_nil
      · exact ih h
    · obtain ⟨first, rest, hs⟩ := List.exists_cons_of_ne_nil (List.splitOn_ne_nil sep s)
      rw [splitOn_cons_of_ne hc hs, List.mem_cons] at h
      rw [hs] at ih
      rcases h with rfl | h
      · exact List.not_mem_cons_of_ne_of_not_mem (Ne.symm hc) (ih List.mem_cons_self)
      · exact ih (List.mem_cons_of_mem _ h)

/-- Some of the pieces, joined, are how the join of all of them starts. -/
lemma isPrefix_intercalate (sep : List Char) (pieces more : List (List Char)) :
    sep.intercalate pieces <+: sep.intercalate (pieces ++ more) := by
  induction pieces with
  | nil => exact List.nil_prefix
  | cons piece pieces ih =>
    cases pieces with
    | cons next pieces =>
      rw [List.cons_append, List.cons_append, List.intercalate_cons_cons,
        List.intercalate_cons_cons, List.prefix_append_right_inj]
      exact ih
    | nil =>
      cases more with
      | nil => exact List.prefix_rfl
      | cons next more =>
        rw [List.singleton_append, List.intercalate_cons_cons, List.intercalate_singleton,
          List.append_assoc]
        exact List.prefix_append _ _

/-- What is joined starts as its first piece does. -/
lemma head?_intercalate {piece : List Char} (sep : List Char) (h : piece ≠ [])
    (pieces : List (List Char)) : (sep.intercalate (piece :: pieces)).head? = piece.head? := by
  cases pieces with
  | nil => rw [List.intercalate_singleton]
  | cons next pieces =>
    rw [List.intercalate_cons_cons, List.append_assoc, List.head?_append_of_ne_nil _ h]

/-- What is joined ends as its last piece does. -/
lemma getLast?_intercalate {piece : List Char} (sep : List Char) (pieces : List (List Char))
    (h : piece ≠ []) : (sep.intercalate (pieces ++ [piece])).getLast? = piece.getLast? := by
  induction pieces with
  | nil => rw [List.nil_append, List.intercalate_singleton]
  | cons first pieces ih =>
    have hne : sep.intercalate (pieces ++ [piece]) ≠ [] := by
      rw [← List.getLast?_isSome, ih, List.getLast?_isSome]
      exact h
    have hpieces : pieces ++ [piece] ≠ [] :=
      List.append_ne_nil_of_right_ne_nil _ (List.cons_ne_nil _ _)
    rw [List.cons_append, List.intercalate_cons_of_ne_nil hpieces,
      List.getLast?_append_of_ne_nil _ hne, ih]

/-! ### Words at the ends -/

/-- Nothing is left of a text behind a word that it does not start with. -/
lemma isPrefixOf?_eq_none_iff {word : List Char} : word.isPrefixOf? s = none ↔ ¬ word <+: s := by
  rw [← Option.not_isSome_iff_eq_none, List.isSome_isPrefixOf?_eq_isPrefixOf,
    List.isPrefixOf_iff_prefix]

/-- The computed test is for the end of a text. -/
lemma endsWith_iff {word : List Char} : endsWith word s = true ↔ word <:+ s := by
  rw [endsWith, List.isPrefixOf_iff_prefix, List.reverse_prefix]

/-- What stands before the final word is the rest of the text. -/
lemma dropEnd?_eq_some_iff {word head : List Char} :
    dropEnd? word s = some head ↔ s = head ++ word := by
  rw [dropEnd?, Option.map_eq_some_iff]
  constructor
  · rintro ⟨rest, hrest, rfl⟩
    rw [List.isPrefixOf?_eq_some_iff_append_eq] at hrest
    rw [← List.reverse_reverse s, ← hrest, List.reverse_append, List.reverse_reverse]
  · rintro rfl
    refine ⟨head.reverse, ?_, List.reverse_reverse head⟩
    rw [List.isPrefixOf?_eq_some_iff_append_eq, List.reverse_append]

/-! ### Blanks -/

/-- The text `core` is what is left of `s` without the blanks at its ends. -/
structure Trims (s core : List Char) : Prop where
  blanks : ∃ before after, s = before ++ core ++ after ∧ (∀ c ∈ before, isBlank c = true) ∧
    ∀ c ∈ after, isBlank c = true
  head : ∀ c ∈ core.head?, isBlank c = false
  last : ∀ c ∈ core.getLast?, isBlank c = false

/-- Nothing is dropped from a text that starts with no blank. -/
lemma dropWhile_isBlank {s : List Char} (h : ∀ c ∈ s.head?, isBlank c = false) :
    s.dropWhile isBlank = s := by
  cases s with
  | nil => rfl
  | cons c s =>
    have hc := h c rfl
    rw [List.dropWhile_cons_of_neg (by simp [hc])]

/-- What is trimmed at its start does not start with a blank. -/
lemma isBlank_head?_trimStart {s : List Char} {c : Char} (h : c ∈ (trimStart s).head?) :
    isBlank c = false := by
  have hhead := List.head?_dropWhile_not isBlank s
  rw [Option.mem_def, trimStart] at h
  rwa [h] at hhead

/-- Trimming leaves something between blanks. -/
lemma trims_trim (s : List Char) : Trims s (trim s) := by
  have hend : trimEnd (trimStart s) ++ (trimStart s).rtakeWhile isBlank = trimStart s :=
    List.rdropWhile_append_rtakeWhile
  constructor
  case blanks =>
    refine ⟨s.takeWhile isBlank, (trimStart s).rtakeWhile isBlank, ?_, ?_, ?_⟩
    · rw [trim, List.append_assoc, hend, trimStart, List.takeWhile_append_dropWhile]
    · exact fun c hc => List.mem_takeWhile_imp hc
    · exact fun c hc => List.mem_rtakeWhile_imp hc
  case head =>
    intro c hc
    apply isBlank_head?_trimStart (s := s)
    rw [← hend, ← trim]
    cases htrim : trim s with
    | nil => simp [htrim] at hc
    | cons d t =>
      rw [htrim] at hc
      exact hc
  case last =>
    intro c hc
    rw [trim, trimEnd, Option.mem_def, List.getLast?_reverse] at hc
    have hhead := List.head?_dropWhile_not isBlank (trimStart s).reverse
    rwa [hc] at hhead

/-- There is one way to trim a text. -/
lemma trims_iff {s core : List Char} : Trims s core ↔ trim s = core := by
  constructor
  · rintro ⟨⟨before, after, rfl, hbefore, hafter⟩, hhead, hlast⟩
    have hstart : trimStart (before ++ core ++ after) = (core ++ after).dropWhile isBlank := by
      rw [trimStart, List.append_assoc, List.dropWhile_append_of_pos hbefore]
    rw [trim, hstart]
    cases core with
    | nil =>
      rw [List.nil_append, List.dropWhile_eq_nil_iff.2 hafter]
      rfl
    | cons c core =>
      rw [dropWhile_isBlank (s := c :: core ++ after) hhead, trimEnd, List.reverse_append,
        List.dropWhile_append_of_pos fun c hc => hafter c (List.mem_reverse.1 hc),
        dropWhile_isBlank (by rwa [List.head?_reverse]), List.reverse_reverse]
  · rintro rfl
    exact trims_trim s

/-- A digit is no blank. -/
lemma isBlank_of_isDigit {c : Char} (h : c.isDigit = true) : isBlank c = false := by
  rw [Char.isDigit_iff_toNat] at h
  simp only [isBlank]
  grind

end CppAdvice.Text
