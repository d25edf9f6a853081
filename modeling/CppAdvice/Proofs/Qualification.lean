import CppAdvice.Pattern.Name
import CppAdvice.Proofs.Segments

/-!
# Patterns and the segments of names

A pattern is compared with the last characters of a name, and what stands before them must be
nothing or end with a separator. Where pattern and name are spelled by segments, whole segments are
compared in this way: the pattern covers the names whose last segments are its own
(`nameMatches_segments`). A separator that is found among the characters is one of those that the
segments were joined by (`intercalate_eq_append_separator`), since no segment has a colon and no two
separators touch.
-/

namespace CppAdvice

open CppAdvice.Text CppAdvice.Tree.Name

namespace Text

variable {sep : List Char} {pieces more : List (List Char)}

/-- Two lists of pieces joined to one another: a separator stands between them. -/
lemma intercalate_append (hpieces : pieces ≠ []) (hmore : more ≠ []) :
    sep.intercalate (pieces ++ more) = sep.intercalate pieces ++ sep ++ sep.intercalate more := by
  induction pieces with
  | nil => exact absurd rfl hpieces
  | cons piece pieces ih =>
    cases pieces with
    | nil => rw [List.singleton_append, List.intercalate_cons_of_ne_nil hmore,
        List.intercalate_singleton]
    | cons next pieces =>
      have hne : next :: pieces ≠ [] := List.cons_ne_nil _ _
      rw [List.cons_append,
        List.intercalate_cons_of_ne_nil (List.append_ne_nil_of_left_ne_nil hne _), ih hne,
        List.intercalate_cons_cons]
      simp only [List.append_assoc]

end Text

namespace Pattern

variable {pattern name s t : List Char} {parts : List (List Char)}

/-- A qualified name by its segments. -/
structure Qualified where
  parts : List (List Char)
  ne_nil : parts ≠ []
  plain : ∀ segment ∈ parts, segment ≠ [] ∧ ':' ∉ segment

/-- The segments with `::` between them. -/
def Qualified.spelling (q : Qualified) : List Char :=
  "::".toList.intercalate q.parts

/-! ### What is compared -/

/-- A pattern without a leading separator covers what ends with it, alone or behind a separator. -/
lemma nameMatches_iff_append (h : ¬ separator <+: pattern) :
    nameMatches pattern name = true ↔ ∃ head, name = head ++ pattern ∧
      (head = [] ∨ separator <:+ head) := by
  have hnone : [':', ':'].isPrefixOf? pattern = none := isPrefixOf?_eq_none_iff.2 h
  rw [nameMatches, hnone]
  cases hend : dropEnd? pattern name with
  | none =>
    constructor
    · intro hfalse
      cases hfalse
    · rintro ⟨head, hname, -⟩
      rw [dropEnd?_eq_some_iff.2 hname] at hend
      cases hend
  | some head =>
    rw [dropEnd?_eq_some_iff] at hend
    rw [Bool.or_eq_true, List.isEmpty_iff, endsWith_iff]
    constructor
    · exact fun hhead => ⟨head, hend, hhead⟩
    · rintro ⟨other, hother, hhead⟩
      rw [hend, List.append_cancel_right_eq] at hother
      rwa [hother]

/-- A pattern with a leading separator covers the one name behind it. -/
lemma nameMatches_qualified : nameMatches (':' :: ':' :: pattern) name = true ↔ name = pattern := by
  simp [nameMatches, List.isPrefixOf?]

/-- More in front of a name does not change that it ends with the pattern. -/
lemma nameMatches_qualify (h : ¬ separator <+: pattern) (hname : nameMatches pattern name = true)
    (outer : List Char) : nameMatches pattern (outer ++ separator ++ name) = true := by
  rw [nameMatches_iff_append h] at hname ⊢
  obtain ⟨head, rfl, hhead⟩ := hname
  refine ⟨outer ++ separator ++ head, by simp only [List.append_assoc], .inr ?_⟩
  rcases hhead with rfl | hhead
  · rw [List.append_nil]
    exact List.suffix_append _ _
  · exact hhead.trans (List.suffix_append _ _)

/-! ### Separators among the characters -/

/-- A spelling does not start with a colon. -/
lemma colon_notMem_head?_intercalate (hparts : ∀ segment ∈ parts, segment ≠ [] ∧ ':' ∉ segment) :
    ':' ∉ (separator.intercalate parts).head? := by
  cases parts with
  | nil => exact nofun
  | cons segment parts =>
    obtain ⟨hne, hcolon⟩ := hparts segment List.mem_cons_self
    rw [head?_intercalate separator hne]
    exact fun hmem => hcolon (List.mem_of_mem_head? hmem)

/-- Where a separator follows a segment and no third colon comes next, any separator is that one or
a later one. -/
lemma separator_cases {segment rest : List Char} (hsegment : ':' ∉ segment)
    (hrest : ':' ∉ rest.head?) (h : segment ++ (separator ++ rest) = t ++ (separator ++ s)) :
    rest = s ∨ ∃ between, rest = between ++ separator ++ s := by
  rw [List.append_eq_append_iff] at h
  rcases h with ⟨u, -, hu⟩ | ⟨u, rfl, hu⟩
  · cases u with
    | nil => exact .inl (List.append_cancel_left hu)
    | cons c u =>
      cases u with
      | nil =>
        -- The separators would overlap in one colon.
        have hcolon : ':' = c ∧ rest = ':' :: s := by simpa [separator] using hu
        exact absurd (congrArg List.head? hcolon.2) hrest
      | cons d between =>
        have hbetween : ':' = c ∧ ':' = d ∧ rest = between ++ (separator ++ s) := by
          simpa [separator] using hu
        exact .inr ⟨between, hbetween.2.2.trans (List.append_assoc _ _ _).symm⟩
  · cases u with
    | nil => exact .inl (List.append_cancel_left hu).symm
    | cons c u =>
      -- The separator would start within the segment.
      have hc : ':' = c := List.head_eq_of_cons_eq hu
      rw [← hc] at hsegment
      exact absurd (List.mem_append_right t List.mem_cons_self) hsegment

/-- Each separator in a spelling lies between two of its segments. -/
lemma intercalate_eq_append_separator (hparts : ∀ segment ∈ parts, segment ≠ [] ∧ ':' ∉ segment)
    (h : separator.intercalate parts = t ++ separator ++ s) :
    ∃ before after, parts = before ++ after ∧ after ≠ [] ∧ separator.intercalate after = s := by
  induction parts generalizing t with
  | nil => simp [separator] at h
  | cons segment parts ih =>
    rw [List.forall_mem_cons] at hparts
    obtain ⟨⟨-, hcolon⟩, hparts⟩ := hparts
    cases parts with
    | nil =>
      have hmem : ':' ∈ t ++ separator ++ s := by simp [separator]
      rw [← h, List.intercalate_singleton] at hmem
      exact absurd hmem hcolon
    | cons next parts =>
      rw [List.intercalate_cons_cons, List.append_assoc, List.append_assoc] at h
      rcases separator_cases hcolon (colon_notMem_head?_intercalate hparts) h with
        hs | ⟨between, hs⟩
      · exact ⟨[segment], next :: parts, rfl, List.cons_ne_nil _ _, hs⟩
      · obtain ⟨before, after, heq, hne, hafter⟩ := ih hparts hs
        exact ⟨segment :: before, after, congrArg (segment :: ·) heq, hne, hafter⟩

/-! ### Segments -/

namespace Qualified

variable {p q : Qualified}

/-- The spelling is the segments with separators between them. -/
lemma spelling_eq (q : Qualified) : q.spelling = separator.intercalate q.parts :=
  rfl

/-- The segments can be read off the spelling. -/
lemma parts_eq_of_spelling (q : Qualified) (hne : parts ≠ [])
    (hparts : ∀ segment ∈ parts, segment ≠ [] ∧ ':' ∉ segment)
    (h : separator.intercalate parts = q.spelling) : parts = q.parts := by
  have hsegments := congrArg segments h
  rwa [spelling_eq, segments_intercalate hne fun segment hsegment => (hparts segment hsegment).2,
    segments_intercalate q.ne_nil fun segment hsegment => (q.plain segment hsegment).2] at hsegments

/-- Names have the same spelling exactly if they have the same segments. -/
lemma spelling_inj : p.spelling = q.spelling ↔ p.parts = q.parts := by
  constructor
  · intro h
    rw [spelling_eq p] at h
    exact q.parts_eq_of_spelling p.ne_nil p.plain h
  · intro h
    rw [spelling, h, spelling]

/-- A spelling does not start with a separator. -/
lemma not_separator_isPrefix_spelling (q : Qualified) : ¬ separator <+: q.spelling := by
  rintro ⟨rest, hrest⟩
  have hhead := colon_notMem_head?_intercalate q.plain
  rw [← spelling_eq, ← hrest] at hhead
  exact hhead rfl

/-- A spelled pattern covers the names whose last segments are its own. -/
lemma nameMatches_spelling_iff :
    nameMatches p.spelling q.spelling = true ↔ p.parts <:+ q.parts := by
  rw [nameMatches_iff_append p.not_separator_isPrefix_spelling]
  constructor
  · rintro ⟨head, hname, rfl | ⟨t, rfl⟩⟩
    · rw [List.nil_append, spelling_inj] at hname
      rw [hname]
    · rw [spelling_eq q] at hname
      obtain ⟨before, after, hq, hne, hafter⟩ := intercalate_eq_append_separator q.plain hname
      have hplain : ∀ segment ∈ after, segment ≠ [] ∧ ':' ∉ segment := by
        intro segment hsegment
        exact q.plain segment (hq ▸ List.mem_append_right before hsegment)
      exact ⟨before, by rw [hq, p.parts_eq_of_spelling hne hplain hafter]⟩
  · rintro ⟨before, hq⟩
    by_cases hne : before = []
    · rw [hne, List.nil_append] at hq
      exact ⟨[], (spelling_inj.2 hq).symm, .inl rfl⟩
    · refine ⟨separator.intercalate before ++ separator, ?_, .inr (List.suffix_append _ _)⟩
      rw [spelling_eq, spelling_eq, ← hq, intercalate_append hne p.ne_nil]

end Qualified

/-- A pattern that is spelled by segments covers the names whose last segments are its own. With a
leading `::` it covers the one name that has no others. A pattern without a leading `::` that covers
a name covers it in any scope. -/
theorem nameMatches_segments (p q : Qualified) :
    (nameMatches p.spelling q.spelling = true ↔ p.parts <:+ q.parts) ∧
    (nameMatches ("::".toList ++ p.spelling) q.spelling = true ↔ p.parts = q.parts) ∧
    ∀ pattern name, ¬ "::".toList <+: pattern → nameMatches pattern name = true →
      ∀ outer, nameMatches pattern (outer ++ "::".toList ++ name) = true := by
  refine ⟨Qualified.nameMatches_spelling_iff, ?_, fun _ _ h hname => nameMatches_qualify h hname⟩
  exact nameMatches_qualified.trans (eq_comm.trans Qualified.spelling_inj)

/-- The characters of the pattern stand at the end of both names, but in the second one they start
within a segment. -/
theorem nameMatches_segments_npos :
    let p : Qualified := ⟨["basic_string".toList, "npos".toList], by decide, by decide⟩
    let q : Qualified :=
      ⟨["std".toList, "basic_string".toList, "npos".toList], by decide, by decide⟩
    let other : Qualified :=
      ⟨["std".toList, "xbasic_string".toList, "npos".toList], by decide, by decide⟩
    nameMatches p.spelling q.spelling = true ∧ ¬ nameMatches p.spelling other.spelling = true ∧
    ¬ nameMatches ("::".toList ++ p.spelling) q.spelling = true ∧
    ¬ "::".toList <+: p.spelling ∧
    nameMatches p.spelling ("lib".toList ++ "::".toList ++ q.spelling) = true := by
  intro p q other
  obtain ⟨hsuffix, hwhole, houter⟩ := nameMatches_segments p q
  have hq : nameMatches p.spelling q.spelling = true := hsuffix.2 ⟨["std".toList], rfl⟩
  have hleading : ¬ "::".toList <+: p.spelling := by decide
  refine ⟨hq, ?_, ?_, hleading, houter _ _ hleading hq _⟩
  · rw [(nameMatches_segments p other).1]
    decide
  · rw [hwhole]
    decide

end Pattern

end CppAdvice
