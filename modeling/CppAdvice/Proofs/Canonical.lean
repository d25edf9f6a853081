import CppAdvice.Proofs.Segments

/-!
# Where the canonical spelling is canonical

A canonical spelling should have no leading `::` and no blanks around it, and spelling it again
should change nothing. The blanks around a name are taken off first, the leading `::` next and the
inline namespaces last, each of them once. So something that an earlier step takes off may come to
stand in front after a later one: `__1::::x` is spelled `::x`, and `:: x` keeps its blank. What is
left in front after all three steps (`Uncovers`) decides it. The spelling is canonical exactly if
this starts with neither `::` nor a blank (`normalize_canonical_iff`). It never ends with a blank.

A text is taken apart at its separators (`segment_induction`). Segments that are left over are found
again after they are joined (`segments_canonical`), so that only the first two steps can change
something the second time.
-/

namespace CppAdvice.Tree.Name

open CppAdvice.Text

/-- A segment that the separator behind it ends, whatever follows. -/
def IsEnded (segment : List Char) : Prop :=
  ∀ s, segments (segment ++ separator ++ s) = segment :: segments s

/-- The text without the inline namespaces before its last segment. -/
def canonical (s : List Char) : List Char :=
  separator.intercalate (canonicalSegments (segments s))

/-- What is left of a name without the blanks around it, the separators in front of it, and the
inline namespaces after those, each with its separator. -/
def Uncovers (name rest : List Char) : Prop :=
  ∃ core n inlines, Trims name core ∧
    core = (List.replicate n separator).flatten ++ (inlines.flatMap (· ++ separator) ++ rest) ∧
    (∀ segment ∈ inlines, IsInlineNamespace segment) ∧
    -- Neither of the last two steps could have taken off more.
    (∀ segment, IsInlineNamespace segment → ¬ segment ++ separator <+: rest) ∧
      (inlines = [] → ¬ separator <+: rest)

variable {s t segment rest name : List Char} {parts inlines : List (List Char)}

/-! ### Taking a text apart -/

/-- Whether a separator comes first is told by two characters. -/
lemma separator_isPrefix_append_iff (h : 2 ≤ s.length) (t : List Char) :
    separator <+: s ++ t ↔ separator <+: s := by
  have hs : s <+: s ++ t := List.prefix_append s t
  exact ⟨fun hst => List.prefix_of_prefix_length_le hst hs h, fun hseparator => hseparator.trans hs⟩

/-- A character belongs to the first segment, unless it starts a separator. -/
lemma segments_cons_of_not_isPrefix {c : Char} (h : ¬ separator <+: c :: s)
    (hs : segments s = segment :: parts) :
    segments (c :: s) = (c :: segment) :: parts := by
  rw [segments, hs]
  rintro t rfl rfl
  exact h ⟨t, rfl⟩

/-- A text has at least one segment. -/
lemma segments_ne_nil (s : List Char) : segments s ≠ [] := by
  fun_cases segments s with
  | case1 => exact List.cons_ne_nil _ _
  | case2 => exact List.cons_ne_nil _ _
  | case3 => exact List.cons_ne_nil _ _
  | case4 => exact List.cons_ne_nil _ _

/-- An inline namespace has no colon, so the separator behind it ends it. -/
lemma IsInlineNamespace.isEnded (h : IsInlineNamespace segment) : IsEnded segment :=
  fun _ => segments_append h.isSegment.colon

/-- A text is one segment, or it starts with one that is ended. -/
lemma segments_cases (s : List Char) :
    segments s = [s] ∨ ∃ segment t, s = segment ++ separator ++ t ∧ IsEnded segment := by
  induction s with
  | nil => exact .inl rfl
  | cons c s ih =>
    by_cases hc : separator <+: c :: s
    case pos =>
      obtain ⟨t, ht⟩ := hc
      exact .inr ⟨[], t, ht.symm, fun _ => rfl⟩
    case neg =>
      rcases ih with hs | ⟨segment, t, rfl, hsegment⟩
      · exact .inl (segments_cons_of_not_isPrefix hc hs)
      · refine .inr ⟨c :: segment, t, rfl, ?_⟩
        intro t'
        apply segments_cons_of_not_isPrefix _ (hsegment t')
        -- What follows the separator behind the segment is too far away to matter.
        have hlength : 2 ≤ (c :: segment ++ separator).length := by simp [separator]
        rw [← List.cons_append, ← List.cons_append, separator_isPrefix_append_iff hlength] at hc ⊢
        exact hc

/-- Taking a text apart at its separators. -/
@[elab_as_elim]
lemma segment_induction {motive : List Char → Prop} (last : ∀ s, segments s = [s] → motive s)
    (ended : ∀ segment t, IsEnded segment → motive t → motive (segment ++ separator ++ t)) :
    ∀ s, motive s := by
  intro s
  generalize hn : s.length = n
  induction n using Nat.strongRecOn generalizing s with
  | ind n ih =>
    rcases segments_cases s with hs | ⟨segment, t, rfl, hsegment⟩
    · exact last s hs
    · apply ended segment t hsegment
      apply ih t.length _ t rfl
      rw [← hn, List.length_append, List.length_append]
      simp [separator]

/-! ### Without inline namespaces -/

/-- An inline namespace before other segments is left out. -/
lemma canonicalSegments_of_inline (h : IsInlineNamespace segment) (hparts : parts ≠ []) :
    canonicalSegments (segment :: parts) = canonicalSegments parts := by
  rw [canonicalSegments, if_pos (isInline_iff.2 h)]
  exact hparts

/-- A segment that is no inline namespace stays. -/
lemma canonicalSegments_of_not_inline (h : ¬ IsInlineNamespace segment) (hparts : parts ≠ []) :
    canonicalSegments (segment :: parts) = segment :: canonicalSegments parts := by
  rw [canonicalSegments, if_neg (mt isInline_iff.1 h)]
  exact hparts

/-- The last segment always stays. -/
lemma canonicalSegments_ne_nil (h : parts ≠ []) : canonicalSegments parts ≠ [] := by
  obtain ⟨init, last, rfl⟩ := (List.eq_nil_or_concat' parts).resolve_left h
  rw [canonicalSegments_concat]
  exact List.append_ne_nil_of_right_ne_nil _ (List.cons_ne_nil _ _)

/-- Leaving out inline namespaces twice is the same as doing it once. -/
lemma canonicalSegments_canonicalSegments (parts : List (List Char)) :
    canonicalSegments (canonicalSegments parts) = canonicalSegments parts := by
  rcases List.eq_nil_or_concat' parts with rfl | ⟨init, last, rfl⟩
  · rfl
  · rw [canonicalSegments_concat, canonicalSegments_concat, List.filter_filter]
    simp only [Bool.and_self]

/-- A text of one segment stays as it is. -/
lemma canonical_of_segments (h : segments s = [s]) : canonical s = s := by
  rw [canonical, h, canonicalSegments, List.intercalate_singleton]

/-- An inline namespace is left out with its separator. -/
lemma canonical_of_inline (h : IsInlineNamespace segment) (t : List Char) :
    canonical (segment ++ separator ++ t) = canonical t := by
  rw [canonical, h.isEnded t, canonicalSegments_of_inline h (segments_ne_nil t), canonical]

/-- Any other segment stays with its separator. -/
lemma canonical_of_isEnded (h : IsEnded segment) (hinline : ¬ IsInlineNamespace segment)
    (t : List Char) :
    canonical (segment ++ separator ++ t) = segment ++ separator ++ canonical t := by
  rw [canonical, h t, canonicalSegments_of_not_inline hinline (segments_ne_nil t),
    List.intercalate_cons_of_ne_nil (canonicalSegments_ne_nil (segments_ne_nil t)), canonical]

/-- The segments that are left over are found again. -/
lemma segments_canonical (s : List Char) :
    segments (canonical s) = canonicalSegments (segments s) := by
  induction s using segment_induction with
  | last s hs =>
    rw [canonical_of_segments hs, hs]
    rfl
  | ended segment t hsegment ih =>
    rw [hsegment t]
    by_cases hinline : IsInlineNamespace segment
    · rw [canonical_of_inline hinline, ih, canonicalSegments_of_inline hinline (segments_ne_nil t)]
    · rw [canonical_of_isEnded hsegment hinline, hsegment, ih,
        canonicalSegments_of_not_inline hinline (segments_ne_nil t)]

/-- A text without inline namespaces stays as it is. -/
lemma canonical_canonical (s : List Char) : canonical (canonical s) = canonical s := by
  rw [canonical, segments_canonical, canonicalSegments_canonicalSegments, canonical]

/-- Leaving out inline namespaces makes a text no longer. -/
lemma length_canonical_le (s : List Char) : (canonical s).length ≤ s.length := by
  induction s using segment_induction with
  | last s hs => rw [canonical_of_segments hs]
  | ended segment t hsegment ih =>
    by_cases hinline : IsInlineNamespace segment
    · rw [canonical_of_inline hinline, List.length_append]
      exact Nat.le_add_left_of_le ih
    · simp only [canonical_of_isEnded hsegment hinline, List.length_append]
      omega

/-- A text keeps its end, or it comes to end with a separator. -/
lemma getLast?_canonical {c : Char} (h : c ∈ (canonical s).getLast?) :
    c = ':' ∨ c ∈ s.getLast? := by
  induction s using segment_induction with
  | last s hs =>
    rw [canonical_of_segments hs] at h
    exact .inr h
  | ended segment t hsegment ih =>
    have hlast : c ∈ (canonical t).getLast? → c = ':' ∨
        c ∈ (segment ++ separator ++ t).getLast? := by
      intro hc
      refine (ih hc).imp_right ?_
      intro ht
      rw [List.getLast?_append, Option.mem_def.1 ht]
      rfl
    by_cases hinline : IsInlineNamespace segment
    · rw [canonical_of_inline hinline] at h
      exact hlast h
    · rw [canonical_of_isEnded hsegment hinline] at h
      by_cases hnil : canonical t = []
      · rw [hnil, List.append_nil, List.getLast?_append] at h
        cases h
        exact .inl rfl
      · rw [List.getLast?_append_of_ne_nil _ hnil] at h
        exact hlast h

/-- Where no inline namespace comes first, the start of a text stays. -/
lemma canonical_start (h : ∀ segment, IsInlineNamespace segment → ¬ segment ++ separator <+: s) :
    (separator <+: canonical s ↔ separator <+: s) ∧ (canonical s).head? = s.head? := by
  rcases segments_cases s with hs | ⟨segment, t, rfl, hsegment⟩
  · rw [canonical_of_segments hs]
    exact ⟨Iff.rfl, rfl⟩
  · have hinline : ¬ IsInlineNamespace segment :=
      fun hinline => h segment hinline (List.prefix_append _ t)
    have hlength : 2 ≤ (segment ++ separator).length := by simp [separator]
    have hne : segment ++ separator ≠ [] := by simp [separator]
    rw [canonical_of_isEnded hsegment hinline, separator_isPrefix_append_iff hlength,
      separator_isPrefix_append_iff hlength, List.head?_append_of_ne_nil _ hne,
      List.head?_append_of_ne_nil _ hne]
    exact ⟨Iff.rfl, rfl⟩

/-- Inline namespaces in front are left out. -/
lemma canonical_of_inlines (h : ∀ segment ∈ inlines, IsInlineNamespace segment) (s : List Char) :
    canonical (inlines.flatMap (· ++ separator) ++ s) = canonical s := by
  induction inlines with
  | nil => rfl
  | cons segment inlines ih =>
    rw [List.forall_mem_cons] at h
    rw [List.flatMap_cons, List.append_assoc, canonical_of_inline h.1, ih h.2]

/-! ### In front of a name -/

/-- There is nothing to take off a text that does not start with a separator. -/
lemma dropLeading_of_not_isPrefix (h : ¬ separator <+: s) : dropLeading s = s := by
  fun_cases dropLeading s with
  | case1 t => exact absurd ⟨t, rfl⟩ h
  | case2 => rfl

/-- Separators in front are taken off, all of them. -/
lemma exists_dropLeading (s : List Char) :
    ∃ n, s = (List.replicate n separator).flatten ++ dropLeading s ∧
      ¬ separator <+: dropLeading s := by
  fun_induction dropLeading s with
  | case1 s ih =>
    obtain ⟨n, hs, hdrop⟩ := ih
    refine ⟨n + 1, ?_, hdrop⟩
    rw [List.replicate_succ, List.flatten_cons, List.append_assoc, ← hs]
    rfl
  | case2 s hs =>
    refine ⟨0, rfl, ?_⟩
    rintro ⟨t, rfl⟩
    exact hs t rfl

/-- Inline namespaces in front can be taken off until there are no more. -/
lemma exists_inlines (s : List Char) :
    ∃ (inlines : List (List Char)) (rest : List Char),
      s = inlines.flatMap (· ++ separator) ++ rest ∧
      (∀ segment ∈ inlines, IsInlineNamespace segment) ∧
      ∀ segment, IsInlineNamespace segment → ¬ segment ++ separator <+: rest := by
  induction s using segment_induction with
  | last s hs =>
    refine ⟨[], s, rfl, List.forall_mem_nil _, ?_⟩
    rintro segment hinline ⟨t, rfl⟩
    rw [hinline.isEnded t, List.cons.injEq] at hs
    exact segments_ne_nil t hs.2
  | ended segment t hsegment ih =>
    by_cases hinline : IsInlineNamespace segment
    case pos =>
      obtain ⟨inlines, rest, rfl, hinlines, hrest⟩ := ih
      refine ⟨segment :: inlines, rest, ?_, List.forall_mem_cons.2 ⟨hinline, hinlines⟩, hrest⟩
      rw [List.flatMap_cons]
      exact (List.append_assoc _ _ _).symm
    case neg =>
      refine ⟨[], segment ++ separator ++ t, rfl, List.forall_mem_nil _, ?_⟩
      rintro other hother ⟨t', ht'⟩
      have heq := hother.isEnded t'
      rw [ht', hsegment t, List.cons.injEq] at heq
      exact hinline (heq.1 ▸ hother)

/-- Something is left of every name. -/
lemma exists_uncovers (name : List Char) : ∃ rest, Uncovers name rest := by
  obtain ⟨n, hcore, hdrop⟩ := exists_dropLeading (trim name)
  obtain ⟨inlines, rest, hinlines, hall, hrest⟩ := exists_inlines (dropLeading (trim name))
  refine ⟨rest, trim name, n, inlines, trims_trim name, ?_, hall, hrest, ?_⟩
  · rw [← hinlines]
    exact hcore
  · rintro rfl
    rw [hinlines] at hdrop
    exact hdrop

/-- The canonical spelling is made of what is left. -/
lemma Uncovers.canonical_eq (h : Uncovers name rest) :
    canonical (dropLeading (trim name)) = canonical rest := by
  obtain ⟨core, n, inlines, htrim, hcore, hall, hrest, hnil⟩ := h
  have hdrop : ¬ separator <+: inlines.flatMap (· ++ separator) ++ rest := by
    cases inlines with
    | nil => exact hnil rfl
    | cons segment inlines =>
      have hsegment := (hall segment List.mem_cons_self).isSegment
      obtain ⟨c, segment, rfl⟩ := List.exists_cons_of_ne_nil hsegment.ne_nil
      rintro ⟨t, ht⟩
      have hc : ':' = c := (List.cons.inj ht).1
      exact hsegment.colon (hc ▸ List.mem_cons_self)
  rw [trims_iff.1 htrim, hcore, dropLeading_append, dropLeading_of_not_isPrefix hdrop,
    canonical_of_inlines hall]

/-! ### The canonical spelling -/

/-- The characters of the canonical spelling, step by step. -/
lemma toList_normalize (name : String) :
    (normalize name).toList = canonical (dropLeading (trim name.toList)) := by
  rw [normalize, String.toList_ofList, canonical]

/-- Taking off leading separators leaves an end of the text. -/
lemma dropLeading_isSuffix (s : List Char) : dropLeading s <:+ s := by
  obtain ⟨n, hs, -⟩ := exists_dropLeading s
  exact ⟨_, hs.symm⟩

/-- Trimming leaves a part of the text. -/
lemma trim_isInfix (s : List Char) : trim s <:+: s := by
  obtain ⟨before, after, hs, -, -⟩ := (trims_trim s).blanks
  exact ⟨before, after, hs.symm⟩

/-- The canonical spelling does not end with a blank. -/
lemma getLast?_normalize {name : String} {c : Char} (h : c ∈ (normalize name).toList.getLast?) :
    isBlank c = false := by
  rw [toList_normalize] at h
  rcases getLast?_canonical h with rfl | h
  · rfl
  · obtain ⟨n, hcore, -⟩ := exists_dropLeading (trim name.toList)
    apply (trims_trim name.toList).last c
    rw [hcore, List.getLast?_append, Option.mem_def.1 h]
    rfl

/-- A text without `::` or a blank in front and without a blank behind keeps both ends. -/
lemma dropLeading_trim (hleading : ¬ separator <+: s) (hhead : ∀ c ∈ s.head?, isBlank c = false)
    (hlast : ∀ c ∈ s.getLast?, isBlank c = false) : dropLeading (trim s) = s := by
  have htrim : trim s = s := trims_iff.1 ⟨⟨[], [], by simp, by simp, by simp⟩, hhead, hlast⟩
  rw [htrim, dropLeading_of_not_isPrefix hleading]

/-- Spelling a canonical spelling again changes nothing exactly if it starts with neither `::` nor a
blank. -/
lemma normalize_normalize_iff (name : String) :
    normalize (normalize name) = normalize name ↔
      ¬ separator <+: (normalize name).toList ∧
        ∀ c ∈ (normalize name).toList.head?, isBlank c = false := by
  constructor
  · intro h
    have hlist := congrArg String.toList h
    rw [toList_normalize (normalize name)] at hlist
    generalize (normalize name).toList = s at hlist ⊢
    -- No step takes anything off, as the length would not be made up for.
    have hcanonical : s.length ≤ (dropLeading (trim s)).length := by
      have hle := length_canonical_le (dropLeading (trim s))
      rwa [hlist] at hle
    have hdrop := (dropLeading_isSuffix (trim s)).length_le
    have htrim : trim s = s := (trim_isInfix s).eq_of_length_le (by omega)
    rw [htrim] at hcanonical
    have hleading : dropLeading s = s := (dropLeading_isSuffix s).eq_of_length_le hcanonical
    constructor
    · obtain ⟨n, -, hnot⟩ := exists_dropLeading s
      rwa [hleading] at hnot
    · have hhead := (trims_trim s).head
      rwa [htrim] at hhead
  · rintro ⟨hleading, hhead⟩
    apply String.toList_inj.1
    rw [toList_normalize (normalize name),
      dropLeading_trim hleading hhead fun c hc => getLast?_normalize hc, toList_normalize,
      canonical_canonical]

/-- What is left of a name decides whether its canonical spelling is canonical. The spelling starts
with `::` or with a blank exactly if the rest does, and it stays as it is exactly if the rest does
neither. It never ends with a blank. -/
theorem normalize_canonical_iff (name : String) :
    (∃ rest, Uncovers name.toList rest) ∧
    ∀ rest, Uncovers name.toList rest →
      (separator <+: (normalize name).toList ↔ separator <+: rest) ∧
      ((∃ c ∈ (normalize name).toList.head?, isBlank c = true) ↔
        ∃ c ∈ rest.head?, isBlank c = true) ∧
      (∀ c ∈ (normalize name).toList.getLast?, isBlank c = false) ∧
      (normalize (normalize name) = normalize name ↔
        ¬ separator <+: rest ∧ ∀ c ∈ rest.head?, isBlank c = false) := by
  refine ⟨exists_uncovers name.toList, ?_⟩
  intro rest h
  have hnormal : (normalize name).toList = canonical rest := by
    rw [toList_normalize, h.canonical_eq]
  obtain ⟨_, _, _, _, _, _, hrest, _⟩ := h
  obtain ⟨hleading, hhead⟩ := canonical_start hrest
  rw [← hnormal] at hleading hhead
  refine ⟨hleading, ?_, fun c hc => getLast?_normalize hc, ?_⟩
  · rw [hhead]
  · rw [normalize_normalize_iff, hleading, hhead]

/-- An inline namespace in front, and one in the middle. -/
theorem normalize_canonical_iff_inline :
    Uncovers " ::__1::std::__2::map".toList "std::__2::map".toList ∧
    normalize (normalize " ::__1::std::__2::map") = normalize " ::__1::std::__2::map" := by
  have hinline : IsInlineNamespace "__1".toList :=
    .inr ⟨['1'], by decide, List.forall_mem_singleton.2 rfl, rfl⟩
  have hblanks : ∀ c ∈ [' '], isBlank c = true := List.forall_mem_singleton.2 rfl
  have htrim : Trims " ::__1::std::__2::map".toList "::__1::std::__2::map".toList :=
    ⟨⟨[' '], [], by decide, hblanks, List.forall_mem_nil _⟩, by rintro c ⟨⟩; rfl,
      by rintro c ⟨⟩; rfl⟩
  have hrest : ∀ segment, IsInlineNamespace segment →
      ¬ segment ++ separator <+: "std::__2::map".toList := by
    rintro segment (rfl | ⟨digits, -, -, rfl⟩) ⟨t, ht⟩
    · cases ht
    · cases ht
  have h : Uncovers " ::__1::std::__2::map".toList "std::__2::map".toList :=
    ⟨_, 1, ["__1".toList], htrim, by decide, List.forall_mem_singleton.2 hinline, hrest,
      fun hnil => absurd hnil (List.cons_ne_nil _ _)⟩
  refine ⟨h, ((normalize_canonical_iff " ::__1::std::__2::map").2 _ h).2.2.2.2 ⟨by decide, ?_⟩⟩
  rintro c ⟨⟩
  rfl

/-- The separator after an inline namespace comes to stand in front, and so does the blank after a
separator. -/
theorem normalize_not_canonical :
    separator <+: (normalize "__1::::x").toList ∧
    normalize (normalize "__1::::x") ≠ normalize "__1::::x" ∧
    (normalize ":: x").toList.head? = some ' ' ∧ isBlank ' ' = true ∧
    normalize (normalize ":: x") ≠ normalize ":: x" := by
  decide

end CppAdvice.Tree.Name
