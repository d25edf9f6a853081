import CppAdvice.Proofs.Names
import CppAdvice.Proofs.Silence

/-!
# Regions that are not closed

A comment that closes a region has to name the same checks as the one that opens it. Whether it does
is told by how the checks are written: the two filters have to be the same (`covers_of_isRegion`).
The names of a check and the order of several do not matter for what a region silences, but they do
matter here, so a region that is closed under another name of its check runs to the end of the file
(`covers_of_isRegion_renamed`).
-/

namespace CppAdvice.Suppression

/-- The only directives are an opening one and a closing one after it. -/
structure IsRegion (lines : List (List Char)) (first last : Nat) (opened closed : Filter) :
    Prop where
  opening : directiveAt? lines first = some ⟨.opening, opened⟩
  closing : directiveAt? lines last = some ⟨.closing, closed⟩
  order : first < last
  only : ∀ row, row ≠ first → row ≠ last → directiveAt? lines row = none

section

variable {lines : List (List Char)} {row : Nat} {d : Directive}

/-- The lines around a directive. -/
lemma exists_of_directiveAt? (h : directiveAt? lines row = some d) :
    ∃ before line after, lines = before ++ line :: after ∧ row = before.length + 1 ∧
      Directive.ofLine? line = some d := by
  cases row with
  | zero => cases h
  | succ row =>
    obtain ⟨line, hline, hd⟩ := Option.bind_eq_some_iff.1 h
    obtain ⟨hlt, rfl⟩ := List.getElem?_eq_some_iff.1 hline
    refine ⟨lines.take row, _, lines.drop (row + 1), ?_, ?_, hd⟩
    · rw [List.getElem_cons_drop, List.take_append_drop]
    · rw [List.length_take, Nat.min_eq_left (Nat.le_of_lt hlt)]

/-- Lines are silent if there is no directive on their rows. -/
lemma silent_of_directiveAt? (before after : List (List Char))
    (h : ∀ row, before.length < row → row ≤ before.length + lines.length →
      directiveAt? (before ++ lines ++ after) row = none) :
    ∀ line ∈ lines, Directive.ofLine? line = none := by
  intro line hline
  obtain ⟨i, hi, rfl⟩ := List.getElem_of_mem hline
  have hrow := h (before.length + i + 1) (by omega) (by omega)
  rw [directiveAt?, List.append_assoc, List.getElem?_append_right (by omega),
    List.getElem?_append_left (by omega), Nat.add_sub_cancel_left, List.getElem?_eq_getElem hi,
    Option.bind_some] at hrow
  exact hrow

end

/-- A name without a star covers the check that it stands for. -/
lemma Filter.covers_name {name : String} (h : Text.dropEnd? ['*'] name.toList = none)
    (check : Descriptor) : (names [name]).covers check = decide (resolveCheck name = check.id) := by
  rw [covers, List.any_cons, List.any_nil, Bool.or_false, nameCovers, h]

namespace IsRegion

variable {lines : List (List Char)} {first last : Nat} {opened closed : Filter}

/-- The lines before, within and after a region are silent. -/
lemma exists_pieces (h : IsRegion lines first last opened closed) :
    ∃ before opening between closing after, lines = before ++ opening :: between ++
      closing :: after ∧
      first = before.length + 1 ∧ last = (before ++ opening :: between).length + 1 ∧
      Directive.ofLine? opening = some ⟨.opening, opened⟩ ∧
      Directive.ofLine? closing = some ⟨.closing, closed⟩ ∧
      (∀ line ∈ before, Directive.ofLine? line = none) ∧
        (∀ line ∈ between, Directive.ofLine? line = none) ∧
      ∀ line ∈ after, Directive.ofLine? line = none := by
  -- The text is cut at the closing comment first, and then what is before it at the opening one.
  obtain ⟨front, closing, after, hlines, hlast, hclosing⟩ := exists_of_directiveAt? h.closing
  have hopening := h.opening
  have horder := h.order
  rw [hlines, directiveAt?_append (by omega)] at hopening
  obtain ⟨before, opening, between, rfl, hfirst, hopening⟩ := exists_of_directiveAt? hopening
  have honly := h.only
  rw [List.length_append, List.length_cons] at hlast
  refine ⟨before, opening, between, closing, after, hlines, hfirst, by simpa using hlast,
    hopening, hclosing, ?_, ?_, ?_⟩
  · apply silent_of_directiveAt? [] (opening :: between ++ closing :: after)
    intro row _ hrow
    rw [List.nil_append, ← List.append_assoc, ← hlines]
    simp only [List.length_nil] at hrow
    exact honly row (by omega) (by omega)
  · apply silent_of_directiveAt? (before ++ [opening]) (closing :: after)
    intro row hlow hrow
    rw [List.append_assoc before, List.singleton_append, ← hlines]
    simp only [List.length_append, List.length_singleton] at hlow hrow
    exact honly row (by omega) (by omega)
  · apply silent_of_directiveAt? (before ++ opening :: between ++ [closing]) []
    intro row hlow hrow
    rw [List.append_nil, List.append_assoc (before ++ opening :: between),
      List.singleton_append, ← hlines]
    simp only [List.length_append, List.length_cons, List.length_nil] at hlow hrow
    exact honly row (by omega) (by omega)

/-- Only the rows of the text have to be looked at. -/
lemma of_rows (hopening : directiveAt? lines first = some ⟨.opening, opened⟩)
    (hclosing : directiveAt? lines last = some ⟨.closing, closed⟩) (horder : first < last)
    (honly : ∀ row ≤ lines.length, row ≠ first → row ≠ last → directiveAt? lines row = none) :
    IsRegion lines first last opened closed where
  opening := hopening
  closing := hclosing
  order := horder
  only := by
    intro row hfirst hlast
    by_cases hrow : row ≤ lines.length
    · exact honly row hrow hfirst hlast
    · obtain ⟨i, rfl⟩ := Nat.exists_eq_succ_of_ne_zero (Nat.ne_zero_of_lt (Nat.lt_of_not_le hrow))
      rw [directiveAt?, List.getElem?_eq_none (by omega), Option.bind_none]

/-- A region ends within the text. -/
lemma last_le (h : IsRegion lines first last opened closed) : last ≤ lines.length := by
  obtain ⟨before, closing, after, rfl, rfl, -⟩ := exists_of_directiveAt? h.closing
  rw [List.length_append, List.length_cons]
  omega

end IsRegion

namespace Coverage

namespace Progress

/-- Lines are read one after another. -/
lemma read_append (p : Progress) (row : Nat) (lines more : List (List Char)) :
    p.read row (lines ++ more) = (p.read row lines).read (row + lines.length) more := by
  induction lines generalizing p row with
  | nil => rfl
  | cons line lines ih =>
    rw [List.cons_append, read_cons, read_cons, ih, List.length_cons, Nat.add_assoc row 1,
      Nat.add_comm 1]

/-- Lines without directives change nothing. -/
lemma read_of_silent {lines : List (List Char)} (h : ∀ line ∈ lines, Directive.ofLine? line = none)
    (p : Progress) (row : Nat) : p.read row lines = p := by
  induction lines generalizing row with
  | nil => rfl
  | cons line lines ih =>
    rw [List.forall_mem_cons] at h
    rw [read_cons, stepLine, h.1, Option.elim_none, ih h.2]

/-- The only open region is closed by its own filter, and stays open under any other. -/
lemma finish_step_closing (first last row : Nat) (opened closed : Filter) :
    (step { opened := [(first, opened)] } last ⟨.closing, closed⟩).finish row =
      { regions := [⟨first, if opened = closed then last else row, opened⟩] } := by
  by_cases h : opened = closed
  · simp [step, finish, addRegion, h]
  · simp [step, finish, addRegion, h]

end Progress

variable {source : List Char} {first last : Nat} {opened closed : Filter}

/-- The silenced rows of a source text with one region. -/
lemma ofSource_of_isRegion (h : IsRegion (Text.lines source) first last opened closed) :
    ofSource source =
      { regions := [⟨first, if opened = closed then last else (Text.lines source).length,
        opened⟩] } := by
  obtain ⟨before, opening, between, closing, after, hlines, rfl, rfl, hopening, hclosing, hbefore,
      hbetween, hafter⟩ :=
    h.exists_pieces
  have hopened : Progress.read {} 1 (before ++ opening :: between) =
      { opened := [(before.length + 1, opened)] } := by
    rw [Progress.read_append, Progress.read_of_silent hbefore, Progress.read_cons,
      Progress.read_of_silent hbetween, Progress.stepLine, hopening, Nat.add_comm 1]
    rfl
  have hread : Progress.read {} 1 (Text.lines source) =
      Progress.step { opened := [(before.length + 1, opened)] }
      ((before ++ opening :: between).length + 1) ⟨.closing, closed⟩ := by
    rw [hlines, Progress.read_append, hopened, Progress.read_cons, Progress.read_of_silent hafter,
      Progress.stepLine, hclosing, Nat.add_comm 1]
    rfl
  rw [ofSource, hread, Progress.finish_step_closing]

end Coverage

/-- A region silences the checks of its opening comment up to its closing comment if both have the
same filter, and to the end of the file if not. So nothing is silenced after the closing comment
exactly if the filters are the same, or if there is nothing there, or nothing that could be
silenced. -/
theorem covers_of_isRegion (source : List Char) (first last : Nat) (opened closed : Filter)
    (h : IsRegion (Text.lines source) first last opened closed) :
    let stop := if opened = closed then last else (Text.lines source).length
    (∀ row check, (Coverage.ofSource source).covers row check = true ↔
      first ≤ row ∧ row ≤ stop ∧ opened.covers check = true) ∧
    ((∀ row check, last < row → check ∈ catalog.descriptors →
      (Coverage.ofSource source).covers row check = false) ↔
      opened = closed ∨ last = (Text.lines source).length ∨
        ∀ check ∈ catalog.descriptors, opened.covers check = false) := by
  intro stop
  have hcovers : ∀ row check, (Coverage.ofSource source).covers row check = true ↔
      first ≤ row ∧ row ≤ stop ∧ opened.covers check = true := by
    intro row check
    rw [Coverage.ofSource_of_isRegion h]
    simp [Coverage.covers, stop, and_assoc]
  refine ⟨hcovers, ?_, ?_⟩
  · intro hsilent
    by_contra hnot
    obtain ⟨hfilter, hend, hnone⟩ : opened ≠ closed ∧ last ≠ (Text.lines source).length ∧
        ¬ ∀ check ∈ catalog.descriptors, opened.covers check = false := by
      simpa only [not_or] using hnot
    -- The row after the closing comment is in the region, which goes on to the end of the file.
    apply hnone
    intro check hcheck
    have hnext := hsilent (last + 1) check (Nat.lt_succ_self last) hcheck
    have hlast := h.last_le
    have horder := h.order
    rw [← Bool.not_eq_true, hcovers] at hnext
    simp only [stop, if_neg hfilter] at hnext
    rw [← Bool.not_eq_true]
    exact fun hcovered => hnext ⟨by omega, by omega, hcovered⟩
  · rintro hquiet row check hrow hcheck
    rw [← Bool.not_eq_true, hcovers]
    rintro ⟨-, hstop, hcovered⟩
    rcases hquiet with hfilter | hend | hnone
    · simp only [stop, if_pos hfilter] at hstop
      omega
    · have hle : stop ≤ last := by
        simp only [stop]
        split <;> omega
      omega
    · rw [hnone check hcheck] at hcovered
      cases hcovered

/-- A comment closes the region of one that is written in the same way up to blanks. -/
theorem covers_of_isRegion_respaced :
    let source :=
      "// NOLINTBEGIN(prefer-hive, hl-perf-*)\nf();\n/* NOLINTEND( prefer-hive,hl-perf-* ) */\ng();".toList
    let filter : Filter := .names ["prefer-hive", "hl-perf-*"]
    IsRegion (Text.lines source) 1 3 filter filter ∧ 3 < (Text.lines source).length ∧
      ∀ row check, 3 < row → check ∈ catalog.descriptors →
        (Coverage.ofSource source).covers row check = false := by
  intro source filter
  have hregion : IsRegion (Text.lines source) 1 3 filter filter :=
    .of_rows (by decide +kernel) (by decide +kernel) (by decide) (by decide +kernel)
  exact ⟨hregion, by decide +kernel,
    (covers_of_isRegion source 1 3 filter filter hregion).2.2 (.inl rfl)⟩

/-- A region is closed under the older name of its check, and both filters cover that check and no
other, but the row after it is silenced. -/
theorem covers_of_isRegion_renamed :
    let source :=
      "// NOLINTBEGIN(avoid-std-endl)\n// NOLINTEND(hl-perf-avoid-std-endl)\nstd::cout << std::endl;\n".toList
    let opened : Filter := .names ["avoid-std-endl"]
    let closed : Filter := .names ["hl-perf-avoid-std-endl"]
    IsRegion (Text.lines source) 1 2 opened closed ∧
      (∀ check ∈ catalog.descriptors, opened.covers check = closed.covers check) ∧
      Checks.avoidStdEndl.descriptor ∈ catalog.descriptors ∧
      (Coverage.ofSource source).covers 3 Checks.avoidStdEndl.descriptor = true := by
  intro source opened closed
  have hregion : IsRegion (Text.lines source) 1 2 opened closed :=
    .of_rows (by decide +kernel) (by decide +kernel) (by decide) (by decide +kernel)
  have hmem : Checks.avoidStdEndl ∈ allChecks {} := by
    simp only [allChecks, List.mem_cons, true_or, or_true]
  have hd := descriptor_mem_catalog hmem
  have hopened :
      ∀ check, opened.covers check = decide (Checks.avoidStdEndl.descriptor.id = check.id) := by
    intro check
    rw [Filter.covers_name (by decide +kernel), (resolveCheck_eq_iff hd).2 (by decide +kernel)]
  have hclosed :
      ∀ check, closed.covers check = decide (Checks.avoidStdEndl.descriptor.id = check.id) := by
    intro check
    rw [Filter.covers_name (by decide +kernel), (resolveCheck_eq_iff hd).2 (by decide +kernel)]
  refine ⟨hregion, fun check _ => (hopened check).trans (hclosed check).symm, hd, ?_⟩
  have hlines : (Text.lines source).length = 3 := by decide +kernel
  rw [Coverage.ofSource_of_isRegion hregion, hlines]
  simp [Coverage.covers, hopened, show opened ≠ closed by decide]

end CppAdvice.Suppression
