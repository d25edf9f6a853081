import CppAdvice.Suppression.Coverage
import Mathlib.Data.List.Induction
import Mathlib.Tactic.Lemma

/-!
# What a comment silences

Which rows are silenced, said without regions. A check is silenced on a row by a comment on the row
itself, by one on the row above, or by a region that is open there. Whether a region with some
filter is open is told by a counter of that filter alone: it goes up where a region with the filter
opens, and down where one closes (`depth`).

All filters share one list of open regions, and a closing comment takes an entry out of its middle.
`Progress.After` says what is known of the list and of the silenced rows once some lines have been
read, and `After.concat` that one more line keeps it so. What is silenced up to a row is settled
once the row has been read (`silences_append`).
-/

namespace CppAdvice.Suppression

/-- The directive on a row; the first row is the row one. -/
def directiveAt? (lines : List (List Char)) : (row : Nat) → Option Directive
  | 0 => none
  | row + 1 => lines[row]?.bind Directive.ofLine?

/-- The number of open regions with a filter after one more line. -/
def Filter.count (filter : Filter) (opened : Nat) (line : List Char) : Nat :=
  match Directive.ofLine? line with
  | some ⟨.opening, f⟩ => if f = filter then opened + 1 else opened
  | some ⟨.closing, f⟩ => if f = filter then opened - 1 else opened
  | _ => opened

/-- The number of regions with a filter that are open after some lines. -/
def depth (filter : Filter) (lines : List (List Char)) : Nat :=
  lines.foldl filter.count 0

/-- A check is silenced on a row. -/
inductive Silenced (lines : List (List Char)) (row : Nat) (check : Descriptor) : Prop where
  | onLine {filter} :
    directiveAt? lines row = some ⟨.line, filter⟩ → filter.covers check = true →
    Silenced lines row check
  | onNextLine {filter} :
    directiveAt? lines (row - 1) = some ⟨.nextLine, filter⟩ → filter.covers check = true →
    Silenced lines row check
  | opening {filter} :
    directiveAt? lines row = some ⟨.opening, filter⟩ → filter.covers check = true →
    Silenced lines row check
  | inside {filter} :
    0 < depth filter (lines.take (row - 1)) → filter.covers check = true →
    Silenced lines row check

/-- The last line has the directive that is read from it. -/
lemma directiveAt?_concat (lines : List (List Char)) (line : List Char) :
    directiveAt? (lines ++ [line]) (lines.length + 1) = Directive.ofLine? line := by
  rw [directiveAt?, List.getElem?_concat_length, Option.bind_some]

/-- The directives on the first rows do not depend on what comes later. -/
lemma directiveAt?_append {lines : List (List Char)} {row : Nat} (h : row ≤ lines.length)
    (more : List (List Char)) : directiveAt? (lines ++ more) row = directiveAt? lines row := by
  cases row with
  | zero => rfl
  | succ row => rw [directiveAt?, List.getElem?_append_left h, directiveAt?]

/-- The last line opens or closes a region, or leaves the depth as it is. -/
lemma depth_concat (filter : Filter) (lines : List (List Char)) (line : List Char) :
    depth filter (lines ++ [line]) = filter.count (depth filter lines) line := by
  rw [depth, List.foldl_append, List.foldl_cons, List.foldl_nil, depth]

namespace Coverage.Progress

/-- Takes in the directive on a line, if there is one. -/
def stepLine (p : Progress) (row : Nat) (line : List Char) : Progress :=
  (Directive.ofLine? line).elim p (p.step row)

/-- The first line is read before the others. -/
lemma read_cons (p : Progress) (row : Nat) (line : List Char) (lines : List (List Char)) :
    p.read row (line :: lines) = (p.stepLine row line).read (row + 1) lines := by
  rw [read, stepLine]
  cases Directive.ofLine? line <;> rfl

/-- The last line is taken in last. -/
lemma read_concat (p : Progress) (row : Nat) (lines : List (List Char)) (line : List Char) :
    p.read row (lines ++ [line]) = (p.read row lines).stepLine (row + lines.length) line := by
  induction lines generalizing p row with
  | nil => rw [List.nil_append, read_cons, read, read, List.length_nil, Nat.add_zero]
  | cons first lines ih =>
    rw [List.cons_append, read_cons, read_cons, ih, List.length_cons, Nat.add_assoc row 1,
      Nat.add_comm 1]

/-- A closing directive takes the latest open region with its filter out of the list, if there is
one. -/
lemma step_closing (p : Progress) (row : Nat) (filter : Filter) :
    (p.step row ⟨.closing, filter⟩ = p ∧ p.opened.countP (·.2 = filter) = 0) ∨
      ∃ newer first older, p.opened = newer ++ (first, filter) :: older ∧
        p.step row ⟨.closing, filter⟩ =
          { coverage := p.coverage.addRegion ⟨first, row, filter⟩, opened := newer ++ older } := by
  rw [step]
  cases hfind : p.opened.find? (·.2 = filter) with
  | none =>
    refine .inl ⟨rfl, List.countP_eq_zero.2 ?_⟩
    exact List.find?_eq_none.1 hfind
  | some entry =>
    obtain ⟨first, f⟩ := entry
    obtain ⟨hfilter, newer, older, hopened, hnewer⟩ := List.find?_eq_some_iff_append.1 hfind
    obtain rfl : f = filter := of_decide_eq_true hfilter
    have herase : p.opened.eraseP (·.2 = f) = newer ++ older := by
      rw [hopened, List.eraseP_append_right _ (by simpa using hnewer), List.eraseP_cons,
        hfilter, cond_true]
    exact .inr ⟨newer, first, older, hopened, by simp only [herase]⟩

/-- What has been read silences a row under a filter. A region that is still open goes on. -/
def Silences (p : Progress) (filter : Filter) (row : Nat) : Prop :=
  (row, filter) ∈ p.coverage.rows ∨
    (∃ first last, ⟨first, last, filter⟩ ∈ p.coverage.regions ∧ first ≤ row ∧ row ≤ last) ∨
    ∃ first, (first, filter) ∈ p.opened ∧ first ≤ row

/-- A closing directive silences nothing more and nothing less up to its own row. -/
lemma silences_closing {p : Progress} {filter f : Filter} {row next : Nat} (h : row ≤ next) :
    (p.step next ⟨.closing, f⟩).Silences filter row ↔ p.Silences filter row := by
  obtain ⟨hstep, _⟩ | ⟨newer, first, older, hopened, hstep⟩ := p.step_closing next f
  · rw [hstep]
  · rw [hstep, Silences, Silences, hopened]
    simp only [addRegion, List.mem_append, List.mem_cons, Region.mk.injEq, Prod.mk.injEq]
    grind

/-- What one more line silences up to its own row. -/
lemma silences_stepLine {p : Progress} {filter : Filter} {row next : Nat} (h : row ≤ next)
    (line : List Char) : (p.stepLine next line).Silences filter row ↔
      p.Silences filter row ∨ row = next ∧
        (Directive.ofLine? line = some ⟨.line, filter⟩ ∨
          Directive.ofLine? line = some ⟨.opening, filter⟩) := by
  rw [stepLine]
  match hline : Directive.ofLine? line with
  | none => simp
  | some ⟨.closing, f⟩ => simpa using silences_closing h
  | some ⟨.line, f⟩ =>
    simp only [Option.elim_some, step, Silences, addRow, List.mem_append, List.mem_singleton]
    grind
  | some ⟨.nextLine, f⟩ =>
    simp only [Option.elim_some, step, Silences, addRow, List.mem_append, List.mem_singleton]
    grind
  | some ⟨.opening, f⟩ =>
    simp only [Option.elim_some, step, Silences, List.mem_cons]
    grind

/-- Later lines silence no earlier row. -/
lemma silences_append {filter : Filter} {row : Nat} {lines : List (List Char)}
    (h : row ≤ lines.length) (more : List (List Char)) :
    (read {} 1 (lines ++ more)).Silences filter row ↔ (read {} 1 lines).Silences filter row := by
  induction more using List.reverseRecOn with
  | nil => rw [List.append_nil]
  | append_singleton more line ih =>
    rw [← List.append_assoc, read_concat, silences_stepLine (by rw [List.length_append]; omega), ih]
    have hne : ¬ row = 1 + (lines ++ more).length := by
      rw [List.length_append]
      omega
    simp only [hne, false_and, or_false]

/-- The silenced rows after one more line. -/
lemma mem_rows_stepLine {p : Progress} {row next : Nat} {filter : Filter} {line : List Char} :
    (row, filter) ∈ (p.stepLine next line).coverage.rows ↔
      (row, filter) ∈ p.coverage.rows ∨
        Directive.ofLine? line = some ⟨.line, filter⟩ ∧ row = next ∨
        Directive.ofLine? line = some ⟨.nextLine, filter⟩ ∧ row = next + 1 := by
  rw [stepLine]
  match hline : Directive.ofLine? line with
  | none => simp
  | some ⟨.line, f⟩ => simp [step, addRow, and_comm, eq_comm]
  | some ⟨.nextLine, f⟩ => simp [step, addRow, and_comm, eq_comm]
  | some ⟨.opening, f⟩ => simp [step]
  | some ⟨.closing, f⟩ =>
    obtain ⟨hstep, _⟩ | ⟨newer, first, older, _, hstep⟩ := p.step_closing next f
    · simp [hstep]
    · simp [hstep, addRegion]

/-- A region ends where it is closed. -/
lemma last_of_mem_regions_stepLine {p : Progress} {next : Nat} {line : List Char} {region : Region}
    (h : region ∈ (p.stepLine next line).coverage.regions) :
    region ∈ p.coverage.regions ∨ region.last = next := by
  rw [stepLine] at h
  match hline : Directive.ofLine? line with
  | none => exact .inl (by simpa [hline] using h)
  | some ⟨.line, f⟩ => exact .inl (by simpa [hline, step, addRow] using h)
  | some ⟨.nextLine, f⟩ => exact .inl (by simpa [hline, step, addRow] using h)
  | some ⟨.opening, f⟩ => exact .inl (by simpa [hline, step] using h)
  | some ⟨.closing, f⟩ =>
    rw [hline, Option.elim_some] at h
    obtain ⟨hstep, _⟩ | ⟨newer, first, older, _, hstep⟩ := p.step_closing next f
    · exact .inl (by rwa [hstep] at h)
    · rw [hstep, addRegion, List.mem_append, List.mem_singleton] at h
      exact h.imp_right fun heq => by rw [heq]

/-- A region opens on its first row. -/
lemma first_of_mem_opened_stepLine {p : Progress} {next first : Nat} {filter : Filter}
    {line : List Char} (h : (first, filter) ∈ (p.stepLine next line).opened) :
    (first, filter) ∈ p.opened ∨ first = next := by
  rw [stepLine] at h
  match hline : Directive.ofLine? line with
  | none => exact .inl (by simpa [hline] using h)
  | some ⟨.line, f⟩ => exact .inl (by simpa [hline, step] using h)
  | some ⟨.nextLine, f⟩ => exact .inl (by simpa [hline, step] using h)
  | some ⟨.opening, f⟩ =>
    rw [hline, Option.elim_some, step, List.mem_cons, Prod.mk.injEq] at h
    exact h.elim (fun heq => .inr heq.1) .inl
  | some ⟨.closing, f⟩ =>
    rw [hline, Option.elim_some] at h
    obtain ⟨hstep, _⟩ | ⟨newer, first', older, hopened, hstep⟩ := p.step_closing next f
    · exact .inl (by rwa [hstep] at h)
    · rw [hstep, List.mem_append] at h
      rw [hopened, List.mem_append, List.mem_cons]
      exact .inl (h.imp_right .inr)

/-- The open regions with a filter are counted by its counter, whatever other regions are open. -/
lemma countP_opened_stepLine (p : Progress) (next : Nat) (filter : Filter) (line : List Char) :
    (p.stepLine next line).opened.countP (·.2 = filter) =
      filter.count (p.opened.countP (·.2 = filter)) line := by
  rw [stepLine, Filter.count]
  match hline : Directive.ofLine? line with
  | none => rfl
  | some ⟨.line, f⟩ => rfl
  | some ⟨.nextLine, f⟩ => rfl
  | some ⟨.opening, f⟩ =>
    rw [Option.elim_some, step, List.countP_cons]
    by_cases hf : f = filter <;> simp [hf]
  | some ⟨.closing, f⟩ =>
    obtain ⟨hstep, hnone⟩ | ⟨newer, first, older, hopened, hstep⟩ := p.step_closing next f
    · rw [Option.elim_some, hstep]
      by_cases hf : f = filter
      · simp [← hf, hnone]
      · simp [hf]
    · rw [Option.elim_some, hstep, hopened, List.countP_append, List.countP_append,
        List.countP_cons]
      by_cases hf : f = filter <;> simp [hf]

/-- What is known once some lines have been read. -/
structure After (lines : List (List Char)) (p : Progress) : Prop where
  rows_le : ∀ {row filter}, (row, filter) ∈ p.coverage.rows → row ≤ lines.length + 1
  regions_le : ∀ {region}, region ∈ p.coverage.regions → region.last ≤ lines.length
  opened_le : ∀ {first filter}, (first, filter) ∈ p.opened → first ≤ lines.length
  /-- The row that comes next is silenced by the last line alone. -/
  next_row : ∀ {filter}, (lines.length + 1, filter) ∈ p.coverage.rows ↔
    directiveAt? lines lines.length = some ⟨.nextLine, filter⟩
  /-- There are as many open regions with a filter as its counter tells. -/
  opened : ∀ filter, p.opened.countP (·.2 = filter) = depth filter lines

/-- Before the first line nothing is silenced and no region is open. -/
lemma After.nil : After [] {} where
  rows_le := by simp
  regions_le := by simp
  opened_le := by simp
  next_row := by simp [directiveAt?]
  opened := by simp [depth]

/-- One more line. -/
lemma After.concat {lines : List (List Char)} {p : Progress} (h : After lines p)
    (line : List Char) :
    After (lines ++ [line]) (p.stepLine (lines.length + 1) line) := by
  have hlength : (lines ++ [line]).length = lines.length + 1 := List.length_append
  constructor
  case rows_le =>
    intro row filter hmem
    rcases mem_rows_stepLine.1 hmem with hmem | ⟨_, rfl⟩ | ⟨_, rfl⟩
    · have hle := h.rows_le hmem
      omega
    · omega
    · omega
  case regions_le =>
    intro region hmem
    rcases last_of_mem_regions_stepLine hmem with hmem | hlast
    · have hle := h.regions_le hmem
      omega
    · omega
  case opened_le =>
    intro first filter hmem
    rcases first_of_mem_opened_stepLine hmem with hmem | hfirst
    · have hle := h.opened_le hmem
      omega
    · omega
  case next_row =>
    intro filter
    rw [hlength, directiveAt?_concat, mem_rows_stepLine]
    constructor
    · rintro (hmem | ⟨_, hrow⟩ | ⟨hline, _⟩)
      · have hle := h.rows_le hmem
        omega
      · omega
      · exact hline
    · exact fun hline => .inr (.inr ⟨hline, rfl⟩)
  case opened =>
    intro filter
    rw [countP_opened_stepLine, h.opened, depth_concat]

/-- After every number of lines the state is what they amount to. -/
lemma after_read (lines : List (List Char)) : After lines (read {} 1 lines) := by
  induction lines using List.reverseRecOn with
  | nil => exact .nil
  | append_singleton lines line ih =>
    rw [read_concat, Nat.add_comm]
    exact ih.concat line

/-- The row after the last one is silenced by a comment on the last one, or by a region that is
open. -/
lemma After.silences_next {lines : List (List Char)} {p : Progress} (h : After lines p)
    (filter : Filter) :
    p.Silences filter (lines.length + 1) ↔
      directiveAt? lines lines.length = some ⟨.nextLine, filter⟩ ∨ 0 < depth filter lines := by
  rw [Silences, h.next_row, ← h.opened, List.countP_pos_iff]
  refine or_congr_right ⟨?_, ?_⟩
  · rintro (⟨first, last, hmem, _, hlast⟩ | ⟨first, hmem, _⟩)
    · exact absurd (Nat.le_trans hlast (h.regions_le hmem)) (Nat.not_succ_le_self _)
    · exact ⟨_, hmem, decide_eq_true rfl⟩
  · rintro ⟨⟨first, f⟩, hmem, hf⟩
    obtain rfl : f = filter := of_decide_eq_true hf
    exact .inr ⟨first, hmem, Nat.le_succ_of_le (h.opened_le hmem)⟩

/-- Closing what is open adds one region for each open one. -/
lemma finish_eq (p : Progress) (last : Nat) :
    p.finish last =
      { p.coverage with
        regions := p.coverage.regions ++ p.opened.reverse.map fun entry =>
          ⟨entry.1, last, entry.2⟩ } := by
  rw [finish]
  generalize p.coverage = c
  induction p.opened.reverse generalizing c with
  | nil => simp
  | cons entry entries ih =>
    rw [List.foldl_cons, ih]
    simp [addRegion]

/-- Up to the last row, a check is silenced where a filter that covers it silences. -/
lemma covers_finish {p : Progress} {row last : Nat} (h : row ≤ last) (check : Descriptor) :
    (p.finish last).covers row check = true ↔ ∃ filter, p.Silences filter row ∧
      filter.covers check = true := by
  rw [finish_eq, covers]
  simp only [Bool.or_eq_true, List.any_eq_true, List.any_append, List.any_map, Bool.and_eq_true,
    decide_eq_true_eq, List.mem_reverse, Function.comp_apply, Silences]
  constructor
  · rintro (⟨⟨_, filter⟩, hmem, rfl, hcovers⟩ | ⟨⟨first, stop, filter⟩, hmem, hle, hcovers⟩ |
      ⟨⟨first, filter⟩, hmem, hle, hcovers⟩)
    · exact ⟨filter, .inl hmem, hcovers⟩
    · exact ⟨filter, .inr (.inl ⟨first, stop, hmem, hle⟩), hcovers⟩
    · exact ⟨filter, .inr (.inr ⟨first, hmem, hle.1⟩), hcovers⟩
  · rintro ⟨filter, hmem | ⟨first, stop, hmem, hle⟩ | ⟨first, hmem, hle⟩, hcovers⟩
    · exact .inl ⟨(row, filter), hmem, rfl, hcovers⟩
    · exact .inr (.inl ⟨⟨first, stop, filter⟩, hmem, hle, hcovers⟩)
    · exact .inr (.inr ⟨(first, filter), hmem, ⟨hle, h⟩, hcovers⟩)

end Coverage.Progress

open Coverage.Progress in
/-- A check is silenced on a row of a source text exactly when a comment on the row or on the row
above says so, or when a region opens there or is open, as told by the counter of its filter. -/
theorem covers_ofSource_iff (source : List Char) (row : Nat) (check : Descriptor) (hfirst : 1 ≤ row)
    (hlast : row ≤ (Text.lines source).length) :
    (Coverage.ofSource source).covers row check = true ↔
      Silenced (Text.lines source) row check := by
  rw [Coverage.ofSource, covers_finish hlast]
  generalize Text.lines source = lines at hlast ⊢
  -- The lines before the row, the line on the row, and the lines after it, which do not count.
  obtain ⟨before, line, after, rfl, rfl⟩ :
      ∃ before line after, lines = before ++ [line] ++ after ∧ row = before.length + 1 :=
    ⟨lines.take (row - 1), lines[row - 1], lines.drop row, by simp [Nat.sub_add_cancel hfirst],
      by simp; omega⟩
  have hon :
      directiveAt? (before ++ [line] ++ after) (before.length + 1) = Directive.ofLine? line := by
    rw [directiveAt?_append (by simp), directiveAt?_concat]
  have habove : directiveAt? (before ++ [line] ++ after) before.length =
      directiveAt? before before.length := by
    rw [List.append_assoc, directiveAt?_append (Nat.le_refl _)]
  have htake : (before ++ [line] ++ after).take before.length = before := by
    rw [List.append_assoc, List.take_left]
  have hsilences :
      ∀ filter, (read {} 1 (before ++ [line] ++ after)).Silences filter (before.length + 1) ↔
      (directiveAt? before before.length = some ⟨.nextLine, filter⟩ ∨ 0 < depth filter before) ∨
        (Directive.ofLine? line = some ⟨.line, filter⟩ ∨
          Directive.ofLine? line = some ⟨.opening, filter⟩) := by
    intro filter
    rw [silences_append (by simp), read_concat, silences_stepLine (by omega),
      (after_read before).silences_next, Nat.add_comm 1]
    simp only [true_and]
  constructor
  · rintro ⟨filter, hs, hcovers⟩
    rcases (hsilences filter).1 hs with (hnext | hdepth) | (hline | hopening)
    · exact .onNextLine (habove.trans hnext) hcovers
    · exact .inside (by rwa [Nat.add_sub_cancel, htake]) hcovers
    · exact .onLine (hon.trans hline) hcovers
    · exact .opening (hon.trans hopening) hcovers
  · intro hs
    cases hs with
    | @onLine filter hline hcovers =>
      exact ⟨filter, (hsilences filter).2 (.inr (.inl (hon.symm.trans hline))), hcovers⟩
    | @onNextLine filter hnext hcovers =>
      exact ⟨filter, (hsilences filter).2 (.inl (.inl (habove.symm.trans hnext))), hcovers⟩
    | @opening filter hopening hcovers =>
      exact ⟨filter, (hsilences filter).2 (.inr (.inr (hon.symm.trans hopening))), hcovers⟩
    | @inside filter hdepth hcovers =>
      rw [Nat.add_sub_cancel, htake] at hdepth
      exact ⟨filter, (hsilences filter).2 (.inl (.inr hdepth)), hcovers⟩

/-- Two regions that cross: on the last row the outer one has been closed, and the inner one is
open. -/
theorem covers_ofSource_iff_crossed :
    let source :=
      "// NOLINTBEGIN(avoid-std-endl)\n// NOLINTBEGIN\n// NOLINTEND(avoid-std-endl)\nf();".toList
    let check := Checks.avoidStdEndl.descriptor
    1 ≤ 4 ∧ 4 ≤ (Text.lines source).length ∧
      depth (.names ["avoid-std-endl"]) ((Text.lines source).take 3) = 0 ∧
      depth .all ((Text.lines source).take 3) = 1 ∧
      ((Coverage.ofSource source).covers 4 check = true ↔
        Silenced (Text.lines source) 4 check) := by
  intro source check
  have hlast : 4 ≤ (Text.lines source).length := by decide
  exact ⟨by decide, hlast, by decide, by decide,
    covers_ofSource_iff source 4 check (by decide) hlast⟩

end CppAdvice.Suppression
