import CppAdvice.Proofs.Bytes
import CppAdvice.Proofs.Pieces
import CppAdvice.Text.Lines

/-!
# Rows and lines

Positions count rows byte by byte, and what silences a check counts the lines of the source. Both go
by one numbering: the row of an offset is the number of a line, and that line starts as many bytes
before the offset as its column says (`isFaithful_ofOffset`), whatever ends the lines and wherever
in a character the offset lies.

A text is taken apart line by line (`line_induction`). On the first line the column counts the bytes
(`advance_of_notMem`), and after its newline a new row starts (`advance_of_newline`), as a new line
does (`lines_of_newline`).
-/

namespace CppAdvice.Text

/-- The bytes of a text. -/
def bytes (s : List Char) : List UInt8 :=
  s.flatMap String.utf8EncodeChar

/-- The byte that ends a line. -/
def newlineByte : UInt8 := 10

/-- The line with the number `row`, counted from one, starts at the byte `start`: what comes before
are the lines before it, each with its end. -/
def LineStartsAt (s : List Char) (row start : Nat) : Prop :=
  ∃ before line rest, s = before ++ line ++ rest ∧ byteLength before = start ∧
    row = (lines before).length + 1 ∧
    (before = [] ∨ before.getLast? = some '\n') ∧ lines before ++ [line] <+: lines s

/-- Taking a text apart at the newlines, the last line apart. -/
@[elab_as_elim]
lemma line_induction {motive : List Char → Prop} (last : ∀ s, '\n' ∉ s → motive s)
    (line : ∀ first rest, '\n' ∉ first → motive rest → motive (first ++ '\n' :: rest)) :
    ∀ s, motive s := by
  intro s
  generalize hn : s.length = n
  induction n using Nat.strongRecOn generalizing s with
  | ind n ih =>
    by_cases h : '\n' ∈ s
    case neg => exact last s h
    case pos =>
      obtain ⟨first, rest, rfl, hfirst⟩ := List.eq_append_cons_of_mem h
      apply line first rest hfirst
      apply ih rest.length _ rest rfl
      rw [← hn, List.length_append, List.length_cons]
      omega

variable {s first rest : List Char}

/-! ### Bytes -/

@[simp] lemma length_bytes (s : List Char) : (bytes s).length = byteLength s := by
  induction s with
  | nil => simp [bytes]
  | cons c s ih =>
    rw [bytes] at ih
    rw [bytes, List.flatMap_cons, List.length_append, ih, String.length_utf8EncodeChar,
      byteLength_cons]

/-- The bytes of two texts one after another. -/
lemma bytes_append (s t : List Char) : bytes (s ++ t) = bytes s ++ bytes t :=
  List.flatMap_append

/-- A line break takes one byte. -/
lemma byteLength_newline (s : List Char) : byteLength ('\n' :: s) = byteLength s + 1 := by
  rw [byteLength_cons, Nat.add_comm]
  rfl

/-- Bytes of characters beyond ASCII are high. -/
lemma or_ne_newlineByte (x : UInt8) {high : UInt8} (h : 128 ≤ high.toNat) :
    newlineByte ≠ x ||| high := by
  intro heq
  have hle : high.toNat ≤ (x ||| high).toNat := by
    rw [UInt8.toNat_or]
    exact Nat.right_le_or
  rw [← heq] at hle
  exact absurd (Nat.le_trans h hle) (by decide)

/-- Only a newline is written with the byte of a newline. -/
lemma newlineByte_notMem_utf8EncodeChar {c : Char} (hc : c ≠ '\n') :
    newlineByte ∉ String.utf8EncodeChar c := by
  obtain h1 | h2 | h3 | h4 := Char.utf8Size_eq c
  · rw [String.utf8EncodeChar_eq_singleton h1, List.mem_singleton]
    intro heq
    have hval : c.val.toNat < 128 := by
      have hle := UInt32.le_iff_toNat_le.1 (Char.utf8Size_eq_one_iff.1 h1)
      exact Nat.lt_succ_of_le hle
    have hnat := congrArg UInt8.toNat heq
    rw [UInt32.toNat_toUInt8, Nat.mod_eq_of_lt (by omega)] at hnat
    exact hc (Char.ext (UInt32.toNat_inj.1 hnat.symm))
  · rw [String.utf8EncodeChar_eq_cons_cons h2]
    simp [or_ne_newlineByte]
  · rw [String.utf8EncodeChar_eq_cons_cons_cons h3]
    simp [or_ne_newlineByte]
  · rw [String.utf8EncodeChar_eq_cons_cons_cons_cons h4]
    simp [or_ne_newlineByte]

/-- A text without a line break has no byte of one. -/
lemma newlineByte_notMem_bytes (h : '\n' ∉ s) : newlineByte ∉ bytes s := by
  rw [bytes, List.mem_flatMap]
  rintro ⟨c, hc, hmem⟩
  exact newlineByte_notMem_utf8EncodeChar (fun heq => h (heq ▸ hc)) hmem

/-! ### Lines -/

/-- A line without its return is how the line starts. -/
lemma dropReturn_isPrefix (line : List Char) : dropReturn line <+: line := by
  rw [dropReturn]
  cases h : dropEnd? ['\r'] line with
  | none => exact List.prefix_rfl
  | some rest => exact ⟨['\r'], (dropEnd?_eq_some_iff.1 h).symm⟩

/-- A newline ends a line. -/
lemma lines_of_newline (h : '\n' ∉ first) (rest : List Char) :
    lines (first ++ '\n' :: rest) = dropReturn first :: lines rest := by
  obtain ⟨piece, pieces, hpieces⟩ := List.exists_cons_of_ne_nil (List.splitOn_ne_nil '\n' rest)
  rw [lines, lines, List.splitOn_append_cons_self, List.splitOn_eq_singleton h, hpieces]
  rfl

/-- What follows the last newline is a line, unless nothing does. -/
lemma lines_of_notMem (h : '\n' ∉ s) (hne : s ≠ []) : lines s = [s] := by
  rw [lines, List.splitOn_eq_singleton h, linesOfPieces, if_neg (by simpa using hne)]

/-! ### Positions -/

namespace Position

/-- On its first line, the column counts the bytes of a text. -/
lemma advance_of_notMem {o : Nat} (h : '\n' ∉ first) (ho : o ≤ byteLength first) (p : Position)
    (rest : List Char) :
    p.advance (first ++ rest) o = { p with column := p.column + o } := by
  induction first generalizing p o with
  | nil =>
    obtain rfl : o = 0 := by simpa using ho
    cases rest with
    | nil => rfl
    | cons c rest => rw [List.nil_append, advance, if_pos c.utf8Size_pos]
  | cons c first ih =>
    obtain ⟨hc, hfirst⟩ := List.ne_and_not_mem_of_not_mem_cons h
    rw [List.cons_append, advance]
    by_cases hlt : o < c.utf8Size
    · rw [if_pos hlt]
    · rw [byteLength_cons] at ho
      rw [if_neg hlt, if_neg hc.symm, ih hfirst (by omega)]
      dsimp only
      rw [Nat.add_assoc, Nat.add_sub_cancel' (Nat.le_of_not_lt hlt)]

/-- After the newline of the first line, the next row starts. -/
lemma advance_of_newline {o : Nat} (h : '\n' ∉ first) (ho : byteLength first < o) (p : Position)
    (rest : List Char) :
    p.advance (first ++ '\n' :: rest) o =
      advance ⟨p.row + 1, 1⟩ rest (o - (byteLength first + 1)) := by
  induction first generalizing p o with
  | nil =>
    have hsize : '\n'.utf8Size = 1 := rfl
    rw [byteLength_nil] at ho ⊢
    rw [List.nil_append, advance, hsize, if_neg (by omega), if_pos rfl]
  | cons c first ih =>
    obtain ⟨hc, hfirst⟩ := List.ne_and_not_mem_of_not_mem_cons h
    rw [byteLength_cons] at ho ⊢
    rw [List.cons_append, advance, if_neg (by omega), if_neg hc.symm, ih hfirst (by omega)]
    congr 1
    omega

/-- The way through a text ends with it. -/
lemma advance_of_le {o : Nat} (ho : byteLength s ≤ o) (p : Position) :
    p.advance s o = p.advance s (byteLength s) := by
  induction s generalizing p o with
  | nil => rfl
  | cons c s ih =>
    rw [byteLength_cons] at ho ⊢
    have hlt : ¬ o < c.utf8Size := by omega
    have hlt' : ¬ c.utf8Size + byteLength s < c.utf8Size := by omega
    rw [advance, advance, if_neg hlt, if_neg hlt', Nat.add_sub_cancel_left]
    have hle : byteLength s ≤ o - c.utf8Size := by omega
    split
    · exact ih hle _
    · exact ih hle _

/-- The row of an offset starts after `before`, and the line with its number does too. -/
structure StartsRow (s : List Char) (o : Nat) (before : List Char) : Prop where
  le : byteLength before ≤ o
  /-- The way to the offset, whatever row it starts on. -/
  position : ∀ row, advance ⟨row + 1, 1⟩ s o = ⟨row + (lines before).length + 1,
    o - byteLength before + 1⟩
  complete : before = [] ∨ before.getLast? = some '\n'
  line : ∃ line rest, s = before ++ line ++ rest ∧ lines before ++ [line] <+: lines s
  newline : ∀ {i}, byteLength before ≤ i → i < o → (bytes s)[i]? ≠ some newlineByte

/-- The first line starts with the text. -/
lemma startsRow_first {o : Nat} (hfirst : '\n' ∉ first) (ho : o ≤ byteLength first)
    {line : List Char} (hline : line <+: first ++ rest)
    (hlines : [line] <+: lines (first ++ rest)) : StartsRow (first ++ rest) o [] where
  le := by simp
  position := by
    intro row
    rw [advance_of_notMem hfirst ho]
    simp [lines, linesOfPieces, Nat.add_comm]
  complete := .inl rfl
  line := by
    obtain ⟨more, hmore⟩ := hline
    exact ⟨line, more, hmore.symm, hlines⟩
  newline := by
    intro i _ hi hbyte
    rw [bytes_append, List.getElem?_append_left (by rw [length_bytes]; omega)] at hbyte
    exact newlineByte_notMem_bytes hfirst (List.mem_of_getElem? hbyte)

/-- Behind the first line, rows start as they do in what follows it. -/
lemma StartsRow.next {o : Nat} {before : List Char} (hfirst : '\n' ∉ first)
    (ho : byteLength first < o) (h : StartsRow rest (o - (byteLength first + 1)) before) :
    StartsRow (first ++ '\n' :: rest) o (first ++ '\n' :: before) where
  le := by
    have hle := h.le
    rw [byteLength_append, byteLength_newline]
    omega
  position := by
    intro row
    have hsub : o - (byteLength first + 1) - byteLength before =
        o - (byteLength first + (byteLength before + 1)) := by
      omega
    rw [advance_of_newline hfirst ho, h.position (row + 1), lines_of_newline hfirst,
      List.length_cons, byteLength_append, byteLength_newline, hsub, Nat.add_right_comm row 1,
      Nat.add_assoc row]
  complete := by
    right
    rcases h.complete with rfl | hlast
    · simp
    · have hne : before ≠ [] := by
        rintro rfl
        cases hlast
      rw [List.getLast?_append_of_ne_nil _ (List.cons_ne_nil _ _),
        List.getLast?_cons_of_ne_nil hne, hlast]
  line := by
    obtain ⟨line, more, hrest, hlines⟩ := h.line
    refine ⟨line, more, ?_, ?_⟩
    · simp [hrest]
    · rw [lines_of_newline hfirst, lines_of_newline hfirst, List.cons_append, List.cons_prefix_cons]
      exact ⟨rfl, hlines⟩
  newline := by
    intro i hle hi
    rw [byteLength_append, byteLength_newline] at hle
    have hshift :
        (bytes (first ++ '\n' :: rest))[i]? = (bytes rest)[i - (byteLength first + 1)]? := by
      have hlength : (bytes (first ++ ['\n'])).length = byteLength first + 1 := by
        rw [length_bytes, byteLength_append, byteLength_newline, byteLength_nil]
      rw [List.append_cons, bytes_append, List.getElem?_append_right (by omega), hlength]
    rw [hshift]
    exact h.newline (by omega) (by omega)

/-- Every offset in a text is on a row that starts somewhere. -/
lemma exists_startsRow {o : Nat} (ho : o < byteLength s) : ∃ before, StartsRow s o before := by
  induction s using line_induction generalizing o with
  | last s hs =>
    have hne : s ≠ [] := by
      rintro rfl
      simp at ho
    have hline : s <+: s ++ [] := List.prefix_append s []
    have hlines : [s] <+: lines (s ++ []) := by rw [List.append_nil, lines_of_notMem hs hne]
    have hfirst := startsRow_first hs (Nat.le_of_lt ho) hline hlines
    rw [List.append_nil] at hfirst
    exact ⟨[], hfirst⟩
  | line first rest hfirst ih =>
    by_cases hle : o ≤ byteLength first
    case pos =>
      have hline : dropReturn first <+: first ++ '\n' :: rest :=
        (dropReturn_isPrefix first).trans (List.prefix_append first _)
      have hlines : [dropReturn first] <+: lines (first ++ '\n' :: rest) := by
        rw [lines_of_newline hfirst]
        exact List.prefix_append [dropReturn first] (lines rest)
      exact ⟨[], startsRow_first hfirst hle hline hlines⟩
    case neg =>
      have ho' : o - (byteLength first + 1) < byteLength rest := by
        rw [byteLength_append, byteLength_newline] at ho
        omega
      obtain ⟨before, hbefore⟩ := ih ho'
      exact ⟨_, hbefore.next hfirst (Nat.lt_of_not_le hle)⟩

/-- Positions in a text are a faithful way to say where something is: they are in the order of the
offsets, and rows are the numbers of the lines. -/
structure IsFaithful (s : List Char) : Prop where
  /-- Up to the end of the text, greater offsets have later positions. -/
  before : ∀ {i j}, i < j → j ≤ byteLength s → (ofOffset s i).Before (ofOffset s j)
  injective : ∀ {i j}, i ≤ byteLength s → j ≤ byteLength s → ofOffset s i = ofOffset s j → i = j
  /-- From the end on, there is one position. -/
  constant : ∀ {o}, byteLength s ≤ o → ofOffset s o = ofOffset s (byteLength s)
  row_le : ∀ {o}, o < byteLength s → (ofOffset s o).row ≤ (lines s).length
  column_le : ∀ {o}, o < byteLength s → 1 ≤ (ofOffset s o).column ∧ (ofOffset s o).column - 1 ≤ o
  line : ∀ {o}, o < byteLength s →
    LineStartsAt s (ofOffset s o).row (o - ((ofOffset s o).column - 1))
  newline : ∀ {o i}, o < byteLength s → o - ((ofOffset s o).column - 1) ≤ i → i < o →
    (bytes s)[i]? ≠ some newlineByte

/-- A position is not before itself. -/
lemma not_before_self (p : Position) : ¬ p.Before p := by
  rw [Before]
  omega

/-- What the position of an offset is if its row starts after `before`. -/
lemma StartsRow.ofOffset_eq {o : Nat} {before : List Char} (h : StartsRow s o before) :
    ofOffset s o = ⟨(lines before).length + 1, o - byteLength before + 1⟩ := by
  rw [ofOffset, h.position 0, Nat.zero_add]

/-- The positions in any text are faithful. -/
theorem isFaithful_ofOffset (s : List Char) : IsFaithful s where
  before := before_ofOffset
  injective := by
    intro i j hi hj heq
    rcases Nat.lt_trichotomy i j with hlt | rfl | hlt
    · exact absurd (heq ▸ before_ofOffset hlt hj) (not_before_self _)
    · rfl
    · exact absurd (heq ▸ before_ofOffset hlt hi) (not_before_self _)
  constant := fun ho => advance_of_le ho _
  row_le := by
    intro o ho
    obtain ⟨before, h⟩ := exists_startsRow ho
    obtain ⟨line, rest, _, hlines⟩ := h.line
    have hlength := hlines.length_le
    rw [h.ofOffset_eq]
    simpa using hlength
  column_le := by
    intro o ho
    obtain ⟨before, h⟩ := exists_startsRow ho
    rw [h.ofOffset_eq]
    dsimp only
    omega
  line := by
    intro o ho
    obtain ⟨before, h⟩ := exists_startsRow ho
    obtain ⟨line, rest, hs, hlines⟩ := h.line
    have hstart : byteLength before = o - (o - byteLength before + 1 - 1) := by
      have hle := h.le
      omega
    rw [h.ofOffset_eq]
    exact ⟨before, line, rest, hs, hstart, rfl, h.complete, hlines⟩
  newline := by
    intro o i ho hle hi
    obtain ⟨before, h⟩ := exists_startsRow ho
    rw [h.ofOffset_eq] at hle
    apply h.newline _ hi
    dsimp only at hle
    have hle' := h.le
    omega

/-- The second byte of a character, the newline of a line that ends in two characters, and the empty
line after it. -/
example : [1, 3, 4, 5].map (ofOffset "é\r\n\nx".toList) = [⟨1, 2⟩, ⟨1, 4⟩, ⟨2, 1⟩, ⟨3, 1⟩] ∧
    lines "é\r\n\nx".toList = ["é".toList, [], "x".toList] := by decide

end Position

end CppAdvice.Text
