import CppAdvice.Text.Position
import Mathlib.Tactic.Lemma

/-!
# Places in a text

Offsets count bytes, and what is between two offsets is a piece of the text only if both lie between
characters (`eq_of_slice?`). Positions grow with the offset, row by row and then column by column
(`before_ofOffset`), whether or not an offset lies between characters.
-/

namespace CppAdvice.Text

/-- The number of bytes of a text. -/
def byteLength (s : List Char) : Nat :=
  (String.ofList s).utf8ByteSize

@[simp] lemma byteLength_nil : byteLength [] = 0 := by
  simp [byteLength]

@[simp] lemma byteLength_cons (c : Char) (s : List Char) :
    byteLength (c :: s) = c.utf8Size + byteLength s := by
  simp [byteLength]

@[simp] lemma byteLength_append (s t : List Char) :
    byteLength (s ++ t) = byteLength s + byteLength t := by
  simp [byteLength]

/-- The computed test is for a text of at least so many bytes. -/
lemma hasBytes_iff {n : Nat} {s : List Char} : hasBytes n s = true ↔ n ≤ byteLength s := by
  fun_induction hasBytes n s with
  | case1 s => simp
  | case2 n => simp
  | case3 n c s h ih =>
    rw [ih, byteLength_cons]
    omega
  | case4 n c s h =>
    rw [byteLength_cons]
    simp only [true_iff]
    omega

/-- What is left behind so many bytes is an end of the text. -/
lemma eq_of_dropBytes? {n : Nat} {s rest : List Char} (h : dropBytes? n s = some rest) :
    ∃ before, s = before ++ rest ∧ byteLength before = n := by
  fun_induction dropBytes? n s with
  | case1 s =>
    cases h
    exact ⟨[], rfl, byteLength_nil⟩
  | case2 n => cases h
  | case3 n c s hc ih =>
    obtain ⟨before, rfl, hlength⟩ := ih h
    exact ⟨c :: before, rfl, by rw [byteLength_cons]; omega⟩
  | case4 n c s hc => cases h

/-- The first bytes are how the text starts. -/
lemma eq_of_takeBytes? {n : Nat} {s piece : List Char} (h : takeBytes? n s = some piece) :
    ∃ after, s = piece ++ after ∧ byteLength piece = n := by
  fun_induction takeBytes? n s generalizing piece with
  | case1 s =>
    cases h
    exact ⟨s, rfl, byteLength_nil⟩
  | case2 n => cases h
  | case3 n c s hc ih =>
    obtain ⟨piece, hpiece, rfl⟩ := Option.map_eq_some_iff.1 h
    obtain ⟨after, rfl, hlength⟩ := ih hpiece
    exact ⟨after, rfl, by rw [byteLength_cons]; omega⟩
  | case4 n c s hc => cases h

/-- What is between two offsets is a piece of the text that starts and ends there. -/
lemma eq_of_slice? {s piece : List Char} {first last : Nat} (h : slice? s first last = some piece) :
    ∃ before after, s = before ++ piece ++ after ∧ byteLength before = first ∧
      byteLength (before ++ piece) = last := by
  rw [slice?] at h
  split at h
  case isTrue hle =>
    obtain ⟨rest, hrest, hpiece⟩ := Option.bind_eq_some_iff.1 h
    obtain ⟨before, rfl, hbefore⟩ := eq_of_dropBytes? hrest
    obtain ⟨after, rfl, hlength⟩ := eq_of_takeBytes? hpiece
    refine ⟨before, after, by rw [List.append_assoc], hbefore, ?_⟩
    rw [byteLength_append]
    omega
  case isFalse => cases h

namespace Position

/-- A position comes before another one. -/
def Before (p q : Position) : Prop :=
  p.row < q.row ∨ p.row = q.row ∧ p.column < q.column

/-- The way through a text does not lead back. -/
lemma le_advance (p : Position) (s : List Char) (offset : Nat) :
    p.row < (p.advance s offset).row ∨
      p.row = (p.advance s offset).row ∧ p.column ≤ (p.advance s offset).column := by
  fun_induction advance p s offset with
  | case1 p offset => simp
  | case2 p c s offset h => simp
  | case3 p s offset h ih =>
    dsimp only at ih
    omega
  | case4 p c s offset h hc ih =>
    dsimp only at ih
    omega

/-- The positions on the way are in the order of their offsets. -/
lemma before_advance {s : List Char} {p : Position} {i j : Nat} (hij : i < j)
    (hj : j ≤ byteLength s) : (p.advance s i).Before (p.advance s j) := by
  induction s generalizing p i j with
  | nil =>
    rw [byteLength_nil] at hj
    omega
  | cons c s ih =>
    rw [byteLength_cons] at hj
    rw [advance, advance]
    by_cases hj' : j < c.utf8Size
    -- Both are in the first character.
    · rw [if_pos (Nat.lt_trans hij hj'), if_pos hj']
      exact .inr ⟨rfl, Nat.add_lt_add_left hij p.column⟩
    rw [if_neg hj']
    by_cases hi : i < c.utf8Size
    -- Only the earlier one is, and the way goes on from the end of the character.
    · rw [if_pos hi, Before]
      split
      · have hle := le_advance ⟨p.row + 1, 1⟩ s (j - c.utf8Size)
        dsimp only at hle ⊢
        omega
      · have hle := le_advance { p with column := p.column + c.utf8Size } s (j - c.utf8Size)
        dsimp only at hle ⊢
        omega
    · rw [if_neg hi]
      have hlt : i - c.utf8Size < j - c.utf8Size := by omega
      split
      · exact ih hlt (by omega)
      · exact ih hlt (by omega)

/-- In a text, the position of an offset comes before that of a greater one. -/
lemma before_ofOffset {s : List Char} {i j : Nat} (hij : i < j) (hj : j ≤ byteLength s) :
    (ofOffset s i).Before (ofOffset s j) :=
  before_advance hij hj

end Position

end CppAdvice.Text
