/-!
# Positions

Places in a text are counted in bytes of its UTF-8 form. A position is a row and a column, both
starting from one; columns count bytes too.
-/

namespace CppAdvice.Text

/-- A row and a column, starting from one. -/
structure Position where
  row : Nat
  column : Nat
deriving Repr, DecidableEq

namespace Position

/-- The position `offset` bytes after `p`, where `s` is the text from `p` on; the end of the text is
the last position. -/
def advance (p : Position) : (s : List Char) → (offset : Nat) → Position
  | [], _ => p
  | c :: s, offset =>
    if offset < c.utf8Size then { p with column := p.column + offset }
    else if c = '\n' then advance ⟨p.row + 1, 1⟩ s (offset - c.utf8Size)
    else advance { p with column := p.column + c.utf8Size } s (offset - c.utf8Size)

/-- The position of an offset in a text. -/
def ofOffset (s : List Char) (offset : Nat) : Position :=
  advance ⟨1, 1⟩ s offset

end Position

/-- Whether a text has at least `n` bytes. -/
def hasBytes : (n : Nat) → (s : List Char) → Bool
  | 0, _ => true
  | _ + 1, [] => false
  | n + 1, c :: s => if c.utf8Size ≤ n + 1 then hasBytes (n + 1 - c.utf8Size) s else true

/-- The text after the first `n` bytes, if a character ends there. -/
def dropBytes? : (n : Nat) → (s : List Char) → Option (List Char)
  | 0, s => some s
  | _ + 1, [] => none
  | n + 1, c :: s => if c.utf8Size ≤ n + 1 then dropBytes? (n + 1 - c.utf8Size) s else none

/-- The first `n` bytes of a text, if a character ends there. -/
def takeBytes? : (n : Nat) → (s : List Char) → Option (List Char)
  | 0, _ => some []
  | _ + 1, [] => none
  | n + 1, c :: s =>
    if c.utf8Size ≤ n + 1 then (takeBytes? (n + 1 - c.utf8Size) s).map (c :: ·) else none

/-- The text from the byte `first` up to the byte `last`, if both lie between characters. -/
def slice? (s : List Char) (first last : Nat) : Option (List Char) :=
  if first ≤ last then (dropBytes? first s).bind (takeBytes? (last - first)) else none

end CppAdvice.Text
