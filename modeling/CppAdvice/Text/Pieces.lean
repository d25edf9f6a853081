/-!
# Pieces of a text

Looking for a word in a text, at its ends or anywhere, and putting words in the place of characters.
Texts are lists of characters here, so that every function is a recursion on the text, and they are
cut into pieces and joined again as lists are.
-/

namespace CppAdvice.Text

/-- The text after the first occurrence of `word`. -/
def afterFirst? (word : List Char) : List Char → Option (List Char)
  | [] => if word.isEmpty then some [] else none
  | c :: s =>
    match word.isPrefixOf? (c :: s) with
    | some rest => some rest
    | none => afterFirst? word s

/-- Whether `word` occurs in a text. -/
def contains (word s : List Char) : Bool :=
  (afterFirst? word s).isSome

/-- The text before the first occurrence of a character, if it occurs. -/
def beforeFirst? (stop : Char) : List Char → Option (List Char)
  | [] => none
  | c :: s => if c = stop then some [] else (beforeFirst? stop s).map (c :: ·)

/-- The text with `word` in the place of each `c`. -/
def replaceChar (c : Char) (word s : List Char) : List Char :=
  s.flatMap fun d => if d = c then word else [d]

/-- Whether `s` ends with `word`. -/
def endsWith (word s : List Char) : Bool :=
  word.reverse.isPrefixOf s.reverse

/-- What stands before the final `word`, if `s` ends with it. -/
def dropEnd? (word s : List Char) : Option (List Char) :=
  (word.reverse.isPrefixOf? s.reverse).map List.reverse

/-- The decimal digits of a number. -/
def decimalDigits (n : Nat) : List Char :=
  Nat.toDigits 10 n

end CppAdvice.Text
