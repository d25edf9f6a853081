/-!
# Regular expressions

Expressions over characters and whether they match some part of a text. While a text is read, every
set of characters in an expression carries a mark: it is set when the part read so far may end with
a character of that set at that place. Reading one more character moves the marks, and the
expression keeps its shape.
-/

namespace CppAdvice.Pattern

/-- A set of characters. -/
inductive CharSet where
  | none
  /-- The characters from `low` to `high`. -/
  | range (low high : Char)
  | union (a b : CharSet)
  | inter (a b : CharSet)
  /-- The characters that are not in the set. -/
  | compl (a : CharSet)
deriving Repr, DecidableEq

namespace CharSet

/-- Whether a character is in the set. -/
def holds : CharSet → Char → Bool
  | .none, _ => false
  | .range low high, c => low ≤ c && c ≤ high
  | .union a b, c => a.holds c || b.holds c
  | .inter a b, c => a.holds c && b.holds c
  | .compl a, c => !a.holds c

/-- One character. -/
def single (c : Char) : CharSet :=
  .range c c

/-- Every character but a newline. -/
def anyOnLine : CharSet :=
  .compl (.single '\n')

/-- The characters of `a` that are not in `b`. -/
def diff (a b : CharSet) : CharSet :=
  .inter a (.compl b)

/-- The characters of exactly one of two sets. -/
def symmDiff (a b : CharSet) : CharSet :=
  .union (a.diff b) (b.diff a)

/-- The characters of any of several sets. -/
def unionAll : List CharSet → CharSet
  | [] => .none
  | [a] => a
  | a :: as => .union a (unionAll as)

end CharSet

/-- A regular expression. -/
inductive Regex where
  /-- The empty text. -/
  | empty
  /-- The empty text at the start of the whole text. -/
  | start
  /-- The empty text at the end of the whole text. -/
  | finish
  /-- One character of a set. -/
  | chars (set : CharSet) (marked : Bool)
  | seq (first second : Regex)
  | alt (left right : Regex)
  /-- Any number of times. -/
  | star (r : Regex)
  /-- At least once. -/
  | plus (r : Regex)
deriving Repr, DecidableEq

namespace Regex

/-- One character of a set, before anything is read. -/
def oneOfSet (set : CharSet) : Regex :=
  .chars set false

/-- At most once. -/
def opt (r : Regex) : Regex :=
  .alt r .empty

/-- Expressions one after another. -/
def seqAll : List Regex → Regex
  | [] => .empty
  | [r] => r
  | r :: rs => .seq r (seqAll rs)

/-- Any of several expressions; the first one is given apart, so that there is one. -/
def altAll (r : Regex) : List Regex → Regex
  | [] => r
  | s :: rs => .alt r (altAll s rs)

/-- The characters of a text, each as an expression. -/
def letters (s : String) : List Regex :=
  s.toList.map fun c => oneOfSet (.single c)

/-- The text itself. -/
def text (s : String) : Regex :=
  seqAll (letters s)

/-- Any of several texts; the first one is given apart, so that there is one. -/
def oneOf (s : String) (others : List String) : Regex :=
  altAll (text s) (others.map text)

/-- The expression from the start of the whole text to its end. -/
def whole (r : Regex) : Regex :=
  seqAll [.start, r, .finish]

/-- Whether the empty text matches; `first` at the start of the whole text, `last` at its end. -/
def nullable (first last : Bool) : Regex → Bool
  | .empty => true
  | .start => first
  | .finish => last
  | .chars _ _ => false
  | .seq r s => r.nullable first last && s.nullable first last
  | .alt r s => r.nullable first last || s.nullable first last
  | .star _ => true
  | .plus r => r.nullable first last

/-- Whether a match may end with what has been read; `last` at the end of the whole text. -/
def final (last : Bool) : Regex → Bool
  | .empty | .start | .finish => false
  | .chars _ marked => marked
  | .seq r s => s.final last || (r.final last && s.nullable false last)
  | .alt r s => r.final last || s.final last
  | .star r => r.final last
  | .plus r => r.final last

/-- Moves the marks past the character `c`. A match may start right before it if `enter` is set;
`first` at the start of the whole text. -/
def shift (first enter : Bool) (c : Char) : Regex → Regex
  | .empty => .empty
  | .start => .start
  | .finish => .finish
  | .chars set _ => .chars set (enter && set.holds c)
  | .seq r s =>
    .seq (r.shift first enter c)
      (s.shift first ((enter && r.nullable first false) || r.final false) c)
  | .alt r s => .alt (r.shift first enter c) (s.shift first enter c)
  | .star r => .star (r.shift first (enter || r.final false) c)
  | .plus r => .plus (r.shift first (enter || r.final false) c)

/-- Whether a match that has started, or one that starts later, ends in the rest of a text; `first`
at the start of the whole text. -/
def occurs (first : Bool) (r : Regex) : List Char → Bool
  | [] => r.nullable first true || r.final true
  | c :: s => r.nullable first false || r.final false || (r.shift first true c).occurs false s

/-- Whether the expression matches some part of a text. -/
def occursIn (r : Regex) (s : List Char) : Bool :=
  r.occurs true s

end Regex

end CppAdvice.Pattern
