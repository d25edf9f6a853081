import CppAdvice.Pattern.Regex

/-!
# Reading regular expressions

The written form of a regular expression: characters that stand for themselves, `.`, the ends of the
text `^` and `$`, the repetitions `*`, `+` and `?`, groups, alternatives and character classes. A
backslash takes the meaning off a punctuation character. Parts may be nested only so deep.
-/

namespace CppAdvice.Pattern.Regex

/-- A character of a written expression, with or without its meaning. -/
inductive Letter where
  /-- A character as it stands. -/
  | mark (c : Char)
  /-- A character without its meaning. -/
  | plain (c : Char)
deriving Repr, DecidableEq

namespace Letter

/-- The character itself. -/
def char : Letter → Char
  | .mark c => c
  | .plain c => c

/-- The character that a backslash and a letter stand for. -/
def named? : Char → Option Char
  | 'a' => some '\x07'
  | 'f' => some '\x0c'
  | 'n' => some '\n'
  | 'r' => some '\r'
  | 't' => some '\t'
  | 'v' => some '\x0b'
  | _ => none

/-- The character that a backslash and a character stand for. -/
def escaped? (c : Char) : Option Char :=
  if c.toNat < 0x80 ∧ !c.isAlphanum ∧ c ≠ '<' ∧ c ≠ '>' then some c else named? c

/-- Takes the backslashes out. -/
def ofChars? : List Char → Option (List Letter)
  | [] => some []
  | '\\' :: c :: s => do
    let c ← escaped? c
    let ls ← ofChars? s
    return .plain c :: ls
  | ['\\'] => none
  | c :: s => (ofChars? s).map (.mark c :: ·)

end Letter

/-- Something read, and how deep its parts are nested. -/
structure Nested (α : Type) where
  value : α
  depth : Nat := 0
deriving Repr, DecidableEq

namespace Nested

variable {α β : Type}

/-- The same part, read as something else. -/
def map (n : Nested α) (f : α → β) : Nested β :=
  ⟨f n.value, n.depth⟩

/-- A part around one other. -/
def around (n : Nested α) (f : α → β) : Nested β :=
  ⟨f n.value, n.depth + 1⟩

/-- The greatest depth of several parts. -/
def deepest (ns : List (Nested α)) : Nat :=
  (ns.map (·.depth)).foldl max 0

/-- Several parts as one: a part on its own stays as it is. -/
def gather (ns : List (Nested α)) (f : List α → α) : Nested α :=
  match ns with
  | [] => ⟨f [], 0⟩
  | [n] => n
  | ns => ⟨f (ns.map (·.value)), deepest ns + 1⟩

end Nested

/-- The greatest depth of a written expression. -/
def maxDepth : Nat := 250

/-! ## Character classes -/

/-- How a class joins the set before a sign with the one after it. -/
inductive Join where
  | inter
  | diff
  | symmDiff
deriving Repr, DecidableEq

/-- The set that a sign makes of two. -/
def Join.apply : Join → CharSet → CharSet → CharSet
  | .inter => .inter
  | .diff => .diff
  | .symmDiff => .symmDiff

/-- Whether a class starts with the sign for its complement, and the letters after that. -/
def takeSign : List Letter → Bool × List Letter
  | .mark '^' :: ls => (true, ls)
  | ls => (false, ls)

/-- A character class that is being read. -/
structure ClassDraft where
  negated : Bool := false
  /-- The set before the latest sign, and that sign. -/
  before : Option (Nested CharSet × Join) := none
  /-- The sets read since then, latest first. -/
  items : List (Nested CharSet) := []

namespace ClassDraft

/-- Adds a set. -/
def push (d : ClassDraft) (set : Nested CharSet) : ClassDraft :=
  { d with items := set :: d.items }

/-- Adds a range of characters. -/
def pushRange (d : ClassDraft) (low high : Char) : ClassDraft :=
  d.push ⟨.range low high, 0⟩

/-- The set read so far. -/
def joined (d : ClassDraft) : Nested CharSet :=
  let last := Nested.gather d.items.reverse .unionAll
  match d.before with
  | none => last
  | some (before, join) =>
    ⟨join.apply before.value last.value, max before.depth last.depth + 1⟩

/-- Takes in a sign. -/
def sign (d : ClassDraft) (join : Join) : ClassDraft :=
  { negated := d.negated, before := some (d.joined, join) }

/-- The set of the whole class. -/
def close (d : ClassDraft) : Nested CharSet :=
  d.joined.around fun set => if d.negated then .compl set else set

/-- A class whose opening bracket has been read, and the letters after what can only stand at its
front: the sign for its complement, dashes, and a bracket that would close an empty class. -/
def start (ls : List Letter) : ClassDraft × List Letter :=
  let (negated, ls) := takeSign ls
  let dashes := ls.takeWhile (· = .mark '-')
  let d : ClassDraft := { negated, items := dashes.map fun _ => ⟨.single '-', 0⟩ }
  match d.items, ls.drop dashes.length with
  | [], .mark ']' :: ls => (d.pushRange ']' ']', ls)
  | _, ls => (d, ls)

end ClassDraft

/-- The ranges of the named classes. -/
def namedClasses : List (String × List (Char × Char)) :=
  [("alnum", [('0', '9'), ('A', 'Z'), ('a', 'z')]),
    ("alpha", [('A', 'Z'), ('a', 'z')]),
    ("ascii", [('\x00', '\x7f')]),
    ("blank", [('\t', '\t'), (' ', ' ')]),
    ("cntrl", [('\x00', '\x1f'), ('\x7f', '\x7f')]),
    ("digit", [('0', '9')]),
    ("graph", [('!', '~')]),
    ("lower", [('a', 'z')]),
    ("print", [(' ', '~')]),
    ("punct", [('!', '/'), (':', '@'), ('[', '\x60'), ('\x7b', '~')]),
    ("space", [('\t', '\t'), ('\n', '\n'), ('\x0b', '\x0b'), ('\x0c', '\x0c'), ('\r', '\r'),
      (' ', ' ')]),
    ("upper", [('A', 'Z')]),
    ("word", [('0', '9'), ('A', 'Z'), ('_', '_'), ('a', 'z')]),
    ("xdigit", [('0', '9'), ('A', 'F'), ('a', 'f')])]

/-- The named class that letters start with, its opening bracket having been read. -/
def namedClass? : List Letter → Option (CharSet × List Letter)
  | .mark ':' :: ls => do
    let (negated, ls) := takeSign ls
    let name := ls.takeWhile (· ≠ .mark ':')
    guard (name.all fun l => l = .mark l.char)
    let ranges ← namedClasses.lookup (String.ofList (name.map Letter.char))
    match ls.drop name.length with
    | .mark ':' :: .mark ']' :: ls =>
      let set := CharSet.unionAll (ranges.map fun (low, high) => .range low high)
      return (if negated then .compl set else set, ls)
    | _ => none
  | _ => none

/-! ## Groups -/

/-- A group that is being read: the alternatives before the current one, and what has been read of
that one, both latest first. -/
structure GroupDraft where
  alternatives : List (Nested Regex) := []
  items : List (Nested Regex) := []

namespace GroupDraft

/-- Adds an expression to the current alternative. -/
def push (g : GroupDraft) (r : Nested Regex) : GroupDraft :=
  { g with items := r :: g.items }

/-- Adds an expression without parts. -/
def pushLeaf (g : GroupDraft) (r : Regex) : GroupDraft :=
  g.push ⟨r, 0⟩

/-- The current alternative. -/
def current (g : GroupDraft) : Nested Regex :=
  Nested.gather g.items.reverse seqAll

/-- Starts the next alternative. -/
def next (g : GroupDraft) : GroupDraft :=
  { alternatives := g.current :: g.alternatives }

/-- The expression of the whole group. -/
def close (g : GroupDraft) : Nested Regex :=
  Nested.gather (g.current :: g.alternatives).reverse fun
    | [] => .empty
    | r :: rs => altAll r rs

/-- Puts a repetition on the latest item, if there is one. -/
def repeat? (g : GroupDraft) (how : Regex → Regex) : Option GroupDraft :=
  match g.items with
  | [] => none
  | r :: items => some { g with items := r.around how :: items }

end GroupDraft

/-- The repetition that a character stands for. -/
def repetition? : Char → Option (Regex → Regex)
  | '*' => some .star
  | '+' => some .plus
  | '?' => some opt
  | _ => none

/-- The letters after the sign that a repetition is to be as short as possible, which changes no
match. -/
def skipShortest : List Letter → List Letter
  | .mark '?' :: ls => ls
  | ls => ls

/-- What is being read: the innermost open group, the groups around it, and the open classes,
innermost first. -/
structure ReaderState where
  group : GroupDraft := {}
  outer : List GroupDraft := []
  classes : List ClassDraft := []

namespace ReaderState

/-- Starts a class. -/
def openClass (st : ReaderState) (ls : List Letter) : ReaderState × List Letter :=
  let (d, ls) := ClassDraft.start ls
  ({ st with classes := d :: st.classes }, ls)

/-- Ends the innermost class `d`, which stands inside the classes `ds`. -/
def closeClass (st : ReaderState) (d : ClassDraft) : (ds : List ClassDraft) → ReaderState
  | [] => { st with group := st.group.push (d.close.map oneOfSet), classes := [] }
  | d' :: ds => { st with classes := d'.push d.close :: ds }

/-- Takes in the next letters of the innermost class `d`, which stands inside the classes `ds`. A
dash between two characters makes a range of them, unless a second dash or the end of the class
follows. -/
def stepClass? (st : ReaderState) (d : ClassDraft) (ds : List ClassDraft) :
    List Letter → Option (ReaderState × List Letter)
  | [] => none
  | .mark '[' :: ls =>
    match namedClass? ls with
    | some (set, ls) => some ({ st with classes := d.push ⟨set, 0⟩ :: ds }, ls)
    | none => some (st.openClass ls)
  | .mark ']' :: ls => some (st.closeClass d ds, ls)
  | .mark '&' :: .mark '&' :: ls => some ({ st with classes := d.sign .inter :: ds }, ls)
  | .mark '-' :: .mark '-' :: ls => some ({ st with classes := d.sign .diff :: ds }, ls)
  | .mark '~' :: .mark '~' :: ls => some ({ st with classes := d.sign .symmDiff :: ds }, ls)
  | low :: .mark '-' :: high :: ls =>
    if high = .mark ']' ∨ high = .mark '-' then
      some ({ st with classes := d.pushRange low.char low.char :: ds }, .mark '-' :: high :: ls)
    else if low.char ≤ high.char then
      some ({ st with classes := d.pushRange low.char high.char :: ds }, ls)
    else none
  | low :: ls => some ({ st with classes := d.pushRange low.char low.char :: ds }, ls)

/-- Starts a group. -/
def openGroup (st : ReaderState) : ReaderState :=
  { st with group := {}, outer := st.group :: st.outer }

/-- Ends the innermost group, if there is one. -/
def closeGroup? (st : ReaderState) : Option ReaderState :=
  match st.outer with
  | [] => none
  | g :: outer => some { st with group := g.push (st.group.close.around id), outer }

/-- Takes in an expression without parts. -/
def pushLeaf (st : ReaderState) (r : Regex) : ReaderState :=
  { st with group := st.group.pushLeaf r }

/-- Takes in the next letters of the innermost group. -/
def stepGroup? (st : ReaderState) : List Letter → Option (ReaderState × List Letter)
  | [] => none
  | .plain c :: ls => some (st.pushLeaf (oneOfSet (.single c)), ls)
  | .mark '(' :: .mark '?' :: .mark ':' :: ls => some (st.openGroup, ls)
  | .mark '(' :: .mark '?' :: _ => none
  | .mark '(' :: ls => some (st.openGroup, ls)
  | .mark ')' :: ls => st.closeGroup?.map (·, ls)
  | .mark '|' :: ls => some ({ st with group := st.group.next }, ls)
  | .mark '[' :: ls => some (st.openClass ls)
  | .mark '.' :: ls => some (st.pushLeaf (oneOfSet .anyOnLine), ls)
  | .mark '^' :: ls => some (st.pushLeaf .start, ls)
  | .mark '$' :: ls => some (st.pushLeaf .finish, ls)
  | .mark '\x7b' :: _ => none
  | .mark c :: ls =>
    match repetition? c with
    | some how => (st.group.repeat? how).map fun g => ({ st with group := g }, skipShortest ls)
    | none => some (st.pushLeaf (oneOfSet (.single c)), ls)

/-- Takes in the next letters, at least one of them. -/
def step? (st : ReaderState) (ls : List Letter) : Option (ReaderState × List Letter) :=
  match st.classes with
  | [] => st.stepGroup? ls
  | d :: ds => st.stepClass? d ds ls

/-- Reads letters to their end; `fuel` bounds their number. -/
def read? : (fuel : Nat) → ReaderState → List Letter → Option (Nested Regex)
  | _, st, [] => if st.outer.isEmpty && st.classes.isEmpty then some st.group.close else none
  | 0, _, _ => none
  | fuel + 1, st, ls => do
    let (st, ls) ← st.step? ls
    read? fuel st ls

end ReaderState

/-- The expression that a text is the written form of. -/
def ofText? (s : String) : Option Regex := do
  let ls ← Letter.ofChars? s.toList
  let r ← ReaderState.read? ls.length {} ls
  guard (r.depth ≤ maxDepth)
  return r.value

/-- The expression that matches whole texts by a written form: the form is read as a group between
the signs for both ends of the text. -/
def wholeOfText? (s : String) : Option Regex :=
  ofText? ("^(?:" ++ s ++ ")$")

end CppAdvice.Pattern.Regex
