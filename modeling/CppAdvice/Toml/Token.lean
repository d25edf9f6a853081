/-!
# Settings text: tokens

A settings text as a list of tokens. Strings and words keep their text as it is written, whatever it
is; a lone carriage return and a control character in a comment are no tokens.
-/

namespace CppAdvice.Toml

/-- The characters that may stand for themselves in strings and comments. -/
def isPlain (c : Char) : Bool :=
  c = '\t' || (0x20 ≤ c.toNat && c.toNat ≠ 0x7F)

/-- The blanks within a line. -/
def isSpace (c : Char) : Bool :=
  c = ' ' || c = '\t'

/-- The smallest parts of a settings text. -/
inductive Token where
  | dot
  | equals
  | comma
  | openBracket
  | closeBracket
  | openBrace
  | closeBrace
  | blank (text : List Char)
  | newline
  | comment
  /-- A string, with its quotes as far as it has them. -/
  | quoted (text : List Char)
  /-- Any other run of characters. -/
  | word (text : List Char)
deriving Repr, DecidableEq

namespace Token

/-- The signs that are tokens of their own. -/
def ofSign? : Char → Option Token
  | '.' => some .dot
  | '=' => some .equals
  | ',' => some .comma
  | '[' => some .openBracket
  | ']' => some .closeBracket
  | '\x7b' => some .openBrace
  | '\x7d' => some .closeBrace
  | '\n' => some .newline
  | _ => none

/-- Whether a character can be part of a word. -/
def isWordChar (c : Char) : Bool :=
  (ofSign? c).isNone && !isSpace c && c ≠ '#' && c ≠ '\r'

/-- The rest of a string on one line after its opening quote, and the text after it. A line end
stops the string, and so does a quote, unless `escapes` is set and a backslash takes it. -/
def scanLine (quote : Char) (escapes : Bool) : List Char → List Char × List Char
  | [] => ([], [])
  | '\\' :: c :: s =>
    if escapes && (c = '\\' || c = '"') then
      let (text, rest) := scanLine quote escapes s
      ('\\' :: c :: text, rest)
    else
      let (text, rest) := scanLine quote escapes (c :: s)
      ('\\' :: text, rest)
  | c :: s =>
    if c = quote then ([c], s)
    else if c = '\n' then ([], c :: s)
    else
      let (text, rest) := scanLine quote escapes s
      (c :: text, rest)

/-- Three quotes and up to two more, and the text after them. -/
def closing? (quote : Char) (s : List Char) : Option (List Char × List Char) :=
  let quotes := s.takeWhile (· = quote)
  if quotes.length < 3 then none
  else
    let taken := min quotes.length 5
    some (List.replicate taken quote, s.drop taken)

/-- The rest of a string on several lines after its opening quotes, and the text after it. -/
def scanLines (quote : Char) (escapes : Bool) (s : List Char) : List Char × List Char :=
  match closing? quote s with
  | some ending => ending
  | none =>
    match s with
    | [] => ([], [])
    | '\\' :: c :: s =>
      if escapes && (c = '\\' || c = '"') then
        let (text, rest) := scanLines quote escapes s
        ('\\' :: c :: text, rest)
      else
        let (text, rest) := scanLines quote escapes (c :: s)
        ('\\' :: text, rest)
    | c :: s =>
      let (text, rest) := scanLines quote escapes s
      (c :: text, rest)

/-- The string that a text starts with, and the text after it. -/
def scanQuoted? : List Char → Option (List Char × List Char)
  | '"' :: '"' :: '"' :: s =>
    let (text, rest) := scanLines '"' true s
    some ('"' :: '"' :: '"' :: text, rest)
  | '"' :: s =>
    let (text, rest) := scanLine '"' true s
    some ('"' :: text, rest)
  | '\'' :: '\'' :: '\'' :: s =>
    let (text, rest) := scanLines '\'' false s
    some ('\'' :: '\'' :: '\'' :: text, rest)
  | '\'' :: s =>
    let (text, rest) := scanLine '\'' false s
    some ('\'' :: text, rest)
  | _ => none

/-- The text after a comment, which goes to the end of its line. -/
def skipComment? (s : List Char) : Option (List Char) :=
  match s.dropWhile isPlain with
  | [] => some []
  | '\n' :: s => some ('\n' :: s)
  | '\r' :: '\n' :: s => some ('\r' :: '\n' :: s)
  | _ => none

/-- The token that a text starts with, and the text after it. -/
def scan? (s : List Char) : Option (Token × List Char) :=
  match s with
  | [] => none
  | '#' :: s => (skipComment? s).map (.comment, ·)
  | '\r' :: '\n' :: s => some (.newline, s)
  | '\r' :: _ => none
  | c :: rest =>
    match ofSign? c, scanQuoted? s with
    | some token, _ => some (token, rest)
    | none, some (text, rest) => some (.quoted text, rest)
    | none, none =>
      if isSpace c then some (.blank (s.takeWhile isSpace), s.dropWhile isSpace)
      else some (.word (s.takeWhile isWordChar), s.dropWhile isWordChar)

/-- The tokens of a text; `fuel` bounds their number. -/
def lexWith? : (fuel : Nat) → List Char → Option (List Token)
  | _, [] => some []
  | 0, _ => none
  | fuel + 1, s => do
    let (token, s) ← scan? s
    let tokens ← lexWith? fuel s
    return token :: tokens

/-- The tokens of a text. -/
def lex? (s : List Char) : Option (List Token) :=
  lexWith? s.length s

end Token

end CppAdvice.Toml
