import CppAdvice.Text.Digit
import CppAdvice.Toml.Token
import CppAdvice.Toml.Value

/-!
# Settings text: strings, numbers, dates

Names and the values without parts, each from the whole text that it is written with.
-/

namespace CppAdvice.Toml

/-- The text after the end of a line. -/
def newline? : List Char → Option (List Char)
  | '\n' :: s => some s
  | '\r' :: '\n' :: s => some s
  | _ => none

/-! ## Strings -/

/-- The character whose code a number of hexadecimal digits give. -/
def codeEscape? (count : Nat) (s : List Char) : Option (Char × List Char) := do
  guard (count ≤ s.length)
  let n ← Text.number? 16 (s.take count)
  guard (n < 0xD800 ∨ (0xE000 ≤ n ∧ n < 0x110000))
  return (Char.ofNat n, s.drop count)

/-- The character that an escape stands for, its backslash having been read. -/
def escape? : List Char → Option (Char × List Char)
  | 'b' :: s => some ('\x08', s)
  | 't' :: s => some ('\t', s)
  | 'n' :: s => some ('\n', s)
  | 'f' :: s => some ('\x0c', s)
  | 'r' :: s => some ('\r', s)
  | 'e' :: s => some ('\x1b', s)
  | '"' :: s => some ('"', s)
  | '\\' :: s => some ('\\', s)
  | 'x' :: s => codeEscape? 2 s
  | 'u' :: s => codeEscape? 4 s
  | 'U' :: s => codeEscape? 8 s
  | _ => none

/-- Drops blanks and line ends. -/
def skipBlankLines : List Char → List Char
  | '\r' :: '\n' :: s => skipBlankLines s
  | c :: s => if isSpace c || c = '\n' then skipBlankLines s else c :: s
  | [] => []

/-- The text after a backslash that ends a line, with the blanks that follow it dropped. -/
def joinedLine? (s : List Char) : Option (List Char) :=
  (newline? (s.dropWhile isSpace)).map skipBlankLines

/-- The rest of a string on one line between double quotes; `fuel` bounds its length. -/
def basic? : Nat → List Char → Option (List Char × List Char)
  | 0, _ => none
  | _ + 1, [] => none
  | _ + 1, '"' :: s => some ([], s)
  | fuel + 1, '\\' :: s => do
    let (c, s) ← escape? s
    let (cs, rest) ← basic? fuel s
    return (c :: cs, rest)
  | fuel + 1, c :: s => do
    guard (isPlain c)
    let (cs, rest) ← basic? fuel s
    return (c :: cs, rest)

/-- The text of a string on several lines that ends here: one or two quotes before the last three
belong to it. -/
def closing? (quote : Char) (s : List Char) : Option (List Char × List Char) :=
  (Token.closing? quote s).map fun (quotes, rest) => (quotes.drop 3, rest)

/-- The rest of a string on several lines between double quotes; `fuel` bounds its length. -/
def basicLines? : Nat → List Char → Option (List Char × List Char)
  | 0, _ => none
  | fuel + 1, s =>
    match closing? '"' s with
    | some ending => some ending
    | none =>
      match s with
      | [] => none
      | '\\' :: s =>
        match joinedLine? s with
        | some s => basicLines? fuel s
        | none => do
          let (c, s) ← escape? s
          let (cs, rest) ← basicLines? fuel s
          return (c :: cs, rest)
      | '\r' :: '\n' :: s => do
        let (cs, rest) ← basicLines? fuel s
        return ('\r' :: '\n' :: cs, rest)
      | c :: s => do
        guard (isPlain c || c = '\n')
        let (cs, rest) ← basicLines? fuel s
        return (c :: cs, rest)

/-- The rest of a string on one line between single quotes. -/
def literal? : List Char → Option (List Char × List Char)
  | [] => none
  | '\'' :: s => some ([], s)
  | c :: s => do
    guard (isPlain c)
    let (cs, rest) ← literal? s
    return (c :: cs, rest)

/-- The rest of a string on several lines between single quotes. -/
def literalLines? (s : List Char) : Option (List Char × List Char) :=
  match closing? '\'' s with
  | some ending => some ending
  | none =>
    match s with
    | [] => none
    | '\r' :: '\n' :: s => do
      let (cs, rest) ← literalLines? s
      return ('\r' :: '\n' :: cs, rest)
    | c :: s => do
      guard (isPlain c || c = '\n')
      let (cs, rest) ← literalLines? s
      return (c :: cs, rest)

/-- The string that is the whole of a text, read by one of the above. -/
def ending? (read : Option (List Char × List Char)) : Option String :=
  match read with
  | some (cs, []) => some (String.ofList cs)
  | _ => none

/-- A string on one line. -/
def quoted? : List Char → Option String
  | '"' :: s => ending? (basic? s.length s)
  | '\'' :: s => ending? (literal? s)
  | _ => none

/-- A string; a line end right after three opening quotes does not belong to it. -/
def text? (s : List Char) : Option String :=
  match s with
  | '"' :: '"' :: '"' :: s =>
    let s := (newline? s).getD s
    ending? (basicLines? s.length s)
  | '\'' :: '\'' :: '\'' :: s =>
    let s := (newline? s).getD s
    ending? (literalLines? s)
  | s => quoted? s

/-- The characters of names without quotes. -/
def isBare (c : Char) : Bool :=
  c.isAlphanum || c = '_' || c = '-'

/-- A name of a key. -/
def name? (s : List Char) : Option String :=
  match s with
  | [] => none
  | '"' :: _ | '\'' :: _ => quoted? s
  | s => if s.all isBare then some (String.ofList s) else none

/-! ## Numbers -/

/-- The digits of a number, where a line may stand between two digits. -/
def grouped? (base : Nat) (s : List Char) : Option (List Nat) := do
  let groups ← (s.splitOn '_').mapM fun group => do
    guard (!group.isEmpty)
    group.mapM (Text.digitValue? base)
  return groups.flatten

/-- The digits of a decimal number, which starts with a zero only if that is its one digit. -/
def decimal? (s : List Char) : Option (List Nat) := do
  let digits ← grouped? 10 s
  guard (digits.head? ≠ some 0 ∨ digits.length = 1)
  return digits

/-- Text without its sign, and whether that was a minus. -/
def sign : List Char → Bool × List Char
  | '-' :: s => (true, s)
  | '+' :: s => (false, s)
  | s => (false, s)

/-- A whole number. -/
def integer? (s : List Char) : Option Int :=
  match s with
  | '0' :: 'x' :: s => (grouped? 16 s).map fun ds => (Text.ofDigits 16 ds : Int)
  | '0' :: 'o' :: s => (grouped? 8 s).map fun ds => (Text.ofDigits 8 ds : Int)
  | '0' :: 'b' :: s => (grouped? 2 s).map fun ds => (Text.ofDigits 2 ds : Int)
  | s =>
    let (negative, s) := sign s
    (decimal? s).map fun ds =>
      let n : Int := Text.ofDigits 10 ds
      if negative then -n else n

/-- The exponent of a number. -/
def exponent? (s : List Char) : Option Int :=
  let (negative, s) := sign s
  (grouped? 10 s).map fun ds =>
    let n : Int := Text.ofDigits 10 ds
    if negative then -n else n

/-- A number without sign that has a fraction, an exponent or both. -/
def scientific? (s : List Char) : Option Decimal.Scientific := do
  let mantissa := s.takeWhile fun c => c ≠ 'e' && c ≠ 'E'
  let whole := mantissa.takeWhile (· ≠ '.')
  let fraction := mantissa.drop whole.length
  let exponent := s.drop mantissa.length
  guard (!fraction.isEmpty || !exponent.isEmpty)
  let whole ← decimal? whole
  let fraction ← if fraction.isEmpty then some [] else grouped? 10 fraction.tail
  let exponent ← if exponent.isEmpty then some 0 else exponent? exponent.tail
  return ⟨Text.ofDigits 10 (whole ++ fraction), exponent - fraction.length⟩

/-- A number with a fraction or an exponent, an infinity, or no number. -/
def float? (s : List Char) : Option Toml :=
  let s := (sign s).2
  if s = ['i', 'n', 'f'] || s = ['n', 'a', 'n'] then some (.float none)
  else (scientific? s).map fun x => .float (some x)

/-! ## Dates and times -/

/-- A number of exactly so many decimal digits, and the text after it. -/
def digits? (count : Nat) (s : List Char) : Option (Nat × List Char) := do
  guard (count ≤ s.length)
  let n ← Text.number? 10 (s.take count)
  return (n, s.drop count)

/-- The text after a given character. -/
def after? (c : Char) : List Char → Option (List Char)
  | [] => none
  | d :: s => if c = d then some s else none

/-- The number of days in a month. -/
def daysIn (year month : Nat) : Nat :=
  if month = 2 then
    if year % 4 = 0 ∧ (year % 100 ≠ 0 ∨ year % 400 = 0) then 29 else 28
  else if month ∈ [4, 6, 9, 11] then 30
  else 31

/-- The text after a date. -/
def date? (s : List Char) : Option (List Char) := do
  let (year, s) ← digits? 4 s
  let s ← after? '-' s
  let (month, s) ← digits? 2 s
  let s ← after? '-' s
  let (day, s) ← digits? 2 s
  guard (1 ≤ month ∧ month ≤ 12 ∧ 1 ≤ day ∧ day ≤ daysIn year month)
  return s

/-- The text after the fraction of a second, if there is one. -/
def secondFraction? : List Char → Option (List Char)
  | '.' :: s => if (s.takeWhile Char.isDigit).isEmpty then none else some (s.dropWhile Char.isDigit)
  | s => some s

/-- The text after a time of day; its seconds may be left out. -/
def time? (s : List Char) : Option (List Char) := do
  let (hour, s) ← digits? 2 s
  let s ← after? ':' s
  let (minute, s) ← digits? 2 s
  guard (hour < 24 ∧ minute < 60)
  match s with
  | ':' :: s =>
    let (second, s) ← digits? 2 s
    guard (second ≤ 60)
    secondFraction? s
  | s => return s

/-- Whether a text is a distance from universal time, or nothing. -/
def isOffset : List Char → Bool
  | [] => true
  | ['Z'] => true
  | ['z'] => true
  | c :: s =>
    (c = '+' || c = '-') && (do
      let (hour, s) ← digits? 2 s
      let s ← after? ':' s
      let (minute, s) ← digits? 2 s
      return hour < 24 && minute < 60 && s.isEmpty).getD false

/-- Whether a text is a date, a time, or both. -/
def isMoment (s : List Char) : Bool :=
  match date? s with
  | some [] => true
  | some (c :: s) =>
    (c = 'T' || c = 't' || c = ' ') && ((time? s).map isOffset).getD false
  | none => time? s = some []

/-! ## Values -/

/-- The value that a word stands for. -/
def ofWord? (w : List Char) : Option Toml :=
  if w = "true".toList then some (.boolean true)
  else if w = "false".toList then some (.boolean false)
  else match integer? w with
    | some n => some (.integer n)
    | none =>
      match float? w with
      | some v => some v
      | none => if isMoment w then some .moment else none

/-- A value without parts. -/
def scalar? (s : List Char) : Option Toml :=
  match s with
  | '"' :: _ | '\'' :: _ => (text? s).map .string
  | s => ofWord? s

end CppAdvice.Toml
