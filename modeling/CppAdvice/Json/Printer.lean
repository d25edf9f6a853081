import CppAdvice.Json.Value
import CppAdvice.Text.Pieces

/-!
# Writing values

The text of a value, either without any blanks or with one item or member a line, indented by two
blanks a level. Characters other than the quote, the backslash and the control characters are
written as they are.
-/

namespace CppAdvice.Json

/-- One hexadecimal digit. -/
def hexDigit (n : Nat) : Char :=
  if n < 10 then Char.ofNat ('0'.toNat + n) else Char.ofNat ('a'.toNat + (n - 10))

/-- How a character is written inside a string literal. -/
def escapeChar (c : Char) : List Char :=
  if c = '"' then ['\\', '"']
  else if c = '\\' then ['\\', '\\']
  else if c = '\x08' then ['\\', 'b']
  else if c = '\t' then ['\\', 't']
  else if c = '\n' then ['\\', 'n']
  else if c = '\x0c' then ['\\', 'f']
  else if c = '\r' then ['\\', 'r']
  else if c.toNat < 0x20 then
    ['\\', 'u', '0', '0', hexDigit (c.toNat / 16), hexDigit (c.toNat % 16)]
  else [c]

/-- The string literal for a text. -/
def renderString (s : List Char) : List Char :=
  '"' :: (s.flatMap escapeChar ++ ['"'])

/-- The digits of a literal, one after another. -/
def renderDigits (ds : List Nat) : List Char :=
  ds.flatMap Text.decimalDigits

/-- The text of a number. -/
def Number.render : Number → List Char
  | .natural n => Text.decimalDigits n.toNat
  | .negative n => '-' :: Text.decimalDigits n
  | .decimal d =>
    (if d.negative then ['-'] else []) ++ renderDigits d.whole ++
      (if d.fraction.isEmpty then [] else '.' :: renderDigits d.fraction) ++
      (if d.exponent = 0 then []
       else if d.exponent < 0 then 'e' :: '-' :: Text.decimalDigits d.exponent.natAbs
       else 'e' :: Text.decimalDigits d.exponent.natAbs)

/-- The literal of a key; a key without text is written as an empty string. -/
def Key.render : Key → List Char
  | .name s => renderString s.toList
  | .garbled | .missing => renderString []

mutual

/-- The text of a value without blanks. -/
def renderChars : Json → List Char
  | .null | .broken => ['n', 'u', 'l', 'l']
  | .bool true => ['t', 'r', 'u', 'e']
  | .bool false => ['f', 'a', 'l', 's', 'e']
  | .number n => n.render
  | .string s => renderString (s.getD "").toList
  | .array items => '[' :: (renderItems items ++ [']'])
  | .object members => '\x7b' :: (renderMembers members ++ ['\x7d'])

/-- The items of an array, with commas between them. -/
def renderItems : List Json → List Char
  | [] => []
  | [v] => v.renderChars
  | v :: items => v.renderChars ++ ',' :: renderItems items

/-- The members of an object, with commas between them. -/
def renderMembers : List (Key × Json) → List Char
  | [] => []
  | [(k, v)] => k.render ++ ':' :: v.renderChars
  | (k, v) :: members => k.render ++ ':' :: (v.renderChars ++ ',' :: renderMembers members)

end

/-- The start of a line at the given level. -/
def lineStart (level : Nat) : List Char :=
  '\n' :: List.replicate (2 * level) ' '

mutual

/-- The text of a value at the given level, one item or member a line. -/
def prettyChars (level : Nat) : Json → List Char
  | .null | .broken => ['n', 'u', 'l', 'l']
  | .bool true => ['t', 'r', 'u', 'e']
  | .bool false => ['f', 'a', 'l', 's', 'e']
  | .number n => n.render
  | .string s => renderString (s.getD "").toList
  | .array [] => ['[', ']']
  | .array (v :: items) => '[' :: (prettyItems (level + 1) (v :: items) ++ lineStart level ++ [']'])
  | .object [] => ['\x7b', '\x7d']
  | .object (m :: members) =>
    '\x7b' :: (prettyMembers (level + 1) (m :: members) ++ lineStart level ++ ['\x7d'])

/-- The items of an array, each on a line of its own. -/
def prettyItems (level : Nat) : List Json → List Char
  | [] => []
  | [v] => lineStart level ++ v.prettyChars level
  | v :: items => lineStart level ++ v.prettyChars level ++ ',' :: prettyItems level items

/-- The members of an object, each on a line of its own. -/
def prettyMembers (level : Nat) : List (Key × Json) → List Char
  | [] => []
  | [(k, v)] => lineStart level ++ k.render ++ ':' :: ' ' :: v.prettyChars level
  | (k, v) :: members =>
    lineStart level ++ k.render ++ ':' :: ' ' :: (v.prettyChars level ++
      ',' :: prettyMembers level members)

end

/-- The text of a value without blanks. -/
def render (v : Json) : String :=
  String.ofList v.renderChars

/-- The text of a value with one item or member a line. -/
def pretty (v : Json) : String :=
  String.ofList (v.prettyChars 0)

end CppAdvice.Json
