import CppAdvice.Toml.Token

/-!
# Settings text: statements

What the lines of a settings text say, before any name or value in them is looked at: a name or a
value that is missing is an empty text. Brackets, braces, commas and equal signs have to be in their
places.
-/

namespace CppAdvice.Toml

/-- How many brackets and braces may be open at once. -/
def maxDepth : Nat := 80

/-- The names of a key as they are written. -/
abbrev WrittenKey := List (List Char)

/-- A value as it is written. -/
inductive Written where
  | scalar (text : List Char)
  | array (items : List Written)
  | table (fields : List (WrittenKey × Written))

/-- What a line says. -/
inductive Statement where
  | entry (key : WrittenKey) (value : Written)
  /-- The header of a table. -/
  | header (key : WrittenKey)
  /-- The header of one more table of that name. -/
  | repeated (key : WrittenKey)

namespace Statement

/-- The names of a key, and the tokens after the blanks that follow it; `due` when a name has to
follow next. -/
def names (due : Bool) : List Token → WrittenKey × List Token
  | [] => (if due then [[]] else [], [])
  | .blank _ :: ts => names due ts
  | .dot :: ts =>
    let (key, rest) := names true ts
    (if due then [] :: key else key, rest)
  | .quoted s :: ts =>
    if due then
      let (key, rest) := names false ts
      (s :: key, rest)
    else ([], .quoted s :: ts)
  | .word s :: ts =>
    if due then
      let (key, rest) := names false ts
      (s :: key, rest)
    else ([], .word s :: ts)
  | t :: ts => (if due then [[]] else [], t :: ts)

/-- A key, and the tokens after the blanks that follow it. -/
def key (ts : List Token) : WrittenKey × List Token :=
  names true ts

/-- Drops blanks. -/
def skipBlanks : List Token → List Token
  | .blank _ :: ts => skipBlanks ts
  | ts => ts

/-- Drops blanks, line ends and comments. -/
def skipGap : List Token → List Token
  | .blank _ :: ts => skipGap ts
  | .newline :: ts => skipGap ts
  | .comment :: ts => skipGap ts
  | ts => ts

/-- Drops what is left of a line. -/
def skipLine (ts : List Token) : List Token :=
  ts.dropWhile (· ≠ .newline)

/-- Words with points and single blanks between them, and the tokens after them. -/
def words : List Token → List Char × List Token
  | .word s :: ts =>
    let (text, rest) := words ts
    (s ++ text, rest)
  | .dot :: ts =>
    let (text, rest) := words ts
    ('.' :: text, rest)
  | .blank b :: .word s :: ts =>
    let (text, rest) := words ts
    (b ++ s ++ text, rest)
  | ts => ([], ts)

/-- The rest of an array whose opening bracket has been read; `fuel` bounds the number of items. -/
def items? (value? : List Token → Option (Written × List Token)) :
    (fuel : Nat) → List Token → Option (List Written × List Token)
  | 0, _ => none
  | fuel + 1, ts =>
    match skipGap ts with
    | .closeBracket :: ts => some ([], ts)
    | ts => do
      let (v, ts) ← value? ts
      match skipGap ts with
      | .comma :: ts =>
        let (vs, ts) ← items? value? fuel ts
        return (v :: vs, ts)
      | .closeBracket :: ts => return ([v], ts)
      | _ => none

/-- The rest of a table between braces whose opening brace has been read; `fuel` bounds the number
of fields. -/
def fields? (value? : List Token → Option (Written × List Token)) :
    (fuel : Nat) → List Token → Option (List (WrittenKey × Written) × List Token)
  | 0, _ => none
  | fuel + 1, ts =>
    match skipGap ts with
    | .closeBrace :: ts => some ([], ts)
    | ts =>
      let (key, ts) := key ts
      match skipGap ts with
      | .equals :: ts => do
        let (v, ts) ← value? (skipGap ts)
        match skipGap ts with
        | .comma :: ts =>
          let (fields, ts) ← fields? value? fuel ts
          return ((key, v) :: fields, ts)
        | .closeBrace :: ts => return ([(key, v)], ts)
        | _ => none
      | _ => none

/-- A value in which at most `depth` brackets and braces are open at once. -/
def value? (depth : Nat) (ts : List Token) : Option (Written × List Token) :=
  match depth, ts with
  | depth + 1, .openBracket :: ts =>
    (items? (value? depth) (ts.length + 1) ts).map fun (vs, ts) => (.array vs, ts)
  | depth + 1, .openBrace :: ts =>
    (fields? (value? depth) (ts.length + 1) ts).map fun (fields, ts) => (.table fields, ts)
  | _, .quoted s :: ts => some (.scalar s, ts)
  | _, .word s :: ts =>
    let (text, ts) := words (.word s :: ts)
    some (.scalar text, ts)
  | _, .dot :: ts =>
    let (text, ts) := words (.dot :: ts)
    some (.scalar text, ts)
  | _, _ => none

/-- A value after an equal sign on a line of its own, where it can be missing. -/
def lineValue? (ts : List Token) : Option (Written × List Token) :=
  match ts with
  | [] | .newline :: _ | .comment :: _ | .comma :: _ => some (.scalar [], skipLine ts)
  | ts => value? maxDepth ts

/-- The tokens after the end of a line on which only blanks and a comment follow. -/
def lineEnd? (ts : List Token) : Option (List Token) :=
  match skipBlanks ts with
  | [] | [.comment] => some []
  | .newline :: ts | .comment :: .newline :: ts => some ts
  | _ => none

/-- A header whose opening brackets have been read, up to the end of its line; a key without its
last name may also lack the closing brackets. -/
def header? (closing : List Token) (make : WrittenKey → Statement) (ts : List Token) :
    Option (Statement × List Token) :=
  let (key, ts) := key ts
  match closing.isPrefixOf? ts with
  | some ts => some (make key, ts)
  | none => if key.getLast? = some [] then some (make key, skipLine ts) else none

/-- What a line says that is not empty, and the tokens after what it says. -/
def read? : List Token → Option (Statement × List Token)
  | .openBracket :: .openBracket :: ts => header? [.closeBracket, .closeBracket] .repeated ts
  | .openBracket :: ts => header? [.closeBracket] .header ts
  | .closeBracket :: _ | .comma :: _ | .openBrace :: _ | .closeBrace :: _ => none
  | ts =>
    let (key, ts) := key ts
    match ts with
    | .equals :: ts =>
      (lineValue? (skipBlanks ts)).map fun (v, ts) => (.entry key v, ts)
    | _ => none

/-- The statements of a text; `fuel` bounds the number of lines. -/
def readAll? : (fuel : Nat) → List Token → Option (List Statement)
  | 0, ts => if ts.isEmpty then some [] else none
  | fuel + 1, ts =>
    match skipGap ts with
    | [] => some []
    | ts => do
      let (statement, ts) ← read? ts
      let ts ← lineEnd? ts
      let statements ← readAll? fuel ts
      return statement :: statements

end Statement

/-- What the lines of a text say. -/
def statements? (s : List Char) : Option (List Statement) := do
  let ts ← Token.lex? s
  Statement.readAll? (ts.length + 1) ts

end CppAdvice.Toml
