import CppAdvice.Registry
import CppAdvice.Text.Blank
import CppAdvice.Text.Lines

/-!
# Silencing comments

A comment can silence checks on its own line, on the next one, or from one comment to another. A
list of names in brackets says which checks; without one it means all of them.
-/

namespace CppAdvice.Suppression

/-- Which checks a comment silences. -/
inductive Filter where
  | all
  | names (list : List String)
deriving Repr, DecidableEq

namespace Filter

/-- The filter that a written list stands for. An empty list, or a star in it, means all checks. -/
def ofList (list : List Char) : Filter :=
  let names := ((list.splitOn ',').map Text.trim).filter (!·.isEmpty)
  if names.isEmpty || names.contains ['*'] then .all else .names (names.map String.ofList)

/-- Whether a written name stands for a check. A star at its end covers every check whose id or
older name starts with what stands before it. -/
def nameCovers (check : Descriptor) (name : String) : Bool :=
  match Text.dropEnd? ['*'] name.toList with
  | some lead => lead.isPrefixOf check.id.toList || lead.isPrefixOf check.legacyName.toList
  | none => resolveCheck name = check.id

/-- Whether the filter covers a check. -/
def covers (check : Descriptor) : Filter → Bool
  | .all => true
  | .names list => list.any (nameCovers check)

end Filter

/-- What a comment silences. -/
inductive Form where
  | line
  | nextLine
  /-- From here on. -/
  | opening
  /-- Up to here. -/
  | closing
deriving Repr, DecidableEq

/-- A silencing comment. -/
structure Directive where
  form : Form
  filter : Filter
deriving Repr, DecidableEq

namespace Directive

/-- The text of the comment on a line: after the first `//`, or else after the first `/*`. -/
def comment? (line : List Char) : Option (List Char) :=
  (Text.afterFirst? ['/', '/'] line).or (Text.afterFirst? ['/', '*'] line)

/-- The form that is spelled at the start of a text, and what stands after it. -/
def formAt (s : List Char) : Form × List Char :=
  match "NEXTLINE".toList.isPrefixOf? s with
  | some rest => (.nextLine, rest)
  | none =>
    match "BEGIN".toList.isPrefixOf? s with
    | some rest => (.opening, rest)
    | none =>
      match "END".toList.isPrefixOf? s with
      | some rest => (.closing, rest)
      | none => (.line, s)

/-- Whether a character would make a longer word of the one before it. -/
def continuesWord (c : Char) : Bool :=
  c.isAlphanum || c = '_'

/-- The filter that is spelled at the start of a text. A list without its closing bracket is
none. -/
def filterAt : List Char → Filter
  | '(' :: s =>
    match Text.beforeFirst? ')' s with
    | some list => .ofList list
    | none => .all
  | _ => .all

/-- The directive on a line. -/
def ofLine? (line : List Char) : Option Directive := do
  let comment ← comment? line
  let rest ← Text.afterFirst? "NOLINT".toList comment
  let (form, rest) := formAt rest
  if rest.head?.any continuesWord then none
  else some ⟨form, filterAt rest⟩

end Directive

end CppAdvice.Suppression
