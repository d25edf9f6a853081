import CppAdvice.Toml.Scalar
import CppAdvice.Toml.Statement

/-!
# Settings text: reading

The table of a settings text. The text is first taken apart into statements; only then are names and
values read, one statement after another, and the first fault among them is the one reported.
-/

namespace CppAdvice.Toml

/-- Why a settings text has no table. -/
inductive Fault where
  /-- A statement, a name or a value is not written as it has to be, or comes too late. -/
  | malformed
  /-- A key has too many names. -/
  | deepKey
deriving Repr, DecidableEq

/-- What is there, or else a complaint about how it is written. -/
def orMalformed {α : Type} : Option α → Except Fault α
  | some a => .ok a
  | none => .error .malformed

/-- The greatest number of names in a key. -/
def maxNames : Nat := 80

/-- The key that is written with the given names. -/
def Key.ofWritten (names : WrittenKey) : Except Fault Key := do
  let names ← names.mapM fun s => orMalformed (name? s)
  if maxNames < names.length then throw .deepKey
  match names.getLast? with
  | some name => return ⟨names.dropLast, name⟩
  | none => throw .malformed

mutual

/-- The value that is written in a given way. -/
def ofWritten : Written → Except Fault Toml
  | .scalar text => orMalformed (scalar? text)
  | .array items => do return .array (← itemsOfWritten items)
  | .table fields => do return .table .closed (← fieldsOfWritten fields [])

/-- The items of an array. -/
def itemsOfWritten : List Written → Except Fault (List Toml)
  | [] => return []
  | item :: items => do return (← ofWritten item) :: (← itemsOfWritten items)

/-- Adds the fields of a table between braces to those before them. -/
def fieldsOfWritten : List (WrittenKey × Written) → Table → Except Fault Table
  | [], t => return t
  | (names, value) :: fields, t => do
    let key ← Key.ofWritten names
    let value ← ofWritten value
    let t ← orMalformed (t.insert? key value)
    fieldsOfWritten fields t

end

/-- Adds what statements say to a table; `path` leads to the table that entries go to. -/
def Table.addStatements (t : Table) (path : List String) : List Statement → Except Fault Table
  | [] => return t
  | .entry names value :: rest => do
    let key ← Key.ofWritten names
    let value ← ofWritten value
    let t ← orMalformed (t.descend? .header (·.insert? key value) path)
    addStatements t path rest
  | .header names :: rest => do
    let key ← Key.ofWritten names
    let t ← orMalformed (t.descend? .header (·.open? key.name) key.path)
    addStatements t (key.path ++ [key.name]) rest
  | .repeated names :: rest => do
    let key ← Key.ofWritten names
    let t ← orMalformed (t.descend? .header (·.append? key.name) key.path)
    addStatements t (key.path ++ [key.name]) rest

/-- The text without a byte order mark in front. -/
def dropMark : List Char → List Char
  | '\ufeff' :: s => s
  | s => s

/-- The table of a whole settings text. -/
def parse (text : String) : Except Fault Table := do
  let statements ← orMalformed (statements? (dropMark text.toList))
  Table.addStatements [] [] statements

end CppAdvice.Toml
