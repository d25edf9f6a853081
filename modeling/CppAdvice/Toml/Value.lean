import CppAdvice.Decimal.Scientific

/-!
# Settings text: values and tables

A settings text is a table of named values, and its lines add to the table one after another. How a
table came about decides what later lines may still add to it, so a table remembers that as its
form.
-/

namespace CppAdvice

namespace Toml

/-- How a table came about. -/
inductive Form where
  /-- A header below it named it on the way. -/
  | implied
  /-- A dotted key named it on the way. -/
  | dotted
  /-- It has a header of its own, or it is the whole text. -/
  | header
  /-- It stands between braces, and nothing can be added to it. -/
  | closed
deriving Repr, DecidableEq

end Toml

/-- A value in a settings text. Of a date or time nothing is kept. -/
inductive Toml where
  | string (s : String)
  | integer (n : Int)
  /-- A number with a fraction or an exponent, up to its sign; an infinity or no number has no
  digits. -/
  | float (magnitude : Option Decimal.Scientific)
  | boolean (b : Bool)
  | moment
  | array (items : List Toml)
  | table (form : Toml.Form) (entries : List (String × Toml))
  /-- The tables of one repeated header; there is at least one. -/
  | tables (earlier : List (List (String × Toml))) (last : List (String × Toml))

namespace Toml

/-- Named values, in the order in which they were added. -/
abbrev Table := List (String × Toml)

namespace Table

/-- The value of a name. -/
def get? (t : Table) (name : String) : Option Toml :=
  t.lookup name

/-- Gives a name a value, in its old place if it has one. -/
def put (t : Table) (name : String) (value : Toml) : Table :=
  match t with
  | [] => [(name, value)]
  | (n, v) :: t => if n = name then (n, value) :: t else (n, v) :: put t name value

/-- Adds a value under a new name. -/
def add? (t : Table) (name : String) (value : Toml) : Option Table :=
  if (t.get? name).isSome then none else some (t.put name value)

/-- Adds the table of a header, which may have been implied before but not more than that. -/
def open? (t : Table) (name : String) : Option Table :=
  match t.get? name with
  | none => some (t.put name (.table .header []))
  | some (.table .implied inner) => some (t.put name (.table .header inner))
  | some _ => none

/-- Adds one more table of a repeated header. -/
def append? (t : Table) (name : String) : Option Table :=
  match t.get? name with
  | none => some (t.put name (.tables [] []))
  | some (.tables earlier last) => some (t.put name (.tables (earlier ++ [last]) []))
  | some _ => none

end Table

/-- Who names the tables on the way to a value. -/
inductive Route where
  | header
  | dotted
deriving Repr, DecidableEq

namespace Route

/-- The form of a table that is named here for the first time. -/
def form : Route → Form
  | .header => .implied
  | .dotted => .dotted

/-- Whether a table may be entered; `final` when the value goes right into it. A dotted key enters
no table with a header of its own, and adds only to tables of dotted keys. -/
def enters (r : Route) (form : Form) (final : Bool) : Bool :=
  match r, form with
  | _, .closed => false
  | .header, _ => true
  | .dotted, .dotted => true
  | .dotted, .implied => !final
  | .dotted, .header => false

/-- Whether the last table of a repeated header may be entered. -/
def entersLast (r : Route) (final : Bool) : Bool :=
  match r with
  | .header => true
  | .dotted => !final

end Route

/-- Changes the table at the end of a path, naming the tables on the way. -/
def Table.descend? (r : Route) (change : Table → Option Table) : List String → Table → Option Table
  | [], t => change t
  | name :: path, t =>
    match t.get? name with
    | none => (descend? r change path []).map fun inner => t.put name (.table r.form inner)
    | some (.table form inner) =>
      if r.enters form path.isEmpty then
        (descend? r change path inner).map fun inner => t.put name (.table form inner)
      else none
    | some (.tables earlier last) =>
      if r.entersLast path.isEmpty then
        (descend? r change path last).map fun last => t.put name (.tables earlier last)
      else none
    | some _ => none

/-- The first number that does not fit in 128 bits. -/
def wideSize : Nat := UInt64.size * UInt64.size

/-- Whether a number fits in 128 bits, with or without a sign. -/
def isWide (n : Int) : Bool :=
  if 0 ≤ n then n.natAbs < wideSize else n.natAbs ≤ wideSize / 2

mutual

/-- Whether every number in a value can be held. -/
def isSound : Toml → Bool
  | .integer n => isWide n
  | .float (some x) => x.fitsDouble
  | .array items => areSound items
  | .table _ entries => entriesSound entries
  | .tables earlier last => tablesSound earlier && entriesSound last
  | _ => true

/-- Whether every number in several values can be held. -/
def areSound : List Toml → Bool
  | [] => true
  | v :: vs => v.isSound && areSound vs

/-- Whether every number in the values of a table can be held. -/
def entriesSound : List (String × Toml) → Bool
  | [] => true
  | (_, v) :: entries => v.isSound && entriesSound entries

/-- Whether every number in the values of several tables can be held. -/
def tablesSound : List (List (String × Toml)) → Bool
  | [] => true
  | entries :: others => entriesSound entries && tablesSound others

end

/-- The names of a key: those on the way, and the last one. -/
structure Key where
  path : List String
  name : String
deriving Repr, DecidableEq

/-- Adds a value under a key. -/
def Table.insert? (t : Table) (key : Key) (value : Toml) : Option Table :=
  t.descend? .dotted (·.add? key.name value) key.path

end Toml

end CppAdvice
