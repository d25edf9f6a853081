import CppAdvice.Registry
import CppAdvice.Settings
import CppAdvice.Language.Flags
import CppAdvice.Toml.Parser

/-!
# Configuration

The choices that a settings text makes: which checks stay out, the levels of others, the options of
checks, and the language standard of documents that record none.
-/

namespace CppAdvice

/-- The choices of a settings text. -/
structure Config where
  /-- The checks that do not run. -/
  disabled : List String := []
  levels : List (String × Level) := []
  options : Options := {}
  /-- The standard of documents that record no language. -/
  standard : Option String := none
deriving Repr, DecidableEq

namespace Config

/-- A group of settings: a table names its fields, an array gives them in order. -/
inductive Group where
  | named (fields : Toml.Table)
  | ordered (fields : List Toml)

/-- The group of settings that a value is; a date or time is one without any known field. -/
def Group.ofToml? : Toml → Option Group
  | .table _ fields => some (.named fields)
  | .array fields => some (.ordered fields)
  | .tables earlier last => some (.ordered ((earlier ++ [last]).map (.table .header)))
  | .moment => some (.named [])
  | _ => none

/-- The field of the given name and place, if it is there. Other named fields are passed over, but
have to be values that can be held. -/
def Group.field? (g : Group) (name : String) (place : Nat) : Option (Option Toml) :=
  match g with
  | .named fields =>
    if Toml.entriesSound (fields.filter (·.1 ≠ name)) then some (fields.get? name) else none
  | .ordered fields => some fields[place]?

/-- A string. -/
def string? : Toml → Option String
  | .string s => some s
  | _ => none

/-- A list of strings. -/
def strings? : Toml → Option (List String)
  | .array items => items.mapM string?
  | _ => none

/-- A whole number from `0` to `2^64 - 1`. -/
def size? : Toml → Option Nat
  | .integer n => if 0 ≤ n ∧ n.toNat < UInt64.size then some n.toNat else none
  | _ => none

/-- The level of the given name. -/
def levelNamed? : String → Option Level
  | "allow" => some .allow
  | "warn" => some .warn
  | _ => none

/-- A level, by its name. -/
def level? : Toml → Option Level
  | .string name => levelNamed? name
  | _ => none

/-- The checks that do not run, and the levels of all others named. -/
def checks? : Toml → Option (List String × List (String × Level))
  | .table _ fields => do
    let disabled ← (Toml.Table.get? fields "disabled").elim (some []) strings?
    let levels ← (fields.filter (·.1 ≠ "disabled")).mapM fun (name, v) => (level? v).map (name, ·)
    return (disabled, levels)
  | _ => none

/-- The options of checks. -/
def options? (v : Toml) : Option Options := do
  let group ← Group.ofToml? v
  match ← group.field? "prefer-inplace-vector" 0 with
  | none => return {}
  | some v =>
    let group ← Group.ofToml? v
    match ← group.field? "max-inplace-size" 0 with
    | none => return {}
    | some v => return ⟨← size? v⟩

/-- The standard of documents that record no language. -/
def standard? (v : Toml) : Option (Option String) := do
  let group ← Group.ofToml? v
  match ← group.field? "std" 0 with
  | none => return none
  | some v => return some (← string? v)

/-- The names that a settings text gives values to. -/
def groupNames : List String := ["checks", "options", "analysis"]

/-- The choices that a table of settings makes; names that mean nothing here are passed over, but
have to have values that can be held. -/
def ofTable? (t : Toml.Table) : Option Config := do
  guard (Toml.entriesSound (t.filter (·.1 ∉ groupNames)))
  let (disabled, levels) ← (t.get? "checks").elim (some ([], [])) checks?
  let options ← (t.get? "options").elim (some {}) options?
  let standard ← (t.get? "analysis").elim (some none) standard?
  return { disabled, levels, options, standard }

/-- The choices of a settings text, if it is well formed and every choice is one. -/
def parse (text : String) : Except Toml.Fault Config := do
  let t ← Toml.parse text
  Toml.orMalformed (ofTable? t)

/-- A standard in a settings text that is none. -/
structure StandardFault where
  fault : Language.UnknownStandard
deriving Repr, DecidableEq

/-- The wording of the complaint. -/
def StandardFault.message (f : StandardFault) : String :=
  "invalid [analysis] std value: " ++ f.fault.name ++ ": " ++ f.fault.message

/-- The language flags of documents that record none. -/
def language (c : Config) : Except StandardFault (Option Language.Flags) :=
  match c.standard with
  | none => .ok none
  | some name =>
    match Language.Flags.ofStandard name with
    | .ok flags => .ok (some flags)
    | .error fault => .error ⟨fault⟩

/-- The levels that the choices set, checks that do not run included. -/
def settings (c : Config) : Settings :=
  (Settings.withLevels {} c.levels).disable c.disabled

end Config

end CppAdvice
