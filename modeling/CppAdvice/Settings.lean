import CppAdvice.Finding.Basic
import CppAdvice.Registry

/-!
# Levels of checks

Which checks may report. A check that is not mentioned may.
-/

namespace CppAdvice

/-- Levels by id, each id once. -/
structure Settings where
  levels : List (String × Level) := []
deriving Repr, DecidableEq

namespace Settings

/-- Sets the level of a check, by any of its names. -/
def set (s : Settings) (name : String) (level : Level) : Settings :=
  let id := resolveCheck name
  ⟨(id, level) :: s.levels.filter (·.1 ≠ id)⟩

/-- Sets several levels. -/
def withLevels (s : Settings) (levels : List (String × Level)) : Settings :=
  levels.foldl (fun s (name, level) => s.set name level) s

/-- Silences checks. -/
def disable (s : Settings) (names : List String) : Settings :=
  names.foldl (fun s name => s.set name .allow) s

/-- The level of a check, by its id or else by any of its names. -/
def levelFor (s : Settings) (name : String) : Level :=
  ((s.levels.lookup name).or (s.levels.lookup (resolveCheck name))).getD .warn

end Settings

end CppAdvice
