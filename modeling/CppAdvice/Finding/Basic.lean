import CppAdvice.Check.Descriptor
import CppAdvice.Text.Position
import CppAdvice.Tree.Node

/-!
# Findings

A piece of advice on a place in a source file, with notes and possibly a replacement.
-/

namespace CppAdvice

/-- Whether a check may report. There is no level that fails a build. -/
inductive Level where
  | allow
  | warn
deriving Repr, DecidableEq

/-- The name of a level in reports. -/
def Level.label : Level → String
  | .allow => "allow"
  | .warn => "warning"

/-- A remark on a finding; `alternative` names the facility that it is about. -/
structure Note where
  message : String
  alternative : Option String := none
deriving Repr, DecidableEq

/-- A replacement for a piece of source text. -/
structure FixIt where
  range : Tree.SourceRange
  replaced : String
  replacement : String
deriving Repr, DecidableEq

/-- A piece of advice. -/
structure Finding where
  check : Descriptor
  level : Level
  file : String
  range : Tree.SourceRange
  start : Text.Position
  stop : Text.Position
  message : String
  notes : List Note
  fixit : Option FixIt
deriving Repr, DecidableEq

end CppAdvice
