import CppAdvice.Config
import CppAdvice.Host.Basic

/-!
# Settings files

The file that holds the choices for a directory and all below it, and how it is found: in the
directory itself, or else in the nearest directory above that has one.
-/

namespace CppAdvice.Config

/-- The name of settings files. -/
def fileName : String := "cxx-clippy.toml"

/-- Why a settings file gives no choices. -/
inductive Fault where
  | unreadable (path : Path) (trouble : Trouble)
  | unusable (path : Path) (cause : Toml.Fault)
deriving Repr, DecidableEq

/-- The wording of a complaint about a settings text. -/
def textComplaint : Toml.Fault → String
  | .malformed => "TOML parse error"
  | .deepKey => "recursion limit"

/-- The wording of the complaint. -/
def Fault.message : Fault → String
  | .unreadable path trouble =>
    "failed to read config file: " ++ path.text ++ ": " ++ trouble.message
  | .unusable path cause =>
    "failed to parse config file: " ++ path.text ++ ": " ++ textComplaint cause

variable {m : Type → Type} [Monad m]

/-- The choices of the file at a path. -/
def ofFile (host : Host m) (path : Path) : ExceptT Fault m Config := do
  match ← host.read path with
  | .error trouble => throw (.unreadable path trouble)
  | .ok text =>
    match parse text with
    | .ok c => return c
    | .error cause => throw (.unusable path cause)

/-- The settings file of a directory. -/
def find? (host : Host m) (start : Path) : m (Option Path) :=
  (start.upward.map (·.join fileName)).findM? host.isFile

/-- The choices of the given file, or else of the settings file of the directory `start`, with the
path they come from. -/
def load (host : Host m) (given : Option Path) (start : Path) :
    ExceptT Fault m (Option (Path × Config)) := do
  match given with
  | some path => return some (path, ← ofFile host path)
  | none =>
    match ← (find? host start : m (Option Path)) with
    | some path => return some (path, ← ofFile host path)
    | none => return none

end CppAdvice.Config
