import CppAdvice.Path

/-!
# The host of a run

What a run may ask of the machine: what stands at a path, what a file holds, what a directory lists,
and the text on the standard input.
-/

namespace CppAdvice

/-- Why a path cannot be used. -/
inductive Trouble where
  | missing
  | notDirectory
  | isDirectory
  /-- The path or one of its names has more bytes than a host takes. -/
  | tooLong
  /-- The path holds the character that ends texts for a host. -/
  | hasNul
  /-- Anything else, in the words of the host. -/
  | other (text : String)
deriving Repr, DecidableEq

/-- The wording of the trouble. -/
def Trouble.message : Trouble → String
  | .missing => "No such file or directory (os error 2)"
  | .notDirectory => "Not a directory (os error 20)"
  | .isDirectory => "Is a directory (os error 21)"
  | .tooLong => "File name too long (os error 36)"
  | .hasNul => "file name contained an unexpected NUL byte"
  | .other text => text

/-- What can stand at a path. -/
inductive FileKind where
  | file
  | directory
  | other
deriving Repr, DecidableEq

/-- The questions that a run may ask, each answered in `m`. -/
structure Host (m : Type → Type) where
  kind : Path → m (Except Trouble FileKind)
  read : Path → m (Except Trouble String)
  /-- The names in a directory, and what each of them is. -/
  list : Path → m (Except Trouble (List (String × FileKind)))
  workingDirectory : m Path
  /-- The text on the standard input. -/
  input : m (Except Trouble String)

namespace Host

variable {m : Type → Type} [Monad m]

/-- Whether a file stands at a path. -/
def isFile (host : Host m) (p : Path) : m Bool := do
  match ← host.kind p with
  | .ok .file => return true
  | _ => return false

/-- Trouble with a path that was not named by the user. -/
structure ListFault where
  path : Path
  trouble : Trouble
deriving Repr, DecidableEq

/-- The wording of the complaint. -/
def ListFault.message (f : ListFault) : String :=
  "IO error for operation on " ++ f.path.text ++ ": " ++ f.trouble.message

/-- The files below a directory, down to the given depth, without those in directories that are
skipped. -/
def filesBelow (host : Host m) (skips : String → Bool) :
    Nat → Path → ExceptT ListFault m (List Path)
  | 0, _ => return []
  | depth + 1, dir => do
    match ← host.list dir with
    | .error trouble => throw { path := dir, trouble }
    | .ok entries =>
      let found ← entries.mapM fun (name, kind) =>
        match kind with
        | .file => return [dir.join name]
        | .directory =>
          if skips name then return [] else filesBelow host skips depth (dir.join name)
        | .other => return []
      return found.flatten

/-- The first number of bytes that a path cannot have. -/
def pathLimit : Nat := 4096

/-- The greatest number of bytes in a name. -/
def nameLimit : Nat := 255

/-- No directory lies deeper, since every step down takes a byte of the path. -/
def maxDepth : Nat := pathLimit

end Host

end CppAdvice
