import CppAdvice.Document.Load
import CppAdvice.Host.Basic

/-!
# Documents in files

Reading a document from a file. A document that does not name its file is named after the path it
was read from.
-/

namespace CppAdvice.Document

/-- Why a file gives no document. -/
inductive ReadFault where
  | trouble (t : Trouble)
  | fault (f : Fault)

/-- The wording of the complaint. -/
def ReadFault.message : ReadFault → String
  | .trouble t => "I/O error: " ++ t.message
  | .fault f => f.message

/-- The complaint with its cause after it, where it has one. -/
def ReadFault.account : ReadFault → String
  | .trouble t => "I/O error: " ++ t.message ++ ": " ++ t.message
  | .fault f => f.message

/-- The document with a name for its file, unless it has one. -/
def named (d : Document) (name : String) : Document :=
  if d.file.isEmpty then { d with file := name } else d

variable {m : Type → Type} [Monad m]

/-- The document in the file at a path. -/
def ofFile (host : Host m) (path : Path) : ExceptT ReadFault m Document := do
  match ← host.read path with
  | .error t => throw (.trouble t)
  | .ok text =>
    match load text with
    | .error f => throw (.fault f)
    | .ok d => return d.named path.text

end CppAdvice.Document
