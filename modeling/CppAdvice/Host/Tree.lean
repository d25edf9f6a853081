import CppAdvice.Host.Basic

/-!
# Files in memory

A host whose files are a value: a tree of directories from the root on, and the way down to the
working directory.
-/

namespace CppAdvice

/-- A file with its text, or a directory with its entries. -/
inductive FileTree where
  | file (text : String)
  | directory (entries : List (String × FileTree))

namespace FileTree

/-- The entries of a directory. -/
abbrev Entries := List (String × FileTree)

/-- Gives a name an entry, in place of the one it had. -/
def Entries.put (name : String) (t : FileTree) : Entries → Entries
  | [] => [(name, t)]
  | (n, old) :: es => if n = name then (name, t) :: es else (n, old) :: put name t es

/-- Adds a file or an empty directory at the end of a way down, and the directories on it. -/
def Entries.add (t : FileTree) : List String → Entries → Entries
  | [], es => es
  | [name], es =>
    match t, es.lookup name with
    | .directory _, some (.directory _) => es
    | _, _ => es.put name t
  | name :: way, es =>
    match es.lookup name with
    | some (.directory inner) => es.put name (.directory (add t way inner))
    | _ => es.put name (.directory (add t way []))

/-- Goes through the pieces of a path from a tree with the given trees above it. Every piece needs a
directory to start from, and nothing is above the root. -/
def follow (t : FileTree) (above : List FileTree) : List (List Char) → Except Trouble FileTree
  | [] => .ok t
  | piece :: pieces =>
    match t with
    | .file _ => .error .notDirectory
    | .directory es =>
      if Path.isIdle piece then follow t above pieces
      else if piece = ['.', '.'] then
        match above with
        | [] => follow t [] pieces
        | up :: above => follow up above pieces
      else if Host.nameLimit < (String.ofList piece).utf8ByteSize then .error .tooLong
      else
        match es.lookup (String.ofList piece) with
        | some t' => follow t' (t :: above) pieces
        | none => .error .missing

/-- What a tree is. -/
def kind : FileTree → FileKind
  | .file _ => .file
  | .directory _ => .directory

/-- The text of a file. -/
def read : FileTree → Except Trouble String
  | .file text => .ok text
  | .directory _ => .error .isDirectory

/-- The names in a directory, and what each of them is. -/
def list : FileTree → Except Trouble (List (String × FileKind))
  | .file _ => .error .notDirectory
  | .directory es => .ok (es.map fun (name, t) => (name, t.kind))

end FileTree

/-- A tree of directories from the root on, and the way down to the working directory. -/
structure Disk where
  root : FileTree
  working : List String

namespace Disk

/-- The working directory of disks that are given by their files. -/
def home : String := "workspace"

/-- The disk with the given files, each named from the working directory; a name with a slash at its
end is an empty directory. -/
def ofFiles (files : List (String × String)) : Disk where
  root := .directory (files.foldl (fun es (name, text) =>
    let t := if Text.endsWith ['/'] name.toList then .directory [] else .file text
    FileTree.Entries.add t (Path.way [home] ⟨name⟩) es) [(home, .directory [])])
  working := [home]

/-- What stands at a path; nothing stands at the empty path. -/
def find (d : Disk) (p : Path) : Except Trouble FileTree :=
  if '\x00' ∈ p.text.toList then .error .hasNul
  else if Host.pathLimit ≤ p.text.utf8ByteSize then .error .tooLong
  else
    match p.text.toList with
    | [] => .error .missing
    | '/' :: _ => d.root.follow [] p.pieces
    | _ => d.root.follow [] (d.working.map (·.toList) ++ p.pieces)

/-- The path of the working directory, from the root on. -/
def workingDirectory (d : Disk) : Path :=
  .ofPieces ([] :: d.working.map (·.toList))

end Disk

/-- The host with the given files and the given text on its standard input. -/
def Host.ofTree (d : Disk) (input : String) : Host Id where
  kind p := (d.find p).map (·.kind)
  read p := (d.find p).bind (·.read)
  list p := (d.find p).bind (·.list)
  workingDirectory := d.workingDirectory
  input := .ok input

end CppAdvice
