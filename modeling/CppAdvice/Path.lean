import CppAdvice.Text.Pieces

/-!
# Paths

The text that names a file or a directory, with slashes between its pieces. A path keeps its text as
it was given; empty pieces, and pieces of one point other than the first, say nothing, so two texts
can name the same way.
-/

namespace CppAdvice

/-- The text that names a file or a directory. -/
structure Path where
  text : String
deriving Repr, DecidableEq

namespace Path

/-- What lies between the slashes of a path. -/
def pieces (p : Path) : List (List Char) :=
  p.text.toList.splitOn '/'

/-- Whether a piece that is not the first says nothing. -/
def isIdle (piece : List Char) : Bool :=
  piece.isEmpty || piece = ['.']

/-- The pieces without those at the end that say nothing. -/
def trimPieces : List (List Char) → List (List Char)
  | [] => []
  | first :: rest => first :: (rest.reverse.dropWhile isIdle).reverse

/-- The path with the given pieces. -/
def ofPieces (pieces : List (List Char)) : Path :=
  if pieces = [[]] then ⟨"/"⟩ else ⟨String.ofList (['/'].intercalate pieces)⟩

/-- The path without its last step. The empty path and the root have no parent, and the parent of a
single name is the empty path. -/
def parent? (p : Path) : Option Path :=
  match trimPieces p.pieces with
  | [] | [[]] => none
  | [_] => some ⟨""⟩
  | pieces => some (ofPieces (trimPieces pieces.dropLast))

/-- The first `count` of a path, its parent, the parent of that, and so on. -/
def climb : Nat → Path → List Path
  | 0, _ => []
  | count + 1, p => p :: p.parent?.elim [] (climb count)

/-- A path and all above it. A parent has fewer characters than the path below it. -/
def upward (p : Path) : List Path :=
  climb (p.text.length + 1) p

/-- The path of a name inside the directory at a path. -/
def join (p : Path) (name : String) : Path :=
  if p.text.isEmpty || Text.endsWith ['/'] p.text.toList then ⟨p.text ++ name⟩
  else ⟨p.text ++ "/" ++ name⟩

/-- A step of the way that a path names. -/
inductive Step where
  | root
  | here
  | up
  | down (name : String)
deriving Repr, DecidableEq

/-- The step that a piece stands for, if it says anything. -/
def Step.ofPiece? (piece : List Char) : Option Step :=
  if isIdle piece then none
  else if piece = ['.', '.'] then some .up
  else some (.down (String.ofList piece))

/-- The step that a first piece stands for: the root if it is empty, and the start if it is a
point. -/
def Step.ofFirst (piece : List Char) : Step :=
  if piece.isEmpty then .root else (ofPiece? piece).getD .here

/-- The steps of a path with the given pieces. -/
def Step.ofPieces : List (List Char) → List Step
  | [] | [[]] => []
  | first :: rest => ofFirst first :: rest.filterMap ofPiece?

/-- The way that a path names. -/
def steps (p : Path) : List Step :=
  Step.ofPieces p.pieces

/-- Goes a step on from the end of a way down from the root. -/
def Step.go (way : List String) : Step → List String
  | .root => []
  | .here => way
  | .up => way.dropLast
  | .down name => way ++ [name]

/-- The way down from the root to what a path names; paths without a root start at the end of the
way `working`. -/
def way (working : List String) (p : Path) : List String :=
  p.steps.foldl Step.go working

/-- The place of a step among its kind: the root first, then names in the order of their
characters. -/
def Step.rank : Step → Nat
  | .root => 0
  | .here => 1
  | .up => 2
  | .down _ => 3

/-- Whether one step comes before another. -/
def Step.before : Step → Step → Bool
  | .down a, .down b => a < b
  | a, b => a.rank < b.rank

/-- Whether one way comes before another or is the same: the first step in which they differ
decides. -/
def stepsLe : List Step → List Step → Bool
  | [], _ => true
  | _ :: _, [] => false
  | a :: as, b :: bs => a.before b || (a = b && stepsLe as bs)

/-- Whether a path comes before another or names the same way. -/
def le (p q : Path) : Bool :=
  stepsLe p.steps q.steps

/-- Of neighbours that name the same way, only the first. -/
def dedup : List Path → List Path
  | [] => []
  | [p] => [p]
  | p :: q :: ps => if p.steps = q.steps then dedup (p :: ps) else p :: dedup (q :: ps)
termination_by ps => ps.length

/-- Paths in order, each way once. -/
def sorted (ps : List Path) : List Path :=
  dedup (ps.mergeSort le)

end Path

end CppAdvice
