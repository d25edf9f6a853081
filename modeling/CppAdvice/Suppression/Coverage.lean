import CppAdvice.Suppression.Directive

/-!
# Silenced rows

The rows of a source file on which checks are silenced. A region runs from the row of its opening
comment to the row of its closing one, both included. A closing comment belongs to the latest open
region with the same filter; regions that stay open run to the last row.
-/

namespace CppAdvice.Suppression

/-- A run of rows with a filter. -/
structure Region where
  first : Nat
  last : Nat
  filter : Filter
deriving Repr, DecidableEq

/-- The silenced rows of a source file. -/
structure Coverage where
  rows : List (Nat × Filter) := []
  regions : List Region := []
deriving Repr, DecidableEq

namespace Coverage

/-- What is known after some rows: the silenced rows, and the open regions, latest first. -/
structure Progress where
  coverage : Coverage := {}
  opened : List (Nat × Filter) := []

/-- Adds a silenced row. -/
def addRow (c : Coverage) (row : Nat) (filter : Filter) : Coverage :=
  { c with rows := c.rows ++ [(row, filter)] }

/-- Adds a region. -/
def addRegion (c : Coverage) (region : Region) : Coverage :=
  { c with regions := c.regions ++ [region] }

namespace Progress

/-- Takes in the directive on a row. -/
def step (p : Progress) (row : Nat) (d : Directive) : Progress :=
  match d.form with
  | .line => { p with coverage := p.coverage.addRow row d.filter }
  | .nextLine => { p with coverage := p.coverage.addRow (row + 1) d.filter }
  | .opening => { p with opened := (row, d.filter) :: p.opened }
  | .closing =>
    match p.opened.find? (·.2 = d.filter) with
    | none => p
    | some (first, filter) =>
      { coverage := p.coverage.addRegion ⟨first, row, filter⟩
        opened := p.opened.eraseP (·.2 = d.filter) }

/-- Takes in lines, the first of which has the given row. -/
def read (p : Progress) (row : Nat) : List (List Char) → Progress
  | [] => p
  | line :: lines =>
    match Directive.ofLine? line with
    | some d => (p.step row d).read (row + 1) lines
    | none => p.read (row + 1) lines

/-- Closes the open regions at the last row. -/
def finish (p : Progress) (lastRow : Nat) : Coverage :=
  p.opened.reverse.foldl (fun c (first, filter) => c.addRegion ⟨first, lastRow, filter⟩) p.coverage

end Progress

/-- The silenced rows of a source text. -/
def ofSource (source : List Char) : Coverage :=
  let lines := Text.lines source
  (Progress.read {} 1 lines).finish lines.length

/-- Whether nothing is silenced. -/
def isEmpty (c : Coverage) : Bool :=
  c.rows.isEmpty && c.regions.isEmpty

/-- Whether a check is silenced on a row. -/
def covers (c : Coverage) (row : Nat) (check : Descriptor) : Bool :=
  (c.rows.any fun (r, filter) => r = row && filter.covers check) ||
    c.regions.any fun region =>
      region.first ≤ row && row ≤ region.last && region.filter.covers check

end Coverage

end CppAdvice.Suppression
