/-!
# Operators

The binary operators that a tree tells apart.
-/

namespace CppAdvice.Tree

/-- A binary operator. -/
inductive Opcode where
  | eq
  | ne
  | lt
  | gt
  | le
  | ge
  | spaceship
  | shl
  | shr
  | add
  | sub
  | mul
  | div
  | rem
  | assign
  | logicalAnd
  | logicalOr
  | other
deriving Repr, DecidableEq

namespace Opcode

/-- The operators that have a spelling of their own. -/
def spelled : List Opcode :=
  [.eq, .ne, .lt, .gt, .le, .ge, .spaceship, .shl, .shr, .add, .sub, .mul, .div, .rem, .assign,
    .logicalAnd, .logicalOr]

/-- How the operator is written; any other operator shows as a question mark. -/
def spelling : Opcode → String
  | .eq => "=="
  | .ne => "!="
  | .lt => "<"
  | .gt => ">"
  | .le => "<="
  | .ge => ">="
  | .spaceship => "<=>"
  | .shl => "<<"
  | .shr => ">>"
  | .add => "+"
  | .sub => "-"
  | .mul => "*"
  | .div => "/"
  | .rem => "%"
  | .assign => "="
  | .logicalAnd => "&&"
  | .logicalOr => "||"
  | .other => "?"

/-- The operator with the given spelling; every unknown spelling is `other`. -/
def ofSpelling (s : String) : Opcode :=
  (spelled.find? fun op => op.spelling = s).getD .other

end Opcode

end CppAdvice.Tree
