/-!
# Indexes

Values that are found again by a key. A key has one value at most, the one that was entered last.
-/

namespace CppAdvice

/-- Values by key, each key once. -/
structure Index (κ ν : Type) where
  entries : List (κ × ν) := []
deriving Repr, DecidableEq

namespace Index

variable {κ ν : Type} [DecidableEq κ]

/-- The value of a key. -/
def get? (m : Index κ ν) (key : κ) : Option ν :=
  m.entries.lookup key

/-- Gives a key a value, in place of any other. -/
def insert (m : Index κ ν) (key : κ) (value : ν) : Index κ ν :=
  ⟨(key, value) :: m.entries.filter (·.1 ≠ key)⟩

/-- Puts something at the end of the list of a key. -/
def push (m : Index κ (List ν)) (key : κ) (value : ν) : Index κ (List ν) :=
  m.insert key ((m.get? key).getD [] ++ [value])

end Index

end CppAdvice
