/-!
# Language tiers

The editions of C++ that advice depends on, in order. A tier stands for what a program may use, so
tiers are only ever compared by "at least".
-/

namespace CppAdvice.Language

/-- An edition of C++; `unknown` is anything older than C++17. -/
inductive Tier where
  | unknown
  | cpp17
  | cpp20
  | cpp23
  | cpp26
deriving Repr, DecidableEq

namespace Tier

/-- All tiers, from the lowest up. -/
def all : List Tier :=
  [.unknown, .cpp17, .cpp20, .cpp23, .cpp26]

/-- The place of a tier in the order. -/
def rank : Tier → Nat
  | .unknown => 0
  | .cpp17 => 1
  | .cpp20 => 2
  | .cpp23 => 3
  | .cpp26 => 4

/-- Tiers are in the order of their ranks. -/
instance : LE Tier := ⟨fun a b => a.rank ≤ b.rank⟩

/-- The order of tiers can be decided. -/
instance (a b : Tier) : Decidable (a ≤ b) :=
  inferInstanceAs (Decidable (a.rank ≤ b.rank))

/-- Whether what `required` allows is allowed. -/
def atLeast (tier required : Tier) : Bool :=
  required ≤ tier

/-- The name of the edition. -/
def label : Tier → String
  | .unknown => "unknown"
  | .cpp17 => "C++17"
  | .cpp20 => "C++20"
  | .cpp23 => "C++23"
  | .cpp26 => "C++26"

/-- The name of the edition as a requirement. -/
def requirement : Tier → String
  | .unknown => "any C++"
  | tier => tier.label

end Tier

end CppAdvice.Language
