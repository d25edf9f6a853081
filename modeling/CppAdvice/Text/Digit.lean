/-!
# Digits

The values of digits in bases up to sixteen, and the numbers that digits spell.
-/

namespace CppAdvice.Text

/-- The value of a digit in a base up to sixteen; letters may be of either case. -/
def digitValue? (base : Nat) (c : Char) : Option Nat :=
  let value? :=
    if '0' ≤ c ∧ c ≤ '9' then some (c.toNat - '0'.toNat)
    else if 'a' ≤ c ∧ c ≤ 'f' then some (c.toNat - 'a'.toNat + 10)
    else if 'A' ≤ c ∧ c ≤ 'F' then some (c.toNat - 'A'.toNat + 10)
    else none
  value?.filter (· < base)

/-- The number that digits spell, the first being the most significant. -/
def ofDigits (base : Nat) (digits : List Nat) : Nat :=
  digits.foldl (fun n d => n * base + d) 0

/-- The number that a text of digits spells; a text without digits spells none. -/
def number? (base : Nat) (s : List Char) : Option Nat :=
  if s.isEmpty then none else (s.mapM (digitValue? base)).map (ofDigits base)

end CppAdvice.Text
