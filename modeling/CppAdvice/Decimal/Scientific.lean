import CppAdvice.Text.Pieces

/-!
# Decimals with an exponent

A decimal as a whole number and a power of ten, and whether it lies within the range of doubles.
-/

namespace CppAdvice.Decimal

/-- The number `digits * 10^exponent`. -/
structure Scientific where
  digits : Nat
  exponent : Int
deriving Repr, DecidableEq

namespace Scientific

/-- The least whole number that no double is nearest to: half a step beyond the greatest double. -/
def doubleLimit : Nat :=
  Nat.pow 2 1024 - Nat.pow 2 970

/-- Whether some double is nearest to the number. The limit has 309 digits, so only numbers with as
many digits before their point have to be compared with it. -/
def fitsDouble (x : Scientific) : Bool :=
  let places := (Text.decimalDigits x.digits).length + x.exponent
  if x.digits = 0 || places < 309 then true
  else if 309 < places then false
  else if 0 ≤ x.exponent then x.digits * Nat.pow 10 x.exponent.toNat < doubleLimit
  else x.digits < doubleLimit * Nat.pow 10 (-x.exponent).toNat

end Scientific

end CppAdvice.Decimal
