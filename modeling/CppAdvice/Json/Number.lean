/-!
# Numbers as they are written

A number literal keeps what was written. Whole numbers that fit a 64-bit word are kept apart from
all others, which stand for double-precision values.
-/

namespace CppAdvice.Json

/-- The digits of a literal that stands for a double-precision value. -/
structure Decimal where
  negative : Bool
  /-- Digits before the point. -/
  whole : List Nat
  /-- Digits after the point. -/
  fraction : List Nat
  exponent : Int
deriving Repr, DecidableEq

/-- A number literal. -/
inductive Number where
  /-- A whole number from `0` to `2^64 - 1`. -/
  | natural (n : UInt64)
  /-- The whole number `-n`, from `-2^63` to `-1`. -/
  | negative (n : Nat)
  /-- Any other literal, `-0` included. -/
  | decimal (d : Decimal)
deriving Repr, DecidableEq

namespace Decimal

/-- The largest whole number that a significand may reach. -/
def significandBound : Nat := UInt64.size - 1

/-- Appends digits to a significand while it stays within 64 bits; the second component counts the
digits that were left out. -/
def appendDigits (significand : Nat) : List Nat → Nat × Nat
  | [] => (significand, 0)
  | d :: ds =>
    if significand * 10 + d ≤ significandBound then appendDigits (significand * 10 + d) ds
    else (significand, (d :: ds).length)

/-- The power of ten, as the nearest double. -/
def powerOfTen (n : Nat) : Float :=
  Float.ofScientific 1 false n

/-- The quotient of `f` by `10^k`, taken in steps that each stay within the range of a double. -/
def scaleDown (f : Float) (k : Nat) : Float :=
  if k ≤ 308 then f / powerOfTen k
  else if f == 0 then f
  else scaleDown (f / powerOfTen 308) (k - 308)
termination_by k

/-- The value of a literal: its leading digits as one 64-bit whole number, scaled once by a power of
ten. There is none when the value lies beyond the range of a double. -/
def toFloat? (d : Decimal) : Option Float :=
  let (whole, skipped) := appendDigits 0 d.whole
  let (significand, dropped) := appendDigits whole d.fraction
  let exponent : Int := d.exponent + skipped - (d.fraction.length - dropped : Nat)
  let magnitude := significand.toUInt64.toFloat
  let scaled? :=
    if exponent < 0 then some (scaleDown magnitude (-exponent).toNat)
    else if 308 < exponent then
      if magnitude == 0 then some magnitude else none
    else
      let scaled := magnitude * powerOfTen exponent.toNat
      if scaled.isInf then none else some scaled
  scaled?.map fun f => if d.negative then -f else f

end Decimal

namespace Number

/-- The literal with the given sign and whole digits, and neither point nor exponent. -/
def ofDigits (negative : Bool) (digits : List Nat) : Number :=
  let n := digits.foldl (fun acc d => acc * 10 + d) 0
  if negative then
    if 0 < n ∧ n ≤ UInt64.size / 2 then .negative n else .decimal ⟨true, digits, [], 0⟩
  else
    if n < UInt64.size then .natural n.toUInt64 else .decimal ⟨false, digits, [], 0⟩

/-- Whether the literal stands for a value within range. -/
def inRange : Number → Bool
  | .natural _ | .negative _ => true
  | .decimal d => d.toFloat?.isSome

end Number

end CppAdvice.Json
