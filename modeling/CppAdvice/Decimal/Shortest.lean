import CppAdvice.Text.Pieces

/-!
# Shortest decimals

The fewest decimal digits that still lie closer to a given double than to any other, and their
layout: positional while the leading digit stands between the fifth place after the point and the
sixteenth before it, scientific otherwise.
-/

namespace CppAdvice.Decimal

/-- A power of two. -/
def twoTo (n : Nat) : Nat :=
  Nat.pow 2 n

/-- A power of ten. -/
def tenTo (n : Nat) : Nat :=
  Nat.pow 10 n

/-- A positive double as `mantissa * 2^(power - 1074)`. -/
structure Binary where
  mantissa : Nat
  power : Nat

namespace Binary

/-- The magnitude of the double with the given bits. -/
def ofBits (bits : UInt64) : Binary :=
  let fraction := bits.toNat % twoTo 52
  let field := bits.toNat / twoTo 52 % twoTo 11
  if field = 0 then ⟨fraction, 0⟩ else ⟨fraction + twoTo 52, field - 1⟩

/-- Four times the value, as a quotient with denominator `2^1074`. -/
def quadruple (b : Binary) : Nat :=
  4 * b.mantissa * twoTo b.power

/-- Four times the distance to the midpoint below, with denominator `2^1074`: half as much at a
power of two, where the doubles below are twice as dense. -/
def below (b : Binary) : Nat :=
  if b.mantissa = twoTo 52 ∧ 0 < b.power then twoTo b.power else 2 * twoTo b.power

/-- Four times the distance to the midpoint above, with denominator `2^1074`. -/
def above (b : Binary) : Nat :=
  2 * twoTo b.power

/-- Whether `n / d` reads back as the double: it lies between the two midpoints, which count when
the mantissa is even. -/
def readsBack (b : Binary) (n d : Nat) : Bool :=
  let scaled := 4 * n * twoTo 1074
  let low := (b.quadruple - b.below) * d
  let high := (b.quadruple + b.above) * d
  if b.mantissa % 2 = 0 then low ≤ scaled && scaled ≤ high else low < scaled && scaled < high

/-- The place of the leading digit: the greatest `k` with `10^k` at most the value, looked for from
`start` downwards. -/
def leadingPlace (b : Binary) : (steps : Nat) → (start : Int) → Int
  | 0, k => k
  | steps + 1, k =>
    let (n, d) := if 0 ≤ k then (tenTo k.toNat, 1) else (1, tenTo (-k).toNat)
    if n * 4 * twoTo 1074 ≤ b.quadruple * d then k else b.leadingPlace steps (k - 1)

/-- The decimal with `count` digits nearest to the value and reading back as it, if there is one:
its digits as a whole number and the place of the last digit. -/
def nearest? (b : Binary) (leading : Int) (count : Nat) : Option (Nat × Int) :=
  let last := leading - (count - 1 : Nat)
  -- a digit string `n` stands for `n * p / q`
  let (p, q) := if 0 ≤ last then (tenTo last.toNat, 1) else (1, tenTo (-last).toNat)
  let grid := 4 * twoTo 1074 * p
  let n := b.quadruple * q / grid
  let beyond := b.quadruple * q % grid
  let lowOk := b.readsBack (n * p) q
  let highOk := b.readsBack ((n + 1) * p) q
  let lowCloser := 2 * beyond < grid || (2 * beyond == grid && n % 2 == 0)
  if lowOk && (lowCloser || !highOk) then some (n, last)
  else if highOk then some (n + 1, last)
  else none

/-- The shortest decimal, as a whole number of digits and the place of the last one. -/
def shortest (b : Binary) : Nat × Int :=
  let leading := b.leadingPlace 640 309
  ((List.range 17).findSome? fun i => b.nearest? leading (i + 1)).getD (0, 0)

end Binary

/-- Lays out digits whose last one stands at the given place. -/
def layout (digits : List Char) (last : Int) : List Char :=
  let leading := last + (digits.length - 1 : Nat)
  if -5 ≤ leading ∧ leading ≤ 15 then
    if 0 ≤ last then digits ++ List.replicate last.toNat '0' ++ ['.', '0']
    else if 0 ≤ leading then
      let whole := leading.toNat + 1
      digits.take whole ++ '.' :: digits.drop whole
    else ['0', '.'] ++ List.replicate ((-leading).toNat - 1) '0' ++ digits
  else
    let head := digits.take 1 ++ (if digits.length = 1 then [] else '.' :: digits.drop 1)
    head ++ ['e', if leading < 0 then '-' else '+'] ++ Text.decimalDigits leading.natAbs

/-- Digits without their trailing zeros, and the place of the last one kept. -/
def stripZeros : (digits : List Char) → (last : Int) → List Char × Int
  | digits, last =>
    let zeros := digits.reverse.takeWhile (· = '0')
    (digits.take (digits.length - zeros.length), last + zeros.length)

/-- The text of a finite double. -/
def text (f : Float) : String :=
  let bits := f.toBits
  let sign := if twoTo 63 ≤ bits.toNat then ['-'] else []
  let b := Binary.ofBits bits
  if b.mantissa = 0 then String.ofList (sign ++ ['0', '.', '0'])
  else
    let (n, last) := b.shortest
    let (digits, last) := stripZeros (Text.decimalDigits n) last
    String.ofList (sign ++ layout digits last)

end CppAdvice.Decimal
