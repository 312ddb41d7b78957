/-!
Binary floating-point numbers of 64 bits as exact values, and the number nearest to a fraction.

A finite number is `significand * 2 ^ exponent`. `nearest` rounds a fraction to it, a tie to the
even significand; every step is in natural numbers, so nothing is rounded twice.
-/

namespace FlightBlocks.Decimal

/-- The absolute value of a finite number: `significand * 2 ^ exponent`. -/
structure Binary64 where
  significand : Nat
  exponent : Int
  deriving DecidableEq, Repr

namespace Binary64

/-- The least exponent, that of the subnormal numbers. -/
def minExponent : Int := -1074

/-- The bits of infinity. -/
def infinityBits : Nat := 0x7ff * Nat.pow 2 52

/-- The absolute value that the bits of a finite number stand for. -/
def ofBits (bits : UInt64) : Binary64 :=
  let fraction : Nat := bits.toNat % Nat.pow 2 52
  let biased : Nat := bits.toNat / Nat.pow 2 52 % Nat.pow 2 11
  if biased = 0 then ⟨fraction, minExponent⟩
  else ⟨fraction + Nat.pow 2 52, (biased : Int) - 1075⟩

/-- The bits of `num / den` rounded to 53 significant bits, a tie to even. The carry out of a
    significand of all ones moves into the exponent by itself. -/
def nearestBits (num den : Nat) : Nat :=
  if num = 0 then 0 else
  let guess : Int := (num.log2 : Int) - den.log2 - 52
  let quotientAt (e : Int) : Nat × Nat × Nat :=
    let n := num * Nat.pow 2 (-e).toNat
    let d := den * Nat.pow 2 e.toNat
    (n / d, n % d, d)
  let exponent := if (quotientAt guess).1 < Nat.pow 2 52 then guess - 1 else guess
  let exponent := max exponent minExponent
  let (quotient, remainder, divisor) := quotientAt exponent
  let rounded :=
    if divisor < 2 * remainder ∨ (2 * remainder = divisor ∧ quotient % 2 = 1) then quotient + 1
    else quotient
  min infinityBits ((exponent - minExponent).toNat * Nat.pow 2 52 + rounded)

/-- The number nearest to `num / den`. -/
def nearest (num den : Nat) : Float :=
  Float.ofBits (UInt64.ofNat (nearestBits num den))

end Binary64

end FlightBlocks.Decimal
