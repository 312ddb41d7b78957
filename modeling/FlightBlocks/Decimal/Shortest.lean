import FlightBlocks.Decimal.Binary64

/-!
The shortest decimal that reads back as a given binary number.

The reals that round to `m * 2 ^ q` form an interval around it, whose ends belong to it when `m` is
even. `shortest` looks for the least number of digits at which one of the two neighbours of the
value on the decimal grid lies in the interval, and takes the nearer of the two.
-/

namespace FlightBlocks.Decimal

/-- The number `coefficient * 10 ^ exponent`. -/
structure Scientific where
  coefficient : Nat
  exponent : Int
  deriving DecidableEq, Repr

/-- The interval of reals that round to a number, over a common denominator: `low`, `value` and
    `high` are to be divided by `scale`. -/
structure RoundingInterval where
  low : Nat
  value : Nat
  high : Nat
  scale : Nat
  /-- Whether the ends round to the number too. -/
  closed : Bool

namespace RoundingInterval

/-- Below a power of two the next number is only half a unit away. -/
def around (x : Binary64) : RoundingInterval :=
  let m := x.significand
  let lowGap := if m = Nat.pow 2 52 ∧ x.exponent ≠ Binary64.minExponent then 1 else 2
  let up := Nat.pow 2 (x.exponent - 2).toNat
  { low := (4 * m - lowGap) * up
    value := 4 * m * up
    high := (4 * m + 2) * up
    scale := Nat.pow 2 (-(x.exponent - 2)).toNat
    closed := m % 2 = 0 }

/-- Whether `c * 10 ^ u` lies in the interval. -/
def holds (i : RoundingInterval) (c : Nat) (u : Int) : Bool :=
  let point := c * Nat.pow 10 u.toNat * i.scale
  let unit := Nat.pow 10 (-u).toNat
  if i.closed then i.low * unit ≤ point && point ≤ i.high * unit
  else i.low * unit < point && point < i.high * unit

/-- The neighbour of the value on the grid of step `10 ^ u` that lies in the interval; of two the
    nearer, and the upper one when both are equally near. -/
def onGrid? (i : RoundingInterval) (u : Int) : Option Scientific :=
  let num := i.value * Nat.pow 10 (-u).toNat
  let den := i.scale * Nat.pow 10 u.toNat
  let below := num / den
  let upperIsNear : Bool := den ≤ 2 * (num % den)
  match i.holds below u, i.holds (below + 1) u with
  | true, true => some ⟨if upperIsNear then below + 1 else below, u⟩
  | true, false => some ⟨below, u⟩
  | false, true => some ⟨below + 1, u⟩
  | false, false => none

end RoundingInterval

/-- The largest `k` with `10 ^ k ≤ value`, for a positive value. -/
def leadingPlace (x : Binary64) : Int :=
  let twos : Int := x.significand.log2 + x.exponent
  let guess := Int.fdiv (twos * 30103) 100000
  let next := guess + 1
  let reaches : Bool :=
    Nat.pow 10 next.toNat * Nat.pow 2 (-x.exponent).toNat
      ≤ x.significand * Nat.pow 2 x.exponent.toNat * Nat.pow 10 (-next).toNat
  if reaches then next else guess

/-- The first grid with a hit, from `digits` significant digits on. -/
def shortestFrom (i : RoundingInterval) (place : Int) : Nat → Nat → Scientific
  | 0, digits => ⟨i.value / i.scale, place - digits⟩
  | tries + 1, digits =>
    match i.onGrid? (place + 1 - digits) with
    | some found => found
    | none => shortestFrom i place tries (digits + 1)

/-- The shortest decimal that reads back as the number. Seventeen digits always suffice. -/
def shortest (x : Binary64) : Scientific :=
  if x.significand = 0 then ⟨0, 0⟩
  else shortestFrom (RoundingInterval.around x) (leadingPlace x) 17 1

end FlightBlocks.Decimal
