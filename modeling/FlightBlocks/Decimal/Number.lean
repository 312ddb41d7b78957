import FlightBlocks.Decimal.Shortest
import FlightBlocks.Text.Integer

/-!
Numbers as text.

A number is written with the fewest digits that read back, always in positional notation and
without a fraction when it is whole. It is read with an optional sign, an optional fraction and an
optional exponent, or as the name of infinity or of the undefined number in any case.
-/

namespace FlightBlocks.Decimal

/-- Positional notation, without an exponent and without trailing zeros after the point. -/
def Scientific.positional (x : Scientific) : String :=
  let digits := (toString x.coefficient).toList
  if 0 ≤ x.exponent then String.ofList (digits ++ List.replicate x.exponent.toNat '0')
  else
    let places := (-x.exponent).toNat
    let padded := List.replicate (places + 1 - digits.length) '0' ++ digits
    let whole := padded.take (padded.length - places)
    let fraction := (padded.drop (padded.length - places)).reverse.dropWhile (· == '0') |>.reverse
    if fraction.isEmpty then String.ofList whole
    else String.ofList (whole ++ '.' :: fraction)

/-- The text of a number. The undefined number has no sign; zero keeps its own. -/
def write (x : Float) : String :=
  if x.isNaN then "NaN"
  else
    let bits := x.toBits
    let sign := if bits.toNat < Nat.pow 2 63 then "" else "-"
    if x.isInf then sign ++ "inf"
    else sign ++ (shortest (Binary64.ofBits bits)).positional

/-- The value of `coefficient * 10 ^ exponent`. Beyond the range of the exponents the value is
    infinity or zero at once, so that no huge power is formed. -/
def Scientific.toFloat (x : Scientific) : Float :=
  let magnitude := (Nat.toDigits 10 x.coefficient).length + x.exponent
  if x.coefficient = 0 then 0
  else if 400 < magnitude then Float.ofBits (UInt64.ofNat Binary64.infinityBits)
  else if magnitude < -400 then 0
  else Binary64.nearest (x.coefficient * Nat.pow 10 x.exponent.toNat) (Nat.pow 10 (-x.exponent).toNat)

/-- A signed exponent; it needs a digit. -/
def readExponent? : List Char → Option Int
  | '-' :: rest => (Text.digits? 10 rest).map fun n => -(n : Int)
  | '+' :: rest => (Text.digits? 10 rest).map Int.ofNat
  | chars => (Text.digits? 10 chars).map Int.ofNat

/-- Digits with at most one point among or around them and an optional exponent. -/
def readScientific? (chars : List Char) : Option Scientific := do
  let whole := chars.takeWhile Char.isDigit
  let rest := chars.dropWhile Char.isDigit
  let (fraction, rest) := match rest with
    | '.' :: more => (more.takeWhile Char.isDigit, more.dropWhile Char.isDigit)
    | _ => ([], rest)
  let coefficient ← Text.digits? 10 (whole ++ fraction)
  let exponent ← match rest with
    | [] => some 0
    | 'e' :: more | 'E' :: more => readExponent? more
    | _ => none
  return ⟨coefficient, exponent - fraction.length⟩

/-- A number without a sign. -/
def readMagnitude? (chars : List Char) : Option Float :=
  let name := String.ofList (chars.map Char.toLower)
  if name = "inf" ∨ name = "infinity" then some (Float.ofBits (UInt64.ofNat Binary64.infinityBits))
  else if name = "nan" then some (0.0 / 0.0)
  else (readScientific? chars).map Scientific.toFloat

/-- The number that a text writes. No blank may stand before or after it. -/
def read? (s : String) : Option Float :=
  match s.toList with
  | '-' :: rest => (readMagnitude? rest).map fun x => -x
  | '+' :: rest => readMagnitude? rest
  | chars => readMagnitude? chars

end FlightBlocks.Decimal
