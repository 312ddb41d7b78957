import FlightBlocks.Text.Blank
import FlightBlocks.Text.Integer

/-!
Colors of a palette, written as pairs of hexadecimal digits.
-/

namespace FlightBlocks.Palette

/-- A color by its parts. The last part says how opaque it is. -/
structure Color where
  red : UInt8
  green : UInt8
  blue : UInt8
  alpha : UInt8
  deriving DecidableEq, Repr

namespace Color

/-- A color that nothing shines through. -/
def opaqueOf (red green blue : UInt8) : Color := ⟨red, green, blue, 255⟩

/-- The byte that two digits write. A plus sign may stand in place of the first one. -/
def readByte? (high low : Char) : Option UInt8 :=
  (Text.digits? 16 (if high = '+' then [low] else [high, low])).map UInt8.ofNat

/-- The color that three or four bytes write. -/
def readBytes? : List Char → Option Color
  | [r, r', g, g', b, b'] => do
    return opaqueOf (← readByte? r r') (← readByte? g g') (← readByte? b b')
  | [r, r', g, g', b, b', a, a'] => do
    return ⟨← readByte? r r', ← readByte? g g', ← readByte? b b', ← readByte? a a'⟩
  | _ => none

/-- Reads a color, with blanks around it and a number sign in front or without them. -/
def read? (text : String) : Option Color :=
  match (Text.trim text).toList with
  | '#' :: digits => readBytes? digits
  | digits => readBytes? digits

/-- A digit in upper case. -/
def digit (n : Nat) : Char :=
  Char.ofNat (if n < 10 then '0'.toNat + n else 'A'.toNat + (n - 10))

/-- A byte in two digits. -/
def byteDigits (b : UInt8) : List Char := [digit (b.toNat / 16), digit (b.toNat % 16)]

/-- The digits behind a number sign. The last part is left out where nothing shines through. -/
def write (c : Color) : String :=
  let alpha := if c.alpha = 255 then [] else byteDigits c.alpha
  String.ofList ('#' :: (byteDigits c.red ++ byteDigits c.green ++ byteDigits c.blue ++ alpha))

end Color

end FlightBlocks.Palette
