/-!
Blank characters, trimming, cutting a text at separator characters, and equality up to the case of
ASCII letters.
-/

namespace FlightBlocks.Text

/-- The characters with the Unicode property `White_Space`. -/
def isBlank (c : Char) : Bool :=
  let code := c.toNat
  (0x09 ≤ code && code ≤ 0x0d) || code == 0x20 || code == 0x85 || code == 0xa0 ||
  code == 0x1680 || (0x2000 ≤ code && code ≤ 0x200a) || code == 0x2028 || code == 0x2029 ||
  code == 0x202f || code == 0x205f || code == 0x3000

/-- Drops the blank characters at the front. -/
def trimStart (s : String) : String :=
  String.ofList (s.toList.dropWhile isBlank)

/-- Drops the blank characters at the back. -/
def trimEnd (s : String) : String :=
  String.ofList (s.toList.reverse.dropWhile isBlank).reverse

/-- Drops the blank characters at both ends. -/
def trim (s : String) : String :=
  trimEnd (trimStart s)

/-- Equality up to the case of ASCII letters. -/
def sameIgnoringCase (a b : String) : Bool :=
  a.toList.map Char.toLower == b.toList.map Char.toLower

/-- The strings between the characters of a class, empty ones included. -/
def split (separator : Char → Bool) (s : String) : List String :=
  (s.toList.splitOnP separator).map String.ofList

end FlightBlocks.Text
