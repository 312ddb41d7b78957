import FlightBlocks.Text.Integer

/-!
Sets of characters as ranges of code points.

A set is a list of ranges in rising order with a gap between any two, so that equal sets have equal
lists. Surrogate code points may lie inside a range: no character has one.
-/

namespace FlightBlocks

/-- The code points from `first` to `last`, both included. -/
structure CharRange where
  first : Nat
  last : Nat
  deriving DecidableEq, Repr

/-- A set of characters. -/
structure CharSet where
  ranges : List CharRange
  deriving DecidableEq, Repr

namespace CharSet

/-- The greatest code point. -/
def maxCode : Nat := 0x10ffff

def empty : CharSet := ⟨[]⟩

/-- Every character. -/
def all : CharSet := ⟨[⟨0, maxCode⟩]⟩

/-- Joins ranges that overlap or touch, in a list sorted by their beginnings. -/
def joinFrom (current : CharRange) : List CharRange → List CharRange
  | [] => [current]
  | next :: rest =>
    if next.first ≤ current.last + 1 then
      joinFrom ⟨current.first, max current.last next.last⟩ rest
    else current :: joinFrom next rest

/-- The union of any ranges, in any order; a range that ends before it begins is empty. -/
def ofRanges (ranges : List CharRange) : CharSet :=
  match (ranges.filter fun r => r.first ≤ r.last).mergeSort (fun a b => a.first ≤ b.first) with
  | [] => empty
  | first :: rest => ⟨joinFrom first rest⟩

def range (first last : Char) : CharSet := ofRanges [⟨first.toNat, last.toNat⟩]

def single (c : Char) : CharSet := ⟨[⟨c.toNat, c.toNat⟩]⟩

def ofChars (chars : List Char) : CharSet :=
  ofRanges (chars.map fun c => ⟨c.toNat, c.toNat⟩)

/-- Whether a character belongs to the set. -/
def contains (set : CharSet) (c : Char) : Bool :=
  set.ranges.any fun r => r.first ≤ c.toNat && c.toNat ≤ r.last

def union (a b : CharSet) : CharSet := ofRanges (a.ranges ++ b.ranges)

/-- The gaps between ranges in rising order, from the code point `start` on. -/
def gapsFrom (start : Nat) : List CharRange → List CharRange
  | [] => if start ≤ maxCode then [⟨start, maxCode⟩] else []
  | r :: rest =>
    if start < r.first then ⟨start, r.first - 1⟩ :: gapsFrom (r.last + 1) rest
    else gapsFrom (r.last + 1) rest

/-- The characters outside the set. -/
def complement (set : CharSet) : CharSet := ⟨gapsFrom 0 set.ranges⟩

def intersection (a b : CharSet) : CharSet := complement (union (complement a) (complement b))

def difference (a b : CharSet) : CharSet := intersection a (complement b)

def symmetricDifference (a b : CharSet) : CharSet := union (difference a b) (difference b a)

/-- The set without surrogate code points, which no character has. -/
def scalars (set : CharSet) : CharSet := difference set ⟨[⟨0xd800, 0xdfff⟩]⟩

/-- Whether all members are ASCII. -/
def isAscii (set : CharSet) : Bool := set.ranges.all fun r => r.last < 128

/-- One row of a table: a code point, or two joined by a hyphen, in hexadecimal. -/
def readRange? (row : List Char) : Option CharRange :=
  match (row.splitOnP (· == '-')).map (Text.digits? 16) with
  | [some code] => some ⟨code, code⟩
  | [some first, some last] => some ⟨first, last⟩
  | _ => none

/-- The union of the rows of a table, which blanks separate. -/
def ofTable (table : String) : CharSet :=
  ofRanges ((table.toList.splitOnP Char.isWhitespace).filterMap readRange?)

end CharSet

end FlightBlocks
