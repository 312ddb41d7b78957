/-!
Integers written in decimal digits, with a sign in front, within the range of a machine word.
-/

namespace FlightBlocks.Text

/-- The value of a digit below `base`, in either case. -/
def digit? (base : Nat) (c : Char) : Option Nat :=
  let value? :=
    if c.isDigit then some (c.toNat - '0'.toNat)
    else if 'a' ≤ c ∧ c ≤ 'z' then some (c.toNat - 'a'.toNat + 10)
    else if 'A' ≤ c ∧ c ≤ 'Z' then some (c.toNat - 'A'.toNat + 10)
    else none
  value?.filter (· < base)

/-- The number that the digits write, most significant first; there has to be one. -/
def digits? (base : Nat) : List Char → Option Nat
  | [] => none
  | c :: rest => (c :: rest).foldlM (fun n c => (digit? base c).map (n * base + ·)) 0

/-- A natural number below `bound`; a plus sign may stand in front. -/
def readNat? (bound : Nat) (s : String) : Option Nat :=
  let body := match s.toList with
    | '+' :: rest => rest
    | chars => chars
  (digits? 10 body).filter (· < bound)

/-- An integer in the range of a signed word of 32 bits; either sign may stand in front. -/
def readInt32? (s : String) : Option Int :=
  let value? := match s.toList with
    | '-' :: rest => (digits? 10 rest).map fun n => -(n : Int)
    | '+' :: rest => (digits? 10 rest).map Int.ofNat
    | chars => (digits? 10 chars).map Int.ofNat
  value?.filter fun n => decide (-0x80000000 ≤ n ∧ n < 0x80000000)

end FlightBlocks.Text
