import FlightBlocks.Decimal.Number
import FlightBlocks.Text.Blank

/-!
Values that expressions produce.

Each value has one kind. Reading a value as another kind never fails: a mismatch gives the neutral
value of the kind asked for, apart from the few conversions stated at each reader.
-/

namespace FlightBlocks

/-- A vector in space. -/
structure Vector3 where
  x : Float
  y : Float
  z : Float
  deriving BEq, Repr

namespace Vector3

def zero : Vector3 := ⟨0, 0, 0⟩

/-- The three components in parentheses. -/
def text (v : Vector3) : String :=
  "(" ++ Decimal.write v.x ++ ", " ++ Decimal.write v.y ++ ", " ++ Decimal.write v.z ++ ")"

end Vector3

/-- The result of evaluating an expression. -/
inductive Value where
  | number (n : Float)
  | text (s : String)
  | bool (b : Bool)
  | vector (v : Vector3)
  | list (items : List String)
  deriving BEq, Repr

namespace Value

/-- The number zero, which stands in wherever there is nothing to read. -/
def zero : Value := .number 0

instance : Inhabited Value := ⟨zero⟩

/-- The name of the kind of a value. -/
def kindName : Value → String
  | .number _ => "number"
  | .text _ => "text"
  | .bool _ => "bool"
  | .vector _ => "vector"
  | .list _ => "list"

/-- Truth values read as one and zero, and text as the number it writes, if any. -/
def toNumber : Value → Float
  | .number n => n
  | .bool b => if b then 1 else 0
  | .text s => (Decimal.read? (Text.trim s)).getD 0
  | .vector _ | .list _ => 0

/-- Every value has a text; the items of a list are joined by commas. -/
def toText : Value → String
  | .text s => s
  | .number n => Decimal.write n
  | .bool true => "true"
  | .bool false => "false"
  | .vector v => v.text
  | .list items => ",".intercalate items

/-- Numbers other than zero are true, and so is the word `true` in any case. -/
def toBool : Value → Bool
  | .bool b => b
  | .number n => n != 0
  | .text s => Text.sameIgnoringCase (Text.trim s) "true"
  | .vector _ | .list _ => false

/-- Only vectors read as vectors. -/
def toVector : Value → Vector3
  | .vector v => v
  | _ => .zero

/-- Text reads as a list of one item. -/
def toItems : Value → List String
  | .list items => items
  | .text s => [s]
  | _ => []

/-- Whether a value is a truth value. -/
def isBool : Value → Bool
  | .bool _ => true
  | _ => false

end Value

end FlightBlocks
