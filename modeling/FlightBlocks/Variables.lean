import FlightBlocks.Value
import Std.Data.ExtTreeMap

/-!
The variables of a thread. Two sets of variables are equal when they give every name the same value.
-/

namespace FlightBlocks

/-- Values by name. -/
abbrev Variables := Std.ExtTreeMap String Value

namespace Variables

def empty : Variables := ∅

/-- The value of a variable; one that was never set reads as zero. -/
def read (v : Variables) (name : String) : Value := v[name]?.getD .zero

def set (v : Variables) (name : String) (value : Value) : Variables := v.insert name value

end Variables

end FlightBlocks
