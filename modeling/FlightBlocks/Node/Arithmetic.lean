import FlightBlocks.Choice
import FlightBlocks.Value

/-!
Operators on two values, numeric constants, and functions of one number.
-/

namespace FlightBlocks

/-! ## Operators -/

inductive BinaryOperator where
  | add
  | subtract
  | multiply
  | divide
  | less
  | lessOrEqual
  | greater
  | greaterOrEqual
  | equal
  | notEqual
  | both
  | either
  deriving DecidableEq, Repr

instance : Selectable BinaryOperator where
  options :=
    [(.add, ⟨"+", "+", "Addition.", .number⟩),
     (.subtract, ⟨"-", "-", "Subtraction.", .number⟩),
     (.multiply, ⟨"*", "*", "Multiplication.", .number⟩),
     (.divide, ⟨"/", "/", "Division.", .number⟩),
     (.less, ⟨"<", "<", "Less than.", .plain⟩),
     (.lessOrEqual, ⟨"<=", "<=", "Less than or equal.", .plain⟩),
     (.greater, ⟨">", ">", "Greater than.", .plain⟩),
     (.greaterOrEqual, ⟨">=", ">=", "Greater than or equal.", .plain⟩),
     (.equal, ⟨"=", "=", "Equal.", .plain⟩),
     (.notEqual, ⟨"!=", "!=", "Not equal.", .plain⟩),
     (.both, ⟨"and", "and", "Both values are true.", .plain⟩),
     (.either, ⟨"or", "or", "Either value is true.", .plain⟩)]

namespace BinaryOperator

/-- Whether the result is a truth value. -/
def isBoolean : BinaryOperator → Bool
  | .add | .subtract | .multiply | .divide => false
  | _ => true

/-- Two numbers are compared as numbers, all other pairs as texts. -/
def looselyEqual : Value → Value → Bool
  | .number a, .number b => a == b
  | a, b => a.toText == b.toText

/-- The result of an operator on two values. -/
def apply (op : BinaryOperator) (left right : Value) : Value :=
  let a := left.toNumber
  let b := right.toNumber
  match op with
  | .add => .number (a + b)
  | .subtract => .number (a - b)
  | .multiply => .number (a * b)
  | .divide => .number (a / b)
  | .less => .bool (a < b)
  | .lessOrEqual => .bool (a ≤ b)
  | .greater => .bool (b < a)
  | .greaterOrEqual => .bool (b ≤ a)
  | .equal => .bool (looselyEqual left right)
  | .notEqual => .bool (!looselyEqual left right)
  | .both => .bool (left.toBool && right.toBool)
  | .either => .bool (left.toBool || right.toBool)

end BinaryOperator

/-! ## Constants -/

inductive NumericConstant where
  | pi
  | gravitation
  | euler
  | lightSpeed
  deriving DecidableEq, Repr

instance : Selectable NumericConstant where
  options :=
    [(.pi, ⟨"pi", "π", "The ratio of a circle's circumference to its diameter.", .number⟩),
     (.gravitation, ⟨"g", "G", "The gravitational constant.", .number⟩),
     (.euler, ⟨"e", "e", "Euler's number.", .number⟩),
     (.lightSpeed, ⟨"c", "c", "The speed of light in a vacuum (m/s).", .number⟩)]

/-- The ratio of a circle's circumference to its diameter, to the nearest number. -/
def pi : Float := Decimal.Scientific.toFloat ⟨3141592653589793, -15⟩

/-- The values in units of metre, kilogram and second. -/
def NumericConstant.value : NumericConstant → Float
  | .pi => FlightBlocks.pi
  | .gravitation => Decimal.Scientific.toFloat ⟨66743, -15⟩
  | .euler => Decimal.Scientific.toFloat ⟨2718281828459045, -15⟩
  | .lightSpeed => 299792458

/-! ## Functions of a number -/

/-- Radians in degrees. -/
def toDegrees (radians : Float) : Float := radians / pi * 180

inductive UnaryMath where
  | exp
  | sinh
  | cosh
  | tanh
  | asinh
  | acosh
  | atanh
  deriving DecidableEq, Repr

instance : Selectable UnaryMath where
  options :=
    [(.exp, ⟨"exp", "exp",
      "Returns e (Euler's number) raised to the specified power.", .number⟩),
     (.sinh, ⟨"sinh", "sinh",
      "Returns the hyperbolic sine of the specified angle (in radians).", .number⟩),
     (.cosh, ⟨"cosh", "cosh",
      "Returns the hyperbolic cosine of the specified angle (in radians).", .number⟩),
     (.tanh, ⟨"tanh", "tanh",
      "Returns the hyperbolic tangent of the specified angle (in radians).", .number⟩),
     (.asinh, ⟨"asinh", "asinh",
      "Returns the inverse of the hyperbolic sine (in radians) of the specified value.",
      .radians⟩),
     (.acosh, ⟨"acosh", "acosh",
      "Returns the inverse of the hyperbolic cosine (in radians) of the specified value.",
      .radians⟩),
     (.atanh, ⟨"atanh", "atanh",
      "Returns the inverse of the hyperbolic tangent (in radians) of the specified value.",
      .radians⟩)]

/-- The inverse functions are computed from their logarithms, so that undefined and infinite
    arguments go the same way everywhere. -/
def UnaryMath.apply (f : UnaryMath) (x : Float) : Float :=
  match f with
  | .exp => x.exp
  | .sinh => x.sinh
  | .cosh => x.cosh
  | .tanh => x.tanh
  | .asinh => (x + (x * x + 1).sqrt).log
  | .acosh => (x + (x * x - 1).sqrt).log
  | .atanh => ((1 + x) / (1 - x)).log / 2

end FlightBlocks
