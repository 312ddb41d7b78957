import FlightBlocks.Choice
import FlightBlocks.Pattern.Matching
import FlightBlocks.Unicode.CaseMapping
import FlightBlocks.Value

/-!
Comparisons and transforms of text. Texts are ordered by the code points of their characters.
-/

namespace FlightBlocks

inductive Comparison where
  | equals
  | lessThan
  | lessThanOrEqual
  | greaterThan
  | greaterThanOrEqual
  | startsWith
  | endsWith
  | matching
  deriving DecidableEq, Repr

instance : Selectable Comparison where
  options :=
    [(.equals, ⟨"equals", "=",
      "Checks whether or not the text values are exactly equal.", .plain⟩),
     (.lessThan, ⟨"less-than", "<",
      "Checks whether or not the first text value comes before the second alphabetically.",
      .plain⟩),
     (.lessThanOrEqual, ⟨"less-than-or-equal", "<=",
      "Checks whether or not the first text value comes before or is the same as the second " ++
      "alphabetically.", .plain⟩),
     (.greaterThan, ⟨"greater-than", ">",
      "Checks whether or not the first text value comes after the second alphabetically.",
      .plain⟩),
     (.greaterThanOrEqual, ⟨"greater-than-or-equal", ">=",
      "Checks whether or not the first text value comes after or is the same as the second " ++
      "alphabetically.", .plain⟩),
     (.startsWith, ⟨"starts-with", "Starts With",
      "Checks whether or not the text starts with the specified prefix.", .plain⟩),
     (.endsWith, ⟨"ends-with", "Ends With",
      "Checks whether or not the text ends with the specified suffix.", .plain⟩),
     (.matching, ⟨"matches", "Matches",
      "Checks whether or not the text matches the specified regular expression.", .plain⟩)]

/-- Whether a comparison of two texts holds. -/
def Comparison.holds (c : Comparison) (left right : String) : Bool :=
  match c with
  | .equals => left == right
  | .lessThan => left < right
  | .lessThanOrEqual => left ≤ right
  | .greaterThan => right < left
  | .greaterThanOrEqual => right ≤ left
  | .startsWith => right.toList.isPrefixOf left.toList
  | .endsWith => right.toList.isSuffixOf left.toList
  | .matching => Pattern.matchesText right left

inductive Transform where
  | toLower
  | toUpper
  | trim
  | trimStart
  | trimEnd
  | isBlank
  deriving DecidableEq, Repr

instance : Selectable Transform where
  options :=
    [(.toLower, ⟨"to-lower", "Lowercase", "Convert text to lowercase.", .text⟩),
     (.toUpper, ⟨"to-upper", "Uppercase", "Convert text to uppercase.", .text⟩),
     (.trim, ⟨"trim", "Trim", "Trim leading and trailing whitespace.", .text⟩),
     (.trimStart, ⟨"trim-start", "Trim Start", "Trim leading whitespace.", .text⟩),
     (.trimEnd, ⟨"trim-end", "Trim End", "Trim trailing whitespace.", .text⟩),
     (.isBlank, ⟨"is-blank", "Is Blank?",
      "Checks if a text value is empty or only whitespace.", .plain⟩)]

/-- The result of a transform. -/
def Transform.apply (t : Transform) (s : String) : Value :=
  match t with
  | .toLower => .text (Unicode.lowercase s)
  | .toUpper => .text (Unicode.uppercase s)
  | .trim => .text (Text.trim s)
  | .trimStart => .text (Text.trimStart s)
  | .trimEnd => .text (Text.trimEnd s)
  | .isBlank => .bool (Text.trim s).isEmpty

end FlightBlocks
