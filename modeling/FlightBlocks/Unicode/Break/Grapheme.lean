import FlightBlocks.Unicode.Property

/-!
How characters join into what a reader takes for one: the classes by which a text is cut between
two of them.
-/

namespace FlightBlocks.Unicode

/-- Characters that leave no trace of their own but tag the ones before them. -/
def tagCharacters : CharSet := .ofTable "E0020-E007F"

/-- Makes one character of its neighbours. -/
def joinerSet : CharSet := .ofTable "200D"

/-- The part of a character in a cluster. -/
inductive GraphemeBreak where
  | carriageReturn
  | lineFeed
  | control
  | extend
  | zeroWidthJoiner
  | regionalIndicator
  | prepend
  | spacingMark
  /-- A leading consonant of Hangul. -/
  | leadingJamo
  /-- A vowel of Hangul. -/
  | vowelJamo
  /-- A trailing consonant of Hangul. -/
  | trailingJamo
  /-- A syllable of Hangul without a trailing consonant. -/
  | openSyllable
  /-- A syllable of Hangul with a trailing consonant. -/
  | closedSyllable
  deriving DecidableEq, Repr

/-- The syllables of Hangul. Every run of twenty-eight begins with an open one. -/
def hangulSyllables : CharSet := .ofTable "AC00-D7A3"

def openHangulSyllables : CharSet :=
  .ofRanges ((List.range 399).map fun i => ⟨0xac00 + 28 * i, 0xac00 + 28 * i⟩)

namespace GraphemeBreak

/-- The characters of a class. -/
def set : GraphemeBreak → CharSet
  | .carriageReturn => .single '\r'
  | .lineFeed => .single '\n'
  | .control =>
    ((setOf [.lineSeparator, .paragraphSeparator, .control, .format]).union
      (unassigned.intersection defaultIgnorable)).difference <|
      prependedConcatenationMark.union <| tagCharacters.union <| .ofTable "A D 200C-200D"
  | .extend => graphemeExtend.union emojiModifier
  | .zeroWidthJoiner => joinerSet
  | .regionalIndicator => Unicode.regionalIndicator
  | .prepend => prependedConcatenationMark.union <| .ofTable
      "D4E 111C2-111C3 113D1 1193F 11941 11A3A 11A84-11A89 11D46 11F02"
  | .spacingMark =>
    (Category.spacingMark.set.union <| .ofTable "E33 EB3").difference <|
      graphemeExtend.union <| .ofTable
        "102B-102C 1038 1062-1064 1067-106D 1083 1087-108C 108F 109A-109C 1A61 1A63-1A64 AA7B AA7D
        11720-11721"
  | .leadingJamo => .ofTable "1100-115F A960-A97C"
  | .vowelJamo => .ofTable "1160-11A7 D7B0-D7C6 16D63 16D67-16D6A"
  | .trailingJamo => .ofTable "11A8-11FF D7CB-D7FB"
  | .openSyllable => openHangulSyllables
  | .closedSyllable => hangulSyllables.difference openHangulSyllables

/-- The names of a class, in lower case and without separators. -/
def names : GraphemeBreak → List String
  | .carriageReturn => ["cr"]
  | .lineFeed => ["lf"]
  | .control => ["cn", "control"]
  | .extend => ["ex", "extend"]
  | .zeroWidthJoiner => ["zwj"]
  | .regionalIndicator => ["ri", "regionalindicator"]
  | .prepend => ["pp", "prepend"]
  | .spacingMark => ["sm", "spacingmark"]
  | .leadingJamo => ["l"]
  | .vowelJamo => ["v"]
  | .trailingJamo => ["t"]
  | .openSyllable => ["lv"]
  | .closedSyllable => ["lvt"]

/-- Every class with characters of its own; all other characters form clusters by themselves. -/
def all : List GraphemeBreak :=
  [.carriageReturn, .lineFeed, .control, .extend, .zeroWidthJoiner, .regionalIndicator, .prepend,
   .spacingMark, .leadingJamo, .vowelJamo, .trailingJamo, .openSyllable, .closedSyllable]

end GraphemeBreak

/-- The characters of the class of a given name. -/
def graphemeBreakSet? (name : String) : Option CharSet :=
  (GraphemeBreak.all.find? fun c => c.names.contains name).map (·.set)

end FlightBlocks.Unicode
