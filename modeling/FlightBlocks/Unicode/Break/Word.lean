import FlightBlocks.Unicode.Break.Grapheme
import FlightBlocks.Unicode.Script

/-!
How characters join into words of running text: the classes by which a text is cut at the edges of
words.
-/

namespace FlightBlocks.Unicode

/-- The part of a character in a word. -/
inductive WordBreak where
  | carriageReturn
  | lineFeed
  | newline
  | extend
  | zeroWidthJoiner
  | format
  | katakana
  | hebrewLetter
  /-- A letter of a script that puts blanks between words. -/
  | letter
  | singleQuote
  | doubleQuote
  /-- Joins letters and numbers alike. -/
  | midNumberOrLetter
  /-- Joins letters. -/
  | midLetter
  /-- Joins numbers. -/
  | midNumber
  | numeric
  /-- Joins whatever stands beside it. -/
  | connector
  | regionalIndicator
  | space
  deriving DecidableEq, Repr

namespace WordBreak

def inScript (name : String) : CharSet := (scriptSet? name).getD .empty

def extendSet : CharSet :=
  (graphemeExtend.union <| Category.spacingMark.set.union emojiModifier).difference joinerSet

def katakanaSet : CharSet :=
  (inScript "katakana").union <| .ofTable "3031-3035 309B-309C 30A0 30FC FF70"

def hebrewLetterSet : CharSet :=
  (inScript "hebrew").intersection Category.otherLetter.set

/-- Letters of scripts that write words without blanks between them. -/
def unspacedLetters : CharSet :=
  ideographic.union <| (inScript "hiragana").union <| .ofTable
    "E01-E30 E32-E33 E40-E46 E81-E82 E84 E86-E8A E8C-EA3 EA5 EA7-EB0 EB2-EB3 EBD EC0-EC4 EC6
    EDC-EDF 1000-102A 103F 1050-1055 105A-105D 1061 1065-1066 106E-1070 1075-1081 108E 1780-17B3
    17D7 17DC 1950-196D 1970-1974 1980-19AB 19B0-19C9 1A20-1A54 1AA7 A9E0-A9E4 A9E6-A9EF A9FA-A9FE
    AA60-AA76 AA7A AA7E-AAAF AAB1 AAB5-AAB6 AAB9-AABD AAC0 AAC2 AADB-AADD 11700-1171A 11740-11746"

def letterSet : CharSet :=
  (alphabetic.union <| .ofTable
    "2C2-2C5 2D2-2D7 2DE-2DF 2E5-2EB 2ED 2EF-2FF 55A-55C 55E 58A 5F3 70F A708-A716 A720-A721
    A789-A78A AB5B").difference <|
    unspacedLetters.union <| katakanaSet.union <| hebrewLetterSet.union extendSet

def numericSet : CharSet :=
  Category.decimalNumber.set.union <| .ofTable "600-605 66B 6DD 890-891 8E2 19DA 110BD 110CD"

/-- The characters of a class. -/
def set : WordBreak → CharSet
  | .carriageReturn => .single '\r'
  | .lineFeed => .single '\n'
  | .newline => .ofTable "B-C 85 2028-2029"
  | .extend => extendSet
  | .zeroWidthJoiner => joinerSet
  | .format =>
    Category.format.set.difference <| prependedConcatenationMark.union <| tagCharacters.union <|
      .ofTable "200B-200D"
  | .katakana => katakanaSet
  | .hebrewLetter => hebrewLetterSet
  | .letter => letterSet
  | .singleQuote => .ofTable "27"
  | .doubleQuote => .ofTable "22"
  | .midNumberOrLetter => .ofTable "2E 2018-2019 2024 FE52 FF07 FF0E"
  | .midLetter => .ofTable "3A B7 387 55F 5F4 2027 FE13 FE55 FF1A"
  | .midNumber => .ofTable "2C 3B 37E 589 60C-60D 66C 7F8 2044 FE50 FE54 FF0C FF1B"
  | .numeric => numericSet
  | .connector => Category.connectorPunctuation.set.union <| .ofTable "202F"
  | .regionalIndicator => Unicode.regionalIndicator
  | .space => Category.spaceSeparator.set.difference <| .ofTable "A0 2007 202F"

/-- The names of a class, in lower case and without separators. -/
def names : WordBreak → List String
  | .carriageReturn => ["cr"]
  | .lineFeed => ["lf"]
  | .newline => ["nl", "newline"]
  | .extend => ["extend"]
  | .zeroWidthJoiner => ["zwj"]
  | .format => ["fo", "format"]
  | .katakana => ["ka", "katakana"]
  | .hebrewLetter => ["hl", "hebrewletter"]
  | .letter => ["le", "aletter"]
  | .singleQuote => ["sq", "singlequote"]
  | .doubleQuote => ["dq", "doublequote"]
  | .midNumberOrLetter => ["mb", "midnumlet"]
  | .midLetter => ["ml", "midletter"]
  | .midNumber => ["mn", "midnum"]
  | .numeric => ["nu", "numeric"]
  | .connector => ["ex", "extendnumlet"]
  | .regionalIndicator => ["ri", "regionalindicator"]
  | .space => ["wsegspace"]

/-- Every class with characters of its own; all other characters are words by themselves. -/
def all : List WordBreak :=
  [.carriageReturn, .lineFeed, .newline, .extend, .zeroWidthJoiner, .format, .katakana,
   .hebrewLetter, .letter, .singleQuote, .doubleQuote, .midNumberOrLetter, .midLetter, .midNumber,
   .numeric, .connector, .regionalIndicator, .space]

end WordBreak

/-- The characters of the class of a given name. -/
def wordBreakSet? (name : String) : Option CharSet :=
  (WordBreak.all.find? fun c => c.names.contains name).map (·.set)

end FlightBlocks.Unicode
