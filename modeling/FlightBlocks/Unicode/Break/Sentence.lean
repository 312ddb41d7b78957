import FlightBlocks.Unicode.Break.Word

/-!
How characters join into sentences: the classes by which a text is cut at the edges of sentences.
-/

namespace FlightBlocks.Unicode

/-- The part of a character in a sentence. -/
inductive SentenceBreak where
  | carriageReturn
  | lineFeed
  | extend
  | separator
  | format
  | space
  | lower
  | upper
  /-- A letter without a case. -/
  | otherLetter
  | numeric
  /-- A full stop, which ends some sentences only. -/
  | fullStop
  | terminator
  /-- A bracket or a quotation mark. -/
  | close
  /-- Goes on with a sentence. -/
  | goOn
  deriving DecidableEq, Repr

namespace SentenceBreak

def extendSet : CharSet :=
  graphemeExtend.union <| Category.spacingMark.set.union joinerSet

def separatorSet : CharSet := .ofTable "85 2028-2029"

/-- Small letters; those of Georgian have no capitals in a sentence. -/
def lowerSet : CharSet :=
  lowercaseSet.difference <| graphemeExtend.union <| .ofTable "10D0-10FA 10FD-10FF"

def upperSet : CharSet :=
  Category.titlecaseLetter.set.union <| uppercaseSet.difference <| .ofTable "1C90-1CBF"

def fullStopSet : CharSet := .ofTable "2E 2024 FE52 FF0E"

def terminatorSet : CharSet := sentenceTerminal.difference fullStopSet

/-- The characters of a class. -/
def set : SentenceBreak → CharSet
  | .carriageReturn => .single '\r'
  | .lineFeed => .single '\n'
  | .extend => extendSet
  | .separator => separatorSet
  | .format =>
    (Category.format.set.difference <| prependedConcatenationMark.union <| tagCharacters.union <|
      .ofTable "200C-200D").union <| .ofTable "70F"
  | .space =>
    whiteSpace.difference <| separatorSet.union <| .ofChars ['\r', '\n']
  | .lower => lowerSet
  | .upper => upperSet
  | .otherLetter =>
    (alphabetic.union <| .ofTable "5F3").difference <| lowerSet.union <| upperSet.union extendSet
  | .numeric => WordBreak.numericSet.union <| .ofTable "66C"
  | .fullStop => fullStopSet
  | .terminator => terminatorSet
  | .close =>
    ((setOf [.openPunctuation, .closePunctuation, .initialPunctuation, .finalPunctuation]).union <|
      .ofTable "22 27 275B-2760 2E00-2E01 2E06-2E08 2E0B 1F676-1F678").difference <|
      fullStopSet.union terminatorSet
  | .goOn => .ofTable
      "2C-2D 3A-3B 37E 55D 60C-60D 7F8 1802 1808 2013-2014 3001 FE10-FE11 FE13-FE14 FE31-FE32
      FE50-FE51 FE54-FE55 FE58 FE63 FF0C-FF0D FF1A-FF1B FF64"

/-- The names of a class, in lower case and without separators. -/
def names : SentenceBreak → List String
  | .carriageReturn => ["cr"]
  | .lineFeed => ["lf"]
  | .extend => ["ex", "extend"]
  | .separator => ["se", "sep"]
  | .format => ["fo", "format"]
  | .space => ["sp"]
  | .lower => ["lo", "lower"]
  | .upper => ["up", "upper"]
  | .otherLetter => ["le", "oletter"]
  | .numeric => ["nu", "numeric"]
  | .fullStop => ["at", "aterm"]
  | .terminator => ["st", "sterm"]
  | .close => ["cl", "close"]
  | .goOn => ["sc", "scontinue"]

/-- Every class with characters of its own. -/
def all : List SentenceBreak :=
  [.carriageReturn, .lineFeed, .extend, .separator, .format, .space, .lower, .upper, .otherLetter,
   .numeric, .fullStop, .terminator, .close, .goOn]

end SentenceBreak

/-- The characters of the class of a given name. -/
def sentenceBreakSet? (name : String) : Option CharSet :=
  (SentenceBreak.all.find? fun c => c.names.contains name).map (·.set)

end FlightBlocks.Unicode
