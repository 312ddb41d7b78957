import FlightBlocks.Unicode.Property

/-!
Classes of characters in the later version of the standard.

The classes that patterns call by name follow one version. The mappings between cases and the names
of groups follow the next one, which assigns more characters: here a class is the one of the same
name and what that version adds to it.
-/

namespace FlightBlocks.Unicode.Later

/-- Letters, letter numbers, and the marks and symbols added to them. -/
def alphabetic : CharSet := Unicode.alphabetic.union <| .ofTable
    "88F C5C CDC A7CE-A7CF A7D2 A7D4 A7F1 10940-10959 10EC5-10EC7 10EFA-10EFB 11B60-11B67
    11DB0-11DDB 16EA0-16EB8 16EBB-16ED3 16FF2-16FF6 187F8-187FF 18D09-18D1E 18D80-18DF2
    1E6C0-1E6DE 1E6E0-1E6F5 1E6FE-1E6FF 2B73A-2B73F 2CEA2-2CEAD 323B0-33479"

/-- Digits and all other numbers. -/
def numeric : CharSet := (setOf numbers).union <| .ofTable "11DE0-11DE9 16FF4-16FF6"

/-- Characters with a case. One letter has lost its case. -/
def cased : CharSet := (Unicode.cased.difference <| .single 'ʕ').union <| .ofTable
    "A7CE-A7CF A7D2 A7D4 A7F1 16EA0-16EB8 16EBB-16ED3"

/-- Characters that are passed over when a neighbour's case is looked for. -/
def caseIgnorable : CharSet := Unicode.caseIgnorable.union <| .ofTable
    "1ACF-1ADD 1AE0-1AEB A7F1 10EC5 10EFA-10EFB 11B60 11B62-11B64 11B66 11DD9 16FF2-16FF3 1E6E3
    1E6E6 1E6EE-1E6EF 1E6F5 1E6FF"

end FlightBlocks.Unicode.Later
