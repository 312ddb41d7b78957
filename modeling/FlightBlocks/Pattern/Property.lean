import FlightBlocks.Unicode.Age
import FlightBlocks.Unicode.Break.Sentence
import FlightBlocks.Unicode.CaseMapping

/-!
Classes of characters that a pattern calls by the name of a Unicode property.
-/

namespace FlightBlocks.Pattern

/-- A name without blanks, underscores, hyphens and the difference of case. A leading `is` does not
    count, except in the abbreviation `isc`. -/
def looseName (name : List Char) : String :=
  let fold (chars : List Char) : List Char :=
    (chars.filter fun c => c.toNat < 128 && c != ' ' && c != '_' && c != '-').map Char.toLower
  match name with
  | i :: s :: rest =>
    if i.toLower = 'i' ∧ s.toLower = 's' then
      let rest := fold rest
      if rest = ['c'] then "isc" else String.ofList rest
    else String.ofList (fold name)
  | _ => String.ofList (fold name)

/-- The class of a single name: a binary property, a general category, or a script. Three
    abbreviations always mean a category. -/
def namedSet? (name : String) : Option CharSet :=
  let property? :=
    if name = "cf" ∨ name = "sc" ∨ name = "lc" then none
    else Unicode.propertySet? name <|>
      (Unicode.caseChangeTable.find? fun row => row.1.contains name).map (·.2)
  property? <|> Unicode.categorySet? name <|> Unicode.scriptSet? name

/-- The class of a property with a value. Other properties than these have no classes. -/
def valuedSet? (property value : String) : Option CharSet :=
  match property with
  | "gc" | "generalcategory" => Unicode.categorySet? value
  | "sc" | "script" => Unicode.scriptSet? value
  | "scx" | "scriptextensions" => Unicode.scriptExtensionSet? value
  | "age" => Unicode.ageSet? value
  | "gcb" | "graphemeclusterbreak" => Unicode.graphemeBreakSet? value
  | "wb" | "wordbreak" => Unicode.wordBreakSet? value
  | "sb" | "sentencebreak" => Unicode.sentenceBreakSet? value
  | _ => none

/-- What stands before and after the first occurrence of a mark. -/
def cutAt? (mark : List Char) (before : List Char) : List Char → Option (List Char × List Char)
  | [] => none
  | c :: rest =>
    if mark.isPrefixOf (c :: rest) then
      some (before.reverse, (c :: rest).drop mark.length)
    else cutAt? mark (c :: before) rest

/-- The class that the text between braces calls, and whether it is to be complemented. -/
def propertyQuery? (query : List Char) : Option (CharSet × Bool) :=
  match cutAt? ['!', '='] [] query with
  | some (property, value) => (valuedSet? (looseName property) (looseName value)).map (·, true)
  | none =>
    match cutAt? [':'] [] query <|> cutAt? ['='] [] query with
    | some (property, value) => (valuedSet? (looseName property) (looseName value)).map (·, false)
    | none => (namedSet? (looseName query)).map (·, false)

end FlightBlocks.Pattern
