import FlightBlocks.Document.Load
import FlightBlocks.Usage

/-!
Saved crafts, as far as their flight programs go.
-/

namespace FlightBlocks

/-- The flight program of a part: as text, and as a program where it is loaded. -/
structure FlightProgram where
  loaded : Option Program
  text : String

/-- A part of a craft. Only flight computers have a flight program. -/
structure CraftPart where
  name : String
  flightProgram : Option FlightProgram

/-- A craft. Its parts are missing when they could not be loaded. -/
structure Craft where
  name : String
  parts : Option (List CraftPart)

/-- The program to look at: the loaded one, else that of the text, if it can be read. -/
def FlightProgram.program? (f : FlightProgram) (r : Registry) : Option Program :=
  f.loaded <|> (Document.parse r f.text).toOption

/-- The flight programs of a craft that can be looked at, in the order of its parts. -/
def Craft.programs (c : Craft) (r : Registry) : List Program :=
  (c.parts.getD []).filterMap fun part => part.flightProgram.bind fun f => f.program? r

end FlightBlocks
