import FlightBlocks.Text.Blank
import FlightBlocks.Text.Integer

/-!
Settings of the extension, and the environment variables that override them.
-/

namespace FlightBlocks

/-- Where the toolbox is found, what is logged, and how deep the call stack of a thread may grow;
    without a depth it grows freely. -/
structure Settings where
  toolboxResource : String
  logFilter : Option String
  maxCallDepth : Option Nat
  deriving DecidableEq, Repr

namespace Settings

/-- The resource with the toolbox that comes with the extension. -/
def bundledResource : String := "VizzyPlusPlus/Vizzy/VizzyPlusPlusToolbox"

def default : Settings := ⟨bundledResource, none, some 1024⟩

def logVariable : String := "VIZZYPP_LOG"
def resourceVariable : String := "VIZZYPP_TOOLBOX_RESOURCE"
def depthVariable : String := "VIZZYPP_MAX_CALL_DEPTH"

/-- A depth as it is written: a number of a machine word, where zero sets no limit. -/
def readDepth? (text : String) : Option (Option Nat) :=
  (Text.readNat? UInt64.size (Text.trim text)).map fun depth =>
    if depth = 0 then none else some depth

/-- The settings of an environment. Blank texts and malformed depths count as not given. -/
def ofEnvironment (lookup : String → Option String) : Settings :=
  let given? (name : String) := (lookup name).filter fun text => !(Text.trim text).isEmpty
  { toolboxResource := (given? resourceVariable).getD default.toolboxResource
    logFilter := given? logVariable
    maxCallDepth := ((lookup depthVariable).bind readDepth?).getD default.maxCallDepth }

end Settings

end FlightBlocks
