import FlightBlocks.Extension.Basic
import FlightBlocks.World.Scene
import FlightBlocks.Proofs.Links
import FlightBlocks.Proofs.Tree
import FlightBlocks.Proofs.Loading
import FlightBlocks.Proofs.Stepping
import FlightBlocks.Proofs.Nesting
import FlightBlocks.Proofs.Frames
import FlightBlocks.Proofs.Jumps
import FlightBlocks.Proofs.Walking
import FlightBlocks.Proofs.Meaning
import FlightBlocks.Proofs.MarkupRoundTrip
import FlightBlocks.Proofs.NodeRoundTrip
import FlightBlocks.Proofs.Saving
import FlightBlocks.Proofs.Reloading
import FlightBlocks.Proofs.Registration
import FlightBlocks.Proofs.NormalForm
import FlightBlocks.Proofs.WorldIndependence
import FlightBlocks.Proofs.Discarding
import FlightBlocks.Proofs.Requirement
import FlightBlocks.Proofs.Faults
import FlightBlocks.Proofs.Acyclic
import FlightBlocks.Proofs.Assembly
import FlightBlocks.Proofs.History
import FlightBlocks.Proofs.DepthLimit
import FlightBlocks.Proofs.Evaluation
import FlightBlocks.Proofs.ProperMarkup
import FlightBlocks.Proofs.PaletteRoundTrip
import FlightBlocks.Proofs.MergeSequences
import FlightBlocks.Proofs.Preorder
import FlightBlocks.Proofs.Configuration
import FlightBlocks.Proofs.Unwinding
import FlightBlocks.Proofs.LoopFree
import FlightBlocks.Proofs.Merging
import FlightBlocks.Proofs.Budget
import FlightBlocks.Proofs.NestedTags
import FlightBlocks.Proofs.ColorText
import FlightBlocks.Proofs.CraftSelection
import FlightBlocks.Proofs.Splitting
import FlightBlocks.Proofs.RegistrationOrder
import FlightBlocks.Proofs.CraftTags
import FlightBlocks.Proofs.AttributeEdits
import FlightBlocks.Proofs.ChoiceHistory
