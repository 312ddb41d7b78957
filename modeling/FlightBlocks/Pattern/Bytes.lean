import FlightBlocks.CharSet

/-!
How UTF-8 writes the characters of a class: as sequences of ranges of bytes, each of which covers
all texts that take their bytes from its ranges.
-/

namespace FlightBlocks.Pattern

/-- A range of values of one byte. -/
structure ByteRange where
  first : Nat
  last : Nat
  deriving DecidableEq, Repr

/-- A sequence of byte ranges that all texts of one length run through. -/
abbrev ByteSequence := List ByteRange

/-- Where the bytes behind the first one begin. -/
def continuation : Nat := 0x80

/-- The sequences for code points from `first` to `last`, which are written with `following` bytes
    of six bits behind a first one that begins at `lead`. -/
def byteSequences : (following lead first last : Nat) → List ByteSequence
  | 0, lead, first, last => [[⟨lead + first, lead + last⟩]]
  | following + 1, lead, first, last =>
    let block := Nat.pow 64 (following + 1)
    let inBlock (n lo hi : Nat) : List ByteSequence :=
      (byteSequences following continuation lo hi).map (⟨lead + n, lead + n⟩ :: ·)
    let firstBlock := first / block
    let lastBlock := last / block
    if firstBlock = lastBlock then inBlock firstBlock (first % block) (last % block)
    else
      let head :=
        if first % block = 0 then [] else inBlock firstBlock (first % block) (block - 1)
      let tail :=
        if last % block = block - 1 then [] else inBlock lastBlock 0 (last % block)
      let lowest := if first % block = 0 then firstBlock else firstBlock + 1
      let upTo := if last % block = block - 1 then lastBlock else lastBlock - 1
      let anyByte : ByteRange := ⟨continuation, continuation + 63⟩
      let middle :=
        if upTo < lowest then []
        else [⟨lead + lowest, lead + upTo⟩ :: List.replicate (following + 1) anyByte]
      head ++ middle ++ tail

/-- Code points that UTF-8 writes with the same number of bytes. -/
structure LengthClass where
  first : Nat
  last : Nat
  /-- The number of bytes behind the first one. -/
  following : Nat
  /-- Where the first byte begins. -/
  lead : Nat

/-- The classes, without surrogates. -/
def lengthClasses : List LengthClass :=
  [⟨0, 0x7f, 0, 0⟩, ⟨0x80, 0x7ff, 1, 0xc0⟩, ⟨0x800, 0xd7ff, 2, 0xe0⟩, ⟨0xe000, 0xffff, 2, 0xe0⟩,
   ⟨0x10000, 0x10ffff, 3, 0xf0⟩]

/-- The sequences of a class in rising order. -/
def utf8Sequences (set : CharSet) : List ByteSequence :=
  set.ranges.flatMap fun r => lengthClasses.flatMap fun c =>
    let first := max r.first c.first
    let last := min r.last c.last
    if first ≤ last then byteSequences c.following c.lead first last else []

/-- Groups neighbours with the same first range. -/
def groupByLead : List ByteSequence → List (ByteRange × List ByteSequence)
  | [] => []
  | [] :: rest => groupByLead rest
  | (lead :: tail) :: rest =>
    match groupByLead rest with
    | (next, tails) :: more =>
      if next = lead then (lead, tail :: tails) :: more
      else (lead, [tail]) :: (next, tails) :: more
    | [] => [(lead, [tail])]

/-- Sequences with their equal beginnings joined. Every range leads on to a tree, or to the end of the
    sequences. -/
inductive ByteTree where
  | stop
  | node (twigs : List (ByteRange × ByteTree))

/-- The tree of sequences of at most `steps` ranges. -/
def ByteTree.ofSequences : (steps : Nat) → List ByteSequence → ByteTree
  | 0, _ => .stop
  | steps + 1, sequences =>
    if sequences.all List.isEmpty then .stop
    else .node ((groupByLead sequences).map fun (lead, tails) => (lead, ofSequences steps tails))

/-- The bytes that write the characters of a class: as sequences, and with equal beginnings
    joined. -/
structure ByteForm where
  sequences : List ByteSequence
  tree : ByteTree

def ByteForm.ofSet (set : CharSet) : ByteForm :=
  let sequences := utf8Sequences set
  ⟨sequences, .ofSequences 4 sequences⟩

/-- The bytes of a text. -/
def textBytes (text : List Char) : List Nat :=
  text.flatMap fun c => (String.utf8EncodeChar c).map UInt8.toNat

end FlightBlocks.Pattern
