import FlightBlocks.Pattern.Bytes
import FlightBlocks.Pattern.Syntax

/-!
The plan from which the automaton of a pattern is built.

A plan is a pattern in a shorter form: sequences in sequences are one sequence, characters side by
side are one text, a choice between single characters is a class, and branches with equal beginnings
share them. Only the size of the automaton depends on the plan; the pattern itself tells what
matches.
-/

namespace FlightBlocks.Pattern

inductive Plan where
  | literal (text : List Char)
  /-- A class, and the bytes that write its characters. -/
  | oneOf (set : CharSet) (bytes : ByteForm)
  | anchor (condition : Anchor)
  | times (body : Plan) (least : Nat) (most : Option Nat) (greedy : Bool)
  /-- A group that keeps what it matched. -/
  | group (body : Plan)
  | sequence (parts : List Plan)
  | choice (branches : List Plan)

/-! ## What is known about every match -/

/-- What every match of a plan has in common. -/
structure Facts where
  /-- The fewest bytes of a match; nothing where a class without members makes that unknown. -/
  leastBytes : Option Nat
  /-- Every match is empty. -/
  empty : Bool
  /-- A match has to start at the beginning of the text. -/
  fromStart : Bool
  /-- A match has to stop at the end of the text. -/
  toEnd : Bool

namespace Facts

/-- The facts about the empty text. -/
def nothing : Facts := ⟨some 0, true, false, false⟩

/-- The facts about one match behind another. -/
def andThen (a b : Facts) : Facts where
  leastBytes := do return (← a.leastBytes) + (← b.leastBytes)
  empty := a.empty && b.empty
  fromStart := a.fromStart || (a.empty && b.fromStart)
  toEnd := b.toEnd || (b.empty && a.toEnd)

/-- The facts about a match of either kind. -/
def orElse (a b : Facts) : Facts where
  leastBytes := do return min (← a.leastBytes) (← b.leastBytes)
  empty := a.empty && b.empty
  fromStart := a.fromStart && b.fromStart
  toEnd := a.toEnd && b.toEnd

end Facts

mutual

def Plan.facts : Plan → Facts
  | .literal text => { Facts.nothing with
      leastBytes := some (text.map Char.utf8Size).sum, empty := text.isEmpty }
  | .oneOf set _ => { Facts.nothing with
      leastBytes := set.ranges.head?.map fun r => (Char.ofNat r.first).utf8Size, empty := false }
  | .anchor condition => { Facts.nothing with
      fromStart := condition = .textStart, toEnd := condition = .textEnd }
  | .group body => body.facts
  | .times body least _ _ =>
    let once := body.facts
    { leastBytes := once.leastBytes.map (· * least)
      empty := once.empty
      fromStart := 0 < least && once.fromStart
      toEnd := 0 < least && once.toEnd }
  | .sequence parts => factsOfParts parts
  | .choice branches => (factsOfBranches branches).getD .nothing

/-- The facts about a sequence. -/
def factsOfParts : List Plan → Facts
  | [] => .nothing
  | first :: rest => first.facts.andThen (factsOfParts rest)

/-- The facts about a choice, of which there are none without branches. -/
def factsOfBranches : List Plan → Option Facts
  | [] => none
  | first :: rest =>
    match factsOfBranches rest with
    | none => some first.facts
    | some others => some (first.facts.orElse others)

end

/-! ## Equal plans -/

mutual

/-- Whether two plans do the same. Groups that keep what they matched never do. -/
def Plan.same : Plan → Plan → Bool
  | .literal a, .literal b => a = b
  | .oneOf a _, .oneOf b _ => a = b
  | .anchor a, .anchor b => a = b
  | .times a least most greedy, .times b least' most' greedy' =>
    least = least' && most = most' && greedy = greedy' && a.same b
  | .sequence as, .sequence bs => samePlans as bs
  | .choice as, .choice bs => samePlans as bs
  | _, _ => false

def samePlans : List Plan → List Plan → Bool
  | [], [] => true
  | a :: as, b :: bs => a.same b && samePlans as bs
  | _, _ => false

end

namespace Plan

/-! ## Building plans -/

/-- The class of a set; a single character is a text. -/
def ofSet (set : CharSet) : Plan :=
  let set := set.scalars
  match set.ranges with
  | [r] =>
    if r.first = r.last then .literal [Char.ofNat r.first] else .oneOf set (.ofSet set)
  | _ => .oneOf set (.ofSet set)

/-- The members of a sequence. -/
def parts : Plan → List Plan
  | .sequence parts => parts
  | .literal [] => []
  | plan => [plan]

/-- Joins texts that stand side by side. -/
def joinTexts : List Plan → List Plan
  | [] => []
  | .literal a :: rest =>
    match joinTexts rest with
    | .literal b :: rest => .literal (a ++ b) :: rest
    | rest => .literal a :: rest
  | plan :: rest => plan :: joinTexts rest

/-- Some plans one behind the other. -/
def ofParts (plans : List Plan) : Plan :=
  match joinTexts (plans.flatMap parts) with
  | [] => .literal []
  | [plan] => plan
  | plans => .sequence plans

/-- The branches of a choice. -/
def branches : Plan → List Plan
  | .choice branches => branches
  | plan => [plan]

/-- The text of a single character, as a set. -/
def character? : Plan → Option CharSet
  | .literal [c] => some (.single c)
  | _ => none

def class? : Plan → Option CharSet
  | .oneOf set _ => some set
  | _ => none

def sequence? : Plan → Option (List Plan)
  | .sequence parts => some parts
  | _ => none

/-- The union of sets as a plan. -/
def ofSets (sets : List CharSet) : Plan := ofSet (.ofRanges (sets.flatMap (·.ranges)))

/-- A choice without branches in branches. Single characters are gathered into a class, and so are
    classes, but not the one with the other. -/
def gather (plans : List Plan) : Plan :=
  match plans.flatMap branches with
  | [] => ofSet .empty
  | [plan] => plan
  | plans =>
    match plans.mapM character? <|> plans.mapM class? with
    | some sets => ofSets sets
    | none => .choice plans

/-- How many members two sequences have in common at their beginnings. -/
def commonLength : List Plan → List Plan → Nat
  | a :: as, b :: bs => if a.same b then commonLength as bs + 1 else 0
  | _, _ => 0

/-- Some plans to choose from. If all are sequences, their common beginning is planned once. -/
def ofBranches (plans : List Plan) : Plan :=
  match gather plans with
  | .choice plans =>
    match plans.mapM sequence? with
    | some (first :: others) =>
      let common := (others.map (commonLength first)).foldl min first.length
      if common = 0 then .choice plans
      else
        let rests := (first :: others).map fun parts => ofParts (parts.drop common)
        ofParts (first.take common ++ [gather rests])
    | _ => .choice plans
  | plan => plan

/-- A repetition. One of the empty text is made at most once, and one that is made exactly once is
    left out. -/
def repeated (body : Plan) (least : Nat) (most : Option Nat) (greedy : Bool) : Plan :=
  let (least, most) :=
    if body.facts.empty then (min least 1, some ((most.map (min · 1)).getD 1)) else (least, most)
  if most = some 0 then .literal []
  else if least = 1 ∧ most = some 1 then body
  else .times body least most greedy

/-- A plan that is still open to more members, or to more branches, at its front. -/
inductive Draft where
  | whole (plan : Plan)
  | parts (plans : List Plan)
  | branches (plans : List Plan)

namespace Draft

def finish : Draft → Plan
  | .whole plan => plan
  | .parts plans => ofParts plans
  | .branches plans => ofBranches plans

/-- The draft of a sequence behind a first member. -/
def toParts : Draft → List Plan
  | .parts plans => plans
  | draft => [draft.finish]

/-- The draft of a choice behind a first branch. -/
def toBranches : Draft → List Plan
  | .branches plans => plans
  | draft => [draft.finish]

end Draft

def draft : Pattern → Draft
  | .empty => .whole (.literal [])
  | .oneOf set => .whole (ofSet set)
  | .anchor condition => .whole (.anchor condition)
  | .sequence first rest => .parts ((draft first).finish :: (draft rest).toParts)
  | .choice first rest => .branches ((draft first).finish :: (draft rest).toBranches)
  | .times body least most greedy => .whole (repeated (draft body).finish least most greedy)
  | .group body captures =>
    let inner := (draft body).finish
    .whole (if captures then .group inner else inner)

/-- The plan of a pattern. -/
def ofPattern (pattern : Pattern) : Plan := (draft pattern).finish

end Plan

end FlightBlocks.Pattern
