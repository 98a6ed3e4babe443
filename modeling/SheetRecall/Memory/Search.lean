import SheetRecall.Memory.Basic
import SheetRecall.Query.Relevance
import SheetRecall.Text.Slice

/-!
# Searching a memory

Reading the records that match filters, or those closest to a vector.  A search leaves out what is
not relevant enough.  If the store cannot compare vectors in an index, the search ends as if there
were nothing more, and the failure is reported.
-/

namespace SheetRecall.Memory

open SheetRecall.Store

/-! ## Listing -/

/-- Reads the records that match one of the filters. -/
def list (m : Memory) (index : String) (filters : List Filter) (limit : Value)
    (withVectors : Bool) (wanted : Option Nat) : Task Session (Reading Record) := do
  let compiled := Filter.compile m.normalize Query.defaultItem filters
  report compiled.notices
  let delivery ← m.ask index (Query.list m.codec compiled limit withVectors)
  return delivery.toPages.read (fun row => (m.codec.decode withVectors row).map some) wanted

/-! ## Searching by vector -/

/-- The distance that a row of a similarity query bears; without one it is taken for far. -/
def distanceOf : Value → Except Fault Float
  | .map fields => ((Entries.get? fields Query.scoreName).getD (.float 2.0)).toFloat
  | _ => .error .noPart

/-- The record of a row and its relevance, if it is relevant enough. -/
def hit (codec : Codec) (withVectors : Bool) (minRelevance row : Value) :
    Except Fault (Option (Record × Float)) := do
  let relevance := Query.relevance (← distanceOf row)
  if (Number.float relevance).lt (← minRelevance.toNumber) then return none
  else return some (← codec.decode withVectors row, relevance)

/-- The wording of a fault, if the store answered with it. -/
def answerText? : Fault → Option String
  | .refused status message => some (Fault.statusText status message)
  | .notFound message => some (Fault.statusText 404 message)
  | _ => none

/-- The store cannot compare vectors. -/
def cannotCompare (fault : Fault) : Bool :=
  (answerText? fault).any fun text => Text.contains text "VectorDistance"

/-- What is reported when the store cannot compare vectors. -/
def comparisonNotice (index : String) (fault : Fault) : Notice :=
  .error ("Vector search failed on index " ++ index ++ ": " ++ (answerText? fault).getD ""
    ++ ". Ensure the container has a vector embedding policy and a vector index on '"
    ++ Query.vectorPath ++ "' (recreate it with create_index).")

/-- How a search ends, and what is reported. -/
def searchEnding (index : String) : Ending → Ending × List Notice
  | .failed fault =>
    if cannotCompare fault then (.finished, [comparisonNotice index fault])
    else (.failed fault, [])
  | ending => (ending, [])

/-- What a search reads from the pages of a query. -/
def readHits (codec : Codec) (index : String) (withVectors : Bool) (minRelevance : Value)
    (pages : Pages) (wanted : Option Nat) : Reading (Record × Float) × List Notice :=
  let reading := pages.read (hit codec withVectors minRelevance) wanted
  let (ending, notices) := searchEnding index reading.ending
  ({ reading with ending }, notices)

/-- Reads the records closest to a vector that match one of the filters. -/
def search (m : Memory) (index : String) (vector : Except Fault (List Float))
    (filters : List Filter) (minRelevance limit : Value) (withVectors : Bool)
    (wanted : Option Nat) : Task Session (Reading (Record × Float)) := do
  let compiled := Filter.compile m.normalize Query.defaultItem filters
  report compiled.notices
  let vector ← Task.ofExcept vector
  let delivery ← m.ask index (Query.similarity m.codec compiled vector limit withVectors)
  let (reading, notices) :=
    readHits m.codec index withVectors minRelevance delivery.toPages wanted
  report notices
  return reading

end SheetRecall.Memory
