/-!
# Distinct identifiers

The registry gives every chunk of a parse result an identifier of its own. Identifiers that come with
the elements are reserved beforehand, so that none that is made up can take one; an identifier that is
taken gets the first suffix `_k` that is free. `Registry.claim` answers one claim and records the answer.

The counter of the search is a signed word of 32 bits, behind whose greatest value comes its least one. Among
`n + 1` values of the counter one makes a candidate that is outside `n` taken identifiers, so the search ends
unless all the candidates are taken, of which there are `Int32.size`. In that one case there is no answer, and
what stands here for it means nothing.
-/

namespace TextChunking

/-- The identifiers that are reserved and those that are in use. -/
structure Registry where
  reserved : List String
  used : List String
  deriving Repr, DecidableEq

namespace Registry

/-- The registry in which nothing is in use yet. -/
def ofReserved (reserved : List String) : Registry := { reserved, used := [] }

/-- How many identifiers are listed as taken. -/
def taken (registry : Registry) : Nat := registry.used.length + registry.reserved.length

/-- Whether an identifier is neither reserved nor in use. -/
def isFree (registry : Registry) (id : String) : Bool :=
  !registry.used.contains id && !registry.reserved.contains id

/-- An identifier with a number behind it. -/
def suffixed (id : String) (k : Int) : String := s!"{id}_{k}"

/-- The first free candidate from the counter on, among at most `fuel + 1` of them. -/
def firstFree (registry : Registry) (id : String) : Nat → Int32 → String
  | 0, counter => suffixed id counter.toInt
  | fuel + 1, counter =>
    if registry.isFree (suffixed id counter.toInt) then suffixed id counter.toInt
    else firstFree registry id fuel (counter + 1)

/-- The identifier that answers a claim. A supplied one may use its own reservation. -/
def answer (registry : Registry) (id : String) (supplied : Bool) : String :=
  if !registry.used.contains id && (supplied || !registry.reserved.contains id) then id
  else registry.firstFree id registry.taken 1

/-- Answers a claim and puts the answer into use. -/
def claim (registry : Registry) (id : String) (supplied : Bool) : String × Registry :=
  let answer := registry.answer id supplied
  (answer, { registry with used := answer :: registry.used })

/-- Answers claims in turn. -/
def claimAll (registry : Registry) : List (String × Bool) → List String
  | [] => []
  | (id, supplied) :: rest =>
    let (answer, registry) := registry.claim id supplied
    answer :: registry.claimAll rest

end Registry

end TextChunking
