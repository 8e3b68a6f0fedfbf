import HeaderBidding.Bid.Slot

/-!
# The bid cache

At most one bid per slot key. Putting a bid under a key replaces the one there; looking a key
up does not change the cache; taking a bid out leaves the other keys' bids as they were.
-/

namespace HeaderBidding

/-- Cached bids by slot key, at most one per key, in the order the keys were first put. -/
structure BidCache where
  entries : List (SlotKey × Bid)
  deriving Inhabited

namespace BidCache

/-- The empty cache. -/
def empty : BidCache :=
  ⟨[]⟩

/-- The number of cached bids. -/
def count (c : BidCache) : Nat :=
  c.entries.length

/-- The bid under a key. -/
def peek? (c : BidCache) (k : SlotKey) : Option Bid :=
  (c.entries.find? (·.1 = k)).map (·.2)

/-- Puts a bid under a key, replacing the one there. -/
def upsert (c : BidCache) (k : SlotKey) (b : Bid) : BidCache :=
  if c.entries.any (·.1 = k) then
    ⟨c.entries.map fun (k', b') => if k' = k then (k', b) else (k', b')⟩
  else ⟨c.entries ++ [(k, b)]⟩

/-- Takes the bid under a key out. -/
def remove (c : BidCache) (k : SlotKey) : Option Bid × BidCache :=
  (c.peek? k, ⟨c.entries.filter (·.1 ≠ k)⟩)

end BidCache

end HeaderBidding
