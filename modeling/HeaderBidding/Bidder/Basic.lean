import HeaderBidding.Bid.Cache
import HeaderBidding.Ad.Screen

/-!
# The bidder

The bidder keeps the bids received for the app's slots and asks the bidding server for more.

- `Bidder.lookup` answers the app's request for an ad unit. A kill switch that is on, or an
  ad unit without a key, gives nothing and changes nothing. An unexpired *silent* bid (priced
  zero, with a lifetime) is kept and nothing is shown or asked. Otherwise the cached bid, if
  any, is taken out (*consumed*): it is shown if it is valid and unexpired. Either way a new
  bid for the key is asked for, if the server's back-off allows a call now.
- `Bidder.receive` takes in a server response: each slot that reads and passes the checks is
  cached under its own key, stamped with the time it arrived, and a positive pause before the
  next call moves the back-off.
- `Bidder.stop` ends the session: answers to requests of an older session are ignored.
-/

namespace HeaderBidding

/-- The bidder's state: cached bids, the earliest time of the next call, the session, and the
screen that decides interstitial keys. -/
structure Bidder where
  cache : BidCache
  nextCallNotBefore : Int
  session : Nat
  screen : Screen
  deriving Inhabited

/-- What looking up an ad unit gives: the bid to show, the bid consumed, the keys to ask for in
which session, and the bidder after it. -/
structure Lookup where
  shown : Option Bid
  consumed : Option (SlotKey × Bid)
  refill : Option (List SlotKey × Nat)
  bidder : Bidder

namespace Bidder

/-- A bidder with nothing cached, free to call, in session zero. -/
def new (screen : Screen) : Bidder :=
  ⟨.empty, 0, 0, screen⟩

/-- Whether the back-off allows a call at `now`. -/
def mayCall (b : Bidder) (now : Int) : Bool :=
  decide (now ≥ b.nextCallNotBefore)

/-- The refill a lookup at `now` asks for: the key in the current session, if calls are
allowed. -/
def refillFor (b : Bidder) (key : SlotKey) (now : Int) : Option (List SlotKey × Nat) :=
  if b.mayCall now then some ([key], b.session) else none

/-- Looks up an ad unit at `now`, with the kill switch `killed`. -/
def lookup (b : Bidder) (killed : Bool) (now : Int) (unit : Option AdUnit) : Lookup :=
  let idle : Lookup := ⟨none, none, none, b⟩
  if killed then idle
  else
    match unit.bind b.screen.keyOf? with
    | none => idle
    | some key =>
      match b.cache.peek? key with
      | none => ⟨none, none, b.refillFor key now, b⟩
      | some bid =>
        if bid.classify = .silent ∧ !bid.isExpired now then idle
        else
          let rest := { b with cache := (b.cache.remove key).2 }
          let usable := bid.classify = .valid ∧ !bid.isExpired now
          ⟨if usable then some bid else none, some (key, bid), b.refillFor key now, rest⟩

/-- The bid of a wire slot as it is cached at `now`, if it reads and passes the checks. -/
def accept (now : Int) (w : WireSlot) : Option Bid :=
  match Bid.ofWire w with
  | .error _ => none
  | .ok bid =>
    match bid.validate with
    | .error _ => none
    | .ok () => some { bid.promote with downloadedAt := now }

/-- Takes in the response to a request of `session` at `now`; nothing if the session is
over. -/
def receive (b : Bidder) (session : Nat) (now : Int) (r : WireResponse) : Option Bidder :=
  if session ≠ b.session then none
  else
    let put (c : BidCache) (w : WireSlot) : BidCache :=
      match accept now w with
      | some bid => c.upsert (b.screen.keyOfBid bid) bid
      | none => c
    let cache := r.slots.foldl put b.cache
    let nextCallNotBefore :=
      if r.timeToNextCall > 0 then satAdd now (satMul r.timeToNextCall 1000)
      else b.nextCallNotBefore
    some { b with cache, nextCallNotBefore }

/-- Ends the session. -/
def stop (b : Bidder) : Bidder :=
  { b with session := b.session + 1 }

/-- Whether a request of `session` is of an older session. -/
def isStale (b : Bidder) (session : Nat) : Bool :=
  session != b.session

end Bidder

end HeaderBidding
