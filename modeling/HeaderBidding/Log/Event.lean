import HeaderBidding.Schema.Value

/-!
# Bid events

A bid event records one step of the bidding life cycle for the runtime log: its kind
(`cdb_call_started`, `cdb_call_finished`, `cdb_call_failed`, `bid_consumed`), the request and
placements it concerns, and what came of it. An event is built from its kind, then completed by
`withRequest`, `withResponse`, `withError` and `withConsumed` in any order, each setting its own
fields.
-/

namespace HeaderBidding

/-- A bid event. -/
structure BidEvent where
  timestamp : String
  logType : String
  requestId : Option String
  placements : List String
  slotCount : Nat
  price : Option Float
  timeToNextCall : Option Int
  error : Option String
  deriving Inhabited

namespace BidEvent

/-- An event of a kind, at a time, with nothing else set. -/
def new (logType timestamp : String) : BidEvent :=
  ⟨timestamp, logType, none, [], 0, none, none, none⟩

/-- Sets the request and its placements. -/
def withRequest (e : BidEvent) (requestId : String) (placements : List String) : BidEvent :=
  { e with requestId := some requestId, placements }

/-- Sets the number of slots received and the pause before the next request. -/
def withResponse (e : BidEvent) (slotCount : Nat) (timeToNextCall : Int) : BidEvent :=
  { e with slotCount, timeToNextCall := some timeToNextCall }

/-- Sets the error. -/
def withError (e : BidEvent) (error : String) : BidEvent :=
  { e with error := some error }

/-- Sets the placement and price of a consumed bid. -/
def withConsumed (e : BidEvent) (placement : String) (price : Float) : BidEvent :=
  { e with placements := [placement], price := some price }

/-- The wire schema of an event. -/
def schema : Schema :=
  .record "BidEventLog"
    [("timestamp", .string, .required), ("log_type", .string, .required),
     ("request_id", .optional .string, .required), ("placement_ids", .list .string, .required),
     ("slot_count", .integer .usize, .required), ("price", .optional .float, .required),
     ("time_to_next_call", .optional (.integer .i64), .required),
     ("error", .optional .string, .required)]

/-- The canonical document of an event. -/
def toJson (e : BidEvent) : Json :=
  let opt {α : Type} (f : α → Json) : Option α → Json
    | some a => f a
    | none => .null
  .obj [("timestamp", .str e.timestamp), ("log_type", .str e.logType),
    ("request_id", opt .str e.requestId), ("placement_ids", .arr (e.placements.map .str)),
    ("slot_count", .int e.slotCount), ("price", opt .float e.price),
    ("time_to_next_call", opt .int e.timeToNextCall), ("error", opt .str e.error)]

end BidEvent

end HeaderBidding
