import HeaderBidding.Client.Basic

/-!
# Reports

JSON views of what the client holds and reports, for looking at a session from outside. A
price that has no digits is written as the text `NaN`, `inf` or `-inf`; every other number as
a JSON number.
-/

namespace HeaderBidding

/-- A price in a report. -/
def priceReport (f : Float) : Json :=
  if Decimal.isFinite f then .float f else .str (Decimal.Notation.plain.render f)

/-- The report of a slot key: its text, placement, size and format code. -/
def SlotKey.report (k : SlotKey) : Json :=
  .obj [("display", .str k.render), ("placement_id", .str k.placement),
    ("width", .int k.size.width), ("height", .int k.size.height), ("type", .int k.format.code)]

/-- The report of a bid. -/
def Bid.report (b : Bid) : Json :=
  let text : Option String → Json
    | some s => .str s
    | none => .null
  .obj [("placement_id", .str b.placement), ("impression_id", text b.impression),
    ("price", priceReport b.price), ("currency", text b.currency), ("width", .int b.size.width),
    ("height", .int b.size.height), ("ttl_seconds", .int b.ttl), ("payload", b.payload.toJson),
    ("download_timestamp", .int b.downloadedAt)]

/-- The report of a rejected slot: the kind of rejection and its message. -/
def SlotError.report (e : SlotError) : Json :=
  .obj [("error", .str e.name), ("message", .str e.message)]

/-- The report of a token value. -/
def TokenValue.report (v : TokenValue) : Json :=
  .obj [("price", priceReport v.price), ("payload", v.payload.toJson),
    ("ad_unit_type", v.format.toJson), ("expires_at", .int v.expiresAt)]

/-- The report of a life-cycle event. -/
def Lifecycle.report : Lifecycle → Json
  | .started r =>
    .obj [("event", .str "started"), ("placement_ids", .arr (r.placements.map .str))]
  | .finished r resp =>
    .obj [("event", .str "finished"), ("placement_ids", .arr (r.placements.map .str)),
      ("slots", .int resp.slots.length), ("time_to_next_call", .int resp.timeToNextCall)]
  | .failed r e =>
    let source := match e.source? with
      | some s => [("source", Json.str s)]
      | none => []
    .obj ([("event", .str "failed"), ("placement_ids", .arr (r.placements.map .str)),
      ("kind", .str e.kind), ("message", .str e.message)] ++ source)
  | .consumed key bid =>
    .obj [("event", .str "consumed"), ("key", .str key.render), ("price", priceReport bid.price)]

end HeaderBidding
