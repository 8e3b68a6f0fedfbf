import HeaderBidding.Ad.Unit
import HeaderBidding.Token.Fresh

/-!
# Bid requests and responses on the wire

A bid request asks the bidding server for bids on a list of slot keys: one request slot per
key, each with a fresh impression identifier, its size as `WxH`, and a flag for native and
interstitial slots. A bid response lists *wire slots*, loosely typed: every field may be
missing, the price (`cpm`) may be a number or a text, and the lifetime (`ttl`) and the pause
before the next request (`timeToNextCall`) are lenient integers.
-/

namespace HeaderBidding

/-- A price as the server sends it: a number or a text. -/
inductive Cpm where
  | number (f : Float)
  | text (s : String)
  deriving Inhabited

namespace Cpm

/-- The wire schema: a number, else a text. -/
def schema : Schema :=
  .untagged "CpmValue" [.float, .string]

/-- The canonical document of a price. -/
def toJson : Cpm → Json
  | .number f => .float f
  | .text s => .str s

/-- The price of a canonical document. -/
def ofJson : Json → Cpm
  | .str s => .text s
  | j => .number ((Json.asFloat j).getD 0)

end Cpm

/-- A bid slot as the server sends it. -/
structure WireSlot where
  placement : Option String
  impression : Option String
  cpm : Option Cpm
  currency : Option String
  width : Int
  height : Int
  ttl : Int
  displayUrl : Option String
  native : Option Json
  deriving Inhabited

namespace WireSlot

/-- The wire schema of a slot. -/
def schema : Schema :=
  .record "CdbSlot"
    [("placementId", .optional .string, .required), ("impId", .optional .string, .required),
     ("cpm", .optional Cpm.schema, .required), ("currency", .optional .string, .required),
     ("width", .integer .i32, .fallback (.int 0)), ("height", .integer .i32, .fallback (.int 0)),
     ("ttl", .lenient, .fallback (.int 0)), ("displayUrl", .optional .string, .required),
     ("native", .optional .any, .required)]

/-- An optional text as a document. -/
def optStr : Option String → Json
  | some s => .str s
  | none => .null

/-- The canonical document of a slot. -/
def toJson (w : WireSlot) : Json :=
  .obj [("placementId", optStr w.placement), ("impId", optStr w.impression),
    ("cpm", (w.cpm.map Cpm.toJson).getD .null), ("currency", optStr w.currency),
    ("width", .int w.width), ("height", .int w.height), ("ttl", .int w.ttl),
    ("displayUrl", optStr w.displayUrl), ("native", w.native.getD .null)]

/-- A member of a canonical document, `none` when it is `null`. -/
def member? (j : Json) (key : String) : Option Json :=
  j.field? key

/-- The slot of a canonical document. -/
def ofJson (j : Json) : WireSlot :=
  { placement := (member? j "placementId").bind Json.getStr?
    impression := (member? j "impId").bind Json.getStr?
    cpm := (member? j "cpm").map Cpm.ofJson
    currency := (member? j "currency").bind Json.getStr?
    width := ((member? j "width").bind Json.getInt?).getD 0
    height := ((member? j "height").bind Json.getInt?).getD 0
    ttl := ((member? j "ttl").bind Json.getInt?).getD 0
    displayUrl := (member? j "displayUrl").bind Json.getStr?
    native := member? j "native" }

end WireSlot

/-- A bid response: the slots, and how many seconds to wait before the next request. -/
structure WireResponse where
  slots : List WireSlot
  timeToNextCall : Int
  deriving Inhabited

namespace WireResponse

/-- The wire schema of a response. -/
def schema : Schema :=
  .record "CdbResponse"
    [("slots", .list WireSlot.schema, .fallback (.arr [])),
     ("timeToNextCall", .lenient, .fallback (.int 0))]

/-- The empty response, which an empty body stands for. -/
def empty : WireResponse :=
  ⟨[], 0⟩

/-- The canonical document of a response. -/
def toJson (r : WireResponse) : Json :=
  .obj [("slots", .arr (r.slots.map WireSlot.toJson)), ("timeToNextCall", .int r.timeToNextCall)]

/-- The response of a canonical document. -/
def ofJson (j : Json) : WireResponse :=
  ⟨(((j.get? "slots").bind Json.getArr?).getD []).map WireSlot.ofJson,
    ((j.get? "timeToNextCall").bind Json.getInt?).getD 0⟩

end WireResponse

/-- The app that asks for bids. -/
structure Publisher where
  cpId : String
  bundleId : String
  deriving DecidableEq, Repr, Inhabited

namespace Publisher

/-- The wire schema of a publisher. -/
def schema : Schema :=
  .record "Publisher" [("cpId", .string, .required), ("bundleId", .string, .required)]

/-- The canonical document of a publisher. -/
def toJson (p : Publisher) : Json :=
  .obj [("cpId", .str p.cpId), ("bundleId", .str p.bundleId)]

/-- The publisher of a canonical document. -/
def ofJson (j : Json) : Publisher :=
  ⟨((j.get? "cpId").bind Json.getStr?).getD "", ((j.get? "bundleId").bind Json.getStr?).getD ""⟩

end Publisher

/-- One slot of a bid request. -/
structure RequestSlot where
  impId : String
  placement : String
  sizes : List String
  isNative : Option Bool
  interstitial : Option Bool
  deriving DecidableEq, Repr, Inhabited

namespace RequestSlot

/-- The wire schema of a request slot; the flags are written only when set. -/
def schema : Schema :=
  .record "CdbRequestSlot"
    [("impId", .string, .required), ("placementId", .string, .required),
     ("sizes", .list .string, .required), ("isNative", .optional .boolean, .omitted),
     ("interstitial", .optional .boolean, .omitted)]

/-- The canonical document of a request slot. -/
def toJson (s : RequestSlot) : Json :=
  let flag (key : String) : Option Bool → List (String × Json)
    | some b => [(key, .bool b)]
    | none => []
  .obj ([("impId", .str s.impId), ("placementId", .str s.placement),
    ("sizes", .arr (s.sizes.map .str))] ++ flag "isNative" s.isNative ++
    flag "interstitial" s.interstitial)

/-- The request slot of a canonical document. -/
def ofJson (j : Json) : RequestSlot :=
  { impId := ((j.get? "impId").bind Json.getStr?).getD ""
    placement := ((j.get? "placementId").bind Json.getStr?).getD ""
    sizes := (((j.get? "sizes").bind Json.getArr?).getD []).filterMap Json.getStr?
    isNative := (j.field? "isNative").bind Json.getBool?
    interstitial := (j.field? "interstitial").bind Json.getBool? }

/-- The request slot of a key, with its impression identifier. -/
def ofKey (key : SlotKey) (impId : String) : RequestSlot :=
  { impId
    placement := key.placement
    sizes := [key.size.render]
    isNative := if key.format = .native then some true else none
    interstitial := if key.format = .interstitial then some true else none }

end RequestSlot

/-- A bid request. -/
structure BidRequest where
  id : String
  publisher : Publisher
  sdkVersion : String
  profileId : Int
  slots : List RequestSlot
  deriving DecidableEq, Repr, Inhabited

namespace BidRequest

/-- The wire schema of a bid request. -/
def schema : Schema :=
  .record "CdbRequest"
    [("id", .string, .required), ("publisher", Publisher.schema, .required),
     ("sdkVersion", .string, .required), ("profileId", .integer .i32, .required),
     ("slots", .list RequestSlot.schema, .required)]

/-- The canonical document of a bid request. -/
def toJson (r : BidRequest) : Json :=
  .obj [("id", .str r.id), ("publisher", r.publisher.toJson), ("sdkVersion", .str r.sdkVersion),
    ("profileId", .int r.profileId), ("slots", .arr (r.slots.map RequestSlot.toJson))]

/-- The bid request of a canonical document. -/
def ofJson (j : Json) : BidRequest :=
  { id := ((j.get? "id").bind Json.getStr?).getD ""
    publisher := Publisher.ofJson ((j.get? "publisher").getD .null)
    sdkVersion := ((j.get? "sdkVersion").bind Json.getStr?).getD ""
    profileId := ((j.get? "profileId").bind Json.getInt?).getD 0
    slots := (((j.get? "slots").bind Json.getArr?).getD []).map RequestSlot.ofJson }

/-- The placements of a request, in order. -/
def placements (r : BidRequest) : List String :=
  r.slots.map (·.placement)

/-- Impression identifiers for keys, taken from a supply in order. -/
def impIds : List SlotKey → Token.Fresh → List String × Token.Fresh
  | [], fresh => ([], fresh)
  | _ :: rest, fresh =>
    let (u, fresh) := fresh.take
    let (ids, fresh) := impIds rest fresh
    (u.renderSimple :: ids, fresh)

/-- A bid request for keys: one slot per key, each with a fresh impression identifier, and a
fresh request identifier taken last. -/
def make (publisher : Publisher) (sdkVersion : String) (profileId : Int) (keys : List SlotKey)
    (fresh : Token.Fresh) : BidRequest × Token.Fresh :=
  let (ids, fresh) := impIds keys fresh
  let (id, fresh) := fresh.take
  (⟨id.render, publisher, sdkVersion, profileId, (keys.zip ids).map fun (k, i) => .ofKey k i⟩,
    fresh)

end BidRequest

end HeaderBidding
