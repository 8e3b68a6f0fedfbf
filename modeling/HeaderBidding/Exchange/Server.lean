import HeaderBidding.Bid.Wire
import HeaderBidding.Config.Remote
import HeaderBidding.Http.Message
import HeaderBidding.Decimal.Read
import HeaderBidding.Decimal.Text

/-!
# A stand-in bidding server

A server that bids on every slot it is asked for, for trying the client without a real
exchange. Its options fix the price (a range; a fixed price when the range is a single value),
the lifetime of its bids, the pause it asks for between calls, how long it takes to answer, and
the kill switch its configuration carries.

For each requested slot it answers a bid with the slot's impression and placement, the size of
the slot's first size (`WxH`, each side a 32-bit integer, else `0x0`), the price with two
decimals, and either native assets (for native slots) or a display address. Its configuration
has the kill switch and client-side metrics off.

It serves `POST /inapp/v2` for bids and `GET /v1.0/api/config` for its configuration.
-/

namespace HeaderBidding.Exchange

open Json

/-- The server's options. -/
structure Options where
  cpmMin : Float
  cpmMax : Float
  ttl : Int
  timeToNextCall : Int
  delayMs : Nat
  killSwitch : Bool
  deriving Inhabited

namespace Options

/-- The price bid: a draw from the range when it is not a single value, which this server
makes at the middle of the range. -/
def price (o : Options) : Float :=
  if o.cpmMin < o.cpmMax then o.cpmMin / 2 + o.cpmMax / 2 else o.cpmMin

end Options

/-- The path of bid requests. -/
def bidPath : String :=
  "/inapp/v2"

/-- The path of configuration requests. -/
def configPath : String :=
  "/v1.0/api/config"

/-- Reads a size `WxH`, split at the first `x`; `0x0` when either side is not a 32-bit
integer. -/
def parseSize (text : String) : Int × Int :=
  let cs := text.toList
  let w := cs.takeWhile (· ≠ 'x')
  match cs.drop w.length with
  | 'x' :: h =>
    let read (side : List Char) : Option Int :=
      Decimal.readInt? (-Int.pow 2 31) (Int.pow 2 31 - 1) (String.ofList side)
    match read w, read h with
    | some a, some b => (a, b)
    | _, _ => (0, 0)
  | _ => (0, 0)

/-- The native assets bid for an impression. -/
def nativeAssets (impId : String) : Json :=
  let image (url : String) (side : Int) : Json :=
    .obj [("url", .str url), ("height", .int side), ("width", .int side)]
  .obj [
    ("products", .arr [.obj [
      ("title", .str "Mock Native Ad"),
      ("description", .str "Served by the mock CDB"),
      ("price", .str "$10"),
      ("clickUrl", .str ("http://cdb-tracker.local/click?imp=" ++ impId)),
      ("callToAction", .str "Install"),
      ("image", image "http://example.com/native.jpg" 400)]]),
    ("advertiser", .obj [
      ("description", .str "Mock Advertiser"),
      ("domain", .str "example.com"),
      ("logo", image "http://example.com/logo.png" 50),
      ("logoClickUrl", .str "http://example.com")]),
    ("privacy", .obj [
      ("optoutClickUrl", .str "http://example.com/privacy"),
      ("optoutImageUrl", .str "http://example.com/privacy.png"),
      ("longLegalText", .str "")]),
    ("impressionPixels", .arr [.obj [
      ("url", .str ("http://cdb-tracker.local/impression?imp=" ++ impId))]])]

/-- The bid for one requested slot. -/
def bidFor (o : Options) (slot : RequestSlot) : WireSlot :=
  let (width, height) := match slot.sizes with
    | s :: _ => parseSize s
    | [] => (0, 0)
  let native := slot.isNative.getD false
  { placement := some slot.placement
    impression := some slot.impId
    cpm := some (.text (Decimal.fixed 2 o.price))
    currency := some "USD"
    width
    height
    ttl := o.ttl
    displayUrl :=
      if native then none else some ("http://cdb-tracker.local/ad.js?imp=" ++ slot.impId)
    native := if native then some (nativeAssets slot.impId) else none }

/-- The answer to a bid request. -/
def answer (o : Options) (r : BidRequest) : WireResponse :=
  ⟨r.slots.map (bidFor o), o.timeToNextCall⟩

/-- The server's configuration. -/
def config (o : Options) : RemoteConfig :=
  { RemoteConfig.empty with killSwitch := some o.killSwitch, csmEnabled := some false }

/-- The server's routes. -/
def routes (o : Options) : List (Http.Route Unit) :=
  [⟨bidPath, "POST", fun req u =>
      match req.json BidRequest.schema with
      | .error refusal => (refusal, u)
      | .ok j => (.json (answer o (BidRequest.ofJson j)).toJson, u)⟩,
   ⟨configPath, "GET", fun _ u => (.json (config o).toJson, u)⟩]

/-- Serves a request. -/
def serve (o : Options) (req : Http.Request) : Http.Response :=
  (Http.dispatch (routes o) req ()).1

end HeaderBidding.Exchange
