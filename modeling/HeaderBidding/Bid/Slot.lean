import HeaderBidding.Bid.Wire
import HeaderBidding.Bid.Native
import HeaderBidding.Ad.Screen
import HeaderBidding.Web.Url
import HeaderBidding.Decimal.Read

/-!
# Bids

A *bid* is a wire slot that made sense: a placement, a price, a size, a lifetime in seconds,
a payload (an address of the ad to display, or native assets) and the time it was downloaded.

- `Bid.ofWire` reads a wire slot: a missing price is `0`, a text price is read as a decimal
  (after trimming white space), native assets win over a display address, and a negative
  lifetime counts as `0`.
- `Bid.validate` checks a bid before it is cached: the price is finite and not negative, a
  display address is a web address, and the bid is not a no-bid.
- `Bid.classify`: a positive price is a *valid* bid; otherwise a positive lifetime makes a
  *silent* bid (the server asks not to show anything for a while); otherwise it is a *no-bid*.
- A bid expires `ttl` seconds after it was downloaded; times are milliseconds, and the
  arithmetic saturates at the 64-bit bounds.
-/

namespace HeaderBidding

/-- What a bid shows: an ad at a web address, or native assets. -/
inductive Payload where
  | displayUrl (url : String)
  | native (assets : NativeAssets)
  deriving Inhabited

namespace Payload

/-- The wire schema: the kind under `"kind"` and the content under `"value"`. -/
def schema : Schema :=
  .adjacent "Payload" "kind" "value" [("display_url", .string), ("native", NativeAssets.schema)]

/-- The canonical document of a payload. -/
def toJson : Payload → Json
  | .displayUrl url => .obj [("kind", .str "display_url"), ("value", .str url)]
  | .native a => .obj [("kind", .str "native"), ("value", a.doc)]

/-- The payload of a canonical document. -/
def ofJson (j : Json) : Payload :=
  match (j.get? "kind").bind Json.getStr? with
  | some "native" => .native ⟨(j.get? "value").getD .null⟩
  | _ => .displayUrl (((j.get? "value").bind Json.getStr?).getD "")

end Payload

/-- Why a wire slot is not cached. -/
inductive SlotError where
  | unparsableCpm (raw : String)
  | negativeCpm (cpm : Float)
  | missingPayload
  | invalidDisplayUrl (url : String)
  | noBid

namespace SlotError

/-- The name of the cause. -/
def name : SlotError → String
  | .unparsableCpm _ => "UnparsableCpm"
  | .negativeCpm _ => "NegativeCpm"
  | .missingPayload => "MissingPayload"
  | .invalidDisplayUrl _ => "InvalidDisplayUrl"
  | .noBid => "NoBid"

/-- The wording of the cause. -/
def message : SlotError → String
  | .unparsableCpm raw => "cpm " ++ Text.quote raw ++ " is not a number"
  | .negativeCpm cpm => "cpm " ++ Decimal.Notation.plain.render cpm ++ " is negative"
  | .missingPayload => "slot has neither display url nor native assets"
  | .invalidDisplayUrl url => "display url " ++ Text.quote url ++ " is not well-formed"
  | .noBid => "slot is a no-bid"

end SlotError

/-- The classes of bids. -/
inductive SlotClass where
  | noBid
  | silent
  | valid
  deriving DecidableEq, Repr

/-- The lifetime given to a bid with a price but no lifetime, in seconds. -/
def defaultTtl : Int :=
  15 * 60

/-- Addition clamped to the signed 64-bit range. -/
def satAdd (a b : Int) : Int :=
  Decimal.clampInt64 (a + b)

/-- Multiplication clamped to the signed 64-bit range. -/
def satMul (a b : Int) : Int :=
  Decimal.clampInt64 (a * b)

/-- A bid. -/
structure Bid where
  placement : String
  impression : Option String
  price : Float
  currency : Option String
  size : Size
  ttl : Int
  payload : Payload
  downloadedAt : Int
  deriving Inhabited

/-- The price of a wire slot: `0` when missing, a text read as a decimal after trimming. -/
def Cpm.price : Option Cpm → Except SlotError Float
  | none => .ok 0
  | some (.number f) => .ok f
  | some (.text raw) =>
    match Decimal.readFloat? (Text.trimBlank raw) with
    | some f => .ok f
    | none => .error (.unparsableCpm raw)

namespace Bid

/-- Reads a wire slot. -/
def ofWire (w : WireSlot) : Except SlotError Bid := do
  let price ← Cpm.price w.cpm
  let native := w.native.bind NativeAssets.ofValue?
  let payload ← match native, w.displayUrl with
    | some a, _ => pure (Payload.native a)
    | none, some url => pure (Payload.displayUrl url)
    | none, none => throw SlotError.missingPayload
  return { placement := w.placement.getD ""
           impression := w.impression
           price
           currency := w.currency
           size := ⟨w.width, w.height⟩
           ttl := max w.ttl 0
           payload
           downloadedAt := 0 }

/-- Whether the bid shows native assets. -/
def isNative (b : Bid) : Bool :=
  match b.payload with
  | .native _ => true
  | .displayUrl _ => false

/-- The class of a bid. -/
def classify (b : Bid) : SlotClass :=
  if b.price > 0 then .valid else if b.ttl > 0 then .silent else .noBid

/-- When the bid expires, in milliseconds. -/
def expiresAt (b : Bid) : Int :=
  satAdd b.downloadedAt (satMul b.ttl 1000)

/-- Whether the bid has expired at `now`. -/
def isExpired (b : Bid) (now : Int) : Bool :=
  decide (b.expiresAt ≤ now)

/-- Whether a price is finite and not negative. -/
def priceOk (price : Float) : Bool :=
  Decimal.isFinite price && !(price < 0)

/-- Whether the bid may be shown: its price is finite and not negative, and a display address
is a web address. -/
def isValid (b : Bid) : Bool :=
  priceOk b.price &&
    match b.payload with
    | .native _ => true
    | .displayUrl url => Web.isHttpUrl url

/-- Checks a bid before it is cached. -/
def validate (b : Bid) : Except SlotError Unit := do
  if !priceOk b.price then throw (.negativeCpm b.price)
  match b.payload with
  | .displayUrl url => if !Web.isHttpUrl url then throw (.invalidDisplayUrl url)
  | .native _ => pure ()
  if b.classify = .noBid then throw .noBid

/-- A priced bid without a lifetime gets the default lifetime. -/
def promote (b : Bid) : Bid :=
  if b.price > 0 ∧ b.ttl = 0 then { b with ttl := defaultTtl } else b

end Bid

/-- The slot key a bid is cached under: native for native assets, interstitial when its size is
the screen's (either way), a banner otherwise. -/
def Screen.keyOfBid (s : Screen) (b : Bid) : SlotKey :=
  let format : Format :=
    if b.isNative then .native
    else if b.size = s.portrait ∨ b.size = s.landscape then .interstitial
    else .banner
  ⟨b.placement, b.size, format⟩

end HeaderBidding
