import HeaderBidding.Schema.Value

/-!
# Ad units and slot keys

An *ad unit* is a place in an app that shows ads: a banner of a given size, an interstitial
(full screen) or a native ad, each named by its placement. A *slot key* names one kind of bid:
a placement, a size and a format. Bids are cached and looked up by slot key.

On the wire a format is a code (`1` banner, `2` interstitial, `3` native), a size is an object
`{"width", "height"}` of 32-bit integers, and an ad unit is an object tagged by `"type"`.
-/

namespace HeaderBidding

/-- The formats of ad units. -/
inductive Format where
  | banner
  | interstitial
  | native
  deriving DecidableEq, Repr, Inhabited

namespace Format

/-- The wire code of a format. -/
def code : Format → Nat
  | .banner => 1
  | .interstitial => 2
  | .native => 3

/-- The format of a wire code. -/
def ofCode? : Nat → Option Format
  | 1 => some .banner
  | 2 => some .interstitial
  | 3 => some .native
  | _ => none

/-- The name of a format, as keys display it. -/
def name : Format → String
  | .banner => "Banner"
  | .interstitial => "Interstitial"
  | .native => "Native"

/-- The wire schema: a code among `1`, `2`, `3`. -/
def schema : Schema :=
  .code "AdUnitType" [1, 2, 3]

/-- The canonical document of a format. -/
def toJson (f : Format) : Json :=
  .int f.code

/-- The format of a canonical document (a banner for anything else). -/
def ofJson (j : Json) : Format :=
  ((j.getInt?.map Int.toNat).bind ofCode?).getD .banner

theorem ofCode_code (f : Format) : ofCode? f.code = some f := by
  cases f <;> rfl

end Format

/-- A size in pixels; each side is a 32-bit signed integer. -/
structure Size where
  width : Int
  height : Int
  deriving DecidableEq, Repr, Inhabited

namespace Size

/-- Whether both sides are positive. -/
def isPositive (s : Size) : Bool :=
  decide (0 < s.width ∧ 0 < s.height)

/-- The text `WxH`. -/
def render (s : Size) : String :=
  toString s.width ++ "x" ++ toString s.height

/-- The wire schema of a size. -/
def schema : Schema :=
  .record "AdSize" [("width", .integer .i32, .required), ("height", .integer .i32, .required)]

/-- The canonical document of a size. -/
def toJson (s : Size) : Json :=
  .obj [("width", .int s.width), ("height", .int s.height)]

/-- The size of a canonical document. -/
def ofJson (j : Json) : Size :=
  ⟨((j.get? "width").bind Json.getInt?).getD 0, ((j.get? "height").bind Json.getInt?).getD 0⟩

end Size

/-- An ad unit: a banner of a size, an interstitial, or a native ad, each with its placement. -/
inductive AdUnit where
  | banner (placement : String) (size : Size)
  | interstitial (placement : String)
  | native (placement : String)
  deriving DecidableEq, Repr, Inhabited

namespace AdUnit

/-- The placement of an ad unit. -/
def placement : AdUnit → String
  | .banner p _ | .interstitial p | .native p => p

/-- The format of an ad unit. -/
def format : AdUnit → Format
  | .banner _ _ => .banner
  | .interstitial _ => .interstitial
  | .native _ => .native

/-- The wire schema: an object tagged by `"type"`. -/
def schema : Schema :=
  .tagged "AdUnit" "type"
    [("banner", .record "variant AdUnit::Banner"
        [("placement_id", .string, .required), ("size", Size.schema, .required)]),
     ("interstitial", .record "variant AdUnit::Interstitial"
        [("placement_id", .string, .required)]),
     ("native", .record "variant AdUnit::Native" [("placement_id", .string, .required)])]

/-- The canonical document of an ad unit. -/
def toJson : AdUnit → Json
  | .banner p s => .obj [("type", .str "banner"), ("placement_id", .str p), ("size", s.toJson)]
  | .interstitial p => .obj [("type", .str "interstitial"), ("placement_id", .str p)]
  | .native p => .obj [("type", .str "native"), ("placement_id", .str p)]

/-- The ad unit of a canonical document. -/
def ofJson (j : Json) : AdUnit :=
  let p := ((j.get? "placement_id").bind Json.getStr?).getD ""
  match (j.get? "type").bind Json.getStr? with
  | some "interstitial" => .interstitial p
  | some "native" => .native p
  | _ => .banner p (Size.ofJson ((j.get? "size").getD .null))

end AdUnit

/-- The key of a cached bid: a placement, a size and a format. -/
structure SlotKey where
  placement : String
  size : Size
  format : Format
  deriving DecidableEq, Repr, Inhabited

namespace SlotKey

/-- The text `placement@WxH/Format`. -/
def render (k : SlotKey) : String :=
  k.placement ++ "@" ++ k.size.render ++ "/" ++ k.format.name

end SlotKey

end HeaderBidding
