import HeaderBidding.Schema.Value

/-!
# Native ad assets

A native ad is shown with the app's own look from its parts: products (title, description,
price, click address, call to action, image), the advertiser (description, domain, logo, logo
click address), privacy notices, and impression pixels to call when the ad is shown.

The assets are kept as their canonical document (`NativeAssets.schema`); only the title of the
first product is read from them.
-/

namespace HeaderBidding

/-- Native assets, as their canonical document. -/
structure NativeAssets where
  doc : Json
  deriving Inhabited

namespace NativeAssets

/-- An image: its address and, when known, its height and width. -/
def imageSchema : Schema :=
  .record "NativeImage"
    [("url", .string, .required), ("height", .integer .i32, .fallback (.int 0)),
     ("width", .integer .i32, .fallback (.int 0))]

/-- A product. -/
def productSchema : Schema :=
  .record "NativeProduct"
    [("title", .string, .required), ("description", .string, .required),
     ("price", .string, .required), ("clickUrl", .string, .required),
     ("callToAction", .string, .required), ("image", imageSchema, .required)]

/-- The advertiser. -/
def advertiserSchema : Schema :=
  .record "NativeAdvertiser"
    [("description", .string, .required), ("domain", .string, .required),
     ("logo", imageSchema, .required), ("logoClickUrl", .string, .required)]

/-- The privacy notices. -/
def privacySchema : Schema :=
  .record "NativePrivacy"
    [("optoutClickUrl", .string, .required), ("optoutImageUrl", .string, .required),
     ("longLegalText", .string, .fallback (.str ""))]

/-- An impression pixel. -/
def pixelSchema : Schema :=
  .record "NativePixel" [("url", .string, .required)]

/-- Native assets. -/
def schema : Schema :=
  .record "NativeAssets"
    [("products", .list productSchema, .required), ("advertiser", advertiserSchema, .required),
     ("privacy", privacySchema, .required),
     ("impressionPixels", .list pixelSchema, .fallback (.arr []))]

/-- Reads native assets from a value, if it has their form. -/
def ofValue? (j : Json) : Option NativeAssets :=
  match Schema.read schema j with
  | .ok doc => some ⟨doc⟩
  | .error _ => none

/-- The title of the first product, if there is a product. -/
def primaryTitle? (a : NativeAssets) : Option String :=
  match (a.doc.get? "products").bind Json.getArr? with
  | some (p :: _) => (p.get? "title").bind Json.getStr?
  | _ => none

end NativeAssets

end HeaderBidding
