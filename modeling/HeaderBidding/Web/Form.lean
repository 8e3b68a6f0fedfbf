/-!
# Form encoding

Query strings are written in form encoding: each name and value is encoded byte by byte from
its UTF-8 form, where ASCII letters, digits and `*-._` stay, a space becomes `+`, and every other
byte is written `%XX` with upper-case hex digits. Pairs are joined as `name=value` with `&`.
-/

namespace HeaderBidding.Web

/-- The upper-case hex digit of a value below 16. -/
def hexUpper (n : Nat) : Char :=
  if n < 10 then Char.ofNat (48 + n) else Char.ofNat (55 + n)

/-- Whether a byte stands for itself in form encoding. -/
def formKeeps (b : UInt8) : Bool :=
  let c := Char.ofNat b.toNat
  (c.isAlphanum && b < 128) || c = '*' || c = '-' || c = '.' || c = '_'

/-- The form encoding of a text. -/
def formEncode (s : String) : String :=
  String.join (s.toUTF8.toList.map fun b =>
    if formKeeps b then (Char.ofNat b.toNat).toString
    else if b = 32 then "+"
    else String.ofList ['%', hexUpper (b.toNat / 16), hexUpper (b.toNat % 16)])

/-- A query of name and value pairs. -/
def formQuery (pairs : List (String × String)) : String :=
  "&".intercalate (pairs.map fun (k, v) => formEncode k ++ "=" ++ formEncode v)

end HeaderBidding.Web
