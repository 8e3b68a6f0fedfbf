import HeaderBidding.Decimal.Shortest

/-!
# Writing binary64 values

Three written forms of a float occur in this library:

- `Notation.json`: the fewest digits that read back, positional while the decimal point falls
  within the digits' reach (`-5 < k ≤ 16`, `k` the number of digits before the point), with
  `.0` kept on integers, and `1.5e-7`, `1e300` otherwise;
- `Notation.plain`: the same digits, always positional, with no `.0` (`1`, `0.0000001`,
  `-0`), and `NaN`, `inf`, `-inf` for the values without digits;
- `fixed places`: the exact binary value rounded to `places` decimals, a tie going to the even
  last digit, the sign kept on a negative value that rounds to zero.

The first two differ only in a `Notation` record: the shortest digits are computed once, in
`Decimal.shortest`.
-/

namespace HeaderBidding.Decimal

/-- The layout decisions of a shortest-digit float text. -/
structure Notation where
  /-- Point positions `k` (digits before the point) written positionally are those with
  `below < k`; `none` puts no lower bound. -/
  below : Option Int
  /-- … and `k ≤ upTo`; `none` puts no upper bound. -/
  upTo : Option Int
  /-- Whether an integral value is written with a trailing `.0`. -/
  pointZero : Bool
  /-- The text of a NaN. -/
  nanText : String
  /-- The text of positive infinity (negative infinity takes a `-` in front). -/
  infText : String

/-- Shortest digits, positional from `1e-5` up to below `1e16`, `.0` on integers. -/
def Notation.json : Notation :=
  ⟨some (-5), some 16, true, "NaN", "inf"⟩

/-- Shortest digits, always positional, no `.0`. -/
def Notation.plain : Notation :=
  ⟨none, none, false, "NaN", "inf"⟩

/-- A run of `n` zero digits. -/
def zeros (n : Nat) : String :=
  String.ofList (List.replicate n '0')

/-- Whether a point position is written positionally. -/
def Notation.positional (n : Notation) (k : Int) : Bool :=
  (n.below.all fun b => decide (b < k)) && (n.upTo.all fun u => decide (k ≤ u))

/-- Lays out a positive decimal `s` (no trailing zeros in its digits). -/
def Notation.layout (n : Notation) (s : Scientific) : String :=
  let ds := toString s.digits
  let len := ds.length
  let k : Int := (len : Int) + s.exp
  if n.positional k then
    if 0 ≤ s.exp then ds ++ zeros s.exp.toNat ++ (if n.pointZero then ".0" else "")
    else if 0 < k then
      String.ofList (ds.toList.take k.toNat) ++ "." ++ String.ofList (ds.toList.drop k.toNat)
    else "0." ++ zeros (-k).toNat ++ ds
  else
    let mantissa :=
      if len = 1 then ds
      else String.ofList (ds.toList.take 1) ++ "." ++ String.ofList (ds.toList.drop 1)
    mantissa ++ "e" ++ toString (k - 1)

/-- Writes a float in a notation. -/
def Notation.render (n : Notation) (x : Float) : String :=
  match Binary.ofFloat x with
  | .nan => n.nanText
  | .infinite neg => (if neg then "-" else "") ++ n.infText
  | .finite neg m e =>
    let sign := if neg then "-" else ""
    if m = 0 then sign ++ (if n.pointZero then "0.0" else "0")
    else sign ++ n.layout (shortest m e)

/-- The exact value of a finite float rounded to `places` decimals (ties to even), as a
digit string with the point inserted. -/
def fixedDigits (places : Nat) (m : Nat) (e : Int) : String :=
  let scaled := roundHalfEven (m * Nat.pow 2 (max e 0).toNat * Nat.pow 10 places) (Nat.pow 2 (max (-e) 0).toNat)
  let ds := toString scaled
  let padded := zeros ((places + 1) - ds.length) ++ ds
  let cut := padded.length - places
  let whole := String.ofList (padded.toList.take cut)
  if places = 0 then whole
  else whole ++ "." ++ String.ofList (padded.toList.drop cut)

/-- A float with `places` decimals: the exact binary value rounded half to even; `NaN`, `inf`
and `-inf` for the values without digits; a negative value keeps its sign even when it rounds
to zero. -/
def fixed (places : Nat) (x : Float) : String :=
  match Binary.ofFloat x with
  | .nan => "NaN"
  | .infinite neg => if neg then "-inf" else "inf"
  | .finite neg m e => (if neg then "-" else "") ++ fixedDigits places m e

end HeaderBidding.Decimal
