/-!
# Binary64 values as exact numbers

A binary64 value is read off its bits as a sign and, when finite, an integer mantissa `m` and
exponent `e` with value `m · 2 ^ e`. Everything else in `Decimal` works on these exact parts with
natural-number arithmetic, so that no rounding of the host's float routines enters a result.

The two conversions the library needs in the other direction are here as well:

- `nearestBits num den`: the binary64 nearest to the positive fraction `num / den`, a tie going
  to the even mantissa; `none` when that value is too large to be finite;
- `Binary.truncate`: the integer part of a value, clamped to the signed 64-bit range, with `0`
  for a NaN.
-/

namespace HeaderBidding.Decimal

/-- The meaning of a binary64 bit pattern. -/
inductive Binary where
  /-- The finite value `(-1) ^ neg · m · 2 ^ e`. -/
  | finite (neg : Bool) (m : Nat) (e : Int)
  /-- An infinity of the given sign. -/
  | infinite (neg : Bool)
  /-- Not a number. -/
  | nan
  deriving Repr, DecidableEq

/-- Decodes the sign, the biased exponent and the fraction of a bit pattern. -/
def Binary.ofBits (bits : UInt64) : Binary :=
  let b := bits.toNat
  let neg := decide (b / Nat.pow 2 63 = 1)
  let biased : Nat := (b / Nat.pow 2 52) % 2048
  let frac : Nat := b % Nat.pow 2 52
  if biased = 2047 then
    if frac = 0 then .infinite neg else .nan
  else if biased = 0 then .finite neg frac (-1074)
  else .finite neg (frac + Nat.pow 2 52) ((biased : Int) - 1075)

/-- The meaning of a float's bits. -/
def Binary.ofFloat (x : Float) : Binary :=
  Binary.ofBits x.toBits

/-- The nearest integer to `n / d`, a tie going to the even one. -/
def roundHalfEven (n d : Nat) : Nat :=
  let q := n / d
  let r := n % d
  if 2 * r > d then q + 1
  else if 2 * r < d then q
  else if q % 2 = 1 then q + 1 else q

/-- `⌊log₂ (num / den)⌋` for positive `num` and `den`. -/
def floorLog2 (num den : Nat) : Int :=
  let l : Int := (num.log2 : Int) - (den.log2 : Int)
  let above : Bool :=
    if 0 ≤ l then decide (den * Nat.pow 2 l.toNat ≤ num) else decide (den ≤ num * Nat.pow 2 (-l).toNat)
  if above then l else l - 1

/-- The integer nearest to `num / den · 2 ^ (-q)`, ties to even. -/
def scaledMantissa (num den : Nat) (q : Int) : Nat :=
  if q < 0 then roundHalfEven (num * Nat.pow 2 (-q).toNat) den
  else roundHalfEven num (den * Nat.pow 2 q.toNat)

/-- The bits of the binary64 nearest to `num / den` (positive sign), ties to even; `none` when
the nearest value lies beyond the largest finite one. -/
def nearestBits (num den : Nat) : Option UInt64 :=
  if num = 0 ∨ den = 0 then some 0
  else
    let q0 : Int := max (floorLog2 num den - 52) (-1074)
    let m0 := scaledMantissa num den q0
    -- rounding up may carry into a new binade
    let (m, q) := if m0 = Nat.pow 2 53 then (Nat.pow 2 52, q0 + 1) else (m0, q0)
    if m < Nat.pow 2 52 then some (UInt64.ofNat m)
    else
      let biased := q + 1075
      if biased ≥ 2047 then none
      else some (UInt64.ofNat (biased.toNat * Nat.pow 2 52 + (m - Nat.pow 2 52)))

/-- An infinity of the given sign. -/
def infinity (neg : Bool) : Float :=
  Float.ofBits (if neg then 0xFFF0000000000000 else 0x7FF0000000000000)

/-- The quiet NaN. -/
def quietNaN : Float :=
  Float.ofBits 0x7FF8000000000000

/-- The binary64 nearest to `num / den` with the given sign; an infinity when it overflows. -/
def nearest (neg : Bool) (num den : Nat) : Float :=
  match nearestBits num den with
  | some bits => Float.ofBits (if neg then bits ||| 0x8000000000000000 else bits)
  | none => infinity neg

/-- The largest and least values of a signed 64-bit integer. -/
def int64Max : Int := Int.pow 2 63 - 1

/-- See `int64Max`. -/
def int64Min : Int := -(Int.pow 2 63)

/-- Clamps an integer into the signed 64-bit range. -/
def clampInt64 (i : Int) : Int :=
  max int64Min (min int64Max i)

/-- The value truncated toward zero and clamped to the signed 64-bit range; a NaN gives `0`. -/
def Binary.truncate : Binary → Int
  | .nan => 0
  | .infinite neg => if neg then int64Min else int64Max
  | .finite neg m e =>
    let mag : Nat := if 0 ≤ e then m * Nat.pow 2 e.toNat else m / Nat.pow 2 (-e).toNat
    clampInt64 (if neg then -(mag : Int) else mag)

/-- Truncation of a float toward zero into the signed 64-bit range (`0` for a NaN). -/
def truncInt64 (x : Float) : Int :=
  (Binary.ofFloat x).truncate

/-- Whether a float is finite. -/
def isFinite (x : Float) : Bool :=
  match Binary.ofFloat x with
  | .finite .. => true
  | _ => false

/-- Whether a float is a NaN. -/
def isNaN (x : Float) : Bool :=
  Binary.ofFloat x == .nan

/-- The binary64 value of an integer, rounded to nearest. -/
def ofInt (i : Int) : Float :=
  nearest (decide (i < 0)) i.natAbs 1

example : Binary.ofBits 0x3FF0000000000000 = .finite false (2 ^ 52) (-52) := by decide +kernel
example : roundHalfEven 5 2 = 2 ∧ roundHalfEven 7 2 = 4 ∧ roundHalfEven 7 3 = 2 := by decide

end HeaderBidding.Decimal
