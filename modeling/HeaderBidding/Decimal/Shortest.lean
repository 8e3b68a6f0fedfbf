import HeaderBidding.Decimal.Binary

/-!
# Fewest digits that read back

For a finite nonzero binary64 value `v = m · 2 ^ e`, the reals that round to `v` form an interval
around it: half a unit in the last place on each side, except that the step below a power of two
is half as wide when the binade below is a full one. Its ends belong to it exactly when `m` is
even, since a tie rounds to the even mantissa.

`shortest` tries the decimal grids `10 ^ g` with 1, 2, …, 17 significant digits in turn. On each
grid only the two points next to `v` can lie in the interval (any grid point inside it is at
least as close as one of them), so the first grid holding one of them gives the fewest digits;
of two such points the nearer to `v` wins, and an exact tie goes to the even digit string.
All comparisons are exact comparisons of natural numbers.
-/

namespace HeaderBidding.Decimal

/-- A decimal `digits · 10 ^ exp`. -/
structure Scientific where
  digits : Nat
  exp : Int
  deriving Repr, DecidableEq

/-- Number of decimal digits of a positive number (`1` for `0`). -/
def digitCount (n : Nat) : Nat :=
  (Nat.toDigits 10 n).length

/-- `⌊log₁₀ (num / den)⌋` for positive `num` and `den`. -/
def floorLog10 (num den : Nat) : Int :=
  let l : Int := (digitCount num : Int) - (digitCount den : Int)
  let above : Bool :=
    if 0 ≤ l then decide (den * Nat.pow 10 l.toNat ≤ num) else decide (den ≤ num * Nat.pow 10 (-l).toNat)
  if above then l else l - 1

/-- Removes up to `fuel` trailing zero digits, raising the exponent. -/
def Scientific.trimBy : Nat → Scientific → Scientific
  | 0, s => s
  | fuel + 1, s =>
    if s.digits ≠ 0 ∧ s.digits % 10 = 0 then
      Scientific.trimBy fuel ⟨s.digits / 10, s.exp + 1⟩
    else s

/-- Removes the trailing zero digits of a significand of at most twenty digits. -/
def Scientific.trim (s : Scientific) : Scientific :=
  s.trimBy 20

/-- Compares `c · 10 ^ g` with `x · 2 ^ b`: `.lt`, `.eq` or `.gt`. -/
def compareScaled (c : Nat) (g : Int) (x : Nat) (b : Int) : Ordering :=
  let left := c * Nat.pow 10 (max g 0).toNat * Nat.pow 2 (max (-b) 0).toNat
  let right := x * Nat.pow 2 (max b 0).toNat * Nat.pow 10 (max (-g) 0).toNat
  compare left right

/-- The rounding interval of `m · 2 ^ e`, as `(lower, upper)` numerators over `2 ^ (e - 2)`. -/
def roundingInterval (m : Nat) (e : Int) : Nat × Nat :=
  let lower := if m = Nat.pow 2 52 ∧ e > -1074 then 4 * m - 1 else 4 * m - 2
  (lower, 4 * m + 2)

/-- Whether `c · 10 ^ g` reads back as `m · 2 ^ e`. -/
def readsBack (m : Nat) (e : Int) (c : Nat) (g : Int) : Bool :=
  let (lower, upper) := roundingInterval m e
  let b := e - 2
  let lo := compareScaled c g lower b
  let hi := compareScaled c g upper b
  if m % 2 = 0 then lo != .lt && hi != .gt else lo == .gt && hi == .lt

/-- On the grid `10 ^ g`, the point next to `m · 2 ^ e` from below. -/
def gridFloor (m : Nat) (e : Int) (g : Int) : Nat :=
  (m * Nat.pow 2 (max e 0).toNat * Nat.pow 10 (max (-g) 0).toNat) /
    (Nat.pow 2 (max (-e) 0).toNat * Nat.pow 10 (max g 0).toNat)

/-- Of the grid points `lo` and `lo + 1` (both reading back), the one nearer to `m · 2 ^ e`;
an exact tie goes to the even one. -/
def nearerOf (m : Nat) (e : Int) (g : Int) (lo : Nat) : Nat :=
  -- compare 2·v with (2·lo + 1)·10^g
  match compareScaled (2 * lo + 1) g (2 * m) e with
  | .gt => lo
  | .lt => lo + 1
  | .eq => if lo % 2 = 0 then lo else lo + 1

/-- Searches the grids with `n`, `n + 1`, … significant digits. -/
def shortestFrom (m : Nat) (e : Int) (top : Int) : Nat → Nat → Option Scientific
  | 0, _ => none
  | fuel + 1, n =>
    let g := top - (n : Int) + 1
    let lo := gridFloor m e g
    match readsBack m e lo g, readsBack m e (lo + 1) g with
    | true, true => some ⟨nearerOf m e g lo, g⟩
    | true, false => some ⟨lo, g⟩
    | false, true => some ⟨lo + 1, g⟩
    | false, false => shortestFrom m e top fuel (n + 1)

/-- The fewest significant digits that read back as the positive value `m · 2 ^ e`, trimmed of
trailing zeros. Seventeen digits always suffice. -/
def shortest (m : Nat) (e : Int) : Scientific :=
  let top := floorLog10 (m * Nat.pow 2 (max e 0).toNat) (Nat.pow 2 (max (-e) 0).toNat)
  match shortestFrom m e top 18 1 with
  | some s => s.trim
  | none => ⟨m, 0⟩

end HeaderBidding.Decimal
