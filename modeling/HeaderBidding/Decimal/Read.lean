import HeaderBidding.Decimal.Shortest

/-!
# Reading numerals

`readFloat?` reads the float numerals of the usual programming grammar

    numeral ::= sign? ("inf" | "infinity" | "nan" | digits exponent?)
    digits  ::= d+ | d+ "." d* | d* "." d+
    exponent ::= ("e" | "E") sign? d+

(the words in any case, no blanks, no digit separators) and rounds the exact value to the
nearest binary64, a tie going to the even mantissa; values beyond the largest finite one become
infinities. `readInt?` reads an optionally signed run of digits into a bounded integer range.
-/

namespace HeaderBidding.Decimal

/-- Splits off a leading sign: `true` for `-`. -/
def splitSign : List Char → Bool × List Char
  | '-' :: rest => (true, rest)
  | '+' :: rest => (false, rest)
  | cs => (false, cs)

/-- The value of a run of decimal digits. -/
def digitsValue (ds : List Char) : Nat :=
  ds.foldl (fun acc c => acc * 10 + (c.toNat - '0'.toNat)) 0

/-- The largest exponent magnitude kept exactly; longer exponents saturate, which changes no
result for numerals shorter than a million digits. -/
def exponentCap : Nat := 1000000

/-- Reads `exponent?`: the signed power of ten, or `none` on a malformed exponent. -/
def readExponent : List Char → Option Int
  | [] => some 0
  | c :: rest =>
    if c = 'e' ∨ c = 'E' then
      let (neg, ds) := splitSign rest
      if ds ≠ [] ∧ ds.all Char.isDigit then
        let v : Int := min (digitsValue ds) exponentCap
        some (if neg then -v else v)
      else none
    else none

/-- The binary64 nearest to `n · 10 ^ p`, with the given sign. -/
def scaleDecimal (neg : Bool) (n : Nat) (p : Int) : Float :=
  if n = 0 then nearest neg 0 1
  else
    let size : Int := (digitCount n : Int) + p
    if size > 330 then infinity neg
    else if size < -330 then nearest neg 0 1
    else if 0 ≤ p then nearest neg (n * Nat.pow 10 p.toNat) 1
    else nearest neg n (Nat.pow 10 (-p).toNat)

/-- Reads a float numeral (see the module note); `none` when the text is not one. -/
def readFloat? (s : String) : Option Float :=
  let (neg, body) := splitSign s.toList
  let word := String.ofList (body.map Char.toLower)
  if word = "inf" ∨ word = "infinity" then some (infinity neg)
  else if word = "nan" then some quietNaN
  else
    let intPart := body.takeWhile Char.isDigit
    let afterInt := body.dropWhile Char.isDigit
    let (fracPart, afterFrac) :=
      match afterInt with
      | '.' :: rest => (rest.takeWhile Char.isDigit, rest.dropWhile Char.isDigit)
      | _ => ([], afterInt)
    if intPart.isEmpty ∧ fracPart.isEmpty then none
    else
      (readExponent afterFrac).map fun p =>
        scaleDecimal neg (digitsValue (intPart ++ fracPart)) (p - fracPart.length)

/-- Reads an optionally signed run of decimal digits lying in `[lo, hi]`. -/
def readInt? (lo hi : Int) (s : String) : Option Int :=
  let (neg, ds) := splitSign s.toList
  if ds = [] ∨ !(ds.all Char.isDigit) then none
  else
    let v : Int := if neg then -(digitsValue ds : Int) else digitsValue ds
    if lo ≤ v ∧ v ≤ hi then some v else none

end HeaderBidding.Decimal
