/-!
# Packed tables of code point properties

The character tables of this library (general categories, combining classes, bidirectional
classes, the domain-name mapping) are kept as text in the variable-length base-64 digits of
source maps, and read back into arrays when the library starts.

A packed number is a run of base-32 digits, lowest first, each written as one character of the
alphabet `A`–`Z`, `a`–`z`, `0`–`9`, `+`, `/`: a character of value `32 + d` is a digit `d`
with more to come, one of value `d < 32` the last digit. Characters outside the alphabet (the
blanks that lay a long table out in lines) are skipped.

A property of code points is a list of `Runs`: run `i` begins at `starts[i]`, holds
`values[i]`, and ends where the next run begins. `Runs.valueAt` finds the run of a code point
by halving the list of starts, as `indexIn?` finds a key in a sorted array.
-/

namespace HeaderBidding.Text

/-- The value of a character of the packed alphabet; other characters have none. -/
def packedDigit? (c : Char) : Option Nat :=
  if 'A' ≤ c ∧ c ≤ 'Z' then some (c.toNat - 65)
  else if 'a' ≤ c ∧ c ≤ 'z' then some (c.toNat - 71)
  else if '0' ≤ c ∧ c ≤ '9' then some (c.toNat + 4)
  else if c = '+' then some 62
  else if c = '/' then some 63
  else none

/-- Reads packed numbers after `out`; `acc` and `scale` hold the digits read so far of the
number being read. -/
def unpackFrom : List Char → Nat → Nat → Array Nat → Array Nat
  | [], _, _, out => out
  | c :: rest, acc, scale, out =>
    match packedDigit? c with
    | none => unpackFrom rest acc scale out
    | some v =>
      if v < 32 then unpackFrom rest 0 1 (out.push (acc + v * scale))
      else unpackFrom rest (acc + (v - 32) * scale) (scale * 32) out

/-- The numbers packed in a text. -/
def unpack (s : String) : Array Nat :=
  unpackFrom s.toList 0 1 #[]

example : unpack "AB f\ngB" = #[0, 1, 31, 32] := by decide

/-- The integer a packed number stands for when it is signed: even numbers are the numbers
`0, 1, 2, …`, odd ones `-1, -2, …`. -/
def unzigzag (n : Nat) : Int :=
  if n % 2 = 0 then (n / 2 : Nat) else -((n / 2 : Nat) : Int) - 1

example : [0, 1, 2, 3, 4].map unzigzag = [0, -1, 1, -2, 2] := by decide

/-- `n + d`, never below zero. -/
def offsetBy (n : Nat) (d : Int) : Nat :=
  (n + d).toNat

/-- A property of code points as runs: run `i` begins at `starts[i]` and holds `values[i]` up
to the next start. -/
structure Runs where
  starts : Array Nat
  values : Array Nat
  deriving Inhabited

/-- Runs from packed pairs `(gap, value)`, each start being the previous one plus its gap. -/
def Runs.ofNumbers (ns : List Nat) : Runs :=
  let rec go : List Nat → Nat → Runs → Runs
    | gap :: v :: rest, last, r =>
      go rest (last + gap) ⟨r.starts.push (last + gap), r.values.push v⟩
    | _, _, r => r
  go ns 0 ⟨#[], #[]⟩

/-- Runs of a yes-or-no property from packed gaps: the runs alternate, the first (at `0`) saying
yes. -/
def Runs.ofGaps (ns : List Nat) : Runs :=
  let rec go : List Nat → Nat → Nat → Runs → Runs
    | gap :: rest, last, v, r =>
      go rest (last + gap) (1 - v) ⟨r.starts.push (last + gap), r.values.push v⟩
    | [], _, _, r => r
  go ns 0 1 ⟨#[], #[]⟩

/-- The index of the last element at or below `n` of a sorted array among the indices
`[lo, hi)`, or `lo` when there is none; each of the `fuel` steps halves the interval. -/
def lastAtMost (a : Array Nat) (n : Nat) : Nat → Nat → Nat → Nat
  | 0, lo, _ => lo
  | fuel + 1, lo, hi =>
    if lo + 1 < hi then
      let mid := (lo + hi) / 2
      if a.getD mid 0 ≤ n then lastAtMost a n fuel mid hi else lastAtMost a n fuel lo mid
    else lo

/-- The index of `n` in a sorted array, if it is there. -/
def indexIn? (a : Array Nat) (n : Nat) : Option Nat :=
  let i := lastAtMost a n a.size 0 a.size
  if i < a.size ∧ a.getD i 0 = n then some i else none

example : indexIn? #[2, 5, 9, 14] 9 = some 2 ∧ indexIn? #[2, 5, 9, 14] 10 = none := by decide

/-- The index of the run holding `n`. -/
def Runs.search (r : Runs) (n : Nat) : Nat :=
  lastAtMost r.starts n r.starts.size 0 r.starts.size

/-- The value of the run holding `n`, or `0` before the first run. -/
def Runs.valueAt (r : Runs) (n : Nat) : Nat :=
  let i := r.search n
  if r.starts.getD i 0 ≤ n then r.values.getD i 0 else 0

example : (Runs.ofNumbers [0, 5, 10, 7, 2, 9]).valueAt 11 = 7 := by decide
example : (Runs.ofGaps [0, 3, 2]).valueAt 4 = 0 ∧ (Runs.ofGaps [0, 3, 2]).valueAt 5 = 1 := by
  decide

end HeaderBidding.Text
