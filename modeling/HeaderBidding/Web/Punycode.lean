/-!
# Punycode

`Punycode.decode` reads the part of an `xn--` label after the prefix as Punycode (RFC 3492):
the characters before the last hyphen are copied as they are (when that hyphen is the first
character, there are none and the hyphen is read as a digit, which it is not), and the rest is
a run of variable-length integers in base 36, each saying where the next code point goes and by
how much it passes the one before.

Decoding fails when a character is no digit (`a`–`z` in either case, `0`–`9`), when the input
ends inside an integer, when a counter passes `2³² - 1`, or when a code point is a surrogate or
beyond `U+10FFFF`.
-/

namespace HeaderBidding.Web.Punycode

/-- The value of a digit. -/
def digit? (c : Char) : Option Nat :=
  if 'a' ≤ c ∧ c ≤ 'z' then some (c.toNat - 97)
  else if 'A' ≤ c ∧ c ≤ 'Z' then some (c.toNat - 65)
  else if '0' ≤ c ∧ c ≤ '9' then some (c.toNat - 22)
  else none

/-- The threshold of the digit at weight position `k`. -/
def threshold (k bias : Nat) : Nat :=
  if k ≤ bias then 1 else if bias + 26 ≤ k then 26 else k - bias

/-- Scales a bias down. -/
def adaptLoop (delta k : Nat) : Nat × Nat :=
  if 455 < delta then adaptLoop (delta / 35) (k + 36) else (delta, k)
termination_by delta
decreasing_by exact Nat.div_lt_self (by omega) (by omega)

/-- The bias after a code point. -/
def adapt (delta numpoints : Nat) (firstTime : Bool) : Nat :=
  let d0 := if firstTime then delta / 700 else delta / 2
  let d1 := d0 + d0 / numpoints
  let r := adaptLoop d1 0
  r.2 + 36 * r.1 / (r.1 + 38)

/-- The largest value of a counter. -/
def counterMax : Nat := Nat.pow 2 32 - 1

/-- Reads one variable-length integer, adding it to `i` with weight `w` at position `k`; gives
the sum and the rest of the input. -/
def readInteger (bias : Nat) : List Char → Nat → Nat → Nat → Option (Nat × List Char)
  | [], _, _, _ => none
  | c :: rest, k, w, i =>
    match digit? c with
    | none => none
    | some d =>
      if i + d * w > counterMax then none
      else if d < threshold k bias then some (i + d * w, rest)
      else if w * (36 - threshold k bias) > counterMax then none
      else readInteger bias rest (k + 36) (w * (36 - threshold k bias)) (i + d * w)

theorem readInteger_length (bias : Nat) :
    ∀ (l : List Char) (k w i : Nat) (r : Nat × List Char),
      readInteger bias l k w i = some r → r.2.length < l.length
  | [], _, _, _, _, h => by simp [readInteger] at h
  | c :: rest, k, w, i, r, h => by
    unfold readInteger at h
    split at h
    · simp at h
    · split at h
      · simp at h
      · split at h
        · rw [← Option.some.inj h]; simp
        · split at h
          · simp at h
          · have := readInteger_length bias rest (k + 36) _ _ r h
            simp only [List.length_cons]; omega

/-- Inserts the coded code points into `out`; `n` is the last code point and `i` the position
counter. -/
def insertAll (bias n i : Nat) (out : List Char) (input : List Char) : Option (List Char) :=
  match input with
  | [] => some out
  | c :: rest =>
    match h : readInteger bias (c :: rest) 36 1 i with
    | none => none
    | some (i', more) =>
      let count := out.length + 1
      let n' := n + i' / count
      if n' > 0x10FFFF ∨ (0xD800 ≤ n' ∧ n' ≤ 0xDFFF) then none
      else
        have : more.length < (c :: rest).length := readInteger_length bias _ _ _ _ _ h
        let pos := i' % count
        insertAll (adapt (i' - i) count (i == 0)) n' (pos + 1)
          (out.take pos ++ [Char.ofNat n'] ++ out.drop pos) more
termination_by input.length
decreasing_by
  all_goals
    simp only [List.length_cons] at *
    omega

/-- The characters before the last hyphen and the digits after it; when the last hyphen is the
first character, no characters and the whole input. -/
def splitBasic (code : List Char) : List Char × List Char :=
  match code.reverse.findIdx? (· == '-') with
  | some j =>
    let p := code.length - 1 - j
    if p = 0 then ([], code) else (code.take p, code.drop (p + 1))
  | none => ([], code)

/-- Decodes the Punycode after `xn--`. -/
def decode (code : List Char) : Option (List Char) :=
  let (basic, digits) := splitBasic code
  insertAll 72 128 0 basic digits

example : decode "bcher-kva".toList = some "bücher".toList := by decide +kernel
example : decode "abc-".toList = some "abc".toList := by decide +kernel
example : decode "-abc".toList = none := by decide +kernel

end HeaderBidding.Web.Punycode
