import Mathlib.Tactic.Lemma
import Mathlib.Data.List.TakeWhile
import HeaderBidding.Exchange.Server

/-!
# Sizes written and read back

A request names the size of a slot by its text `WxH` (`Size.render`), and the stand-in exchange
reads the size back (`Exchange.parseSize`): it splits the text at its first `x` and reads each
side as a 32-bit integer, an optional sign and then digits, falling back to `0x0`.

A side is written with a sign only when it is negative, so a text may hold two signs, one on
each side of the `x`, and never an `x` inside a number. Main statement: every size whose sides
are 32-bit integers, negative ones included, reads back from its text, and a text whose two
sides around its first `x` are not both 32-bit integers reads as `0x0`
(`sizes_read_back_from_their_text`).
-/

namespace HeaderBidding

/-! ### Numerals read back -/

lemma IntKind.holds_iff {k : IntKind} {i : Int} : k.holds i = true ↔ k.lo ≤ i ∧ i ≤ k.hi := by
  simp only [IntKind.holds, decide_eq_true_eq]

lemma IntKind.hi_i32 : IntKind.hi .i32 = 2147483647 := rfl

lemma IntKind.holds_i32 {i : Int} : IntKind.i32.holds i = true ↔ -2147483648 ≤ i ∧ i ≤ 2147483647 := by
  have h31 : Int.pow 2 31 = 2147483648 := rfl
  simp only [IntKind.holds_iff, IntKind.lo, IntKind.hi, h31]
  omega

namespace Decimal

lemma digitsValue_eq_ofDigitChars (ds : List Char) :
    digitsValue ds = Nat.ofDigitChars 10 ds 0 := by
  simp only [digitsValue, Nat.ofDigitChars, Nat.mul_comm]

@[simp] lemma digitsValue_toDigits (n : Nat) : digitsValue (Nat.toDigits 10 n) = n := by
  rw [digitsValue_eq_ofDigitChars, Nat.ofDigitChars_ten_toDigits]

lemma isDigit_of_mem_toDigits {n : Nat} {c : Char} (h : c ∈ Nat.toDigits 10 n) :
    c.isDigit = true :=
  Nat.isDigit_of_mem_toDigits (by decide) (by decide) h

lemma all_isDigit_toDigits (n : Nat) : (Nat.toDigits 10 n).all Char.isDigit = true :=
  List.all_eq_true.mpr fun _ h => isDigit_of_mem_toDigits h

lemma splitSign_of_isDigit {c : Char} (hc : c.isDigit = true) (cs : List Char) :
    splitSign (c :: cs) = (false, c :: cs) := by
  unfold splitSign
  split
  · simp_all
  · simp_all
  · rfl

/-- The decimal text of a natural number in range reads back as that number. -/
lemma readInt?_repr {lo hi : Int} (n : Nat) (hlo : lo ≤ n) (hhi : n ≤ hi) :
    readInt? lo hi n.repr = some (n : Int) := by
  unfold readInt?
  obtain ⟨c, cs, hcs⟩ := List.exists_cons_of_ne_nil (Nat.toDigits_ne_nil (n := n) (b := 10))
  have hc : c.isDigit = true := isDigit_of_mem_toDigits (hcs ▸ List.mem_cons_self)
  -- a written number starts with a digit, so it has no sign
  rw [Nat.toList_repr, hcs, splitSign_of_isDigit hc]
  rw [← hcs]
  simp [all_isDigit_toDigits, hlo, hhi]

/-- The text of a negative number, a minus sign and the digits of its magnitude, reads back as
that number. -/
lemma readInt?_neg_repr {lo hi : Int} (n : Nat) (hlo : lo ≤ -(n : Int)) (hhi : -(n : Int) ≤ hi) :
    readInt? lo hi ("-" ++ n.repr) = some (-(n : Int)) := by
  unfold readInt?
  have htext : ("-" ++ n.repr).toList = '-' :: Nat.toDigits 10 n := by
    simp [Nat.toList_repr]
  rw [htext]
  simp [splitSign, Nat.toDigits_ne_nil, all_isDigit_toDigits, hlo, hhi]

/-- The decimal text of an integer in range reads back as that integer. -/
lemma readInt?_int_repr {lo hi : Int} (i : Int) (hlo : lo ≤ i) (hhi : i ≤ hi) :
    readInt? lo hi i.repr = some i := by
  rw [Int.repr_eq_if]
  split
  case isTrue hnn =>
    rw [readInt?_repr i.toNat (by omega) (by omega), Int.toNat_of_nonneg hnn]
  case isFalse hneg =>
    have hmag : ((-i).toNat : Int) = -i := Int.toNat_of_nonneg (by omega)
    rw [readInt?_neg_repr (-i).toNat (by omega) (by omega), hmag, Int.neg_neg]

end Decimal

/-! ### Sizes read back -/

namespace Exchange

/-- How a side of a size is read: a 32-bit integer. -/
abbrev readSide (side : List Char) : Option Int :=
  Decimal.readInt? IntKind.i32.lo IntKind.i32.hi (String.ofList side)

lemma x_not_mem_int_repr (i : Int) : 'x' ∉ i.repr.toList := by
  intro hx
  rw [Int.repr_eq_if] at hx
  split at hx
  · rw [Nat.toList_repr] at hx
    exact absurd (Decimal.isDigit_of_mem_toDigits hx) (by decide)
  · simp only [String.toList_append, Nat.toList_repr, List.mem_append] at hx
    rcases hx with hsign | hdigit
    · exact absurd hsign (by decide)
    · exact absurd (Decimal.isDigit_of_mem_toDigits hdigit) (by decide)

/-- A list holding `a` splits at its first `a`. -/
lemma exists_split_at_first {α : Type} [DecidableEq α] {a : α} {l : List α} (h : a ∈ l) :
    ∃ ws hs, l = ws ++ a :: hs ∧ a ∉ ws := by
  induction l with
  | nil => simp at h
  | cons c cs ih =>
    by_cases hc : c = a
    case pos => exact ⟨[], cs, by rw [hc]; rfl, List.not_mem_nil⟩
    case neg =>
      have hcs : a ∈ cs := by simpa [Ne.symm hc] using h
      obtain ⟨ws, hs, rfl, hws⟩ := ih hcs
      exact ⟨c :: ws, hs, rfl, by simp [hws, Ne.symm hc]⟩

/-- A text split at its first `x` reads as its two sides when both are 32-bit integers, and as
`0x0` otherwise. -/
lemma parseSize_of_split {text : String} {ws hs : List Char} (h : text.toList = ws ++ 'x' :: hs)
    (hws : 'x' ∉ ws) :
    parseSize text =
      match readSide ws, readSide hs with
      | some a, some b => (a, b)
      | _, _ => (0, 0) := by
  have hpos : ∀ c ∈ ws, decide (c ≠ 'x') = true := fun c hc =>
    decide_eq_true fun hcx => hws (hcx ▸ hc)
  have hstop : decide ('x' ≠ 'x') = false := by decide
  -- the width is what stands before the first `x`
  have htake : (ws ++ 'x' :: hs).takeWhile (· ≠ 'x') = ws := by
    simp only [List.takeWhile_append_of_pos hpos, List.takeWhile_cons, hstop,
      Bool.false_eq_true, ↓reduceIte, List.append_nil]
  unfold parseSize
  simp only [h, htake, List.drop_left]
  rfl

/-- A text without an `x` reads as `0x0`. -/
lemma parseSize_of_x_not_mem {text : String} (h : 'x' ∉ text.toList) : parseSize text = (0, 0) := by
  have hall : ∀ c ∈ text.toList, decide (c ≠ 'x') = true := fun c hc =>
    decide_eq_true fun hcx => h (hcx ▸ hc)
  unfold parseSize
  simp only [List.takeWhile_eq_self_iff.mpr hall, List.drop_length]

/-- The text of a size: its width, `x`, its height. -/
lemma toList_render (s : Size) :
    s.render.toList = s.width.repr.toList ++ 'x' :: s.height.repr.toList := by
  simp [Size.render]

/-- A size written `WxH` reads back when both sides are 32-bit integers. -/
lemma parseSize_render (s : Size) (hw : IntKind.i32.holds s.width)
    (hh : IntKind.i32.holds s.height) : parseSize s.render = (s.width, s.height) := by
  rw [IntKind.holds_iff] at hw hh
  rw [parseSize_of_split (toList_render s) (x_not_mem_int_repr s.width)]
  simp only [readSide, String.ofList_toList, Decimal.readInt?_int_repr _ hw.1 hw.2,
    Decimal.readInt?_int_repr _ hh.1 hh.2]

end Exchange

/-- Every size with 32-bit sides reads back from its text `WxH`, and a text whose sides around
its first `x` are not both 32-bit integers reads as `0x0`. -/
theorem sizes_read_back_from_their_text :
    (∀ s : Size, IntKind.i32.holds s.width → IntKind.i32.holds s.height →
      Exchange.parseSize s.render = (s.width, s.height)) ∧
    (∀ text : String,
      (¬ ∃ ws hs a b, text.toList = ws ++ 'x' :: hs ∧ 'x' ∉ ws ∧
        Exchange.readSide ws = some a ∧ Exchange.readSide hs = some b) →
      Exchange.parseSize text = (0, 0)) := by
  refine ⟨Exchange.parseSize_render, fun text hnone => ?_⟩
  by_cases hx : 'x' ∈ text.toList
  case neg => exact Exchange.parseSize_of_x_not_mem hx
  case pos =>
    -- split at the first `x`; its sides cannot both read
    obtain ⟨ws, hs, hsplit, hws⟩ := Exchange.exists_split_at_first hx
    rw [Exchange.parseSize_of_split hsplit hws]
    split
    case h_1 a b hw hh => exact absurd ⟨ws, hs, a, b, hsplit, hws, hw, hh⟩ hnone
    case h_2 => rfl

/-- The extreme 32-bit sizes read back, and a text without an `x` reads as `0x0`. -/
theorem sizes_read_back_at_the_extremes :
    (IntKind.i32.holds (-2147483648) ∧ IntKind.i32.holds 2147483647 ∧
      Exchange.parseSize (Size.render ⟨-2147483648, 2147483647⟩) = (-2147483648, 2147483647)) ∧
    Exchange.parseSize "garbage" = (0, 0) := by
  have hlo : IntKind.i32.holds (-2147483648) = true := IntKind.holds_i32.mpr (by omega)
  have hhi : IntKind.i32.holds 2147483647 = true := IntKind.holds_i32.mpr (by omega)
  have hnone : ¬ ∃ ws hs a b, "garbage".toList = ws ++ 'x' :: hs ∧ 'x' ∉ ws ∧
      Exchange.readSide ws = some a ∧ Exchange.readSide hs = some b := by
    rintro ⟨ws, hs, -, -, hsplit, -⟩
    have hx : 'x' ∈ "garbage".toList := by rw [hsplit]; simp
    exact absurd hx (by decide)
  exact ⟨⟨hlo, hhi, sizes_read_back_from_their_text.1 ⟨-2147483648, 2147483647⟩ hlo hhi⟩,
    sizes_read_back_from_their_text.2 "garbage" hnone⟩

end HeaderBidding
