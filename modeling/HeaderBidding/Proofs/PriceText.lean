import HeaderBidding.Proofs.FloatOrder
import HeaderBidding.Proofs.Lenient

/-!
# Prices written with two decimals and read back

The stand-in exchange writes its price as text with two decimals (`fixed 2`), and the bidder
reads the text back as a float after trimming it (`Cpm.price`). This module shows that the price
survives the trip in the way the bidder's checks need: a finite price of at least `0.01` reads
back as a finite float above zero (`readFloat?_fixed_two`).

- The text of a finite value with `places > 0` decimals is digits, a point and `places` digits,
  spelling the value scaled by `10 ^ places` and rounded to nearest (`fixedDigits_eq_point`); it
  has no blanks to trim, and reads back as that number over `10 ^ places`
  (`readFloat?_fixedDigits`).
- With two decimals and a value of at least `0.01`, the number is at least `1`, and it is small
  enough that its quotient by `100` lies in the range where `nearestBits` gives a positive finite
  value (`cents_in_range`).
-/

namespace HeaderBidding.Decimal

/-! ### Positional numerals -/

lemma digitsValue_zeros_append (k : Nat) (ds : List Char) :
    digitsValue (List.replicate k '0' ++ ds) = digitsValue ds := by
  unfold digitsValue
  rw [List.foldl_append]
  congr 1
  induction k with
  | zero => rfl
  | succ k ih => rw [List.replicate_succ, List.foldl_cons, Nat.zero_mul, Nat.zero_add,
      Nat.sub_self, ih]

/-- A positional numeral, digits, a point and digits, reads as the binary64 nearest to its digits
scaled down by the number of digits after the point. -/
lemma readFloat?_point {s : String} {whole frac : List Char} (hs : s.toList = whole ++ '.' :: frac)
    (hne : whole ≠ []) (hwhole : whole.all Char.isDigit = true)
    (hfrac : frac.all Char.isDigit = true) :
    readFloat? s = some (scaleDecimal false (digitsValue (whole ++ frac)) (-(frac.length : Int))) := by
  have hdigit : ∀ c ∈ whole, c.isDigit = true := fun c hc => List.all_eq_true.mp hwhole c hc
  have hfdigit : ∀ c ∈ frac, c.isDigit = true := fun c hc => List.all_eq_true.mp hfrac c hc
  obtain ⟨c, cs, rfl⟩ := List.exists_cons_of_ne_nil hne
  have hc : c.isDigit = true := hdigit c List.mem_cons_self
  have hsplit : splitSign (c :: cs ++ '.' :: frac) = (false, c :: cs ++ '.' :: frac) :=
    splitSign_of_isDigit hc _
  -- the text starts with a digit, so it spells none of the float words
  have hlower : (c :: cs ++ '.' :: frac).map Char.toLower =
      c :: ((cs ++ '.' :: frac).map Char.toLower) := by
    rw [List.cons_append, List.map_cons, toLower_of_isDigit hc]
  obtain ⟨hinf, hinfinity, hnan⟩ := ofList_ne_floatWords hc ((cs ++ '.' :: frac).map Char.toLower)
  -- the digits before the point, then the point and the digits after it
  have hpoint : ('.' : Char).isDigit = false := by decide
  have htake : (c :: cs ++ '.' :: frac).takeWhile Char.isDigit = c :: cs := by
    rw [List.takeWhile_append_of_pos hdigit, List.takeWhile_cons_of_neg (by simp [hpoint]),
      List.append_nil]
  have hdrop : (c :: cs ++ '.' :: frac).dropWhile Char.isDigit = '.' :: frac := by
    rw [List.dropWhile_append_of_pos hdigit, List.dropWhile_cons_of_neg (by simp [hpoint])]
  have hftake : frac.takeWhile Char.isDigit = frac := List.takeWhile_eq_self_iff.mpr hfdigit
  have hfdrop : frac.dropWhile Char.isDigit = [] := List.dropWhile_eq_nil_iff.mpr hfdigit
  have hexp : readExponent [] = some 0 := rfl
  unfold readFloat?
  rw [hs, hsplit]
  dsimp only
  rw [hlower, if_neg (not_or.mpr ⟨hinf, hinfinity⟩), if_neg hnan, htake, hdrop]
  simp only [hftake, hfdrop, hexp]
  rw [if_neg (by simp), Option.map_some, Int.zero_sub]

/-- The text of a value with `places > 0` decimals: the digits of the rounded value scaled by
`10 ^ places`, padded with zeros to more than `places` digits, with a point before the last
`places`. -/
lemma fixedDigits_eq_point (places m : Nat) (e : Int) (hp : 0 < places) :
    ∃ whole frac : List Char, (fixedDigits places m e).toList = whole ++ '.' :: frac ∧
      whole ≠ [] ∧ whole.all Char.isDigit = true ∧ frac.all Char.isDigit = true ∧
      frac.length = places ∧
      digitsValue (whole ++ frac) = roundHalfEven (m * Nat.pow 2 (max e 0).toNat *
        Nat.pow 10 places) (Nat.pow 2 (max (-e) 0).toNat) := by
  unfold fixedDigits
  dsimp only
  generalize roundHalfEven (m * Nat.pow 2 (max e 0).toNat * Nat.pow 10 places)
    (Nat.pow 2 (max (-e) 0).toNat) = n
  rw [Nat.toString_eq_ofList_toDigits, if_neg (Nat.ne_of_gt hp)]
  -- the padded digits, all of them digits, spelling `n`, more than `places` of them
  set padded := List.replicate (places + 1 - (Nat.toDigits 10 n).length) '0' ++
    Nat.toDigits 10 n with hpadded_def
  have hpadded : (zeros (places + 1 - (String.ofList (Nat.toDigits 10 n)).length) ++
      String.ofList (Nat.toDigits 10 n)).toList = padded := by
    rw [String.toList_append, zeros, String.toList_ofList, String.toList_ofList,
      String.length_ofList]
  have hlen : places + 1 ≤ padded.length := by
    rw [hpadded_def, List.length_append, List.length_replicate]
    omega
  have hdigits : padded.all Char.isDigit = true := by
    rw [hpadded_def, List.all_append, all_isDigit_toDigits, Bool.and_true]
    exact List.all_eq_true.mpr fun c hc => by rw [(List.mem_replicate.mp hc).2]; rfl
  have hvalue : digitsValue padded = n := by
    rw [hpadded_def, digitsValue_zeros_append, digitsValue_toDigits]
  rw [← String.length_toList, hpadded]
  refine ⟨padded.take (padded.length - places), padded.drop (padded.length - places), ?_, ?_, ?_,
    ?_, ?_, ?_⟩
  · rw [String.toList_append, String.toList_append, String.toList_ofList, String.toList_ofList,
      String.toList_ofList, List.append_assoc, List.singleton_append]
  · intro hnil
    have := congrArg List.length hnil
    rw [List.length_take, List.length_nil] at this
    omega
  · exact List.all_eq_true.mpr fun c hc =>
      List.all_eq_true.mp hdigits c (List.mem_of_mem_take hc)
  · exact List.all_eq_true.mpr fun c hc =>
      List.all_eq_true.mp hdigits c (List.mem_of_mem_drop hc)
  · rw [List.length_drop]
    omega
  · rw [List.take_append_drop, hvalue]

lemma digitCount_le_of_lt {n k : Nat} (hk : 0 < k) (h : n < 10 ^ k) : digitCount n ≤ k :=
  (Nat.length_toDigits_le_iff (by decide) hk).mpr h

/-- A positive numeral of at most 330 digits with `places` decimals, `0 < places ≤ 330`, is
scaled by dividing by `10 ^ places`. -/
lemma scaleDecimal_point {n places : Nat} (hn : 0 < n) (hsmall : n < 10 ^ 330)
    (hp : 0 < places) (hp' : places ≤ 330) :
    scaleDecimal false n (-(places : Int)) = nearest false n (Nat.pow 10 places) := by
  have hdigits : digitCount n ≤ 330 := digitCount_le_of_lt (by decide) hsmall
  have hpos : 1 ≤ digitCount n := Nat.length_toDigits_pos
  unfold scaleDecimal
  rw [if_neg (Nat.ne_of_gt hn)]
  dsimp only
  rw [if_neg (by omega), if_neg (by omega), if_neg (by omega), neg_neg, Int.toNat_natCast]

lemma two_pow_max_div (e : Int) :
    ((Nat.pow 2 (max e 0).toNat : Nat) : ℚ) / (Nat.pow 2 (max (-e) 0).toNat : Nat) = 2 ^ e := by
  rcases le_total 0 e with he | he
  · obtain ⟨k, rfl⟩ := Int.eq_ofNat_of_zero_le he
    rw [max_eq_left he, max_eq_right (by omega), Int.toNat_natCast, Int.toNat_zero, Nat.pow_eq,
      Nat.pow_eq, zpow_natCast]
    push_cast
    ring
  · obtain ⟨k, rfl⟩ := Int.exists_eq_neg_ofNat he
    rw [max_eq_right he, max_eq_left (by omega), neg_neg, Int.toNat_natCast, Int.toNat_zero,
      Nat.pow_eq, Nat.pow_eq, zpow_neg, zpow_natCast]
    push_cast
    ring

/-- A text without blank characters is its own trimming. -/
lemma trimBlank_of_not_blank {s : String} (h : ∀ c ∈ s.toList, Text.isBlank c = false) :
    Text.trimBlank s = s := by
  have hkeep : ∀ l : List Char, (∀ c ∈ l, Text.isBlank c = false) → l.dropWhile Text.isBlank = l := by
    intro l hl
    cases l with
    | nil => rfl
    | cons c cs => exact List.dropWhile_cons_of_neg (by simp [hl c List.mem_cons_self])
  unfold Text.trimBlank
  rw [hkeep _ h, hkeep _ (fun c hc => h c (List.mem_reverse.mp hc)), List.reverse_reverse,
    String.ofList_toList]

lemma isBlank_eq_false_of_isDigit {c : Char} (h : c.isDigit = true) : Text.isBlank c = false := by
  simp only [Char.isDigit, Bool.and_eq_true, decide_eq_true_eq] at h
  have hlo : ('0' : Char).val.toNat ≤ c.val.toNat := UInt32.le_iff_toNat_le.mp h.1
  have hhi : c.val.toNat ≤ ('9' : Char).val.toNat := UInt32.le_iff_toNat_le.mp h.2
  have h0 : ('0' : Char).val.toNat = 48 := rfl
  have h9 : ('9' : Char).val.toNat = 57 := rfl
  have hnat : c.toNat = c.val.toNat := rfl
  unfold Text.isBlank
  simp only [hnat, Bool.or_eq_false_iff, Bool.and_eq_false_iff, beq_eq_false_iff_ne,
    decide_eq_false_iff_not, Nat.not_le]
  omega

/-- The text of a finite value with `places > 0` decimals reads back as its digits over
`10 ^ places`. -/
lemma readFloat?_fixedDigits (places m : Nat) (e : Int) (hp : 0 < places) :
    readFloat? (Text.trimBlank (fixedDigits places m e)) =
      some (scaleDecimal false (roundHalfEven (m * Nat.pow 2 (max e 0).toNat * Nat.pow 10 places)
        (Nat.pow 2 (max (-e) 0).toNat)) (-(places : Int))) := by
  obtain ⟨whole, frac, htl, hne, hw, hf, hflen, hdv⟩ := fixedDigits_eq_point places m e hp
  -- the text is digits and a point: nothing to trim
  have hchars : ∀ c ∈ (fixedDigits places m e).toList, Text.isBlank c = false := by
    intro c hc
    rw [htl, List.mem_append, List.mem_cons] at hc
    rcases hc with hc | rfl | hc
    · exact isBlank_eq_false_of_isDigit (List.all_eq_true.mp hw c hc)
    · decide
    · exact isBlank_eq_false_of_isDigit (List.all_eq_true.mp hf c hc)
  rw [trimBlank_of_not_blank hchars, readFloat?_point htl hne hw hf, hdv, hflen]

/-- The cents of a finite value of at least `0.01`, `100 · m · 2 ^ e` rounded to nearest, are a
positive number of at most 330 digits whose quotient by `100` lies in the range of
`nearest_finite_pos`. -/
lemma cents_in_range {m : Nat} {e : Int} (hm : m < 9007199254740992) (he : e ≤ 971)
    (hval : (1 : ℚ) ≤ 100 * m * 2 ^ e) :
    let n := roundHalfEven (m * Nat.pow 2 (max e 0).toNat * Nat.pow 10 2)
      (Nat.pow 2 (max (-e) 0).toNat)
    0 < n ∧ n < 10 ^ 330 ∧ (2 : ℚ) ^ (-1074 : Int) ≤ (n : ℚ) / (Nat.pow 10 2 : Nat) ∧
      (n : ℚ) / (Nat.pow 10 2 : Nat) < (2 ^ 53 - 1 / 2) * 2 ^ (971 : Int) := by
  intro n
  have hden : 0 < Nat.pow 2 (max (-e) 0).toNat := Nat.two_pow_pos _
  obtain ⟨hnlo, hnhi⟩ := roundHalfEven_near (m * Nat.pow 2 (max e 0).toNat * Nat.pow 10 2)
    (Nat.pow 2 (max (-e) 0).toNat) hden
  have hcents : ((m * Nat.pow 2 (max e 0).toNat * Nat.pow 10 2 : Nat) : ℚ) /
      (Nat.pow 2 (max (-e) 0).toNat : Nat) = 100 * m * 2 ^ e := by
    rw [← two_pow_max_div e, show Nat.pow 10 2 = 100 from rfl]
    push_cast
    ring
  rw [hcents] at hnlo hnhi
  -- the value is at most the largest finite one, `(2 ^ 53 - 1) · 2 ^ 971`
  have hxhi : 100 * (m : ℚ) * 2 ^ e ≤ 100 * 9007199254740991 * 2 ^ (971 : Int) := by
    have hm' : (m : ℚ) ≤ 9007199254740991 := by exact_mod_cast (by omega : m ≤ 9007199254740991)
    have he' : (2 : ℚ) ^ e ≤ 2 ^ (971 : Int) := zpow_le_zpow_right₀ (by norm_num) he
    calc 100 * (m : ℚ) * 2 ^ e ≤ 100 * 9007199254740991 * 2 ^ e :=
          mul_le_mul_of_nonneg_right (mul_le_mul_of_nonneg_left hm' (by norm_num)) (by positivity)
      _ ≤ 100 * 9007199254740991 * 2 ^ (971 : Int) :=
          mul_le_mul_of_nonneg_left he' (by norm_num)
  have hnpos : 0 < n := by
    have : (0 : ℚ) < n := by linarith
    exact_mod_cast this
  have h971 : (2 : ℚ) ^ (971 : Int) = 2 ^ 971 := zpow_natCast 2 971
  refine ⟨hnpos, ?_, ?_, ?_⟩
  · -- `2 ^ 971` is too large to evaluate as a rational: compare the naturals instead
    have htop : ((2 * 900719925474099100 * 2 ^ 971 + 1 : ℕ) : ℚ) < ((2 * 10 ^ 330 : ℕ) : ℚ) :=
      Nat.cast_lt.mpr (by decide +kernel)
    push_cast [-Nat.reducePow] at htop
    have : (n : ℚ) < 10 ^ 330 := by
      rw [h971] at hxhi
      generalize (2 : ℚ) ^ 971 = P at hxhi htop
      generalize (10 : ℚ) ^ 330 = T at htop ⊢
      linarith
    exact_mod_cast this
  · have hn1 : (1 : ℚ) ≤ n := by exact_mod_cast hnpos
    have hcent : (2 : ℚ) ^ (-1074 : Int) ≤ 1 / 100 := by
      rw [zpow_neg, show (2 : ℚ) ^ (1074 : Int) = 2 ^ 1074 from zpow_natCast 2 1074, one_div]
      exact inv_anti₀ (by norm_num) (le_trans (by norm_num : (100 : ℚ) ≤ 2 ^ 7)
        (pow_le_pow_right₀ (by norm_num) (by norm_num)))
    rw [show Nat.pow 10 2 = 100 from rfl, Nat.cast_ofNat]
    exact hcent.trans (div_le_div_of_nonneg_right hn1 (by norm_num))
  · rw [show Nat.pow 10 2 = 100 from rfl, Nat.cast_ofNat, div_lt_iff₀ (by norm_num)]
    calc (n : ℚ) ≤ 100 * m * 2 ^ e + 1 / 2 := hnhi
      _ ≤ 100 * 9007199254740991 * 2 ^ (971 : Int) + 1 / 2 := by linarith
      _ < (2 ^ 53 - 1 / 2) * 2 ^ (971 : Int) * 100 := by
        -- half a unit is far less than the gap of `50 · 2 ^ 971`
        have hone : (1 : ℚ) ≤ 2 ^ 971 := one_le_pow₀ (by norm_num)
        rw [h971]
        generalize (2 : ℚ) ^ 971 = P at hone ⊢
        linarith

/-- The two-decimal text of a finite float of at least `0.01` reads back as a positive finite
float. -/
theorem readFloat?_fixed_two {x : Float} (hfin : isFinite x = true) (hcent : (0.01 : Float) ≤ x) :
    ∃ y, readFloat? (Text.trimBlank (fixed 2 x)) = some y ∧ isFinite y = true ∧ 0 < y ∧
      ¬y < 0 := by
  obtain ⟨m, e, hx, hm, hval⟩ := value_ge_of_cent_le hcent hfin
  obtain ⟨hmhi, -, hehi, -⟩ := ofBits_finite_bounds hx
  have htext : fixed 2 x = fixedDigits 2 m e := by
    unfold fixed
    rw [hx]
    exact String.empty_append
  obtain ⟨hnpos, hsmall, hlo, hhi⟩ := cents_in_range hmhi hehi hval
  rw [htext, readFloat?_fixedDigits 2 m e (by decide),
    scaleDecimal_point hnpos hsmall (by decide) (by decide)]
  obtain ⟨m', e', hy, hm'⟩ := nearest_finite_pos hnpos (by decide) hlo hhi
  refine ⟨_, rfl, ?_, pos_of_ofFloat hy hm'⟩
  rw [isFinite, hy]

end HeaderBidding.Decimal
