import HeaderBidding.Proofs.FloatBits

/-!
# Decoded bits, the float order, and rounding fractions

`Decimal` reads a float through its bits (`Binary.ofBits`), while the order of floats is the
float model's, which unpacks the same bits into `UnpackedFloat`. The two readings agree
(`ofBits_eq_ofUnpacked`), with the model's zero read as a finite value of mantissa `0`. So the
order of two floats can be read off their decoded bits:

- a float whose bits decode to a positive finite value is above `0` and not below it
  (`pos_of_ofFloat`);
- a finite float of at least `0.01` decodes to `m · 2 ^ e` with `1 ≤ 100 · m · 2 ^ e`
  (`value_ge_of_cent_le`).

The second part works out what `nearestBits num den` gives for a fraction between the least
subnormal and the midpoint above the largest finite value: a positive finite value
(`nearestBits_finite_pos`). The argument follows the code: `floorLog2` is `⌊log₂ (num / den)⌋`
(`floorLog2_spec`), the mantissa is the fraction scaled into `[1, 2 ^ 53)` and rounded to
nearest, at most half a unit off (`scaledMantissa_near`), and a mantissa rounded up to `2 ^ 53`
carries into a binade that is still finite.
-/

open Float.Model Float.Model.UnpackedFloat

namespace HeaderBidding.Decimal

/-! ### Decoded bits in the float model -/

/-- The decoded form of an unpacked float; a zero is a finite value of mantissa `0` at the least
exponent, as `Binary.ofBits` reads it. -/
def Binary.ofUnpacked : UnpackedFloat → Binary
  | .notANumber => .nan
  | .infinity s => .infinite (s == .negative)
  | .zero s => .finite (s == .negative) 0 (-1074)
  | .finite s m e _ => .finite (s == .negative) m e

lemma toNat_unpackSign (b : BitVec 64) :
    (@unpackSign Format.binary64 b).toNat = b.toNat / 9223372036854775808 := by
  have hlt := b.isLt
  simp [unpackSign, Nat.shiftRight_eq_div_pow]
  omega

lemma sign_unpackSign (b : UInt64) :
    (Sign.ofBitVec (@unpackSign Format.binary64 b.toBitVec) == .negative) =
      decide (b.toNat / Nat.pow 2 63 = 1) := by
  have hS := toNat_unpackSign b.toBitVec
  have hlt := b.toBitVec.isLt
  simp only [UInt64.toNat_toBitVec] at hS hlt
  have h63 : Nat.pow 2 63 = 9223372036854775808 := rfl
  unfold Sign.ofBitVec
  rw [h63]
  by_cases h0 : @unpackSign Format.binary64 b.toBitVec = 0#1
  · have hpos : b.toNat / 9223372036854775808 = 0 := by
      rw [← hS, h0]
      rfl
    simp [h0, hpos]
  · -- the sign bit is the one bit above the other 63
    have hne : (@unpackSign Format.binary64 b.toBitVec).toNat ≠ 0 :=
      fun h => h0 (BitVec.eq_of_toNat_eq h)
    have hneg : b.toNat / 9223372036854775808 = 1 := by omega
    simp [h0, hneg]

lemma unpackExponent_eq_allOnes_iff (b : UInt64) :
    @unpackExponent Format.binary64 b.toBitVec = -1#11 ↔
      b.toNat / 4503599627370496 % 2048 = 2047 := by
  rw [← BitVec.toNat_inj, toNat_unpackExponent]
  rfl

lemma unpackExponent_eq_zero_iff (b : UInt64) :
    @unpackExponent Format.binary64 b.toBitVec = 0#11 ↔ b.toNat / 4503599627370496 % 2048 = 0 := by
  rw [← BitVec.toNat_inj, toNat_unpackExponent]
  rfl

lemma unpackMantissa_eq_zero_iff (b : UInt64) :
    @unpackMantissa Format.binary64 b.toBitVec = 0#52 ↔ b.toNat % 4503599627370496 = 0 := by
  rw [← BitVec.toNat_inj, toNat_unpackMantissa]
  rfl

/-- A normal value's mantissa is the fraction with its leading bit put back. -/
lemma toNat_normalMantissa (b : UInt64) :
    (1#1 ++ @unpackMantissa Format.binary64 b.toBitVec).toNat =
      b.toNat % 4503599627370496 + 4503599627370496 := by
  have hb := (@unpackMantissa Format.binary64 b.toBitVec).isLt
  simp only [BitVec.toNat_append]
  rw [← Nat.shiftLeft_add_eq_or_of_lt hb, toNat_unpackMantissa]
  simp [Nat.shiftLeft_eq]
  omega

/-- Decoding the bits is unpacking them in the float model. -/
lemma ofBits_eq_ofUnpacked (b : UInt64) :
    Binary.ofBits b = Binary.ofUnpacked (UnpackedFloat.unpack Format.binary64 b.toBitVec) := by
  have hE := toNat_unpackExponent b.toBitVec
  have hM := toNat_unpackMantissa b.toBitVec
  have hE1 := unpackExponent_eq_allOnes_iff b
  have hE0 := unpackExponent_eq_zero_iff b
  have hM0 := unpackMantissa_eq_zero_iff b
  have hnormal := toNat_normalMantissa b
  have h52 : Nat.pow 2 52 = 4503599627370496 := rfl
  simp only [UInt64.toNat_toBitVec] at hE hM
  unfold Binary.ofBits UnpackedFloat.unpack
  dsimp only
  rw [h52]
  -- both read the same exponent field, then the same fraction
  by_cases hinf : b.toNat / 4503599627370496 % 2048 = 2047
  · rw [if_pos hinf, if_pos (hE1.mpr hinf)]
    by_cases hz : b.toNat % 4503599627370496 = 0
    · rw [if_pos hz, if_pos (hM0.mpr hz)]
      simp only [Binary.ofUnpacked, sign_unpackSign]
    · rw [if_neg hz, if_neg (mt hM0.mp hz)]
      rfl
  · rw [if_neg hinf, if_neg (mt hE1.mp hinf)]
    by_cases hsub : b.toNat / 4503599627370496 % 2048 = 0
    · rw [if_pos hsub, if_pos (hE0.mpr hsub)]
      by_cases hz : b.toNat % 4503599627370496 = 0
      · rw [dif_pos (hM0.mpr hz)]
        simp only [Binary.ofUnpacked, sign_unpackSign, hz]
      · rw [dif_neg (mt hM0.mp hz)]
        simp only [Binary.ofUnpacked, sign_unpackSign, hM, hE, hsub]
        rfl
    · rw [if_neg hsub, if_neg (mt hE0.mp hsub)]
      simp only [Binary.ofUnpacked, sign_unpackSign, hnormal, hE]
      rfl

lemma ofFloat_eq_ofUnpacked (x : Float) : Binary.ofFloat x = Binary.ofUnpacked x.toModel.unpack :=
  ofBits_eq_ofUnpacked x.toBits

/-- What a finite decoding can be: a mantissa below `2 ^ 53` at an exponent from `-1074` to `971`,
of at least `2 ^ 52` above the least exponent. -/
lemma ofBits_finite_bounds {b : UInt64} {neg : Bool} {m : Nat} {e : Int}
    (h : Binary.ofBits b = .finite neg m e) :
    m < 9007199254740992 ∧ -1074 ≤ e ∧ e ≤ 971 ∧ (-1074 < e → 4503599627370496 ≤ m) := by
  have hfrac : b.toNat % 4503599627370496 < 4503599627370496 := Nat.mod_lt _ (by decide)
  have h52 : Nat.pow 2 52 = 4503599627370496 := rfl
  unfold Binary.ofBits at h
  simp only [h52] at h
  split_ifs at h with hinf hnan hsub
  · -- a subnormal value: the fraction over the least exponent
    cases h
    omega
  · -- a normal value: the fraction with its leading bit, over the biased exponent
    cases h
    omega

/-! ### The order of floats -/

lemma lt_iff_compare_unpack (x y : Float) :
    x < y ↔ x.toModel.unpack.compare y.toModel.unpack = some .lt := by
  simp [LT.lt, Float.lt, Float.Model.lt, UnpackedFloat.lt]

lemma le_iff_compare_unpack (x y : Float) :
    x ≤ y ↔ (x.toModel.unpack.compare y.toModel.unpack).any (·.isLE) = true := by
  show decide (x.toModel.le y.toModel = true) = true ↔ _
  rw [decide_eq_true_iff]
  rfl

lemma unpack_zero_float : (0 : Float).toModel.unpack = .zero .positive := rfl

lemma unpack_cent :
    (0.01 : Float).toModel.unpack = .finite .positive 5764607523034235 (-59) (by decide) := rfl

/-- A float whose bits decode to a positive finite value is that value in the float model. -/
lemma unpack_of_ofFloat_pos {x : Float} {m : Nat} {e : Int}
    (h : Binary.ofFloat x = .finite false m e) (hm : 0 < m) :
    x.toModel.unpack = .finite .positive m e hm := by
  rw [ofFloat_eq_ofUnpacked] at h
  cases hu : x.toModel.unpack with
  | notANumber => simp [hu, Binary.ofUnpacked] at h
  | infinity s => simp [hu, Binary.ofUnpacked] at h
  | zero s =>
    simp only [hu, Binary.ofUnpacked, Binary.finite.injEq] at h
    omega
  | finite s m' e' hm' =>
    rw [hu] at h
    cases s <;> simp only [Binary.ofUnpacked, Binary.finite.injEq] at h
    · simp at h
    · obtain ⟨-, rfl, rfl⟩ := h
      rfl

/-- A float whose bits decode to a positive finite value is above zero. -/
lemma pos_of_ofFloat {x : Float} {m : Nat} {e : Int} (h : Binary.ofFloat x = .finite false m e)
    (hm : 0 < m) : 0 < x ∧ ¬x < 0 := by
  rw [lt_iff_compare_unpack, lt_iff_compare_unpack, unpack_zero_float, unpack_of_ofFloat_pos h hm]
  exact ⟨rfl, by simp [UnpackedFloat.compare]⟩

/-- A finite float of at least `0.01` is positive, with a value of at least `1 / 100`. -/
lemma value_ge_of_cent_le {x : Float} (hle : (0.01 : Float) ≤ x) (hfin : isFinite x = true) :
    ∃ m e, Binary.ofFloat x = .finite false m e ∧ 0 < m ∧ (1 : ℚ) ≤ 100 * m * 2 ^ e := by
  rw [le_iff_compare_unpack, unpack_cent] at hle
  have hx := ofFloat_eq_ofUnpacked x
  unfold isFinite at hfin
  -- the cent is a positive normal value: below it lie NaN, the zeros and the negative values
  cases hu : x.toModel.unpack with
  | notANumber =>
    rw [hu] at hle
    simp [UnpackedFloat.compare] at hle
  | infinity s =>
    rw [hx, hu] at hfin
    simp [Binary.ofUnpacked] at hfin
  | zero s =>
    rw [hu] at hle
    simp [UnpackedFloat.compare] at hle
  | finite s m e hm =>
    rw [hu] at hle hx
    cases s
    case negative => simp [UnpackedFloat.compare] at hle
    case positive =>
    refine ⟨m, e, hx, hm, ?_⟩
    obtain ⟨-, -, -, hnormal⟩ := ofBits_finite_bounds hx
    simp only [UnpackedFloat.compare] at hle
    -- positive finite values compare by exponent first, then by mantissa
    rcases lt_trichotomy e (-59) with hlt | rfl | hgt
    · have hcmp : compare (-59 : Int) e = .gt := compare_gt_iff_gt.mpr hlt
      simp [hcmp] at hle
    · have hcmp : compare (-59 : Int) (-59) = .eq := compare_eq_iff_eq.mpr rfl
      have hM : 5764607523034235 ≤ m := Nat.isLE_compare.mp (by simpa [hcmp] using hle)
      calc (1 : ℚ) ≤ 100 * 5764607523034235 * 2 ^ (-59 : Int) := by norm_num
        _ ≤ 100 * m * 2 ^ (-59 : Int) := by gcongr; exact_mod_cast hM
    · -- a larger exponent makes a normal float of at least `2 ^ -6`
      have hm52 := hnormal (by omega)
      calc (1 : ℚ) ≤ 100 * 4503599627370496 * 2 ^ (-58 : Int) := by norm_num
        _ ≤ 100 * m * 2 ^ e := by
          gcongr
          · exact_mod_cast hm52
          · norm_num
          · omega

/-! ### Rounding a positive fraction -/

/-- The test `floorLog2` makes of an exponent, of either sign: whether `2 ^ l ≤ num / den`. -/
lemma pow_test_iff (num den : Nat) (hd : 0 < den) (l : Int) :
    (if 0 ≤ l then decide (den * Nat.pow 2 l.toNat ≤ num)
      else decide (den ≤ num * Nat.pow 2 (-l).toNat)) = true ↔ (2 : ℚ) ^ l ≤ num / den := by
  have hd' : (0 : ℚ) < den := by exact_mod_cast hd
  rw [le_div_iff₀ hd']
  split
  case isTrue hl =>
    obtain ⟨k, rfl⟩ := Int.eq_ofNat_of_zero_le hl
    rw [decide_eq_true_iff, zpow_natCast, Int.toNat_natCast, Nat.pow_eq, ← Nat.cast_le (α := ℚ)]
    push_cast
    rw [mul_comm]
  case isFalse hl =>
    obtain ⟨k, rfl⟩ := Int.exists_eq_neg_ofNat (by omega : l ≤ 0)
    have hpow : (0 : ℚ) < 2 ^ k := by positivity
    rw [decide_eq_true_iff, neg_neg, Int.toNat_natCast, Nat.pow_eq, ← Nat.cast_le (α := ℚ), zpow_neg,
      zpow_natCast, inv_mul_le_iff₀ hpow]
    push_cast
    rw [mul_comm]

/-- `floorLog2 num den` is `⌊log₂ (num / den)⌋`. -/
lemma floorLog2_spec {num den : Nat} (hn : 0 < num) (hd : 0 < den) :
    (2 : ℚ) ^ floorLog2 num den ≤ num / den ∧ (num / den : ℚ) < 2 ^ (floorLog2 num den + 1) := by
  have hd' : (0 : ℚ) < den := by exact_mod_cast hd
  -- each of the two is within a factor two of the power of its bit length
  have hnlo : (2 : ℚ) ^ num.log2 ≤ num := by exact_mod_cast Nat.log2_self_le (Nat.ne_of_gt hn)
  have hnhi : (num : ℚ) < 2 ^ (num.log2 + 1) := by exact_mod_cast Nat.lt_log2_self
  have hdlo : (2 : ℚ) ^ den.log2 ≤ den := by exact_mod_cast Nat.log2_self_le (Nat.ne_of_gt hd)
  have hdhi : (den : ℚ) < 2 ^ (den.log2 + 1) := by exact_mod_cast Nat.lt_log2_self
  set l : Int := (num.log2 : Int) - den.log2 with hl
  have hbelow : (num / den : ℚ) < 2 ^ (l + 1) := by
    rw [div_lt_iff₀ hd']
    calc (num : ℚ) < 2 ^ (num.log2 + 1) := hnhi
      _ = 2 ^ (l + 1) * 2 ^ den.log2 := by
        rw [← zpow_natCast, ← zpow_natCast, ← zpow_add₀ two_ne_zero, hl]
        congr 1
        push_cast
        ring
      _ ≤ 2 ^ (l + 1) * den := by gcongr
  have habove : (2 : ℚ) ^ (l - 1) < num / den := by
    rw [lt_div_iff₀ hd']
    calc (2 : ℚ) ^ (l - 1) * den < 2 ^ (l - 1) * 2 ^ (den.log2 + 1) := by gcongr
      _ = 2 ^ num.log2 := by
        rw [← zpow_natCast, ← zpow_natCast, ← zpow_add₀ two_ne_zero, hl]
        congr 1
        push_cast
        ring
      _ ≤ num := hnlo
  unfold floorLog2
  dsimp only
  rw [← hl]
  by_cases htest : (2 : ℚ) ^ l ≤ num / den
  case pos =>
    rw [if_pos ((pow_test_iff num den hd l).mpr htest)]
    exact ⟨htest, hbelow⟩
  case neg =>
    rw [if_neg (mt (pow_test_iff num den hd l).mp htest), sub_add_cancel]
    exact ⟨habove.le, not_le.mp htest⟩

/-- Rounding to nearest is at most half a unit above the fraction. -/
lemma roundHalfEven_le_half (n d : Nat) : 2 * d * roundHalfEven n d ≤ 2 * n + d := by
  unfold roundHalfEven
  dsimp only
  -- with `n = d q + r`, each branch is linear in the product `d q`
  have hdiv : d * (n / d) + n % d = n := Nat.div_add_mod n d
  have hup : 2 * d * (n / d + 1) = 2 * (d * (n / d)) + 2 * d := by ring
  have hdown : 2 * d * (n / d) = 2 * (d * (n / d)) := by ring
  split_ifs <;> omega

/-- Rounding to nearest, as a rational: less than one unit below the fraction and at most half a
unit above it. -/
lemma roundHalfEven_near (n d : Nat) (hd : 0 < d) :
    (n / d : ℚ) - 1 < roundHalfEven n d ∧ (roundHalfEven n d : ℚ) ≤ n / d + 1 / 2 := by
  have hd' : (0 : ℚ) < d := by exact_mod_cast hd
  have hfloor : n < d * (roundHalfEven n d + 1) := by
    have hlo := (roundHalfEven_bounds n d).1
    have hlt : n < d * (n / d + 1) := by
      rw [Nat.mul_add, Nat.mul_one]
      exact Nat.lt_div_mul_add hd |>.trans_eq (by ring)
    exact hlt.trans_le (Nat.mul_le_mul_left d (Nat.succ_le_succ hlo))
  have hhalf := roundHalfEven_le_half n d
  constructor
  · rw [sub_lt_iff_lt_add, div_lt_iff₀ hd']
    exact_mod_cast (by linarith [hfloor] : n < (roundHalfEven n d + 1) * d)
  · rw [div_add' _ _ _ hd'.ne', le_div_iff₀ hd']
    have : (2 * d * roundHalfEven n d : ℚ) ≤ 2 * n + d := by exact_mod_cast hhalf
    linarith

/-- `scaledMantissa num den q` is `num / den · 2 ^ (-q)` rounded to nearest. -/
lemma scaledMantissa_near (num den : Nat) (hd : 0 < den) (q : Int) :
    (num / den * 2 ^ (-q) : ℚ) - 1 < scaledMantissa num den q ∧
      (scaledMantissa num den q : ℚ) ≤ num / den * 2 ^ (-q) + 1 / 2 := by
  unfold scaledMantissa
  split
  case isTrue hq =>
    -- a negative exponent scales the numerator up
    obtain ⟨k, rfl⟩ := Int.exists_eq_neg_ofNat (le_of_lt hq)
    have hval : ((num * Nat.pow 2 (-(-(k : Int))).toNat : Nat) : ℚ) / den =
        num / den * 2 ^ (-(-(k : Int))) := by
      rw [neg_neg, Int.toNat_natCast, Nat.pow_eq, zpow_natCast]
      push_cast
      ring
    rw [← hval]
    exact roundHalfEven_near _ _ hd
  case isFalse hq =>
    -- a nonnegative one scales the denominator up
    obtain ⟨k, rfl⟩ := Int.eq_ofNat_of_zero_le (not_lt.mp hq)
    have hval : (num : ℚ) / ((den * Nat.pow 2 (k : Int).toNat : Nat) : ℚ) =
        num / den * 2 ^ (-(k : Int)) := by
      rw [Int.toNat_natCast, Nat.pow_eq, zpow_neg, zpow_natCast]
      push_cast
      ring
    rw [← hval]
    exact roundHalfEven_near _ _ (Nat.mul_pos hd (Nat.two_pow_pos k))

/-- The bits of a positive subnormal binary64 value, or zero, with fraction `f`. -/
lemma ofBits_subnormal {f : Nat} (hf : f < 4503599627370496) :
    Binary.ofBits (UInt64.ofNat f) = .finite false f (-1074) := by
  have hval : (UInt64.ofNat f).toNat = f :=
    UInt64.toNat_ofNat_of_lt' (by show _ < 18446744073709551616; omega)
  have h52 : Nat.pow 2 52 = 4503599627370496 := rfl
  have h63 : Nat.pow 2 63 = 9223372036854775808 := rfl
  unfold Binary.ofBits
  simp only [hval, h52, h63]
  rw [if_neg (by omega), if_pos (by omega), Nat.mod_eq_of_lt hf]
  simp only [Binary.finite.injEq, and_true, decide_eq_false_iff_not]
  omega

/-- The bits of a positive normal binary64 value with biased exponent `E` and fraction `f`. -/
lemma ofBits_normal_pos {E f : Nat} (hE1 : 1 ≤ E) (hE2 : E < 2047) (hf : f < 4503599627370496) :
    Binary.ofBits (UInt64.ofNat (E * 4503599627370496 + f)) =
      .finite false (f + 4503599627370496) ((E : Int) - 1075) := by
  have h := ofBits_normal E f hE1 hE2 hf false
  rwa [if_neg Bool.false_ne_true] at h

/-- For a fraction in the range of `nearestBits_finite_pos`, `nearestBits` rounds at an exponent of
at most `971` to a positive mantissa of at most `2 ^ 53`, which reaches `2 ^ 53` only below the
top exponent. -/
lemma scaledMantissa_range {num den : Nat} (hn : 0 < num) (hd : 0 < den)
    (hlo : (2 : ℚ) ^ (-1074 : Int) ≤ num / den)
    (hhi : (num / den : ℚ) < (2 ^ 53 - 1 / 2) * 2 ^ (971 : Int)) :
    let q0 := max (floorLog2 num den - 52) (-1074)
    q0 ≤ 971 ∧ 0 < scaledMantissa num den q0 ∧ scaledMantissa num den q0 ≤ 9007199254740992 ∧
      (scaledMantissa num den q0 = 9007199254740992 → q0 ≤ 970) := by
  intro q0
  obtain ⟨hL1, hL2⟩ := floorLog2_spec hn hd
  have hq : max (floorLog2 num den - 52) (-1074) = q0 := rfl
  generalize floorLog2 num den = L at hL1 hL2 hq
  have hLhi : L ≤ 1023 := by
    have htop : (2 ^ 53 - 1 / 2) * 2 ^ (971 : Int) < (2 : ℚ) ^ (1024 : Int) :=
      calc (2 ^ 53 - 1 / 2) * 2 ^ (971 : Int) < (2 : ℚ) ^ 53 * 2 ^ (971 : Int) := by
            gcongr
            norm_num
        _ = 2 ^ (1024 : Int) := by
          rw [← zpow_natCast, ← zpow_add₀ two_ne_zero]
          norm_num
    have := (zpow_lt_zpow_iff_right₀ (by norm_num : (1 : ℚ) < 2)).mp
      (hL1.trans_lt (hhi.trans htop))
    omega
  clear_value q0
  have hpow : (0 : ℚ) < 2 ^ q0 := by positivity
  -- the fraction scaled by `2 ^ (-q0)` lies in `[1, 2 ^ 53)`
  have hxlo : (1 : ℚ) ≤ num / den * 2 ^ (-q0) := by
    rw [zpow_neg, ← div_eq_mul_inv, one_le_div hpow]
    rcases le_total (L - 52) (-1074) with hsmall | hbig
    · rw [← hq, max_eq_right hsmall]
      exact hlo
    · rw [← hq, max_eq_left hbig]
      exact (zpow_le_zpow_right₀ (by norm_num) (by omega)).trans hL1
  have hxhi : (num / den * 2 ^ (-q0) : ℚ) < 2 ^ (53 : Int) := by
    rw [zpow_neg, ← div_eq_mul_inv, div_lt_iff₀ hpow, ← zpow_add₀ two_ne_zero]
    exact hL2.trans_le (zpow_le_zpow_right₀ (by norm_num) (by omega))
  obtain ⟨hmlo, hmhi⟩ := scaledMantissa_near num den hd q0
  generalize scaledMantissa num den q0 = m0 at hmlo hmhi ⊢
  have hm0pos : 0 < m0 := by
    have : (0 : ℚ) < m0 := by linarith
    exact_mod_cast this
  have hm0le : m0 ≤ 9007199254740992 := by
    have h53q : (2 : ℚ) ^ (53 : Int) = 9007199254740992 := by norm_num
    have : (m0 : ℚ) < 9007199254740992 + 1 := by linarith
    exact Nat.lt_succ_iff.mp (by exact_mod_cast this)
  refine ⟨by omega, hm0pos, hm0le, fun hcarry => ?_⟩
  -- rounding up to `2 ^ 53` at the top exponent would mean the fraction is past the largest value
  by_contra htop
  have hq971 : q0 = 971 := by omega
  have hm : (m0 : ℚ) = 9007199254740992 := by exact_mod_cast hcarry
  rw [hq971, hm] at hmhi
  have hmid : (9007199254740992 - 1 / 2 : ℚ) ≤ num / den * 2 ^ (-971 : Int) := by linarith
  have : (2 ^ 53 - 1 / 2) * 2 ^ (971 : Int) ≤ (num / den : ℚ) :=
    calc (2 ^ 53 - 1 / 2) * 2 ^ (971 : Int)
        = (9007199254740992 - 1 / 2 : ℚ) * 2 ^ (971 : Int) := by norm_num
      _ ≤ num / den * 2 ^ (-971 : Int) * 2 ^ (971 : Int) := by gcongr
      _ = num / den := by
        rw [mul_assoc, ← zpow_add₀ two_ne_zero]
        norm_num
  linarith

/-- A positive fraction from `2 ^ -1074` up to below the midpoint between the largest finite
binary64 value and `2 ^ 1024` rounds to a positive finite binary64 value. -/
lemma nearestBits_finite_pos {num den : Nat} (hn : 0 < num) (hd : 0 < den)
    (hlo : (2 : ℚ) ^ (-1074 : Int) ≤ num / den)
    (hhi : (num / den : ℚ) < (2 ^ 53 - 1 / 2) * 2 ^ (971 : Int)) :
    ∃ bits m e, nearestBits num den = some bits ∧ Binary.ofBits bits = .finite false m e ∧
      0 < m := by
  have h52 : Nat.pow 2 52 = 4503599627370496 := rfl
  have h53 : Nat.pow 2 53 = 9007199254740992 := rfl
  obtain ⟨hq0, hm0pos, hm0le, hcarrytop⟩ := scaledMantissa_range hn hd hlo hhi
  have hq0lo : -1074 ≤ max (floorLog2 num den - 52) (-1074) := le_max_right _ _
  unfold nearestBits
  rw [if_neg (by omega)]
  simp only [h52, h53]
  generalize max (floorLog2 num den - 52) (-1074) = q0 at *
  generalize scaledMantissa num den q0 = m0 at *
  -- the three ways of the definition: a carry into the next binade, a subnormal, a normal
  by_cases hcarry : m0 = 9007199254740992
  case pos =>
    have hq0top := hcarrytop hcarry
    rw [if_pos hcarry]
    dsimp only
    rw [if_neg (by omega), if_neg (by omega)]
    exact ⟨_, _, _, rfl, ofBits_normal_pos (by omega) (by omega) (by decide), by omega⟩
  case neg =>
    rw [if_neg hcarry]
    dsimp only
    by_cases hsub : m0 < 4503599627370496
    case pos =>
      rw [if_pos hsub]
      exact ⟨_, _, _, rfl, ofBits_subnormal hsub, hm0pos⟩
    case neg =>
      rw [if_neg hsub, if_neg (by omega)]
      exact ⟨_, _, _, rfl, ofBits_normal_pos (by omega) (by omega) (by omega), by omega⟩

/-- The binary64 nearest to a fraction in the range of `nearestBits_finite_pos` is a positive
finite float. -/
lemma nearest_finite_pos {num den : Nat} (hn : 0 < num) (hd : 0 < den)
    (hlo : (2 : ℚ) ^ (-1074 : Int) ≤ num / den)
    (hhi : (num / den : ℚ) < (2 ^ 53 - 1 / 2) * 2 ^ (971 : Int)) :
    ∃ m e, Binary.ofFloat (nearest false num den) = .finite false m e ∧ 0 < m := by
  obtain ⟨bits, m, e, hbits, hdecode, hm⟩ := nearestBits_finite_pos hn hd hlo hhi
  refine ⟨m, e, ?_, hm⟩
  unfold nearest
  rw [hbits]
  dsimp only
  rw [if_neg Bool.false_ne_true, Binary.ofFloat, toBits_ofBits (by rw [hdecode]; simp), hdecode]

end HeaderBidding.Decimal
