import Mathlib
import HeaderBidding.Decimal.Binary

/-!
# Binary64 bit patterns and integers

`Decimal` reads a float through its bits (`Binary.ofBits`) and builds one from the bits of the
nearest binary64 value (`nearestBits`). This module ties the two to the float type itself and
works out what rounding an integer to binary64 and truncating it back gives:

- a pattern that is not a NaN survives `Float.ofBits` unchanged (`toBits_ofBits`, from the
  float model's `pack_unpack`), so truncating such a float is truncating its decoded pattern
  (`truncInt64_ofBits`);
- an integer below `2 ^ 64` comes back rounded to 53 significant bits and clamped into the
  signed 64-bit range (`truncInt64_nearest_eq_clamp_round`), so one of at most 53 bits comes
  back as itself;
- an integer outside the signed 64-bit range comes back clamped to it
  (`truncInt64_ofInt_of_not_holds`).
-/

open Float.Model Float.Model.UnpackedFloat

namespace HeaderBidding.Decimal

/-! ### Bit patterns through the float model -/

lemma toNat_unpackMantissa (b : BitVec 64) :
    (@unpackMantissa Format.binary64 b).toNat = b.toNat % 4503599627370496 := by
  simp [unpackMantissa]

lemma toNat_unpackExponent (b : BitVec 64) :
    (@unpackExponent Format.binary64 b).toNat = b.toNat / 4503599627370496 % 2048 := by
  simp [unpackExponent, Nat.shiftRight_eq_div_pow]

/-- The float of a bit pattern that is not a NaN has that pattern. -/
lemma toBits_ofBits {b : UInt64} (h : Binary.ofBits b ≠ .nan) : (Float.ofBits b).toBits = b := by
  -- only an all-ones exponent over a nonzero mantissa is a NaN
  have hnan : @isNaNBits Format.binary64 b.toBitVec = false := by
    cases hbits : @isNaNBits Format.binary64 b.toBitVec
    case false => rfl
    case true =>
      apply absurd _ h
      simp only [isNaNBits, decide_eq_true_eq] at hbits
      have hE := toNat_unpackExponent b.toBitVec
      have hM := toNat_unpackMantissa b.toBitVec
      have hE' : (@unpackExponent Format.binary64 b.toBitVec).toNat = 2047 := by
        rw [hbits.1]
        rfl
      have hM' : (@unpackMantissa Format.binary64 b.toBitVec).toNat ≠ 0 := fun h0 =>
        hbits.2 (BitVec.toNat_inj.mp (by simpa using h0))
      simp only [UInt64.toNat_toBitVec] at hE hM
      simp only [Binary.ofBits, Nat.pow_eq]
      rw [if_pos (by omega), if_neg (by omega)]
  show UInt64.ofBitVec ((UnpackedFloat.unpack Format.binary64 b.toBitVec).pack Format.binary64) = b
  rw [@pack_unpack Format.binary64 b.toBitVec (by decide), hnan]
  rfl

lemma truncInt64_ofBits {b : UInt64} (h : Binary.ofBits b ≠ .nan) :
    truncInt64 (Float.ofBits b) = (Binary.ofBits b).truncate := by
  rw [truncInt64, Binary.ofFloat, toBits_ofBits h]

/-! ### Integers rounded to binary64 -/

lemma floorLog2_one {n : Nat} (hn : 0 < n) : floorLog2 n 1 = n.log2 := by
  have hle : 2 ^ n.log2 ≤ n := Nat.log2_self_le (Nat.ne_of_gt hn)
  have hlog1 : Nat.log2 1 = 0 := (Nat.log2_eq_iff (by decide)).mpr ⟨by decide, by decide⟩
  simp [floorLog2, hlog1, hle]

lemma roundHalfEven_one (n : Nat) : roundHalfEven n 1 = n := by
  simp [roundHalfEven, Nat.mod_one]

lemma roundHalfEven_bounds (n d : Nat) :
    n / d ≤ roundHalfEven n d ∧ roundHalfEven n d ≤ n / d + 1 := by
  dsimp only [roundHalfEven]
  split_ifs <;> omega

/-- The bits of a positive normal binary64 value with biased exponent `E` and fraction `f`. -/
lemma ofBits_normal (E f : Nat) (hE1 : 1 ≤ E) (hE2 : E < 2047) (hf : f < 4503599627370496)
    (neg : Bool) :
    Binary.ofBits (if neg then UInt64.ofNat (E * 4503599627370496 + f) ||| 0x8000000000000000
      else UInt64.ofNat (E * 4503599627370496 + f)) =
      .finite neg (f + 4503599627370496) ((E : Int) - 1075) := by
  have hlt : E * 4503599627370496 + f < 9223372036854775808 := by omega
  -- the pattern as a number: the sign bit, then the exponent and the fraction
  have hbits : (if neg then UInt64.ofNat (E * 4503599627370496 + f) ||| 0x8000000000000000
      else UInt64.ofNat (E * 4503599627370496 + f)).toNat =
      (if neg then 9223372036854775808 else 0) + (E * 4503599627370496 + f) := by
    have hval : (UInt64.ofNat (E * 4503599627370496 + f)).toNat = E * 4503599627370496 + f :=
      UInt64.toNat_ofNat_of_lt' (by show _ < 18446744073709551616; omega)
    cases neg
    · simpa using hval
    · have hsignBit : (0x8000000000000000 : UInt64).toNat = 2 ^ 63 * 1 := rfl
      rw [if_pos rfl, UInt64.toNat_or, hval, hsignBit, Nat.or_comm, if_pos rfl,
        ← Nat.two_pow_add_eq_or_of_lt (show E * 4503599627370496 + f < 2 ^ 63 from hlt)]
  unfold Binary.ofBits
  simp only [hbits, Nat.pow_eq, Nat.reducePow]
  have hbiased : ((if neg then 9223372036854775808 else 0) + (E * 4503599627370496 + f)) /
      4503599627370496 % 2048 = E := by
    cases neg <;> simp <;> omega
  have hfrac : ((if neg then 9223372036854775808 else 0) + (E * 4503599627370496 + f)) %
      4503599627370496 = f := by
    cases neg <;> simp <;> omega
  have hsign : decide (((if neg then 9223372036854775808 else 0) + (E * 4503599627370496 + f)) /
      9223372036854775808 = 1) = neg := by
    cases neg <;> simp <;> omega
  rw [hbiased, hfrac, hsign, if_neg (by omega), if_neg (by omega)]

/-- A positive integer below `2 ^ 53`, shifted up so that its leading bit is bit 52. -/
lemma shifted_bounds {n : Nat} (h0 : 0 < n) (h : n < 9007199254740992) :
    n.log2 < 53 ∧ 4503599627370496 ≤ n <<< (52 - n.log2) ∧
      n <<< (52 - n.log2) < 9007199254740992 := by
  rw [Nat.shiftLeft_eq]
  have hL : n.log2 < 53 := (Nat.log2_lt (Nat.ne_of_gt h0)).mpr h
  have hshift : 2 ^ n.log2 * 2 ^ (52 - n.log2) = 4503599627370496 := by
    rw [← Nat.pow_add, Nat.add_sub_cancel' (by omega)]
  have hlo := Nat.mul_le_mul_right (2 ^ (52 - n.log2)) (Nat.log2_self_le (Nat.ne_of_gt h0))
  have hhi := Nat.mul_lt_mul_of_pos_right (Nat.lt_log2_self (n := n))
    (Nat.two_pow_pos (52 - n.log2))
  rw [hshift] at hlo
  rw [Nat.pow_succ, Nat.mul_right_comm, hshift] at hhi
  exact ⟨hL, hlo, by omega⟩

/-- A positive integer below `2 ^ 53` is a normal binary64 value: its mantissa is the integer
shifted up to 53 bits, its biased exponent `1023` more than its bit length less one. -/
lemma nearestBits_of_lt {n : Nat} (h0 : 0 < n) (h : n < 9007199254740992) :
    nearestBits n 1 = some (UInt64.ofNat ((n.log2 + 1023) * 4503599627370496 +
      (n <<< (52 - n.log2) - 4503599627370496))) := by
  obtain ⟨hL, hmlo, hmhi⟩ := shifted_bounds h0 h
  rw [Nat.shiftLeft_eq] at hmlo hmhi ⊢
  have hmant : scaledMantissa n 1 ((n.log2 : Int) - 52) = n * 2 ^ (52 - n.log2) := by
    unfold scaledMantissa
    split
    case isTrue hneg =>
      have hk : (-((n.log2 : Int) - 52)).toNat = 52 - n.log2 := by omega
      rw [hk, roundHalfEven_one, Nat.pow_eq]
    case isFalse hnn =>
      have hk : ((n.log2 : Int) - 52).toNat = 0 := by omega
      have h52 : 52 - n.log2 = 0 := by omega
      rw [hk, h52, Nat.pow_eq, Nat.pow_zero, Nat.mul_one, Nat.mul_one, roundHalfEven_one]
  have hq : max (floorLog2 n 1 - 52) (-1074) = (n.log2 : Int) - 52 := by
    rw [floorLog2_one h0, Int.max_eq_left (by omega)]
  have h52 : Nat.pow 2 52 = 4503599627370496 := rfl
  have h53 : Nat.pow 2 53 = 9007199254740992 := rfl
  have hbiased : ((n.log2 : Int) - 52 + 1075).toNat = n.log2 + 1023 := by omega
  unfold nearestBits
  simp only [hmant, hq, h52, h53]
  have hcarry : n * 2 ^ (52 - n.log2) ≠ 9007199254740992 := by omega
  rw [if_neg (by omega), if_neg hcarry, if_neg (by omega), if_neg (by omega), hbiased]

/-- Clamping keeps a 64-bit integer. -/
lemma clampInt64_of_mem {i : Int} (hlo : int64Min ≤ i) (hhi : i ≤ int64Max) :
    clampInt64 i = i := by
  rw [clampInt64, Int.min_eq_right hhi, Int.max_eq_right hlo]

/-- Clamping gives a 64-bit integer. -/
lemma clampInt64_mem (i : Int) : int64Min ≤ clampInt64 i ∧ clampInt64 i ≤ int64Max := by
  have h63 : Int.pow 2 63 = 9223372036854775808 := rfl
  simp only [clampInt64, int64Min, int64Max, h63]
  omega

lemma clampInt64_of_natAbs_lt {i : Int} (h : i.natAbs < 9223372036854775808) : clampInt64 i = i := by
  have h63 : Int.pow 2 63 = 9223372036854775808 := rfl
  exact clampInt64_of_mem (by rw [int64Min, h63]; omega) (by rw [int64Max, h63]; omega)

/-- Truncation gives a 64-bit integer, whatever the value. -/
lemma truncate_mem (b : Binary) : int64Min ≤ b.truncate ∧ b.truncate ≤ int64Max := by
  have h63 : Int.pow 2 63 = 9223372036854775808 := rfl
  cases b
  case nan =>
    simp only [Binary.truncate, int64Min, int64Max, h63]
    omega
  case infinite neg =>
    cases neg <;> simp only [Binary.truncate, int64Min, int64Max, h63] <;> omega
  case finite => exact clampInt64_mem _

/-- Rounding a positive integer below `2 ^ 53` to binary64 and truncating it gives it back. -/
lemma truncInt64_nearest_of_lt {n : Nat} (h0 : 0 < n) (h : n < 9007199254740992) (neg : Bool) :
    truncInt64 (nearest neg n 1) = if neg then -(n : Int) else n := by
  obtain ⟨hL, hmlo, hmhi⟩ := shifted_bounds h0 h
  rw [Nat.shiftLeft_eq] at hmlo hmhi
  have hbits := ofBits_normal (n.log2 + 1023) (n * 2 ^ (52 - n.log2) - 4503599627370496)
    (by omega) (by omega) (by omega) neg
  unfold nearest
  rw [nearestBits_of_lt h0 h, Nat.shiftLeft_eq]
  dsimp only
  rw [truncInt64_ofBits (by rw [hbits]; simp), hbits]
  have hm : n * 2 ^ (52 - n.log2) - 4503599627370496 + 4503599627370496 = n * 2 ^ (52 - n.log2) := by
    omega
  -- the exponent `L - 52` is at most zero: shifting the mantissa back down gives `n`
  have hmag : (if 0 ≤ ((n.log2 + 1023 : Nat) : Int) - 1075
      then n * 2 ^ (52 - n.log2) * Nat.pow 2 (((n.log2 + 1023 : Nat) : Int) - 1075).toNat
      else n * 2 ^ (52 - n.log2) / Nat.pow 2 (-(((n.log2 + 1023 : Nat) : Int) - 1075)).toNat) = n := by
    split
    case isTrue hnn =>
      have hk : (((n.log2 + 1023 : Nat) : Int) - 1075).toNat = 0 := by omega
      have h52 : 52 - n.log2 = 0 := by omega
      rw [hk, h52, Nat.pow_eq, Nat.pow_zero, Nat.mul_one, Nat.mul_one]
    case isFalse hneg =>
      have hk : (-(((n.log2 + 1023 : Nat) : Int) - 1075)).toNat = 52 - n.log2 := by omega
      rw [hk, Nat.pow_eq, Nat.mul_div_cancel _ (Nat.two_pow_pos _)]
  simp only [Binary.truncate, hm, hmag]
  cases neg <;> exact clampInt64_of_natAbs_lt (by simp; omega)

lemma truncate_finite_zero (neg : Bool) (e : Int) : (Binary.finite neg 0 e).truncate = 0 := by
  simp only [Binary.truncate, Nat.zero_mul, Nat.zero_div, ite_self, Int.natCast_zero, Int.neg_zero]
  exact clampInt64_of_natAbs_lt (by decide)

lemma truncInt64_nearest_zero (neg : Bool) : truncInt64 (nearest neg 0 1) = 0 := by
  have hzero : nearestBits 0 1 = some 0 := rfl
  unfold nearest
  rw [hzero]
  dsimp only
  cases neg
  · have hbits : Binary.ofBits 0 = .finite false 0 (-1074) := by decide
    rw [if_neg Bool.false_ne_true, truncInt64_ofBits (by decide), hbits, truncate_finite_zero]
  · have hbits : Binary.ofBits (0 ||| 0x8000000000000000) = .finite true 0 (-1074) := by decide
    rw [if_pos rfl, truncInt64_ofBits (by decide), hbits, truncate_finite_zero]

/-- Rounding an integer of at most 53 bits to binary64 and truncating it gives it back. -/
lemma truncInt64_nearest_exact {n : Nat} (h : n < 9007199254740992) (neg : Bool) :
    truncInt64 (nearest neg n 1) = if neg then -(n : Int) else n := by
  rcases Nat.eq_zero_or_pos n with rfl | h0
  case inl =>
    rw [truncInt64_nearest_zero]
    cases neg <;> rfl
  case inr => exact truncInt64_nearest_of_lt h0 h neg

lemma truncInt64_infinity (neg : Bool) :
    truncInt64 (infinity neg) = if neg then int64Min else int64Max := by
  cases neg
  · rw [infinity, if_neg Bool.false_ne_true, truncInt64_ofBits (by decide)]
    rfl
  · rw [infinity, if_pos rfl, truncInt64_ofBits (by decide)]
    rfl

/-- A binary64 value of at least `2 ^ 63` in magnitude truncates to a saturated integer. -/
lemma truncate_finite_of_large (neg : Bool) {m : Nat} {e : Int} (hm : 4503599627370496 ≤ m)
    (he : 11 ≤ e) : (Binary.finite neg m e).truncate = if neg then int64Min else int64Max := by
  have hmag : 9223372036854775808 ≤ m * Nat.pow 2 e.toNat := by
    have hpow : Nat.pow 2 11 ≤ Nat.pow 2 e.toNat := Nat.pow_le_pow_right (by decide) (by omega)
    have := Nat.mul_le_mul hm hpow
    exact Nat.le_trans (by decide) this
  have h63 : Int.pow 2 63 = 9223372036854775808 := rfl
  simp only [Binary.truncate, if_pos (show (0 : Int) ≤ e by omega)]
  cases neg <;> simp only [clampInt64, int64Min, int64Max, h63, Bool.false_eq_true, ↓reduceIte] <;>
    omega

/-! ### Integers of 53 bits and more -/

/-- A natural number rounded to 53 significant bits, a tie going to the even one: the value of
the binary64 nearest to it, while that is finite. -/
def roundToBinary64 (n : Nat) : Nat :=
  roundHalfEven n (Nat.pow 2 (n.log2 - 52)) * Nat.pow 2 (n.log2 - 52)

lemma roundHalfEven_of_dvd {n d : Nat} (hd : 0 < d) (h : d ∣ n) : roundHalfEven n d = n / d := by
  obtain ⟨c, rfl⟩ := h
  have hr : d * c % d = 0 := Nat.mul_mod_right d c
  simp only [roundHalfEven, hr]
  rw [if_neg (by omega), if_pos (by omega)]

/-- A number whose bits below its top 53 are all zero is its own rounding. -/
lemma roundToBinary64_of_dvd {n : Nat} (h : Nat.pow 2 (n.log2 - 52) ∣ n) :
    roundToBinary64 n = n := by
  have hpos : 0 < Nat.pow 2 (n.log2 - 52) := Nat.two_pow_pos _
  rw [roundToBinary64, roundHalfEven_of_dvd hpos h, Nat.div_mul_cancel h]

/-- Numbers up to `2 ^ 53` are their own rounding. -/
lemma roundToBinary64_of_le {n : Nat} (h : n ≤ 9007199254740992) : roundToBinary64 n = n := by
  apply roundToBinary64_of_dvd
  rcases Nat.eq_zero_or_pos n with rfl | h0
  case inl => exact Nat.dvd_zero _
  rcases Nat.lt_or_ge n 9007199254740992 with hlt | hge
  case inl =>
    -- fewer than 54 bits: no bit is cut
    have hL : n.log2 < 53 := (Nat.log2_lt (Nat.ne_of_gt h0)).mpr hlt
    rw [show n.log2 - 52 = 0 by omega]
    exact Nat.one_dvd n
  case inr =>
    have htop : n = 9007199254740992 := by omega
    subst htop
    have hlog : Nat.log2 9007199254740992 = 53 := @Nat.log2_two_pow 53
    rw [hlog]
    decide

/-- An integer of at least 53 bits rounds to a normal binary64 value `m · 2 ^ q` with a 53-bit
mantissa `m`, where `q` is its bit length less 53, or one more when rounding carries into the
next binade; `m · 2 ^ q` is the integer rounded to 53 significant bits. -/
lemma nearestBits_of_log2_ge {n : Nat} (hL : 52 ≤ n.log2) :
    ∃ m q : Nat, 4503599627370496 ≤ m ∧ m < 9007199254740992 ∧ n.log2 - 52 ≤ q ∧
      q ≤ n.log2 - 51 ∧ m * Nat.pow 2 q = roundToBinary64 n ∧
      nearestBits n 1 = if (q : Int) + 1075 ≥ 2047 then none
        else some (UInt64.ofNat (((q : Int) + 1075).toNat * 4503599627370496 +
          (m - 4503599627370496))) := by
  have h0 : 0 < n := Nat.pos_of_ne_zero fun h => by rw [h] at hL; contradiction
  -- the top 53 bits of `n`
  have hsplit : 2 ^ (n.log2 - 52) * 4503599627370496 = 2 ^ n.log2 := by
    rw [show (4503599627370496 : Nat) = 2 ^ 52 from rfl, ← Nat.pow_add, Nat.sub_add_cancel hL]
  have htoplo : 4503599627370496 ≤ n / 2 ^ (n.log2 - 52) :=
    (Nat.le_div_iff_mul_le (Nat.two_pow_pos _)).mpr
      (by rw [Nat.mul_comm, hsplit]; exact Nat.log2_self_le (by omega))
  have htophi : n / 2 ^ (n.log2 - 52) < 9007199254740992 := by
    apply (Nat.div_lt_iff_lt_mul (Nat.two_pow_pos _)).mpr
    have hhi : n < 2 ^ (n.log2 + 1) := Nat.lt_log2_self
    rw [Nat.pow_succ, ← hsplit] at hhi
    omega
  have hround := roundHalfEven_bounds n (2 ^ (n.log2 - 52))
  have hq : max (floorLog2 n 1 - 52) (-1074) = (n.log2 : Int) - 52 := by
    rw [floorLog2_one h0, Int.max_eq_left (by omega)]
  have hscaled : scaledMantissa n 1 ((n.log2 : Int) - 52) =
      roundHalfEven n (2 ^ (n.log2 - 52)) := by
    have hk : ((n.log2 : Int) - 52).toNat = n.log2 - 52 := by omega
    rw [scaledMantissa, if_neg (by omega), hk, Nat.one_mul, Nat.pow_eq]
  have hvalue : roundToBinary64 n = roundHalfEven n (2 ^ (n.log2 - 52)) * 2 ^ (n.log2 - 52) := by
    rw [roundToBinary64, Nat.pow_eq]
  generalize roundHalfEven n (2 ^ (n.log2 - 52)) = m0 at hround hscaled hvalue
  have h52 : Nat.pow 2 52 = 4503599627370496 := rfl
  have h53 : Nat.pow 2 53 = 9007199254740992 := rfl
  unfold nearestBits
  simp only [hq, hscaled, h52, h53]
  rw [if_neg (by omega)]
  by_cases hcarry : m0 = 9007199254740992
  case pos =>
    -- rounding carried into the next binade: mantissa `2 ^ 52`, exponent one more
    refine ⟨4503599627370496, n.log2 - 51, Nat.le_refl _, by decide, by omega, Nat.le_refl _, ?_, ?_⟩
    · rw [hvalue, hcarry, Nat.pow_eq, show n.log2 - 51 = (n.log2 - 52) + 1 by omega, Nat.pow_succ]
      omega
    · have hqcast : (n.log2 : Int) - 52 + 1 = ((n.log2 - 51 : Nat) : Int) := by omega
      rw [if_pos hcarry]
      dsimp only
      rw [if_neg (by decide), hqcast]
  case neg =>
    refine ⟨m0, n.log2 - 52, by omega, by omega, Nat.le_refl _, by omega, ?_, ?_⟩
    · rw [hvalue, Nat.pow_eq]
    · have hqcast : (n.log2 : Int) - 52 = ((n.log2 - 52 : Nat) : Int) := by omega
      rw [if_neg hcarry]
      dsimp only
      rw [if_neg (by omega), hqcast]

/-- An integer of 64 bits or more rounds to a binary64 value of at least `2 ^ 63`, or to an
infinity, so truncating it saturates. -/
lemma truncInt64_nearest_of_ge {n : Nat} (h : 9223372036854775808 ≤ n) (neg : Bool) :
    truncInt64 (nearest neg n 1) = if neg then int64Min else int64Max := by
  have hL : 63 ≤ n.log2 := (Nat.le_log2 (by omega)).mpr (by simpa using h)
  obtain ⟨m, q, hm1, hm2, hqlo, -, -, hbits⟩ := nearestBits_of_log2_ge (by omega : 52 ≤ n.log2)
  unfold nearest
  rw [hbits]
  by_cases hbig : (q : Int) + 1075 ≥ 2047
  case pos =>
    rw [if_pos hbig]
    exact truncInt64_infinity neg
  case neg =>
    have hnormal := ofBits_normal ((q : Int) + 1075).toNat (m - 4503599627370496) (by omega)
      (by omega) (by omega) neg
    rw [if_neg hbig]
    dsimp only
    rw [truncInt64_ofBits (by rw [hnormal]; simp), hnormal]
    exact truncate_finite_of_large neg (by omega) (by omega)

/-- An integer of 53 to 64 bits goes through binary64 to its rounding to 53 significant bits,
clamped into the signed 64-bit range. -/
lemma truncInt64_nearest_of_log2_ge {n : Nat} (h52 : 52 ≤ n.log2) (h64 : n.log2 < 64)
    (neg : Bool) :
    truncInt64 (nearest neg n 1) =
      clampInt64 (if neg then -(roundToBinary64 n : Int) else roundToBinary64 n) := by
  obtain ⟨m, q, hm1, hm2, hqlo, hqhi, hval, hbits⟩ := nearestBits_of_log2_ge h52
  have hfinite : ¬ ((q : Int) + 1075 ≥ 2047) := by omega
  have hnormal := ofBits_normal ((q : Int) + 1075).toNat (m - 4503599627370496) (by omega)
    (by omega) (by omega) neg
  unfold nearest
  rw [hbits, if_neg hfinite]
  dsimp only
  rw [truncInt64_ofBits (by rw [hnormal]; simp), hnormal]
  -- a nonnegative exponent: the value is the mantissa shifted up
  have hexp : ((((q : Int) + 1075).toNat : Nat) : Int) - 1075 = q := by omega
  have hmant : m - 4503599627370496 + 4503599627370496 = m := by omega
  simp only [Binary.truncate, hexp, hmant, if_pos (Int.natCast_nonneg q), Int.toNat_natCast, hval]

/-- An integer below `2 ^ 64` goes through binary64 to its rounding to 53 significant bits,
clamped into the signed 64-bit range. -/
lemma truncInt64_nearest_eq_clamp_round {n : Nat} (h : n < 18446744073709551616) (neg : Bool) :
    truncInt64 (nearest neg n 1) =
      clampInt64 (if neg then -(roundToBinary64 n : Int) else roundToBinary64 n) := by
  by_cases h52 : 52 ≤ n.log2
  case pos =>
    have hn : n ≠ 0 := fun h0 => by rw [h0] at h52; contradiction
    have h64 : n.log2 < 64 := (Nat.log2_lt hn).mpr h
    exact truncInt64_nearest_of_log2_ge h52 h64 neg
  case neg =>
    -- fewer than 53 bits: nothing is rounded, and nothing is clamped
    have hsmall : n < 4503599627370496 := by
      rcases Nat.eq_zero_or_pos n with rfl | h0
      · decide
      · exact (Nat.log2_lt (Nat.ne_of_gt h0)).mp (show n.log2 < 52 by omega)
    rw [truncInt64_nearest_exact (by omega), roundToBinary64_of_le (by omega)]
    cases neg
    case false => exact (clampInt64_of_natAbs_lt (by simp; omega)).symm
    case true => exact (clampInt64_of_natAbs_lt (by simp; omega)).symm

/-- An integer outside the signed 64-bit range goes through binary64 to the nearer end of the
range. -/
lemma truncInt64_ofInt_of_not_holds {i : Int} (h : ¬ (int64Min ≤ i ∧ i ≤ int64Max)) :
    truncInt64 (ofInt i) = clampInt64 i := by
  have h63 : Int.pow 2 63 = 9223372036854775808 := rfl
  simp only [int64Min, int64Max, h63] at h
  have hbig : 9223372036854775808 ≤ i.natAbs := by omega
  rw [ofInt, truncInt64_nearest_of_ge hbig]
  simp only [clampInt64, int64Min, int64Max, h63, decide_eq_true_eq]
  split <;> omega

end HeaderBidding.Decimal
