import Mathlib.Tactic.Lemma
import HeaderBidding.Proofs.Bidder
import HeaderBidding.Token.Value

/-!
# Saturating expiry times

A bid expires `ttl` seconds after it was downloaded, and after a response with a positive pause
the next call may be made `timeToNextCall` seconds after the response. Times are milliseconds, and
both ends are computed with two saturating operations: the seconds times `1000`, clamped to the
signed 64-bit range, then added to the start and clamped again (`Bid.expiresAt`,
`Bidder.receive`).

Two clamps are one clamp of the exact end only when the first clamp loses nothing the second
would keep (`satAdd_satMul_eq_min_iff`). For a lifetime that is not negative and a start in
range:

* the expiry is the exact end clamped to `int64Max` exactly when the start is not negative or the
  product does not saturate; a negative start with a saturated product expires `-start`
  milliseconds before `int64Max`, earlier than the exact end (`Bid.expiresAt_eq_min_iff`);
* expiry is decided by the exact end at every clock reading in range exactly when the start,
  counted as `0` when negative, plus the lifetime stays within `int64Max`
  (`Bid.isExpired_iff_forall_iff`): an end past `int64Max` is reached at the reading `int64Max`
  itself, since a bid has expired at its own expiry;
* the back-off after a response follows the same law as the expiry
  (`Bidder.nextCallNotBefore_eq_min_iff`), and a token stands for its bid's expiry unchanged.
-/

namespace HeaderBidding

open Decimal

lemma int64Max_eq : int64Max = 9223372036854775807 := rfl

lemma int64Min_eq : int64Min = -9223372036854775808 := rfl

/-! ### Two clamps -/

section Clamps

variable {start t : Int}

/-- Seconds made milliseconds and added to a start in range: the product is clamped first, the
sum after. -/
lemma satAdd_satMul_thousand (hstart : int64Min ≤ start) (ht : 0 ≤ t) :
    satAdd start (satMul t 1000) = min int64Max (start + min int64Max (1000 * t)) := by
  unfold satAdd satMul clampInt64
  rw [int64Max_eq, int64Min_eq] at *
  omega

/-- The two clamps are one clamp of the exact end exactly when the start is not negative or the
product does not saturate. -/
lemma satAdd_satMul_eq_min_iff (hstart : int64Min ≤ start) (ht : 0 ≤ t) :
    satAdd start (satMul t 1000) = min int64Max (start + 1000 * t) ↔
      0 ≤ start ∨ 1000 * t ≤ int64Max := by
  rw [satAdd_satMul_thousand hstart ht]
  rw [int64Max_eq, int64Min_eq] at *
  omega

end Clamps

/-! ### Expiry of bids -/

namespace Bid

variable {b : Bid}

lemma expiresAt_eq_clamps (hstart : int64Min ≤ b.downloadedAt) (httl : 0 ≤ b.ttl) :
    b.expiresAt = min int64Max (b.downloadedAt + min int64Max (1000 * b.ttl)) :=
  satAdd_satMul_thousand hstart httl

lemma expiresAt_eq_min_iff (hstart : int64Min ≤ b.downloadedAt) (httl : 0 ≤ b.ttl) :
    b.expiresAt = min int64Max (b.downloadedAt + 1000 * b.ttl) ↔
      0 ≤ b.downloadedAt ∨ 1000 * b.ttl ≤ int64Max :=
  satAdd_satMul_eq_min_iff hstart httl

/-- A bid has expired at its own expiry. -/
lemma isExpired_expiresAt (b : Bid) : b.isExpired b.expiresAt = true := by
  simp [isExpired]

/-- Expiry is decided by the exact end at every clock reading in range exactly when the start,
counted as `0` when negative, plus the lifetime stays within `int64Max`. -/
lemma isExpired_iff_forall_iff (hstart : int64Min ≤ b.downloadedAt) (httl : 0 ≤ b.ttl) :
    (∀ now, int64Min ≤ now → now ≤ int64Max →
        (b.isExpired now = true ↔ b.downloadedAt + 1000 * b.ttl ≤ now)) ↔
      max b.downloadedAt 0 + 1000 * b.ttl ≤ int64Max := by
  have hexp := expiresAt_eq_clamps hstart httl
  have hmax := int64Max_eq
  have hmin := int64Min_eq
  constructor
  · -- read the exact test at the bid's own expiry, which is a reading in range
    intro h
    have hlo : int64Min ≤ b.expiresAt := by omega
    have hhi : b.expiresAt ≤ int64Max := by omega
    have hend := (h b.expiresAt hlo hhi).mp (isExpired_expiresAt b)
    omega
  · intro hfit now hlo hhi
    simp only [isExpired, decide_eq_true_eq]
    omega

end Bid

/-! ### The back-off -/

namespace Bidder

/-- A response of the current session with a positive pause moves the back-off to the pause,
made milliseconds, after the response, both steps saturating. -/
lemma nextCallNotBefore_receive (b : Bidder) (now : Int) {r : WireResponse}
    (hpause : 0 < r.timeToNextCall) :
    ∃ b', b.receive b.session now r = some b' ∧
      b'.nextCallNotBefore = satAdd now (satMul r.timeToNextCall 1000) :=
  ⟨_, receive_self b now r, by simp [backoffAfter, hpause]⟩

lemma nextCallNotBefore_eq_min_iff (b : Bidder) {now : Int} {r : WireResponse}
    (hnow : int64Min ≤ now) (hpause : 0 < r.timeToNextCall) :
    ∃ b', b.receive b.session now r = some b' ∧
      (b'.nextCallNotBefore = min int64Max (now + 1000 * r.timeToNextCall) ↔
        0 ≤ now ∨ 1000 * r.timeToNextCall ≤ int64Max) := by
  obtain ⟨b', hreceive, hnext⟩ := nextCallNotBefore_receive b now hpause
  exact ⟨b', hreceive, hnext ▸ satAdd_satMul_eq_min_iff hnow (Int.le_of_lt hpause)⟩

end Bidder

/-! ### When saturating times are exact -/

/-- Saturating times are exact when nothing overflows. For a bid whose lifetime is not negative
and whose start is in range, for a clock reading in range and a response with a positive pause:

* the expiry is the exact end `start + 1000 * ttl` clamped to `int64Max` exactly when the start is
  not negative or `1000 * ttl` does not exceed `int64Max`;
* the bid has expired at a reading in range exactly when the exact end is reached, for every such
  reading, exactly when the start (counted as `0` when negative) plus `1000 * ttl` does not exceed
  `int64Max`;
* a token handed out for the bid expires when the bid does;
* the back-off after the response is `now + 1000 * timeToNextCall` clamped to `int64Max` exactly
  when `now` is not negative or `1000 * timeToNextCall` does not exceed `int64Max`. -/
theorem saturated_times_are_exact_when_nothing_overflows (b : Bid) (bidder : Bidder) (now : Int)
    (r : WireResponse) (hstart : int64Min ≤ b.downloadedAt) (httl : 0 ≤ b.ttl)
    (hnow : int64Min ≤ now) (hpause : 0 < r.timeToNextCall) :
    (b.expiresAt = min int64Max (b.downloadedAt + 1000 * b.ttl) ↔
      0 ≤ b.downloadedAt ∨ 1000 * b.ttl ≤ int64Max) ∧
    ((∀ t, int64Min ≤ t → t ≤ int64Max →
        (b.isExpired t = true ↔ b.downloadedAt + 1000 * b.ttl ≤ t)) ↔
      max b.downloadedAt 0 + 1000 * b.ttl ≤ int64Max) ∧
    (∀ f : Format, (TokenValue.ofBid b f).expiresAt = b.expiresAt) ∧
    ∃ b', bidder.receive bidder.session now r = some b' ∧
      (b'.nextCallNotBefore = min int64Max (now + 1000 * r.timeToNextCall) ↔
        0 ≤ now ∨ 1000 * r.timeToNextCall ≤ int64Max) :=
  ⟨Bid.expiresAt_eq_min_iff hstart httl, Bid.isExpired_iff_forall_iff hstart httl,
    fun _ => rfl, bidder.nextCallNotBefore_eq_min_iff hnow hpause⟩

/-- A bid downloaded one millisecond before the epoch, for `9223372036854776` seconds: a lifetime
whose milliseconds are past `int64Max`. -/
def Bid.overflowingBeforeEpoch : Bid :=
  ⟨"a", none, 1.5, none, ⟨320, 50⟩, 9223372036854776,
    .displayUrl "https://cdn.example.com/ad.js", -1⟩

/-- Such a bid misses both exact forms, and so does a back-off of as many seconds from the same
clock. -/
theorem saturated_times_miss_the_exact_end_before_epoch :
    Bid.overflowingBeforeEpoch.expiresAt ≠
        min int64Max (Bid.overflowingBeforeEpoch.downloadedAt +
          1000 * Bid.overflowingBeforeEpoch.ttl) ∧
      ∃ b', (Bidder.new Screen.standard).receive (Bidder.new Screen.standard).session (-1)
          ⟨[], 9223372036854776⟩ = some b' ∧
        b'.nextCallNotBefore ≠ min int64Max (-1 + 1000 * 9223372036854776) := by
  obtain ⟨hexp, -, -, b', hreceive, hnext⟩ :=
    saturated_times_are_exact_when_nothing_overflows Bid.overflowingBeforeEpoch
      (Bidder.new Screen.standard) (-1) ⟨[], 9223372036854776⟩ (by decide) (by decide) (by decide)
      (by decide)
  -- the start is negative and the product saturates
  have hover : ¬ (0 ≤ (-1 : Int) ∨ 1000 * 9223372036854776 ≤ int64Max) := by decide
  exact ⟨fun h => hover (hexp.mp h), b', hreceive, fun h => hover (hnext.mp h)⟩

/-- The bid expires at `int64Max - 1`, though its exact end is past `int64Max`, and so it has
expired at that reading. -/
theorem overflowing_bid_before_epoch_expires_early :
    Bid.overflowingBeforeEpoch.expiresAt = int64Max - 1 ∧
      min int64Max (Bid.overflowingBeforeEpoch.downloadedAt +
        1000 * Bid.overflowingBeforeEpoch.ttl) = int64Max ∧
      Bid.overflowingBeforeEpoch.isExpired (int64Max - 1) = true ∧
      ¬ Bid.overflowingBeforeEpoch.downloadedAt + 1000 * Bid.overflowingBeforeEpoch.ttl ≤
        int64Max - 1 := by
  decide

end HeaderBidding
