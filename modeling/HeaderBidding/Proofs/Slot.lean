import Mathlib.Tactic.Lemma
import Mathlib.Tactic.SplitIfs
import HeaderBidding.Bidder.Basic

/-!
# Reading, checking and stamping bids

A wire slot becomes a cached bid in three steps: it is read (`Bid.ofWire`), checked
(`Bid.validate`), and, once it passes, given the default lifetime if it has a price but no
lifetime (`Bid.promote`) and stamped with the time it arrived (`Bidder.accept`).

The results here say what each step does to a bid, so that later proofs never open the steps
again:

* `validate` passes exactly when the bid may be shown (`isValid`) and is not a no-bid;
* promotion and stamping keep the class, the checks, the payload, the placement and the size;
* an accepted bid passes the checks and has a positive lifetime, so no accepted bid is a no-bid
  or expires the moment it arrives.
-/

namespace HeaderBidding

namespace Bid

/-! ### Classes -/

lemma classify_eq_valid_iff (b : Bid) : b.classify = .valid ↔ b.price > 0 := by
  unfold classify
  by_cases hp : b.price > 0 <;> by_cases hl : b.ttl > 0 <;> simp [hp, hl]

/-- A bid is a no-bid exactly when it has neither a price nor a lifetime. -/
lemma classify_ne_noBid_iff (b : Bid) : b.classify ≠ .noBid ↔ b.price > 0 ∨ b.ttl > 0 := by
  unfold classify
  by_cases hp : b.price > 0 <;> by_cases hl : b.ttl > 0 <;> simp [hp, hl]

lemma isExpired_eq_false_iff (b : Bid) (now : Int) : b.isExpired now = false ↔ now < b.expiresAt := by
  simp [isExpired]

/-! ### Checks -/

/-- The checks of `validate`, in order: the price, the display address, then the class. -/
lemma validate_eq_ok_iff (b : Bid) :
    b.validate = .ok () ↔ b.isValid = true ∧ b.classify ≠ .noBid := by
  simp only [validate, isValid, throw, throwThe, MonadExceptOf.throw, bind, Except.bind, pure,
    Except.pure]
  cases hp : priceOk b.price
  · simp
  · cases hpay : b.payload with
    | displayUrl url =>
      cases hu : Web.isHttpUrl url <;> by_cases hc : b.classify = .noBid <;> simp [hc, hu]
    | native a => by_cases hc : b.classify = .noBid <;> simp [hc]

/-! ### Promotion and stamping -/

@[simp] lemma promote_price (b : Bid) : b.promote.price = b.price := by
  unfold promote; split <;> rfl

@[simp] lemma promote_payload (b : Bid) : b.promote.payload = b.payload := by
  unfold promote; split <;> rfl

@[simp] lemma promote_placement (b : Bid) : b.promote.placement = b.placement := by
  unfold promote; split <;> rfl

@[simp] lemma promote_size (b : Bid) : b.promote.size = b.size := by
  unfold promote; split <;> rfl

/-- Promotion only touches priced bids, whose class does not depend on the lifetime. -/
@[simp] lemma classify_promote (b : Bid) : b.promote.classify = b.classify := by
  unfold promote classify
  split <;> simp_all

@[simp] lemma isValid_promote (b : Bid) : b.promote.isValid = b.isValid := by
  simp [isValid]

@[simp] lemma isNative_promote (b : Bid) : b.promote.isNative = b.isNative := by
  simp [isNative]

/-- A bid that is not a no-bid and has no negative lifetime has a positive one once promoted. -/
lemma ttl_promote_pos (b : Bid) (hc : b.classify ≠ .noBid) (hl : 0 ≤ b.ttl) :
    0 < b.promote.ttl := by
  rw [classify_ne_noBid_iff] at hc
  unfold promote
  split_ifs with hp
  · simp [defaultTtl]
  · -- either the price is positive and the lifetime was already set, or the lifetime is positive
    rcases hc with hprice | httl
    · have : b.ttl ≠ 0 := fun h0 => hp ⟨hprice, h0⟩
      omega
    · exact httl

/-! ### Reading -/

/-- What a wire slot reads as, when it reads: its placement (empty when missing), its size, its
lifetime with a negative one counted as `0`, and native assets exactly when they read; and a slot
reads only when it has native assets that read or a display address. -/
lemma ofWire_eq_ok {w : WireSlot} {b : Bid} (h : Bid.ofWire w = .ok b) :
    b.placement = w.placement.getD "" ∧ b.size = ⟨w.width, w.height⟩ ∧ b.ttl = max w.ttl 0 ∧
      b.isNative = (w.native.bind NativeAssets.ofValue?).isSome ∧
      ((w.native.bind NativeAssets.ofValue?).isSome ∨ w.displayUrl.isSome) := by
  simp only [ofWire, bind, Except.bind, pure, Except.pure, throw, throwThe,
    MonadExceptOf.throw] at h
  cases hp : Cpm.price w.cpm with
  | error e => simp [hp] at h
  | ok price =>
    cases hn : w.native.bind NativeAssets.ofValue? with
    | some a =>
      simp only [hp, hn, Except.ok.injEq] at h
      subst h
      simp [isNative]
    | none =>
      -- without native assets the display address is the payload, and there must be one
      cases hd : w.displayUrl with
      | none => simp [hp, hn, hd] at h
      | some url =>
        simp only [hp, hn, hd, Except.ok.injEq] at h
        subst h
        simp [isNative]

/-- A slot without a display address reads only as a native bid. -/
lemma ofWire_isNative_of_displayUrl {w : WireSlot} {b : Bid} (h : Bid.ofWire w = .ok b)
    (hd : w.displayUrl = none) : b.isNative = true := by
  obtain ⟨-, -, -, hnative, hpayload⟩ := ofWire_eq_ok h
  rw [hnative]
  simpa [hd] using hpayload

end Bid

namespace Bidder

/-! ### Accepting wire slots -/

/-- A wire slot is accepted as `bid` exactly when it reads as a bid that passes the checks, and
`bid` is that bid promoted and stamped with the time of arrival. -/
lemma accept_eq_some_iff {now : Int} {w : WireSlot} {bid : Bid} :
    accept now w = some bid ↔
      ∃ b, Bid.ofWire w = .ok b ∧ b.validate = .ok () ∧
        bid = { b.promote with downloadedAt := now } := by
  unfold accept
  constructor
  · intro h
    split at h
    · simp at h
    · rename_i b hb
      split at h
      · simp at h
      · rename_i hv
        exact ⟨b, hb, hv, (Option.some.inj h).symm⟩
  · rintro ⟨b, hb, hv, rfl⟩
    simp [hb, hv]

/-- An accepted bid passes the checks, has a positive lifetime, and carries the time it arrived. -/
lemma accept_sound {now : Int} {w : WireSlot} {bid : Bid} (h : accept now w = some bid) :
    bid.validate = .ok () ∧ 0 < bid.ttl ∧ bid.downloadedAt = now := by
  obtain ⟨b, hb, hv, rfl⟩ := accept_eq_some_iff.mp h
  have hchecks := (Bid.validate_eq_ok_iff b).mp hv
  have hnonneg : 0 ≤ b.ttl := by
    rw [(Bid.ofWire_eq_ok hb).2.2.1]
    exact Int.le_max_right _ _
  -- stamping changes neither the price, the payload nor the lifetime
  have hvalid : ({ b.promote with downloadedAt := now } : Bid).isValid = b.isValid :=
    Bid.isValid_promote b
  have hclass : ({ b.promote with downloadedAt := now } : Bid).classify = b.classify :=
    Bid.classify_promote b
  refine ⟨?_, Bid.ttl_promote_pos b hchecks.2 hnonneg, rfl⟩
  rw [Bid.validate_eq_ok_iff, hvalid, hclass]
  exact hchecks

end Bidder

end HeaderBidding
