import Mathlib.Tactic.Lemma
import Mathlib.Tactic.SplitIfs
import HeaderBidding.Proofs.Slot

/-!
# The verdict on a wire slot

Reading a wire slot (`Bid.ofWire`) and checking the bid it reads as (`Bid.validate`) are two
functions, each of which can refuse the slot, and between them they have five causes. This module
writes the verdict down in one place, as the checks read on the wire slot itself
(`WireSlot.verdict`), and proves that reading then checking gives exactly it:

1. the price must read: `0` when missing, the number when it is one, the decimal a text reads as
   once trimmed (`unparsableCpm` when it does not);
2. there must be a payload: native assets that read win over a display address, whatever the
   address (`missingPayload` when there is neither);
3. the price must be a finite number and not below zero (`negativeCpm`);
4. a display address must be a web address (`invalidDisplayUrl`);
5. a slot with no positive price and no positive lifetime is a no-bid (`noBid`);

and a slot that passes reads as a bid with its lifetime, a negative one counted as `0`, its size,
and its other fields copied. Besides, `validate` passes exactly when the bid may be shown and is
not a no-bid (`Bid.validate_eq_ok_iff`).
-/

namespace HeaderBidding

/-! ### The verdict, on the wire slot -/

/-- A display address that is not a web address, if the payload is one. -/
def Payload.badUrl? : Payload → Option String
  | .displayUrl url => if Web.isHttpUrl url then none else some url
  | .native _ => none

namespace WireSlot

/-- What a wire slot offers to show: its native assets when they read, else its display address. -/
def payload? (w : WireSlot) : Option Payload :=
  match w.native.bind NativeAssets.ofValue? with
  | some a => some (.native a)
  | none => w.displayUrl.map .displayUrl

/-- The bid a wire slot stands for, at a price and with a payload: its placement (empty when
missing), its lifetime with a negative one counted as `0`, its size, and its other fields. -/
def toBid (w : WireSlot) (price : Float) (payload : Payload) : Bid :=
  { placement := w.placement.getD ""
    impression := w.impression
    price
    currency := w.currency
    size := ⟨w.width, w.height⟩
    ttl := max w.ttl 0
    payload
    downloadedAt := 0 }

/-- The verdict on a wire slot, check by check in the order they are made. -/
def verdict (w : WireSlot) : Except SlotError Bid :=
  match Cpm.price w.cpm, w.payload? with
  | .error e, _ => .error e
  | .ok _, none => .error .missingPayload
  | .ok price, some payload =>
    if ¬ Decimal.isFinite price ∨ price < 0 then .error (.negativeCpm price)
    else
      match payload.badUrl? with
      | some url => .error (.invalidDisplayUrl url)
      | none =>
        if ¬ price > 0 ∧ max w.ttl 0 = 0 then .error .noBid
        else .ok (w.toBid price payload)

end WireSlot

/-! ### Reading and checking, one check at a time -/

namespace Bid

/-- Reading a wire slot reads its price, then what it offers to show. -/
lemma ofWire_eq (w : WireSlot) :
    Bid.ofWire w =
      match Cpm.price w.cpm, w.payload? with
      | .error e, _ => .error e
      | .ok _, none => .error .missingPayload
      | .ok price, some payload => .ok (w.toBid price payload) := by
  simp only [ofWire, WireSlot.payload?, WireSlot.toBid, bind, Except.bind, pure, Except.pure,
    throw, throwThe, MonadExceptOf.throw]
  cases Cpm.price w.cpm with
  | error e => rfl
  | ok price =>
    cases w.native.bind NativeAssets.ofValue? with
    | some a => rfl
    | none => cases w.displayUrl <;> rfl

/-- The checks of `validate`, flat: the price, then the display address, then the class. -/
lemma validate_eq (b : Bid) :
    b.validate =
      if !priceOk b.price then .error (.negativeCpm b.price)
      else
        match b.payload.badUrl? with
        | some url => .error (.invalidDisplayUrl url)
        | none => if b.classify = .noBid then .error .noBid else .ok () := by
  simp only [validate, bind, Except.bind, pure, Except.pure, throw, throwThe,
    MonadExceptOf.throw]
  cases priceOk b.price with
  | false => rfl
  | true =>
    cases hp : b.payload with
    | native a => rfl
    | displayUrl url =>
      simp only [Payload.badUrl?]
      cases Web.isHttpUrl url <;> rfl

/-- A bid is a no-bid exactly when it has neither a positive price nor a positive lifetime. -/
lemma classify_eq_noBid_iff (b : Bid) :
    b.classify = .noBid ↔ ¬ b.price > 0 ∧ ¬ b.ttl > 0 := by
  rw [← not_or, ← classify_ne_noBid_iff, Classical.not_not]

end Bid

namespace WireSlot

variable (w : WireSlot) (price : Float) (payload : Payload)

@[simp] lemma price_toBid : (w.toBid price payload).price = price := rfl
@[simp] lemma payload_toBid : (w.toBid price payload).payload = payload := rfl
@[simp] lemma ttl_toBid : (w.toBid price payload).ttl = max w.ttl 0 := rfl

/-- The bid a wire slot stands for is a no-bid exactly when the price is not positive and the
slot's lifetime, a negative one counted as `0`, is `0`. -/
lemma classify_toBid_eq_noBid_iff :
    (w.toBid price payload).classify = .noBid ↔ ¬ price > 0 ∧ max w.ttl 0 = 0 := by
  rw [Bid.classify_eq_noBid_iff, price_toBid, ttl_toBid]
  -- a lifetime counted from `0` up is positive exactly when it is not `0`
  have hlife : ¬ max w.ttl 0 > 0 ↔ max w.ttl 0 = 0 := by
    have hnonneg : 0 ≤ max w.ttl 0 := Int.le_max_right _ _
    omega
  rw [hlife]

/-- Checking the bid a wire slot stands for makes the checks of its verdict, in its order. -/
lemma validate_toBid :
    (w.toBid price payload).validate =
      if ¬ Decimal.isFinite price ∨ price < 0 then .error (.negativeCpm price)
      else
        match payload.badUrl? with
        | some url => .error (.invalidDisplayUrl url)
        | none => if ¬ price > 0 ∧ max w.ttl 0 = 0 then .error .noBid else .ok () := by
  rw [Bid.validate_eq, price_toBid, payload_toBid]
  have hprice : (!Bid.priceOk price) = true ↔ (¬ Decimal.isFinite price ∨ price < 0) := by
    unfold Bid.priceOk
    cases Decimal.isFinite price <;> by_cases hneg : price < 0 <;> simp [hneg]
  by_cases hbad : ¬ Decimal.isFinite price ∨ price < 0
  · rw [if_pos (hprice.mpr hbad), if_pos hbad]
  · rw [if_neg (mt hprice.mp hbad), if_neg hbad]
    cases payload.badUrl? with
    | some url => rfl
    | none =>
      by_cases hnoBid : ¬ price > 0 ∧ max w.ttl 0 = 0
      · rw [if_pos ((classify_toBid_eq_noBid_iff w price payload).mpr hnoBid), if_pos hnoBid]
      · rw [if_neg (mt (classify_toBid_eq_noBid_iff w price payload).mp hnoBid), if_neg hnoBid]

end WireSlot

/-! ### The verdict -/

/-- Wire slots are accepted by their verdict. Reading a wire slot and, when it reads, checking the
bid it reads as gives the slot's verdict: the price must read (`0` when missing, the number, or
the trimmed text read as a decimal), a payload must be there (native assets that read win over a
display address), the price must be finite and not below zero, a display address must be a web
address, and a slot with no positive price and no positive lifetime is a no-bid; a slot that
passes reads as the bid with its lifetime (a negative one counted as `0`), its size and its other
fields. And for every bid, `validate` passes exactly when the bid may be shown and is not a
no-bid. -/
theorem wire_slots_are_accepted_by_their_verdict :
    (∀ w : WireSlot,
      (Bid.ofWire w).bind (fun b => b.validate.map fun _ => b) = w.verdict) ∧
    ∀ b : Bid, b.validate = .ok () ↔ b.isValid = true ∧ b.classify ≠ .noBid := by
  refine ⟨fun w => ?_, Bid.validate_eq_ok_iff⟩
  rw [Bid.ofWire_eq]
  unfold WireSlot.verdict
  -- a slot that reads is checked; the checks keep the bid or give their cause
  rcases Cpm.price w.cpm with e | price <;> rcases w.payload? with _ | payload
  · rfl
  · rfl
  · rfl
  · -- the checks are the verdict's; each gives its cause or keeps the bid
    simp only [Except.bind, WireSlot.validate_toBid]
    cases payload.badUrl? <;> split_ifs <;> rfl

end HeaderBidding
