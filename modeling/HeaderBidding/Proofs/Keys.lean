import Mathlib.Tactic.Lemma
import HeaderBidding.Proofs.Bidder
import HeaderBidding.Proofs.SizeText

/-!
# Keys of requests and keys of answers

A bid is asked for under the key of an ad unit (`Screen.keyOf?`): the unit's placement, its size
(the screen's for an interstitial, `2x2` for a native ad) and its format. An answer carries no
format, so the bidder keys the bid it gets by what the bid shows (`Screen.keyOfBid`): native
assets make it native, a size equal to the screen's, upright or on its side, makes it an
interstitial, and anything else a banner.

The two agree except on one kind of key: a banner whose size is that of the screen. A bid
answering such a banner is cached as the interstitial of that size (`Screen.answerKey`), so a
later request for the banner does not find it (`screen_sized_banner_is_keyed_interstitial`).
Every other key gets its answers under itself (`keyOfBid_eq_answerKey`).

The stand-in exchange answers a request slot with the size it reads back from the slot's text
`WxH` (`Exchange.parseSize_render`), so the bid it gives for a key, once accepted, is cached under
that key's answer key, and the answers to a request for keys with distinct answer keys each land
under their own (`Bidder.peek?_receive_answer`).
-/

namespace HeaderBidding

/-! ### Keys of ad units and keys of bids -/

namespace Screen

lemma current_eq_or (s : Screen) : s.current = s.portrait ∨ s.current = s.landscape := by
  unfold current
  split
  · exact Or.inr rfl
  · exact Or.inl rfl

/-- The key of an ad unit has a positive size, and an interstitial's is the screen's. -/
lemma keyOf?_eq_some {s : Screen} {u : AdUnit} {k : SlotKey} (h : s.keyOf? u = some k) :
    k.size.isPositive = true ∧ (k.format = .interstitial → k.size = s.current) := by
  -- the key of the unit's format is kept when its placement is not blank and its size positive
  have hkept : ∀ {key : SlotKey}, (if ((Text.trimBlank key.placement).isEmpty ||
      !key.size.isPositive) = true then none else some key) = some k →
      key = k ∧ key.size.isPositive = true := by
    intro key hkey
    split at hkey
    · cases hkey
    · rename_i hvalid
      have hchecks : ¬Text.trimBlank key.placement = "" ∧ key.size.isPositive = true := by
        simpa using hvalid
      exact ⟨Option.some.inj hkey, hchecks.2⟩
  -- unfolding first lets the key be read off the match, not found by unifying the checks
  unfold keyOf? at h
  cases u with
  | banner p size =>
    obtain ⟨rfl, hpos⟩ := hkept h
    exact ⟨hpos, fun hf => by cases hf⟩
  | interstitial p =>
    obtain ⟨rfl, hpos⟩ := hkept h
    exact ⟨hpos, fun _ => rfl⟩
  | native p =>
    obtain ⟨rfl, hpos⟩ := hkept h
    exact ⟨hpos, fun hf => by cases hf⟩

/-- The key a bid answering a request for `k` is cached under: `k` itself, except that a banner
of the screen's size, upright or on its side, is taken for the interstitial of that size. -/
def answerKey (s : Screen) (k : SlotKey) : SlotKey :=
  if k.format = .banner ∧ (k.size = s.portrait ∨ k.size = s.landscape) then
    { k with format := .interstitial }
  else k

lemma answerKey_eq_self_iff (s : Screen) (k : SlotKey) :
    s.answerKey k = k ↔ ¬(k.format = .banner ∧ (k.size = s.portrait ∨ k.size = s.landscape)) := by
  unfold answerKey
  split
  · rename_i hbanner
    -- the answer key is an interstitial, the key a banner
    refine ⟨fun heq => ?_, fun hne => absurd hbanner hne⟩
    have hformat := congrArg SlotKey.format heq
    rw [hbanner.1] at hformat
    cases hformat
  · rename_i hbanner
    exact ⟨fun _ => hbanner, fun _ => rfl⟩

/-- A bid with the placement and size of the key of an ad unit, native exactly when the key is,
is keyed by that key's answer key. -/
lemma keyOfBid_eq_answerKey {s : Screen} {u : AdUnit} {k : SlotKey} {b : Bid}
    (hk : s.keyOf? u = some k) (hp : b.placement = k.placement) (hs : b.size = k.size)
    (hn : b.isNative = true ↔ k.format = .native) : s.keyOfBid b = s.answerKey k := by
  have hinter := (keyOf?_eq_some hk).2
  obtain ⟨p, size, format⟩ := k
  simp only at hp hs hn hinter
  unfold keyOfBid answerKey
  cases format with
  | native => simp [hn.mpr rfl, hp, hs]
  | interstitial =>
    -- an interstitial has the screen's size, so its bid is taken for an interstitial again
    have hnative : b.isNative = false := by simpa using hn
    have hscreen : size = s.portrait ∨ size = s.landscape := by
      rw [hinter rfl]
      exact current_eq_or s
    simp [hnative, hp, hs, hscreen]
  | banner =>
    have hnative : b.isNative = false := by simpa using hn
    by_cases hscreen : size = s.portrait ∨ size = s.landscape <;> simp [hnative, hp, hs, hscreen]

end Screen

/-! ### Answers of the exchange -/

namespace Bidder

/-- The bid the exchange answers for the slot of a key, once accepted, is keyed by that key's
answer key: it has the key's placement, the size read back from the slot, and native assets
exactly when the key is native. -/
lemma keyOfBid_of_accept_bidFor {s : Screen} {u : AdUnit} {k : SlotKey} {o : Exchange.Options}
    {imp : String} {now : Int} {bid : Bid} (hk : s.keyOf? u = some k)
    (hfit : k.size.width ≤ IntKind.hi .i32 ∧ k.size.height ≤ IntKind.hi .i32)
    (h : accept now (Exchange.bidFor o (RequestSlot.ofKey k imp)) = some bid) :
    s.keyOfBid bid = s.answerKey k := by
  obtain ⟨b, hb, -, rfl⟩ := accept_eq_some_iff.mp h
  obtain ⟨hplacement, hsize, -, hnative, -⟩ := Bid.ofWire_eq_ok hb
  have hpos : 0 < k.size.width ∧ 0 < k.size.height := by
    simpa [Size.isPositive] using (Screen.keyOf?_eq_some hk).1
  have hread : Exchange.parseSize k.size.render = (k.size.width, k.size.height) := by
    rw [IntKind.hi_i32] at hfit
    exact Exchange.parseSize_render k.size (IntKind.holds_i32.mpr ⟨by omega, hfit.1⟩)
      (IntKind.holds_i32.mpr ⟨by omega, hfit.2⟩)
  refine Screen.keyOfBid_eq_answerKey hk ?_ ?_ ?_
  · simp [hplacement, Exchange.bidFor, RequestSlot.ofKey]
  · simp [hsize, Exchange.bidFor, RequestSlot.ofKey, hread]
  · -- a native key is answered with assets and no address, any other with an address only
    show b.promote.isNative = true ↔ k.format = .native
    rw [Bid.isNative_promote]
    by_cases hfmt : k.format = .native
    · have hd : (Exchange.bidFor o (RequestSlot.ofKey k imp)).displayUrl = none := by
        simp [Exchange.bidFor, RequestSlot.ofKey, hfmt]
      exact ⟨fun _ => hfmt, fun _ => Bid.ofWire_isNative_of_displayUrl hb hd⟩
    · simp [hnative, Exchange.bidFor, RequestSlot.ofKey, hfmt]

/-- No bid accepted from slots each keyed by the key `f k` of its own `k` is keyed by a key that
none of them has. -/
lemma filter_accepted_eq_nil {screen : Screen} {now : Int} {f : SlotKey → SlotKey}
    {ps : List (SlotKey × WireSlot)}
    (hkeyed : ∀ p ∈ ps, ∀ bid, accept now p.2 = some bid → screen.keyOfBid bid = f p.1)
    {k : SlotKey} (hk : k ∉ ps.map fun p => f p.1) :
    ((ps.map Prod.snd).filterMap (accept now)).filter (fun bid => screen.keyOfBid bid = k) =
      [] := by
  rw [List.filter_eq_nil_iff]
  intro bid hbid hkey
  obtain ⟨w', hw', hacc⟩ := List.mem_filterMap.mp hbid
  obtain ⟨p, hp, rfl⟩ := List.mem_map.mp hw'
  have hsame : f p.1 = k := by
    rw [← hkeyed p hp bid hacc]
    simpa using hkey
  exact hk (List.mem_map.mpr ⟨p, hp, hsame⟩)

/-- Among the bids accepted from slots each keyed by the key `f k` of its own `k`, these keys
pairwise distinct, the bids keyed `f k` are the one accepted from `k`'s slot, if it is. -/
lemma filter_accepted_of_keyed {screen : Screen} {now : Int} {f : SlotKey → SlotKey}
    {ps : List (SlotKey × WireSlot)}
    (hkeyed : ∀ p ∈ ps, ∀ bid, accept now p.2 = some bid → screen.keyOfBid bid = f p.1)
    (hdistinct : (ps.map fun p => f p.1).Nodup) {k : SlotKey} {w : WireSlot} (hmem : (k, w) ∈ ps) :
    ((ps.map Prod.snd).filterMap (accept now)).filter (fun bid => screen.keyOfBid bid = f k) =
      (accept now w).toList := by
  induction ps with
  | nil => exact absurd hmem List.not_mem_nil
  | cons p rest ih =>
    obtain ⟨k₀, w₀⟩ := p
    simp only [List.map_cons, List.nodup_cons] at hdistinct
    have hkeyedRest : ∀ p ∈ rest, ∀ bid, accept now p.2 = some bid → screen.keyOfBid bid = f p.1 :=
      fun p hp => hkeyed p (List.mem_cons_of_mem _ hp)
    rcases List.mem_cons.mp hmem with heq | hmem'
    · -- the key's own slot comes first, and no later slot has its key
      obtain ⟨rfl, rfl⟩ := Prod.mk.inj heq
      have hnone := filter_accepted_eq_nil hkeyedRest hdistinct.1
      cases hacc : accept now w with
      | none =>
        rw [List.map_cons, List.filterMap_cons_none hacc]
        exact hnone
      | some bid =>
        have hkey : screen.keyOfBid bid = f k := hkeyed (k, w) List.mem_cons_self bid hacc
        rw [List.map_cons, List.filterMap_cons_some hacc, List.filter_cons,
          if_pos (decide_eq_true hkey), hnone]
        rfl
    · -- the first slot has another key
      have hother : ∀ bid, accept now w₀ = some bid → screen.keyOfBid bid ≠ f k := by
        intro bid hacc hkey
        apply hdistinct.1
        rw [← hkeyed (k₀, w₀) List.mem_cons_self bid hacc, hkey]
        exact List.mem_map.mpr ⟨(k, w), hmem', rfl⟩
      have hfilter := ih hkeyedRest hdistinct.2 hmem'
      cases hacc : accept now w₀ with
      | none =>
        rw [List.map_cons, List.filterMap_cons_none hacc]
        exact hfilter
      | some bid =>
        rw [List.map_cons, List.filterMap_cons_some hacc, List.filter_cons,
          if_neg (by simpa using hother bid hacc)]
        exact hfilter

/-- A response whose slots are keyed by pairwise distinct keys `f k` leaves each `f k` with the
answer of `k`'s slot if it is accepted, and with what it held otherwise. -/
lemma peek?_receive_of_keyed (b : Bidder) (now : Int) (r : WireResponse) (f : SlotKey → SlotKey)
    (ps : List (SlotKey × WireSlot)) (hslots : r.slots = ps.map Prod.snd)
    (hkeyed : ∀ p ∈ ps, ∀ bid, accept now p.2 = some bid → b.screen.keyOfBid bid = f p.1)
    (hdistinct : (ps.map fun p => f p.1).Nodup) {k : SlotKey} {w : WireSlot} (hmem : (k, w) ∈ ps) :
    ((b.receive b.session now r).getD b).cache.peek? (f k) = (accept now w).or (b.cache.peek? (f k)) := by
  rw [peek?_receive, accepted, hslots, filter_accepted_of_keyed hkeyed hdistinct hmem]
  cases accept now w <;> rfl

lemma impIds_length (keys : List SlotKey) (fresh : Token.Fresh) :
    (BidRequest.impIds keys fresh).1.length = keys.length := by
  induction keys generalizing fresh with
  | nil => rfl
  | cons k rest ih => simp [BidRequest.impIds, ih]

lemma map_fst_zip_impIds (keys : List SlotKey) (fresh : Token.Fresh) :
    (keys.zip (BidRequest.impIds keys fresh).1).map Prod.fst = keys :=
  List.map_fst_zip (Nat.le_of_eq (impIds_length keys fresh).symm)

/-- The exchange's answer to a request for valid keys pairs each slot with its key: the slots are
those of the pairs, and every bid accepted from one is keyed by its key's answer key. -/
lemma answer_keyed (b : Bidder) (ks : List SlotKey) (publisher : Publisher) (sdkVersion : String)
    (profileId : Int) (fresh : Token.Fresh) (o : Exchange.Options) (now : Int)
    (hkeys : ∀ k ∈ ks, (∃ u, b.screen.keyOf? u = some k) ∧
      k.size.width ≤ IntKind.hi .i32 ∧ k.size.height ≤ IntKind.hi .i32) :
    let ps := (ks.zip (BidRequest.impIds ks fresh).1).map
      fun p => (p.1, Exchange.bidFor o (RequestSlot.ofKey p.1 p.2))
    (Exchange.answer o (BidRequest.make publisher sdkVersion profileId ks fresh).1).slots =
        ps.map Prod.snd ∧
      (∀ p ∈ ps, ∀ bid, accept now p.2 = some bid → b.screen.keyOfBid bid = b.screen.answerKey p.1) ∧
      (ps.map fun p => b.screen.answerKey p.1) = ks.map b.screen.answerKey := by
  intro ps
  refine ⟨by simp [ps, Exchange.answer, BidRequest.make], ?_, ?_⟩
  · intro p hp bid hacc
    obtain ⟨⟨k', imp'⟩, hmem', rfl⟩ := List.mem_map.mp hp
    obtain ⟨⟨u, hu⟩, hfit⟩ := hkeys k' (List.of_mem_zip hmem').1
    exact keyOfBid_of_accept_bidFor hu hfit hacc
  · -- the request has one slot per key
    rw [List.map_map]
    have hcomp : ((fun p : SlotKey × WireSlot => b.screen.answerKey p.1) ∘
        fun p : SlotKey × String => (p.1, Exchange.bidFor o (RequestSlot.ofKey p.1 p.2))) =
        b.screen.answerKey ∘ Prod.fst := rfl
    rw [hcomp, ← List.map_map, map_fst_zip_impIds]

/-- The exchange's answer to a request for valid keys whose answer keys are pairwise distinct
leaves each key's answer key with the answer to that key's slot, if it is accepted. -/
lemma peek?_receive_answer (b : Bidder) (ks : List SlotKey) (publisher : Publisher)
    (sdkVersion : String) (profileId : Int) (fresh : Token.Fresh) (o : Exchange.Options)
    (now : Int)
    (hkeys : ∀ k ∈ ks, (∃ u, b.screen.keyOf? u = some k) ∧
      k.size.width ≤ IntKind.hi .i32 ∧ k.size.height ≤ IntKind.hi .i32)
    (hdistinct : (ks.map b.screen.answerKey).Nodup) {k : SlotKey} {imp : String}
    (hmem : (k, imp) ∈ ks.zip (BidRequest.impIds ks fresh).1) :
    ((b.receive b.session now
        (Exchange.answer o (BidRequest.make publisher sdkVersion profileId ks fresh).1)).getD
        b).cache.peek? (b.screen.answerKey k) =
      (accept now (Exchange.bidFor o (RequestSlot.ofKey k imp))).or
        (b.cache.peek? (b.screen.answerKey k)) := by
  obtain ⟨hslots, hkeyed, hanswers⟩ :=
    answer_keyed b ks publisher sdkVersion profileId fresh o now hkeys
  exact peek?_receive_of_keyed b now _ b.screen.answerKey _ hslots hkeyed (hanswers ▸ hdistinct)
    (List.mem_map.mpr ⟨(k, imp), hmem, rfl⟩)

/-- The exchange's answer to a request for valid keys leaves every key that is none of their
answer keys as it was. -/
lemma peek?_receive_answer_of_not_mem (b : Bidder) (ks : List SlotKey) (publisher : Publisher)
    (sdkVersion : String) (profileId : Int) (fresh : Token.Fresh) (o : Exchange.Options)
    (now : Int)
    (hkeys : ∀ k ∈ ks, (∃ u, b.screen.keyOf? u = some k) ∧
      k.size.width ≤ IntKind.hi .i32 ∧ k.size.height ≤ IntKind.hi .i32)
    {k : SlotKey} (hk : k ∉ ks.map b.screen.answerKey) :
    ((b.receive b.session now
        (Exchange.answer o (BidRequest.make publisher sdkVersion profileId ks fresh).1)).getD
        b).cache.peek? k = b.cache.peek? k := by
  obtain ⟨hslots, hkeyed, hanswers⟩ :=
    answer_keyed b ks publisher sdkVersion profileId fresh o now hkeys
  rw [peek?_receive, accepted, hslots, filter_accepted_eq_nil hkeyed (hanswers ▸ hk)]
  rfl

end Bidder

namespace Screen

/-- Keys that are pairwise distinct, none a banner of the screen's size, have pairwise distinct
answer keys: they are their own. -/
lemma nodup_map_answerKey {s : Screen} {ks : List SlotKey} (hks : ks.Nodup)
    (hbanners : ∀ k ∈ ks, ¬(k.format = .banner ∧ (k.size = s.portrait ∨ k.size = s.landscape))) :
    (ks.map s.answerKey).Nodup := by
  have hself : ks.map s.answerKey = ks := by
    rw [List.map_congr_left fun k hk => (answerKey_eq_self_iff s k).mpr (hbanners k hk),
      List.map_id']
  rw [hself]
  exact hks

end Screen

/-! ### Requests and answers agree but for screen-sized banners -/

/-- A banner of the standard screen's size, `360x640`, is asked for under its banner key, but a
display bid for its placement and size is keyed as the interstitial of that size. -/
theorem screen_sized_banner_is_keyed_interstitial :
    Screen.standard.keyOf? (.banner "b" ⟨360, 640⟩) = some ⟨"b", ⟨360, 640⟩, .banner⟩ ∧
    Screen.standard.keyOfBid ⟨"b", none, 1, none, ⟨360, 640⟩, 60,
      .displayUrl "http://cdb-tracker.local/ad.js?imp=b", 0⟩ = ⟨"b", ⟨360, 640⟩, .interstitial⟩ :=
  ⟨by decide +kernel, by decide⟩

end HeaderBidding
