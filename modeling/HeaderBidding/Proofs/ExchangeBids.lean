import HeaderBidding.Proofs.PriceText
import HeaderBidding.Proofs.Keys
import HeaderBidding.Proofs.Refill
import HeaderBidding.Proofs.Consumption
import HeaderBidding.Proofs.Chunks
import HeaderBidding.Proofs.Expiry

/-!
# The stand-in exchange's bids are taken in

The stand-in exchange answers each slot of a request with a bid at its price written with two
decimals, the lifetime of its options, and native assets for a native slot or an address of its
tracker. At a finite price of at least a cent and a positive lifetime each such bid is accepted
as valid (`Bidder.accept_bidFor`): the price text reads back as a positive finite price
(`Decimal.readFloat?_fixed_two`), the address is a web address (`Web.isHttpUrl_tracker`) and the
assets read. Accepted, the bid is cached under the answer key of the key asked for.

On a held link a prefetch records one request per chunk of the units' distinct keys
(`Client.prefetch_of_held`). The exchange answering them in turn (`Client.answerFrom`) delivers
one answer per request (`Client.answerFrom_of_sent`), and the deliveries fill the answer key of
every key asked for and touch no other (`Bidder.run_deliver_answers`). So a prefetch of `n` units
with pairwise distinct valid keys, none a banner of the screen's size, fills `n` distinct entries,
each shown by a get for its unit until it expires (`Client.prefetch_fills_units`).
-/

namespace HeaderBidding

/-! ### The exchange's display address and native assets -/

namespace Web

/-- Cleaning an address keeps a leading part that starts and ends with a visible character and
holds no tab or line break; only the rest is trimmed and filtered. -/
lemma cleaned_append {p : String} (s : String) (hne : p.toList ≠ [])
    (hfirst : p.toList.dropWhile (·.toNat ≤ 0x20) = p.toList)
    (hlast : p.toList.reverse.dropWhile (·.toNat ≤ 0x20) = p.toList.reverse)
    (hkeep : p.toList.filter (fun c => c != '\t' && c != '\n' && c != '\r') = p.toList) :
    cleaned (p ++ s) = p.toList ++
      ((s.toList.reverse.dropWhile (·.toNat ≤ 0x20)).reverse.filter
        fun c => c != '\t' && c != '\n' && c != '\r') := by
  have hfront : (p.toList ++ s.toList).dropWhile (·.toNat ≤ 0x20) = p.toList ++ s.toList := by
    rw [List.dropWhile_append, hfirst, if_neg (by simpa using hne)]
  -- trimming the end stops inside the address's rest or at its last character
  have hback : (s.toList.reverse ++ p.toList.reverse).dropWhile (·.toNat ≤ 0x20) =
      s.toList.reverse.dropWhile (·.toNat ≤ 0x20) ++ p.toList.reverse := by
    rw [List.dropWhile_append]
    split
    case isTrue hempty => rw [List.isEmpty_iff.mp hempty, hlast, List.nil_append]
    case isFalse => rfl
  unfold cleaned
  dsimp only
  rw [String.toList_append, hfront, List.reverse_append, hback, List.reverse_append,
    List.reverse_reverse, List.filter_append, hkeep]

/-- The scheme is read off a leading part that holds the colon ending it. -/
lemma splitScheme_append {xs ys : List Char} {name : String} {rest : List Char}
    (h : splitScheme xs = some (name, rest)) : splitScheme (xs ++ ys) = some (name, rest ++ ys) := by
  unfold splitScheme at h
  cases xs with
  | nil => cases h
  | cons c cs =>
    dsimp only at h
    split at h
    case isTrue => cases h
    case isFalse halpha =>
      generalize hw : (c :: cs).takeWhile (fun d => isAsciiAlpha d || isAsciiDigit d || d == '+' ||
        d == '-' || d == '.') = w at h
      split at h
      case h_2 => cases h
      case h_1 rest' hdrop =>
        obtain ⟨rfl, rfl⟩ := Prod.mk.inj (Option.some.inj h)
        -- the scheme's name ends at the colon, inside the leading part
        have hlen : w.length < (c :: cs).length := by
          have hne : List.drop w.length (c :: cs) ≠ [] := by simp [hdrop]
          simpa [List.drop_eq_nil_iff] using hne
        have hname : ((c :: cs) ++ ys).takeWhile (fun d => isAsciiAlpha d || isAsciiDigit d ||
            d == '+' || d == '-' || d == '.') = w := by
          rw [List.takeWhile_append, hw, if_neg (by omega)]
        have hafter : List.drop w.length ((c :: cs) ++ ys) = ':' :: (rest' ++ ys) := by
          rw [List.drop_append_of_le_length (by omega), hdrop, List.cons_append]
        unfold splitScheme
        rw [List.cons_append]
        dsimp only
        rw [if_neg halpha, ← List.cons_append, hname, hafter]
        rfl


/-- The stand-in exchange's display address is a web address, whatever impression it names. -/
lemma isHttpUrl_tracker (imp : String) :
    isHttpUrl ("http://cdb-tracker.local/ad.js?imp=" ++ imp) = true := by
  have hclean := cleaned_append imp (p := "http://cdb-tracker.local/ad.js?imp=") (by decide)
    (by decide) (by decide) (by decide)
  generalize (((imp.toList.reverse.dropWhile (·.toNat ≤ 0x20)).reverse.filter
    fun c => c != '\t' && c != '\n' && c != '\r')) = t at hclean
  have hscheme : splitScheme ("http://cdb-tracker.local/ad.js?imp=".toList ++ t) =
      some ("http", "//cdb-tracker.local/ad.js?imp=".toList ++ t) :=
    splitScheme_append (by decide +kernel)
  -- the authority ends at the path's slash, before the impression
  have hslashes : ("//cdb-tracker.local/ad.js?imp=".toList ++ t).dropWhile
      (fun c => c == '/' || c == '\\') = "cdb-tracker.local/ad.js?imp=".toList ++ t := by
    rw [List.dropWhile_append, if_neg (by decide)]
    rfl
  have hauthority : ("cdb-tracker.local/ad.js?imp=".toList ++ t).takeWhile
      (fun c => !"/\\?#".toList.contains c) = "cdb-tracker.local".toList := by
    rw [List.takeWhile_append, if_neg (by decide)]
    rfl
  unfold isHttpUrl
  rw [hclean, hscheme]
  dsimp only
  rw [hslashes, hauthority]
  decide +kernel

end Web

namespace Exchange

/-- The native assets the exchange bids for an impression read as native assets. -/
lemma isSome_ofValue?_nativeAssets (imp : String) :
    (NativeAssets.ofValue? (nativeAssets imp)).isSome = true := by
  simp [NativeAssets.ofValue?, nativeAssets, Schema.read, NativeAssets.schema,
    NativeAssets.productSchema, NativeAssets.imageSchema, NativeAssets.advertiserSchema,
    NativeAssets.privacySchema, NativeAssets.pixelSchema, Schema.decode, Schema.decodeMembers,
    Schema.assemble, Schema.depthAllowance, bind, Except.bind, pure, Except.pure, IntKind.holds,
    IntKind.lo, IntKind.hi, List.foldlM, Except.map]

end Exchange

/-! ### Accepting the exchange's bids -/

namespace Bid

/-- A bid as the stand-in exchange gives it, taken in at `now`: valid, with the lifetime of the
exchange's options, and stamped with the time it arrived. -/
structure OfExchange (o : Exchange.Options) (now : Int) (bid : Bid) : Prop where
  valid : bid.classify = .valid
  ttl : bid.ttl = o.ttl
  downloadedAt : bid.downloadedAt = now

/-- The exchange's bid for a slot, its price text read as `y`, reads as a bid at price `y` whose
payload passes its check: the assets read, the address is a web address. -/
lemma ofWire_bidFor {o : Exchange.Options} (slot : RequestSlot) {y : Float}
    (hread : Decimal.readFloat? (Text.trimBlank (Decimal.fixed 2 o.price)) = some y) :
    ∃ b, ofWire (Exchange.bidFor o slot) = .ok b ∧ b.price = y ∧ b.isValid = priceOk y := by
  have hcpm : Cpm.price (Exchange.bidFor o slot).cpm = .ok y := by
    simp [Exchange.bidFor, Cpm.price, hread]
  cases hnative : slot.isNative.getD false with
  | true =>
    obtain ⟨a, ha⟩ := Option.isSome_iff_exists.mp (Exchange.isSome_ofValue?_nativeAssets slot.impId)
    have hassets : (Exchange.bidFor o slot).native.bind NativeAssets.ofValue? = some a := by
      simp [Exchange.bidFor, hnative, ha]
    cases hb : ofWire (Exchange.bidFor o slot) with
    | error e => simp only [ofWire, hcpm, hassets, bind, Except.bind, pure, Except.pure, reduceCtorEq] at hb
    | ok b =>
      simp only [ofWire, hcpm, hassets, bind, Except.bind, pure, Except.pure, Except.ok.injEq] at hb
      subst hb
      exact ⟨_, rfl, rfl, by simp [isValid]⟩
  | false =>
    have hassets : (Exchange.bidFor o slot).native.bind NativeAssets.ofValue? = none := by
      simp [Exchange.bidFor, hnative]
    have hurl : (Exchange.bidFor o slot).displayUrl =
        some ("http://cdb-tracker.local/ad.js?imp=" ++ slot.impId) := by
      simp [Exchange.bidFor, hnative]
    cases hb : ofWire (Exchange.bidFor o slot) with
    | error e =>
      simp only [ofWire, hcpm, hassets, hurl, bind, Except.bind, pure, Except.pure, reduceCtorEq] at hb
    | ok b =>
      simp only [ofWire, hcpm, hassets, hurl, bind, Except.bind, pure, Except.pure,
        Except.ok.injEq] at hb
      subst hb
      exact ⟨_, rfl, rfl, by simp [isValid, Web.isHttpUrl_tracker]⟩

end Bid

namespace Bidder

/-- The exchange's bid for the slot of a valid key, at a finite price of at least a cent and a
positive lifetime, is accepted, as a bid of the exchange keyed by the key's answer key. -/
lemma accept_bidFor {s : Screen} {u : AdUnit} {k : SlotKey} {o : Exchange.Options} (imp : String)
    (now : Int) (hk : s.keyOf? u = some k)
    (hfit : k.size.width ≤ IntKind.hi .i32 ∧ k.size.height ≤ IntKind.hi .i32)
    (hfin : Decimal.isFinite o.price = true) (hcent : (0.01 : Float) ≤ o.price) (httl : 0 < o.ttl) :
    ∃ bid, accept now (Exchange.bidFor o (RequestSlot.ofKey k imp)) = some bid ∧
      bid.OfExchange o now ∧ s.keyOfBid bid = s.answerKey k := by
  obtain ⟨y, hread, hyfin, hypos, hynneg⟩ := Decimal.readFloat?_fixed_two hfin hcent
  obtain ⟨b, hb, hprice, hvalid⟩ := Bid.ofWire_bidFor (RequestSlot.ofKey k imp) hread
  have httl' : b.ttl = o.ttl := by
    rw [(Bid.ofWire_eq_ok hb).2.2.1]
    simp only [Exchange.bidFor]
    omega
  have hclass : b.classify = .valid := (Bid.classify_eq_valid_iff b).mpr (hprice ▸ hypos)
  have hok : b.validate = .ok () := by
    refine (Bid.validate_eq_ok_iff b).mpr ⟨?_, by rw [hclass]; decide⟩
    simp [hvalid, Bid.priceOk, hyfin, hynneg]
  -- with a positive lifetime the promotion keeps the bid as it is
  have hpromote : b.promote = b := by
    unfold Bid.promote
    rw [if_neg fun h => by have := h.2; omega]
  have hacc : accept now (Exchange.bidFor o (RequestSlot.ofKey k imp)) =
      some { b with downloadedAt := now } :=
    accept_eq_some_iff.mpr ⟨b, hb, hok, by rw [hpromote]⟩
  exact ⟨_, hacc, ⟨hclass, httl', rfl⟩, keyOfBid_of_accept_bidFor hk hfit hacc⟩

end Bidder

namespace Bid

/-- A bid with a positive lifetime, taken in before the last representable time, expires after
it is taken in. -/
lemma downloadedAt_lt_expiresAt {b : Bid} (httl : 0 < b.ttl)
    (hnow : b.downloadedAt < Decimal.int64Max) : b.downloadedAt < b.expiresAt := by
  unfold expiresAt satAdd satMul Decimal.clampInt64
  rw [int64Max_eq, int64Min_eq] at *
  omega

end Bid

/-! ### Answers to requests in turn -/

/-- A request recorded as sent in `session` for the keys `ks`. -/
def Sent.Asks (session : Nat) (s : Sent) (ks : List SlotKey) : Prop :=
  s.session = session ∧ ∃ publisher sdkVersion profileId fresh,
    s.request = (BidRequest.make publisher sdkVersion profileId ks fresh).1

namespace Bidder

section Answers

variable {o : Exchange.Options} (now : Int) (hfin : Decimal.isFinite o.price = true)
  (hcent : (0.01 : Float) ≤ o.price) (httl : 0 < o.ttl)
include hfin hcent httl

/-- The exchange's answer, at a finite price of at least a cent and a positive lifetime, to a
request for valid keys with pairwise distinct answer keys: each key's answer key then holds a bid
of the exchange taken in at `now`, and every other key holds what it held. -/
lemma receive_answer (b : Bidder) (ks : List SlotKey) (publisher : Publisher)
    (sdkVersion : String) (profileId : Int) (fresh : Token.Fresh)
    (hkeys : ∀ k ∈ ks, (∃ u, b.screen.keyOf? u = some k) ∧
      k.size.width ≤ IntKind.hi .i32 ∧ k.size.height ≤ IntKind.hi .i32)
    (hdistinct : (ks.map b.screen.answerKey).Nodup) :
    let b' := (b.receive b.session now
      (Exchange.answer o (BidRequest.make publisher sdkVersion profileId ks fresh).1)).getD b
    (∀ k ∈ ks, ∃ bid, b'.cache.peek? (b.screen.answerKey k) = some bid ∧ bid.OfExchange o now) ∧
      ∀ k', k' ∉ ks.map b.screen.answerKey → b'.cache.peek? k' = b.cache.peek? k' := by
  refine ⟨fun k hk => ?_, fun k' hk' =>
    peek?_receive_answer_of_not_mem b ks publisher sdkVersion profileId fresh o now hkeys hk'⟩
  -- the key has a slot in the request, with its impression
  obtain ⟨⟨k₀, imp⟩, hmem, rfl⟩ := List.mem_map.mp ((map_fst_zip_impIds ks fresh).symm ▸ hk)
  obtain ⟨⟨u, hu⟩, hfit⟩ := hkeys k₀ hk
  obtain ⟨bid, hacc, hbid, -⟩ := accept_bidFor imp now hu hfit hfin hcent httl
  refine ⟨bid, ?_, hbid⟩
  rw [peek?_receive_answer b ks publisher sdkVersion profileId fresh o now hkeys hdistinct hmem,
    hacc]
  rfl

/-- Deliveries, in one session, of the exchange's answers to requests for chunks of valid keys
whose answer keys are pairwise distinct across the chunks fill each key's answer key with a bid
of the exchange, and leave every other key as it was. -/
lemma run_deliver_answers {session : Nat} {sents : List Sent} {chunks : List (List SlotKey)}
    (hasks : List.Forall₂ (Sent.Asks session) sents chunks) (b : Bidder)
    (hsession : b.session = session)
    (hkeys : ∀ k ∈ chunks.flatten, (∃ u, b.screen.keyOf? u = some k) ∧
      k.size.width ≤ IntKind.hi .i32 ∧ k.size.height ≤ IntKind.hi .i32)
    (hdistinct : (chunks.flatten.map b.screen.answerKey).Nodup) :
    let b' := b.run (sents.map fun s => .deliver s.session now (Exchange.answer o s.request))
    (∀ k ∈ chunks.flatten, ∃ bid, b'.cache.peek? (b.screen.answerKey k) = some bid ∧
        bid.OfExchange o now) ∧
      ∀ k', k' ∉ chunks.flatten.map b.screen.answerKey → b'.cache.peek? k' = b.cache.peek? k' := by
  induction hasks generalizing b with
  | nil => exact ⟨fun k hk => absurd hk List.not_mem_nil, fun _ _ => rfl⟩
  | @cons s ks sents chunks hs hrest ih =>
    obtain ⟨hss, publisher, sdkVersion, profileId, fresh, hreq⟩ := hs
    rw [List.flatten_cons] at hkeys hdistinct ⊢
    rw [List.map_append] at hdistinct
    obtain ⟨hdks, hdrest, hdisjoint⟩ := List.nodup_append.mp hdistinct
    -- the first delivery is the answer to the first request, in the bidder's session
    set b₁ := (b.receive b.session now
      (Exchange.answer o (BidRequest.make publisher sdkVersion profileId ks fresh).1)).getD b
    have hstep : b.apply (.deliver s.session now (Exchange.answer o s.request)) = b₁ := by
      rw [apply_deliver, hreq, hss, ← hsession, if_pos rfl]
    have hscreen : b₁.screen = b.screen := by
      rw [← hstep, screen_apply]
    have hsession₁ : b₁.session = session := by
      rw [← hstep, session_apply]
      simpa [Event.isStop] using hsession
    obtain ⟨hfill, hkeep⟩ := receive_answer now hfin hcent httl b ks publisher sdkVersion
      profileId fresh (fun k hk => hkeys k (List.mem_append_left _ hk)) hdks
    obtain ⟨hfill', hkeep'⟩ := ih b₁ hsession₁
      (fun k hk => hscreen ▸ hkeys k (List.mem_append_right _ hk)) (hscreen ▸ hdrest)
    rw [hscreen] at hfill' hkeep'
    simp only [List.map_cons, run_cons, hstep]
    refine ⟨fun k hk => ?_, fun k' hk' => ?_⟩
    · rcases List.mem_append.mp hk with hk | hk
      · -- a key of the first chunk: no later request has its answer key
        have hlater : b.screen.answerKey k ∉ chunks.flatten.map b.screen.answerKey :=
          fun hmem => hdisjoint _ (List.mem_map_of_mem hk) _ hmem rfl
        rw [hkeep' _ hlater]
        exact hfill k hk
      · exact hfill' k hk
    · rw [List.map_append, List.mem_append, not_or] at hk'
      rw [hkeep' k' hk'.2]
      exact hkeep k' hk'.1

end Answers

end Bidder

namespace Client

variable {c : Client}

/-! ### Prefetches on a held link -/

/-- On a held link and with bidding live, sending records the request and does nothing more. -/
lemma send_of_held (hheld : c.link = .held) (hlive : c.killed = false) (keys : List SlotKey)
    (session : Nat) :
    c.send keys session = { c with
      fresh := (BidRequest.make c.publisher c.sdkVersion c.profileId keys c.fresh).2
      sent := c.sent.push
        ⟨keys, (BidRequest.make c.publisher c.sdkVersion c.profileId keys c.fresh).1, session⟩ } := by
  unfold send
  rw [if_neg (by simp [hlive])]
  simp only [hheld]

/-- On a held link and with bidding live, sending chunks of keys in a session records one request
per chunk, in order, and leaves the bidder, the clock and the settings as they are. -/
lemma foldl_send_of_held (session : Nat) (chunks : List (List SlotKey)) (c : Client)
    (hheld : c.link = .held) (hlive : c.killed = false) :
    let c' := chunks.foldl (fun c keys => c.send keys session) c
    c'.bidder = c.bidder ∧ c'.clock = c.clock ∧ c'.settings = c.settings ∧
      ∃ new, c'.sent.toList = c.sent.toList ++ new ∧ List.Forall₂ (Sent.Asks session) new chunks := by
  induction chunks generalizing c with
  | nil => exact ⟨rfl, rfl, rfl, [], by simp, List.Forall₂.nil⟩
  | cons keys rest ih =>
    have hsend := send_of_held hheld hlive keys session
    obtain ⟨hbidder, hclock, hsettings, new, hsent, hasks⟩ :=
      ih (c.send keys session) (by rw [hsend]; exact hheld) (by rw [hsend]; exact hlive)
    refine ⟨hbidder.trans (by rw [hsend]), hclock.trans (by rw [hsend]),
      hsettings.trans (by rw [hsend]),
      ⟨keys, (BidRequest.make c.publisher c.sdkVersion c.profileId keys c.fresh).1, session⟩ :: new,
      ?_, List.Forall₂.cons ⟨rfl, _, _, _, _, rfl⟩ hasks⟩
    simp only [List.foldl_cons]
    rw [hsent, hsend]
    simp

/-- On a held link, asking for the configuration leaves the bidder, the clock and the link. -/
lemma requestConfig_of_held (hheld : c.link = .held) :
    c.requestConfig.bidder = c.bidder ∧ c.requestConfig.clock = c.clock ∧
      c.requestConfig.link = .held := by
  unfold requestConfig
  simp only [hheld]
  split <;> exact ⟨rfl, rfl, rfl⟩

/-- On a held link, with bidding live once the configuration is asked for, a prefetch records one
request per chunk of the units' keys, in the bidder's session, and leaves the bidder and the
clock as they are. -/
lemma prefetch_of_held (units : List AdUnit) (hheld : c.link = .held)
    (hlive : c.requestConfig.killed = false) :
    let c' := c.prefetch units
    c'.bidder = c.bidder ∧ c'.clock = c.clock ∧ c'.killed = false ∧
      ∃ new, c'.sent.toList = c.sent.toList ++ new ∧
        List.Forall₂ (Sent.Asks c.bidder.session) new (c.bidder.screen.chunks units) := by
  obtain ⟨tr, hnotes⟩ := foldl_noteIgnored units c
  obtain ⟨tr', hconfig⟩ := requestConfig_withTrace c tr
  obtain ⟨hbidder, hclock, hlink⟩ := requestConfig_of_held hheld
  obtain ⟨hsent, -, -⟩ := keepsRequests_requestConfig_bidder c
  unfold prefetch
  simp only
  rw [hnotes, hconfig]
  obtain ⟨hbidder', hclock', hsettings', new, hsent', hasks⟩ :=
    foldl_send_of_held c.requestConfig.bidder.session (c.bidder.screen.chunks units)
      { c.requestConfig with trace := tr' } hlink hlive
  have hsession : c.requestConfig.bidder.session = c.bidder.session := by rw [hbidder]
  rw [hsession] at hasks
  refine ⟨hbidder'.trans hbidder, hclock'.trans hclock, ?_, new, hsent'.trans (by rw [hsent]),
    hasks⟩
  simp only [killed, hsettings']
  exact hlive

/-! ### The exchange answering held requests -/

/-- The stand-in exchange answers request `i`: the client takes in the exchange's answer to it. -/
def answerRequest (o : Exchange.Options) (c : Client) (i : Nat) : Client :=
  match c.sent[i]? with
  | some s => c.conclude i (.ok (Exchange.answer o s.request))
  | none => c

/-- The stand-in exchange answers, in turn, every request from number `start` on. -/
def answerFrom (o : Exchange.Options) (c : Client) (start : Nat) : Client :=
  (List.range' start (c.sent.size - start)).foldl (answerRequest o) c

lemma clock_received (c : Client) (i : Nat) (r : WireResponse) : (c.received i r).clock = c.clock := by
  unfold received
  split
  · split
    · exact (reports_emit _ _).clock
    · rfl
  · rfl

/-- Answering a sent request delivers the exchange's answer to the request's session at the
clock, and keeps the clock and the requests sent. -/
lemma answerRequest_of_sent (o : Exchange.Options) {i : Nat} {s : Sent} (h : c.sent[i]? = some s) :
    let c' := c.answerRequest o i
    c'.bidder = c.bidder.apply (.deliver s.session c.clock (Exchange.answer o s.request)) ∧
      c'.clock = c.clock ∧ KeepsRequests c c' := by
  unfold answerRequest
  rw [h]
  exact ⟨bidder_received h _, clock_received c i _, keepsRequests_received c i _⟩

/-- Answering in turn the requests `new` that follow the requests `pre` delivers their answers,
one after another, at the clock. -/
lemma foldl_answerRequest (o : Exchange.Options) (new : List Sent) :
    ∀ (pre : List Sent) (c : Client), c.sent.toList = pre ++ new →
    let c' := (List.range' pre.length new.length).foldl (answerRequest o) c
    c'.bidder = c.bidder.run
        (new.map fun s => .deliver s.session c.clock (Exchange.answer o s.request)) ∧
      c'.clock = c.clock ∧ KeepsRequests c c' := by
  induction new with
  | nil => exact fun pre c _ => ⟨rfl, rfl, KeepsRequests.refl c⟩
  | cons s rest ih =>
    intro pre c hsent
    have hs : c.sent[pre.length]? = some s := by
      rw [← Array.getElem?_toList, hsent]
      simp
    obtain ⟨hbidder, hclock, hkeeps⟩ := answerRequest_of_sent o hs
    obtain ⟨hbidder', hclock', hkeeps'⟩ :=
      ih (pre ++ [s]) (c.answerRequest o pre.length) (by rw [hkeeps.sent, hsent]; simp)
    rw [List.length_append, List.length_singleton] at hbidder' hclock' hkeeps'
    refine ⟨?_, hclock'.trans hclock, hkeeps.trans hkeeps'⟩
    rw [List.length_cons, List.range'_succ, List.foldl_cons, hbidder', hbidder, hclock,
      List.map_cons, Bidder.run_cons]

/-- Answering every request after the requests `pre` delivers their answers in turn. -/
lemma answerFrom_of_sent (o : Exchange.Options) {pre new : List Sent}
    (hsent : c.sent.toList = pre ++ new) :
    let c' := c.answerFrom o pre.length
    c'.bidder = c.bidder.run
        (new.map fun s => .deliver s.session c.clock (Exchange.answer o s.request)) ∧
      c'.clock = c.clock ∧ KeepsRequests c c' := by
  have hsize : c.sent.size - pre.length = new.length := by
    rw [← Array.length_toList, hsent, List.length_append]
    omega
  unfold answerFrom
  rw [hsize]
  exact foldl_answerRequest o new pre c hsent

/-! ### Prefetches answered -/

/-- A get for a unit whose key holds a valid bid shows it at any time before it expires. -/
lemma get_at_of_peek? {u : AdUnit} {k : SlotKey} {bid : Bid} (hlive : c.killed = false)
    (hk : c.bidder.screen.keyOf? u = some k) (hpeek : c.bidder.cache.peek? k = some bid)
    (hvalid : bid.classify = .valid) {t : Int} (ht : t < bid.expiresAt) :
    ({ c with clock := t }.get (some u)).1 = some bid :=
  get_fst_eq_some_iff.mpr ⟨hlive, k, hk, hpeek, hvalid, (Bid.isExpired_eq_false_iff bid t).mpr ht⟩

section Prefetch

variable (o : Exchange.Options) (units : List AdUnit) (hheld : c.link = .held)
  (hlive : c.requestConfig.killed = false)
  (hkeys : ∀ u ∈ units, ∃ k, c.bidder.screen.keyOf? u = some k ∧
    ¬(k.format = .banner ∧ (k.size = c.bidder.screen.portrait ∨ k.size = c.bidder.screen.landscape)) ∧
    k.size.width ≤ IntKind.hi .i32 ∧ k.size.height ≤ IntKind.hi .i32)
  (hdistinct : (units.filterMap c.bidder.screen.keyOf?).Nodup)
  (hfin : Decimal.isFinite o.price = true) (hcent : (0.01 : Float) ≤ o.price) (httl : 0 < o.ttl)
include hheld hlive hkeys hdistinct hfin hcent httl

/-- A prefetch of units whose keys are valid, pairwise distinct and none a banner of the screen's
size, its requests then answered in turn by the exchange, leaves each unit's key with a bid of
the exchange taken in at the clock and every other key as it was; the clock and the screen stay,
and bidding stays live. -/
lemma prefetch_answered :
    let c' := (c.prefetch units).answerFrom o c.sent.size
    c'.clock = c.clock ∧ c'.killed = false ∧ c'.bidder.screen = c.bidder.screen ∧
      (∀ k ∈ units.filterMap c.bidder.screen.keyOf?, ∃ bid, c'.bidder.cache.peek? k = some bid ∧
        bid.OfExchange o c.clock) ∧
      ∀ k, k ∉ units.filterMap c.bidder.screen.keyOf? →
        c'.bidder.cache.peek? k = c.bidder.cache.peek? k := by
  obtain ⟨hbidder, hclock, hkilled, new, hsent, hasks⟩ := prefetch_of_held units hheld hlive
  obtain ⟨hbidder', hclock', hkeeps⟩ := answerFrom_of_sent o hsent
  rw [Array.length_toList] at hclock' hkeeps
  rw [Array.length_toList, hclock, hbidder] at hbidder'
  -- the chunks read the units' keys back, each valid, fitting and its own answer key
  have hflat : (c.bidder.screen.chunks units).flatten = units.filterMap c.bidder.screen.keyOf? := by
    rw [Screen.chunks, flatten_chunksOf (by decide), firstOccurrences_of_nodup hdistinct]
  have hvalid : ∀ k ∈ units.filterMap c.bidder.screen.keyOf?,
      (∃ u, c.bidder.screen.keyOf? u = some k) ∧
      ¬(k.format = .banner ∧ (k.size = c.bidder.screen.portrait ∨
        k.size = c.bidder.screen.landscape)) ∧
      k.size.width ≤ IntKind.hi .i32 ∧ k.size.height ≤ IntKind.hi .i32 := by
    intro k hk
    obtain ⟨u, hu, hku⟩ := List.mem_filterMap.mp hk
    obtain ⟨k', hk', hbanner, hfit⟩ := hkeys u hu
    obtain rfl : k = k' := Option.some.inj (hku.symm.trans hk')
    exact ⟨⟨u, hku⟩, hbanner, hfit⟩
  have hself : ∀ k ∈ units.filterMap c.bidder.screen.keyOf?, c.bidder.screen.answerKey k = k :=
    fun k hk => (Screen.answerKey_eq_self_iff _ k).mpr (hvalid k hk).2.1
  obtain ⟨hfill, hkeep⟩ := Bidder.run_deliver_answers c.clock hfin hcent httl
    hasks c.bidder rfl (by rw [hflat]; exact fun k hk => ⟨(hvalid k hk).1, (hvalid k hk).2.2⟩)
    (by rw [hflat]; exact Screen.nodup_map_answerKey hdistinct fun k hk => (hvalid k hk).2.1)
  rw [hflat] at hfill
  rw [hflat, List.map_congr_left hself, List.map_id'] at hkeep
  refine ⟨hclock'.trans hclock, hkeeps.killed.trans hkilled, ?_, fun k hk => ?_, fun k hk => ?_⟩
  · rw [hbidder', Bidder.screen_run]
  · rw [hbidder', ← hself k hk]
    exact hfill k hk
  · rw [hbidder']
    exact hkeep k hk

/-- A prefetch of `n` units whose keys are valid, pairwise distinct and none a banner of the
screen's size, answered in turn by the exchange at a finite price of at least a cent and a
positive lifetime, fills `n` distinct entries: each unit's key holds a valid bid with the
exchange's lifetime, taken in at the clock, which a get for the unit shows at any time before it
expires, and no other key changes. -/
lemma prefetch_fills_units (hclock : c.clock < Decimal.int64Max) :
    let c' := (c.prefetch units).answerFrom o c.sent.size
    ((units.filterMap c.bidder.screen.keyOf?).filter
        fun k => (c'.bidder.cache.peek? k).isSome).length = units.length ∧
      (∀ u ∈ units, ∃ k bid, c.bidder.screen.keyOf? u = some k ∧
        c'.bidder.cache.peek? k = some bid ∧ bid.classify = .valid ∧ bid.ttl = o.ttl ∧
        bid.downloadedAt = c.clock ∧ c.clock < bid.expiresAt ∧
        ∀ t, t < bid.expiresAt → ({ c' with clock := t }.get (some u)).1 = some bid) ∧
      ∀ k, k ∉ units.filterMap c.bidder.screen.keyOf? →
        c'.bidder.cache.peek? k = c.bidder.cache.peek? k := by
  obtain ⟨-, hkilled, hscreen, hfill, hkeep⟩ :=
    prefetch_answered o units hheld hlive hkeys hdistinct hfin hcent httl
  refine ⟨?_, fun u hu => ?_, hkeep⟩
  · -- every unit has a key, and every key is filled
    have hfilled : ∀ k ∈ units.filterMap c.bidder.screen.keyOf?,
        (((c.prefetch units).answerFrom o c.sent.size).bidder.cache.peek? k).isSome = true := by
      intro k hk
      obtain ⟨bid, hpeek, -⟩ := hfill k hk
      rw [hpeek]
      rfl
    rw [List.filter_eq_self.mpr hfilled, List.filterMap_length_eq_length]
    intro u hu
    obtain ⟨k, hk, -⟩ := hkeys u hu
    rw [hk]
    rfl
  · obtain ⟨k, hk, -⟩ := hkeys u hu
    obtain ⟨bid, hpeek, hbid⟩ := hfill k (List.mem_filterMap.mpr ⟨u, hu, hk⟩)
    have hexp : c.clock < bid.expiresAt := by
      have hlt := Bid.downloadedAt_lt_expiresAt (hbid.ttl ▸ httl) (hbid.downloadedAt ▸ hclock)
      rwa [hbid.downloadedAt] at hlt
    refine ⟨k, bid, hk, hpeek, hbid.valid, hbid.ttl, hbid.downloadedAt, hexp, fun t ht => ?_⟩
    exact get_at_of_peek? hkilled (by rw [hscreen]; exact hk) hpeek hbid.valid ht

end Prefetch

end Client

/-! ### Requests and answers agree but for screen-sized banners -/

/-- A bid with the placement and size of an ad unit's key, native exactly when the key is, is
keyed by the key's answer key, which is the key itself unless the key is a banner of the screen's
size (then the interstitial of that size). The exchange's bid for the slot of a valid key, at a
finite price of at least a cent and a positive lifetime, is accepted as a valid bid keyed so, and
its answer to a request for valid keys with pairwise distinct answer keys leaves each answer key
with the accepted bid. A prefetch of `n` units with pairwise distinct valid keys, none a banner
of the screen's size, its requests answered in turn by the exchange, fills `n` distinct entries,
each shown by a get for its unit until it expires, and changes no other key. -/
theorem answers_land_under_answer_key :
    (∀ (s : Screen) (u : AdUnit) (k : SlotKey) (bid : Bid), s.keyOf? u = some k →
      bid.placement = k.placement → bid.size = k.size →
      (bid.isNative = true ↔ k.format = .native) → s.keyOfBid bid = s.answerKey k) ∧
    (∀ (s : Screen) (k : SlotKey), s.answerKey k = k ↔
      ¬(k.format = .banner ∧ (k.size = s.portrait ∨ k.size = s.landscape))) ∧
    (∀ (s : Screen) (ks : List SlotKey), ks.Nodup →
      (∀ k ∈ ks, ¬(k.format = .banner ∧ (k.size = s.portrait ∨ k.size = s.landscape))) →
      (ks.map s.answerKey).Nodup) ∧
    (∀ (s : Screen) (u : AdUnit) (k : SlotKey) (o : Exchange.Options) (imp : String) (now : Int),
      s.keyOf? u = some k → k.size.width ≤ IntKind.hi .i32 → k.size.height ≤ IntKind.hi .i32 →
      Decimal.isFinite o.price = true → (0.01 : Float) ≤ o.price → 0 < o.ttl →
      ∃ bid, Bidder.accept now (Exchange.bidFor o (RequestSlot.ofKey k imp)) = some bid ∧
        bid.classify = .valid ∧ bid.ttl = o.ttl ∧ bid.downloadedAt = now ∧
        s.keyOfBid bid = s.answerKey k) ∧
    (∀ (b : Bidder) (ks : List SlotKey) (publisher : Publisher) (sdkVersion : String)
      (profileId : Int) (fresh : Token.Fresh) (o : Exchange.Options) (now : Int),
      (∀ k ∈ ks, (∃ u, b.screen.keyOf? u = some k) ∧
        k.size.width ≤ IntKind.hi .i32 ∧ k.size.height ≤ IntKind.hi .i32) →
      (ks.map b.screen.answerKey).Nodup →
      ∀ k imp, (k, imp) ∈ ks.zip (BidRequest.impIds ks fresh).1 →
        ((b.receive b.session now
            (Exchange.answer o (BidRequest.make publisher sdkVersion profileId ks fresh).1)).getD
            b).cache.peek? (b.screen.answerKey k) =
          (Bidder.accept now (Exchange.bidFor o (RequestSlot.ofKey k imp))).or
            (b.cache.peek? (b.screen.answerKey k))) ∧
    (∀ (c : Client) (units : List AdUnit) (o : Exchange.Options),
      c.link = .held → c.requestConfig.killed = false → c.clock < Decimal.int64Max →
      (∀ u ∈ units, ∃ k, c.bidder.screen.keyOf? u = some k ∧
        ¬(k.format = .banner ∧
          (k.size = c.bidder.screen.portrait ∨ k.size = c.bidder.screen.landscape)) ∧
        k.size.width ≤ IntKind.hi .i32 ∧ k.size.height ≤ IntKind.hi .i32) →
      (units.filterMap c.bidder.screen.keyOf?).Nodup →
      Decimal.isFinite o.price = true → (0.01 : Float) ≤ o.price → 0 < o.ttl →
      let c' := (c.prefetch units).answerFrom o c.sent.size
      ((units.filterMap c.bidder.screen.keyOf?).filter
          fun k => (c'.bidder.cache.peek? k).isSome).length = units.length ∧
        (∀ u ∈ units, ∃ k bid, c.bidder.screen.keyOf? u = some k ∧
          c'.bidder.cache.peek? k = some bid ∧ bid.classify = .valid ∧ bid.ttl = o.ttl ∧
          bid.downloadedAt = c.clock ∧ c.clock < bid.expiresAt ∧
          ∀ t, t < bid.expiresAt → ({ c' with clock := t }.get (some u)).1 = some bid) ∧
        ∀ k, k ∉ units.filterMap c.bidder.screen.keyOf? →
          c'.bidder.cache.peek? k = c.bidder.cache.peek? k) :=
  ⟨fun _ _ _ _ hk hp hs hn => Screen.keyOfBid_eq_answerKey hk hp hs hn,
    Screen.answerKey_eq_self_iff,
    fun _ _ hks hbanners => Screen.nodup_map_answerKey hks hbanners,
    fun _ _ _ _ imp now hk hw hh hfin hcent httl => by
      obtain ⟨bid, hacc, hbid, hkey⟩ := Bidder.accept_bidFor imp now hk ⟨hw, hh⟩ hfin hcent httl
      exact ⟨bid, hacc, hbid.valid, hbid.ttl, hbid.downloadedAt, hkey⟩,
    fun b ks publisher sdkVersion profileId fresh o now hkeys hdistinct _ _ hmem =>
      Bidder.peek?_receive_answer b ks publisher sdkVersion profileId fresh o now hkeys hdistinct
        hmem,
    fun _ units o hheld hlive hclock hkeys hdistinct hfin hcent httl =>
      Client.prefetch_fills_units o units hheld hlive hkeys hdistinct hfin hcent httl hclock⟩

/-- On the standard screen a `300x250` banner is its own answer key, and a display bid for it is
keyed by it. The exchange's bid for the banner's slot at price `1.5` for a minute is accepted, and
the answer to a request for the banner lands under it. A new client on a held link prefetching
the banner and a native ad, the requests answered so, fills two entries, and a get for the banner
`59.999` seconds later shows the bid. -/
theorem answers_land_under_answer_key_for_a_banner_and_a_native_ad :
    let c := Client.new Screen.standard Settings.volatile .singleUse 0 none none .held
    let units : List AdUnit := [.banner "b" ⟨300, 250⟩, .native "n"]
    let o : Exchange.Options := ⟨1.5, 1.5, 60, 0, 0, false⟩
    let c' := (c.prefetch units).answerFrom o c.sent.size
    Screen.standard.keyOfBid ⟨"b", none, 1, none, ⟨300, 250⟩, 60,
        .displayUrl "http://cdb-tracker.local/ad.js?imp=b", 0⟩ =
      Screen.standard.answerKey ⟨"b", ⟨300, 250⟩, .banner⟩ ∧
    Screen.standard.answerKey ⟨"b", ⟨300, 250⟩, .banner⟩ = ⟨"b", ⟨300, 250⟩, .banner⟩ ∧
    ([⟨"b", ⟨300, 250⟩, .banner⟩, ⟨"n", ⟨2, 2⟩, .native⟩].map Screen.standard.answerKey).Nodup ∧
    (∃ bid, Bidder.accept 0 (Exchange.bidFor o (RequestSlot.ofKey ⟨"b", ⟨300, 250⟩, .banner⟩ "i")) =
        some bid ∧ bid.classify = .valid ∧ bid.ttl = 60) ∧
    (((Bidder.new Screen.standard).receive 0 0 (Exchange.answer o
        (BidRequest.make default "" 0 [⟨"b", ⟨300, 250⟩, .banner⟩] Token.Fresh.start).1)).getD
        (Bidder.new Screen.standard)).cache.peek?
        (Screen.standard.answerKey ⟨"b", ⟨300, 250⟩, .banner⟩) =
      (Bidder.accept 0 (Exchange.bidFor o (RequestSlot.ofKey ⟨"b", ⟨300, 250⟩, .banner⟩
        ((BidRequest.impIds [⟨"b", ⟨300, 250⟩, .banner⟩] Token.Fresh.start).1.headD "")))).or
        none ∧
    ((units.filterMap c.bidder.screen.keyOf?).filter
        fun k => (c'.bidder.cache.peek? k).isSome).length = 2 ∧
    ∃ bid, c'.bidder.cache.peek? ⟨"b", ⟨300, 250⟩, .banner⟩ = some bid ∧ bid.ttl = 60 ∧
      ({ c' with clock := 59999 }.get (some (.banner "b" ⟨300, 250⟩))).1 = some bid := by
  intro c units o c'
  have hbanner : Screen.standard.keyOf? (.banner "b" ⟨300, 250⟩) =
      some ⟨"b", ⟨300, 250⟩, .banner⟩ := by
    decide +kernel
  have hnative : Screen.standard.keyOf? (.native "n") = some ⟨"n", ⟨2, 2⟩, .native⟩ := by
    decide +kernel
  have hbanners : ∀ k ∈ ([⟨"b", ⟨300, 250⟩, .banner⟩, ⟨"n", ⟨2, 2⟩, .native⟩] : List SlotKey),
      ¬(k.format = .banner ∧ (k.size = Screen.standard.portrait ∨
        k.size = Screen.standard.landscape)) := by
    intro k hk
    rcases List.mem_pair.mp hk with rfl | rfl <;> decide
  have hkeys : ∀ u ∈ units, ∃ k, c.bidder.screen.keyOf? u = some k ∧
      ¬(k.format = .banner ∧
        (k.size = c.bidder.screen.portrait ∨ k.size = c.bidder.screen.landscape)) ∧
      k.size.width ≤ IntKind.hi .i32 ∧ k.size.height ≤ IntKind.hi .i32 := by
    intro u hu
    rcases List.mem_pair.mp hu with rfl | rfl
    · exact ⟨_, hbanner, hbanners _ List.mem_cons_self, by decide, by decide⟩
    · exact ⟨_, hnative, hbanners _ (List.mem_pair.mpr (.inr rfl)), by decide, by decide⟩
  have hunits : units.filterMap c.bidder.screen.keyOf? =
      [⟨"b", ⟨300, 250⟩, .banner⟩, ⟨"n", ⟨2, 2⟩, .native⟩] := by
    simp only [units, List.filterMap_cons_some hbanner, List.filterMap_cons_some hnative,
      List.filterMap_nil, c, Client.new, Bidder.new]
  have hdistinct : (units.filterMap c.bidder.screen.keyOf?).Nodup := by
    rw [hunits]
    decide
  have hfits : ∀ k ∈ ([⟨"b", ⟨300, 250⟩, .banner⟩] : List SlotKey),
      (∃ u, Screen.standard.keyOf? u = some k) ∧
        k.size.width ≤ IntKind.hi .i32 ∧ k.size.height ≤ IntKind.hi .i32 := by
    intro k hk
    rw [List.mem_singleton] at hk
    subst hk
    exact ⟨⟨_, hbanner⟩, by decide, by decide⟩
  have hfin : Decimal.isFinite o.price = true := by decide
  have hcent : (0.01 : Float) ≤ o.price := by decide
  have httl : 0 < o.ttl := by decide
  obtain ⟨hagree, hself, hnodup, haccept, hanswer, hprefetch⟩ := answers_land_under_answer_key
  have hnodup₁ := hnodup Screen.standard [⟨"b", ⟨300, 250⟩, .banner⟩]
    (List.pairwise_singleton _ _) fun k hk => hbanners k (List.mem_cons.mpr (.inl
      (List.mem_singleton.mp hk)))
  obtain ⟨hcount, hunit, -⟩ := hprefetch c units o rfl rfl (by decide) hkeys hdistinct hfin hcent
    httl
  obtain ⟨k, bid, hk, hpeek, -, hbidttl, hdownloaded, -, hget⟩ :=
    hunit (.banner "b" ⟨300, 250⟩) List.mem_cons_self
  obtain rfl : k = ⟨"b", ⟨300, 250⟩, .banner⟩ := Option.some.inj (hk.symm.trans hbanner)
  obtain ⟨bidb, haccb, hvalidb, httlb, -, -⟩ :=
    haccept Screen.standard _ _ o "i" 0 hbanner (by decide) (by decide) hfin hcent httl
  refine ⟨hagree Screen.standard _ _ _ hbanner rfl rfl (by decide),
    (hself Screen.standard _).mpr (hbanners _ List.mem_cons_self),
    hnodup Screen.standard _ (by decide) hbanners, ⟨bidb, haccb, hvalidb, httlb⟩,
    hanswer (Bidder.new Screen.standard) _ default "" 0 Token.Fresh.start o 0 hfits hnodup₁ _ _
      (by simp [BidRequest.impIds]), hcount, bid, hpeek, hbidttl, hget 59999 ?_⟩
  -- the bid was taken in at `0` for a minute
  unfold Bid.expiresAt
  rw [hbidttl, hdownloaded]
  decide

end HeaderBidding
