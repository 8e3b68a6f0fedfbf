import Mathlib.Tactic.Lemma
import Mathlib.Tactic.IntervalCases
import HeaderBidding.Proofs.Tokens
import HeaderBidding.Proofs.Consumption

/-!
# In-house auctions and the tokens they hand out

An in-house auction for an ad unit asks for a bid exactly as a get does and hands out a token for
the bid it shows:

* it succeeds exactly when the get shows a bid; it then answers the bid's price, which is
  positive, and hands out one token, taken from the supply, that stands for the bid's price and
  payload, the unit's format and the bid's expiry, which is after the clock
  (`inhouseBid_of_shown`); when the cache is well formed the payload is native exactly when the
  unit is (`isNative_iff_of_shown`);
* otherwise it answers no price and no token, and hands nothing out (`inhouseBid_of_not_shown`).

Every step of a session does one of three things to the token store (`tokenEffect_step`): nothing,
or it puts in an identifier the supply gives at that step, or it trades a token in, at the
clock. So a token stays along every later run while the clock stays before its expiry, no
identifier taken is the token itself, and, for single-use tokens, it is not traded in for its
format (`lookup_runAll`). Traded in then, by any route, it gives its value, its display address,
its native assets, or an answer carrying its value (`tokenValue_of_lookup`,
`displayUrl_of_lookup`, `nativeValue_of_lookup`, `serve_of_lookup`).
-/

namespace HeaderBidding

open Token

/-! ### Keys, cached bids and payloads -/

namespace BidCache

/-- A key reads a bid only when the cache holds that entry. -/
lemma mem_of_peek? {c : BidCache} {k : SlotKey} {b : Bid} (h : c.peek? k = some b) :
    (k, b) ∈ c.entries := by
  unfold peek? at h
  obtain ⟨e, he, rfl⟩ := Option.map_eq_some_iff.mp h
  have hkey : e.1 = k := by simpa using List.find?_some he
  rw [← hkey]
  exact List.mem_of_find?_eq_some he

end BidCache

namespace Screen

/-- The key of an ad unit has the unit's format. -/
lemma format_of_keyOf? {s : Screen} {u : AdUnit} {k : SlotKey} (h : s.keyOf? u = some k) :
    k.format = u.format := by
  -- the key is the unit's own, kept when its placement and size pass
  have hkept : ∀ {key : SlotKey} {c : Bool}, (if c = true then none else some key) = some k →
      key = k := by
    intro key c hkey
    split at hkey
    · cases hkey
    · exact Option.some.inj hkey
  unfold keyOf? at h
  cases u with
  | banner p size => rw [← hkept h]; rfl
  | interstitial p => rw [← hkept h]; rfl
  | native p => rw [← hkept h]; rfl

/-- The key of a bid is native exactly when the bid is. -/
lemma keyOfBid_format_eq_native_iff (s : Screen) (b : Bid) :
    (s.keyOfBid b).format = .native ↔ b.isNative = true := by
  unfold keyOfBid
  cases hn : b.isNative with
  | true => simp
  | false =>
    simp only [Bool.false_eq_true, if_false, iff_false]
    split <;> simp

end Screen

/-- In a well-cached bidder, a bid cached under a key is native exactly when the key is. -/
lemma Bidder.WellCached.isNative_iff {b : Bidder} (hb : b.WellCached) {k : SlotKey} {bid : Bid}
    (h : b.cache.peek? k = some bid) : bid.isNative = true ↔ k.format = .native := by
  obtain ⟨-, -, hk⟩ := hb k bid (BidCache.mem_of_peek? h)
  rw [hk, Screen.keyOfBid_format_eq_native_iff]

namespace BidRequest

lemma impIds_next (keys : List SlotKey) (fresh : Fresh) :
    (impIds keys fresh).2.next = fresh.next + keys.length := by
  induction keys generalizing fresh with
  | nil => rfl
  | cons k rest ih =>
    simp only [impIds, ih, Fresh.take, List.length_cons]
    omega

/-- Building a request takes one identifier per key and one for the request. -/
lemma make_next (publisher : Publisher) (sdkVersion : String) (profileId : Int)
    (keys : List SlotKey) (fresh : Fresh) :
    (make publisher sdkVersion profileId keys fresh).2.next = fresh.next + keys.length + 1 := by
  simp [make, Fresh.take, impIds_next]

end BidRequest

/-! ### Operations the token store does not see -/

/-- The token a step trades in, with the format it is traded in for, if the step trades one in:
the three ways of trading a token in, and a token query that the service routes to its handler
and that reads. -/
def Step.tradeIn? : Step → Option (Option Uuid × Format)
  | .tokenValue token format | .displayUrl token format => some (token, format)
  | .nativeValue token => some (token, .native)
  | .http req =>
    if req.path = "/inhouse/token" ∧ req.method = "POST" then
      match req.json TokenQuery.schema with
      | .ok j => some (some (TokenQuery.ofJson j).token, (TokenQuery.ofJson j).format)
      | .error _ => none
    else none
  | _ => none

namespace Client

/-- An operation the token store does not see: the tokens and the clock stay as they were, and
the supply of identifiers only moves forward. -/
structure KeepsTokens (c c' : Client) : Prop where
  tokens : c'.tokens = c.tokens
  clock : c'.clock = c.clock
  fresh : c.fresh.next ≤ c'.fresh.next

variable {c c' c'' : Client}

lemma KeepsTokens.refl (c : Client) : KeepsTokens c c :=
  ⟨rfl, rfl, Nat.le_refl _⟩

lemma KeepsTokens.trans (h₁ : KeepsTokens c c') (h₂ : KeepsTokens c' c'') : KeepsTokens c c'' :=
  ⟨h₂.tokens.trans h₁.tokens, h₂.clock.trans h₁.clock, Nat.le_trans h₁.fresh h₂.fresh⟩

/-- An operation that leaves the tokens, the clock and the supply as they are. -/
lemma KeepsTokens.of_eq (ht : c'.tokens = c.tokens) (hc : c'.clock = c.clock)
    (hf : c'.fresh = c.fresh) : KeepsTokens c c' :=
  ⟨ht, hc, Nat.le_of_eq (by rw [hf])⟩

lemma KeepsTokens.foldl {α : Type} (f : Client → α → Client) (hf : ∀ c a, KeepsTokens c (f c a))
    (l : List α) (c : Client) : KeepsTokens c (l.foldl f c) := by
  induction l generalizing c with
  | nil => exact KeepsTokens.refl c
  | cons a rest ih => exact (hf c a).trans (ih (f c a))

lemma Reports.keepsTokens (h : Reports c c') : KeepsTokens c c' :=
  .of_eq h.tokens h.clock h.fresh

lemma keepsTokens_requestConfig (c : Client) : KeepsTokens c c.requestConfig := by
  unfold requestConfig
  dsimp only
  split
  · exact .of_eq rfl rfl rfl
  · split
    · exact .of_eq rfl rfl rfl
    · exact .of_eq rfl rfl rfl

lemma keepsTokens_received (c : Client) (i : Nat) (r : WireResponse) :
    KeepsTokens c (c.received i r) := by
  unfold received
  split
  · split
    · exact .of_eq rfl rfl rfl
    · exact KeepsTokens.refl c
  · exact KeepsTokens.refl c

lemma keepsTokens_conclude (c : Client) (i : Nat) (o : Except CallError WireResponse) :
    KeepsTokens c (c.conclude i o) := by
  cases o with
  | ok r => exact keepsTokens_received c i r
  | error e => exact (reports_failed c i e).keepsTokens

/-- Sending a request takes identifiers for it; a link that answers at once delivers too. -/
lemma keepsTokens_send (c : Client) (keys : List SlotKey) (session : Nat) :
    KeepsTokens c (c.send keys session) := by
  unfold send
  split
  · exact KeepsTokens.refl c
  · dsimp only
    have hrecord : KeepsTokens c { c with
        fresh := (BidRequest.make c.publisher c.sdkVersion c.profileId keys c.fresh).2
        sent := c.sent.push ⟨keys, (BidRequest.make c.publisher c.sdkVersion c.profileId keys
          c.fresh).1, session⟩ } := by
      refine ⟨rfl, rfl, ?_⟩
      show c.fresh.next ≤ (BidRequest.make c.publisher c.sdkVersion c.profileId keys c.fresh).2.next
      rw [BidRequest.make_next]
      omega
    split
    · exact hrecord
    · exact hrecord.trans ((reports_started _ _).keepsTokens.trans (keepsTokens_conclude _ _ _))
    · exact hrecord.trans (.of_eq rfl rfl rfl)

lemma keepsTokens_get (c : Client) (unit : Option AdUnit) : KeepsTokens c (c.get unit).2 := by
  -- the lookup changes the bidder only, after a trace line for an unmapped unit
  have hlookup : KeepsTokens c { (if c.killed = true then c else c.noteUnmapped unit) with
      bidder := (c.bidder.lookup c.killed c.clock unit).bidder } := by
    split
    · exact .of_eq rfl rfl rfl
    · exact (reports_noteUnmapped c unit).keepsTokens.trans (.of_eq rfl rfl rfl)
  unfold get
  dsimp only
  split
  · split
    · exact (hlookup.trans (reports_emit _ _).keepsTokens).trans (keepsTokens_send _ _ _)
    · exact hlookup.trans (keepsTokens_send _ _ _)
  · split
    · exact hlookup.trans (reports_emit _ _).keepsTokens
    · exact hlookup

lemma keepsTokens_prefetch (c : Client) (units : List AdUnit) : KeepsTokens c (c.prefetch units) := by
  unfold prefetch
  dsimp only
  have hnotes : ∀ (l : List AdUnit) (c : Client), KeepsTokens c (l.foldl (fun c u =>
      if (c.bidder.screen.keyOf? u).isSome then c else c.note (ignoredUnit u)) c) :=
    KeepsTokens.foldl _ fun c u => by
      split
      · exact KeepsTokens.refl c
      · exact (reports_note c _).keepsTokens
  refine (hnotes units c).trans ((keepsTokens_requestConfig _).trans ?_)
  exact KeepsTokens.foldl _ (fun c keys => keepsTokens_send c keys _) _ _

lemma keepsTokens_respond (c : Client) (i : Nat) (start : Bool) (status : Int) (body : String) :
    KeepsTokens c (c.respond i start status body) := by
  unfold respond
  refine (?_ : KeepsTokens c (if start = true then c.started i else c)).trans
    (keepsTokens_conclude _ _ _)
  split
  · exact (reports_started c i).keepsTokens
  · exact KeepsTokens.refl c

lemma keepsTokens_fail (c : Client) (i : Nat) (start : Bool) (e : CallError) :
    KeepsTokens c (c.fail i start e) := by
  unfold fail
  refine (?_ : KeepsTokens c (if start = true then c.started i else c)).trans
    (reports_failed _ _ _).keepsTokens
  split
  · exact (reports_started c i).keepsTokens
  · exact KeepsTokens.refl c

lemma keepsTokens_runCall (c : Client) (call : Call) : KeepsTokens c (c.runCall call) := by
  unfold runCall
  split
  · split
    · split
      · exact ((reports_yieldToLog c).trans ((reports_started _ _).trans
          (reports_yieldToLog _))).keepsTokens.trans (keepsTokens_conclude _ _ _)
      · exact KeepsTokens.refl c
    · split
      · exact .of_eq rfl rfl rfl
      · exact (reports_note c _).keepsTokens
  · exact KeepsTokens.refl c

lemma keepsTokens_wait (c : Client) : KeepsTokens c c.wait := by
  unfold wait
  split
  · exact (KeepsTokens.foldl _ keepsTokens_runCall _ c).trans (.of_eq rfl rfl rfl)
  · exact .of_eq rfl rfl rfl

/-! ### The auction -/

/-- An auction for a unit the get shows no bid for answers no bid and hands nothing out. -/
lemma inhouseBid_of_not_shown {u : AdUnit} (h : (c.get (some u)).1 = none) :
    c.inhouseBid (some u) = (.noBid, (c.get (some u)).2) := by
  rcases hget : c.get (some u) with ⟨_ | b, c₁⟩
  · simp only [inhouseBid, hget]
  · rw [hget] at h
    cases h

/-- An auction for a unit the get shows bid `s` for answers the bid's price and hands out one
token, the supply's next identifier, standing for the bid in the unit's format at the clock. -/
lemma inhouseBid_of_shown {u : AdUnit} {s : Bid} (h : (c.get (some u)).1 = some s) :
    c.inhouseBid (some u) =
      (⟨s.price, some (c.get (some u)).2.fresh.take.1, true⟩,
        { (c.get (some u)).2 with
          tokens := (c.get (some u)).2.tokens.put (c.get (some u)).2.fresh.take.1
            (TokenValue.ofBid s u.format) (c.get (some u)).2.clock
          fresh := (c.get (some u)).2.fresh.take.2 }) := by
  rcases hget : c.get (some u) with ⟨_ | b, c₁⟩
  · rw [hget] at h
    cases h
  · rw [hget] at h
    cases h
    simp only [inhouseBid, hget]
    rfl

/-- A bid a get shows is native exactly when the unit is, when the cache is well formed. -/
lemma isNative_iff_of_shown (hc : c.bidder.WellCached) {u : AdUnit} {s : Bid}
    (h : (c.get (some u)).1 = some s) : s.isNative = true ↔ u.format = .native := by
  obtain ⟨-, k, hkey, hpeek, -⟩ := get_fst_eq_some_iff.mp h
  rw [hc.isNative_iff hpeek, Screen.format_of_keyOf? hkey]

/-- An auction does not move the clock. -/
lemma clock_inhouseBid (c : Client) (unit : Option AdUnit) :
    (c.inhouseBid unit).2.clock = c.clock := by
  cases unit with
  | none => rfl
  | some u =>
    cases hshown : (c.get (some u)).1 with
    | none =>
      rw [inhouseBid_of_not_shown hshown]
      exact (keepsTokens_get c _).clock
    | some s =>
      rw [inhouseBid_of_shown hshown]
      exact (keepsTokens_get c _).clock

/-- An auction succeeds exactly when the get shows a bid. -/
lemma success_inhouseBid_iff {u : AdUnit} :
    (c.inhouseBid (some u)).1.success = true ↔ ∃ s, (c.get (some u)).1 = some s := by
  cases hshown : (c.get (some u)).1 with
  | none => simp [inhouseBid_of_not_shown hshown, InHouseReply.noBid]
  | some s => simp [inhouseBid_of_shown hshown]

/-- A failed auction answers no price and no token, and hands nothing out. -/
lemma inhouseBid_of_failure {u : AdUnit} (hfail : (c.inhouseBid (some u)).1.success = false) :
    (c.inhouseBid (some u)).1.price = 0 ∧ (c.inhouseBid (some u)).1.token = none ∧
      (c.inhouseBid (some u)).2.tokens = c.tokens := by
  cases hshown : (c.get (some u)).1 with
  | none =>
    rw [inhouseBid_of_not_shown hshown]
    exact ⟨rfl, rfl, (keepsTokens_get c _).tokens⟩
  | some s =>
    rw [inhouseBid_of_shown hshown] at hfail
    cases hfail

/-- A successful auction puts the shown bid's value in at the client's clock. -/
lemma tokens_inhouseBid_of_shown {u : AdUnit} {s : Bid} (h : (c.get (some u)).1 = some s) :
    (c.inhouseBid (some u)).2.tokens =
      c.tokens.put (c.get (some u)).2.fresh.take.1 (TokenValue.ofBid s u.format) c.clock := by
  rw [inhouseBid_of_shown h, ← (keepsTokens_get c _).tokens, ← (keepsTokens_get c _).clock]

/-! ### What a step does to the tokens -/

/-- What an operation does to the token store: nothing; or it puts in, at the clock, an
identifier the supply gives in between; or it trades a token in for a format at the clock. The
index is the trade-in, if any. Either way the supply only moves forward. -/
inductive TokenEffect (c c' : Client) : Option (Option Uuid × Format) → Prop where
  | keep : c'.tokens = c.tokens → c.fresh.next ≤ c'.fresh.next → TokenEffect c c' none
  | mint (m : Nat) (w : TokenValue) : c.fresh.next ≤ m → m < c'.fresh.next →
      c'.tokens = c.tokens.put (Uuid.ofSerial m) w c.clock → TokenEffect c c' none
  | trade (token : Option Uuid) (f : Format) :
      c'.tokens = (c.tokens.resolve token f c.clock).2 → c.fresh.next ≤ c'.fresh.next →
      TokenEffect c c' (some (token, f))

variable {tr : Option (Option Uuid × Format)}

lemma KeepsTokens.tokenEffect (h : KeepsTokens c c') : TokenEffect c c' none :=
  .keep h.tokens h.fresh

/-- An operation the store does not see, then one with an effect, has that effect. -/
lemma TokenEffect.of_keeps_of (h₁ : KeepsTokens c c') (h₂ : TokenEffect c' c'' tr) :
    TokenEffect c c'' tr := by
  cases h₂ with
  | keep ht hf => exact .keep (ht.trans h₁.tokens) (Nat.le_trans h₁.fresh hf)
  | mint m w hlo hhi ht =>
    exact .mint m w (Nat.le_trans h₁.fresh hlo) hhi (by rw [ht, h₁.tokens, h₁.clock])
  | trade token f ht hf =>
    exact .trade token f (by rw [ht, h₁.tokens, h₁.clock]) (Nat.le_trans h₁.fresh hf)

/-- An operation with an effect, then one the store does not see, has that effect. -/
lemma TokenEffect.keeps (h₁ : TokenEffect c c' tr) (h₂ : KeepsTokens c' c'') :
    TokenEffect c c'' tr := by
  cases h₁ with
  | keep ht hf => exact .keep (h₂.tokens.trans ht) (Nat.le_trans hf h₂.fresh)
  | mint m w hlo hhi ht =>
    exact .mint m w hlo (Nat.lt_of_lt_of_le hhi h₂.fresh) (h₂.tokens.trans ht)
  | trade token f ht hf => exact .trade token f (h₂.tokens.trans ht) (Nat.le_trans hf h₂.fresh)

lemma TokenEffect.fresh_le (h : TokenEffect c c' tr) : c.fresh.next ≤ c'.fresh.next := by
  cases h with
  | keep _ hf => exact hf
  | mint m w hlo hhi _ => omega
  | trade _ _ _ hf => exact hf

lemma TokenEffect.retention (h : TokenEffect c c' tr) :
    c'.tokens.retention = c.tokens.retention := by
  cases h with
  | keep ht _ => rw [ht]
  | mint m w _ _ ht => rw [ht, TokenStore.retention_put]
  | trade token f ht _ =>
    rw [ht]
    cases token with
    | none => rfl
    | some t =>
      rcases TokenStore.resolve_snd_eq_or c.tokens t f c.clock with heq | heq <;> rw [heq]
      rfl

/-- An operation keeps token `t` standing for `v` when it runs before `v` expires, takes no
identifier equal to `t`, and does not use `t` up by trading it in for `v`'s format. -/
lemma TokenEffect.lookup {t : Uuid} {v : TokenValue} (h : TokenEffect c c' tr)
    (hlookup : c.tokens.lookup t = some v) (hclock : c.clock < v.expiresAt)
    (hfresh : ∀ m, c.fresh.next ≤ m → m < c'.fresh.next → Uuid.ofSerial m ≠ t)
    (hkeep : c.tokens.retention = .untilExpiry ∨ tr ≠ some (some t, v.format)) :
    c'.tokens.lookup t = some v := by
  cases h with
  | keep ht _ => rw [ht]; exact hlookup
  | mint m w hlo hhi ht =>
    rw [ht]
    exact TokenStore.lookup_put_of_ne (hfresh m hlo hhi).symm hlookup hclock
  | trade token f ht _ =>
    rw [ht]
    refine TokenStore.lookup_resolve hlookup hclock (hkeep.imp_right fun hne heq => ?_)
    exact hne (by rw [heq])

lemma tokenEffect_inhouseBid (c : Client) (unit : Option AdUnit) :
    TokenEffect c (c.inhouseBid unit).2 none := by
  cases unit with
  | none => exact (KeepsTokens.refl c).tokenEffect
  | some u =>
    cases hshown : (c.get (some u)).1 with
    | none =>
      rw [inhouseBid_of_not_shown hshown]
      exact (keepsTokens_get c (some u)).tokenEffect
    | some s =>
      -- the get, then one identifier put in at the clock
      rw [inhouseBid_of_shown hshown]
      refine TokenEffect.of_keeps_of (keepsTokens_get c (some u)) ?_
      exact .mint _ _ (Nat.le_refl _) (Nat.lt_succ_self _) rfl

lemma tokenEffect_tokenValue (c : Client) (token : Option Uuid) (f : Format) :
    TokenEffect c (c.tokenValue token f).2 (some (token, f)) :=
  .trade token f rfl (Nat.le_refl _)

lemma serveBid_snd_cases (req : Http.Request) (c : Client) :
    (serveBid req c).2 = c ∨ ∃ u, KeepsTokens (c.inhouseBid (some u)).2 (serveBid req c).2 := by
  unfold serveBid
  split
  · exact .inl rfl
  · exact .inr ⟨_, (reports_logWaiting _ _ _).keepsTokens⟩

lemma tokenEffect_serveBid (req : Http.Request) (c : Client) :
    TokenEffect c (serveBid req c).2 none := by
  rcases serveBid_snd_cases req c with heq | ⟨u, hkeeps⟩
  · rw [heq]
    exact (KeepsTokens.refl c).tokenEffect
  · exact (tokenEffect_inhouseBid c (some u)).keeps hkeeps

lemma tokenEffect_serveToken (req : Http.Request) (c : Client) :
    TokenEffect c (serveToken req c).2
      (match req.json TokenQuery.schema with
        | .ok j => some (some (TokenQuery.ofJson j).token, (TokenQuery.ofJson j).format)
        | .error _ => none) := by
  unfold serveToken
  split
  · rename_i r hj
    rw [hj]
    exact (KeepsTokens.refl c).tokenEffect
  · rename_i j hj
    rw [hj]
    dsimp only
    have htrade := tokenEffect_tokenValue c (some (TokenQuery.ofJson j).token)
      (TokenQuery.ofJson j).format
    rcases hv : c.tokenValue (some (TokenQuery.ofJson j).token) (TokenQuery.ofJson j).format
      with ⟨_ | v, c₁⟩
    · -- a token that gives nothing is noted in the log
      rw [hv] at htrade
      exact htrade.keeps (reports_logWaiting _ _ _).keepsTokens
    · rw [hv] at htrade
      exact htrade

/-- The service routes a request by path and method to the auction or to the token handler,
and leaves the client as it is otherwise. -/
lemma serve_snd (c : Client) (req : Http.Request) :
    (c.serve req).2 =
      if req.path = "/inhouse/bid" ∧ req.method = "POST" then (serveBid req c).2
      else if req.path = "/inhouse/token" ∧ req.method = "POST" then (serveToken req c).2
      else c := by
  unfold serve Http.dispatch routes
  -- the routes compare their path and method with the request's from the other side
  have hsymm : ∀ a b : String, (a = b) = (b = a) := fun a b => propext eq_comm
  by_cases hm : req.method = "POST"
  · by_cases hb : req.path = "/inhouse/bid"
    · simp [hb, hm]
    · by_cases ht : req.path = "/inhouse/token"
      · simp [ht, hm]
      · simp [hsymm "/inhouse/bid", hsymm "/inhouse/token", hb, ht]
  · by_cases hb : req.path = "/inhouse/bid"
    · simp [hb, hsymm "POST", hm]
    · by_cases ht : req.path = "/inhouse/token"
      · simp [ht, hsymm "POST", hm]
      · simp [hsymm "/inhouse/bid", hsymm "/inhouse/token", hb, ht]

lemma serve_of_token {c : Client} {req : Http.Request} (hp : req.path = "/inhouse/token")
    (hm : req.method = "POST") : c.serve req = serveToken req c := by
  unfold serve Http.dispatch routes
  simp [hp, hm]

lemma tokenEffect_serve (c : Client) (req : Http.Request) :
    TokenEffect c (c.serve req).2 (Step.http req).tradeIn? := by
  rw [serve_snd]
  by_cases hb : req.path = "/inhouse/bid" ∧ req.method = "POST"
  · -- the bid route: no token is traded in, whatever the body
    simp only [hb, and_self, if_true, Step.tradeIn?]
    exact tokenEffect_serveBid req c
  · by_cases ht : req.path = "/inhouse/token" ∧ req.method = "POST"
    · simp only [ht, and_self, if_true, Step.tradeIn?]
      exact tokenEffect_serveToken req c
    · simp only [hb, if_false, ht, Step.tradeIn?]
      exact (KeepsTokens.refl c).tokenEffect

/-- Every step of a session does one of the three things to the token store, at the clock the
step starts with, indexed by the step's trade-in. -/
lemma tokenEffect_step (c : Client) (st : Step) : TokenEffect c (c.step st).2 st.tradeIn? := by
  cases st with
  | get unit => exact (keepsTokens_get c unit).tokenEffect
  | prefetch units => exact (keepsTokens_prefetch c units).tokenEffect
  | setClock _ | advance _ => exact .keep rfl (Nat.le_refl _)
  | stop | killSwitch _ | refreshConfig _ | remoteConfig | mapperMap _ | pending =>
    refine KeepsTokens.tokenEffect ?_
    exact .of_eq rfl rfl rfl
  | start i => exact (reports_started c i).keepsTokens.tokenEffect
  | respond i start status body => exact (keepsTokens_respond c i start status body).tokenEffect
  | fail i start e => exact (keepsTokens_fail c i start e).tokenEffect
  | inhouseBid unit => exact tokenEffect_inhouseBid c unit
  | tokenValue token f => exact tokenEffect_tokenValue c token f
  | displayUrl token f =>
    show TokenEffect c (c.displayUrl token f).2 _
    rw [displayUrl_snd]
    exact tokenEffect_tokenValue c token f
  | nativeValue token =>
    show TokenEffect c (c.nativeValue token).2 _
    rw [nativeValue_snd]
    exact tokenEffect_tokenValue c token .native
  | http req =>
    rw [step_http_snd]
    exact tokenEffect_serve c req
  | wait => exact (keepsTokens_wait c).tokenEffect

lemma fresh_le_runAll (c : Client) (steps : List Step) :
    c.fresh.next ≤ (c.runAll steps).2.fresh.next := by
  induction steps generalizing c with
  | nil => exact Nat.le_refl _
  | cons st rest ih => exact Nat.le_trans (tokenEffect_step c st).fresh_le (ih _)

/-- A token stays along a run of steps while the clock stays before its value's expiry, no
identifier the run takes is the token itself, and (for single-use tokens) the run does not trade
it in for its value's format. -/
theorem lookup_runAll (c : Client) (steps : List Step) {t : Uuid} {v : TokenValue}
    (hlookup : c.tokens.lookup t = some v)
    (hclock : ∀ k, (c.runAll (steps.take k)).2.clock < v.expiresAt)
    (hfresh : ∀ m, c.fresh.next ≤ m → m < (c.runAll steps).2.fresh.next → Uuid.ofSerial m ≠ t)
    (hkeep : c.tokens.retention = .untilExpiry ∨ ∀ st ∈ steps, st.tradeIn? ≠ some (some t, v.format)) :
    (c.runAll steps).2.tokens.lookup t = some v := by
  induction steps generalizing c with
  | nil => exact hlookup
  | cons st rest ih =>
    have heffect := tokenEffect_step c st
    have hrest := fresh_le_runAll (c.step st).2 rest
    -- the first step keeps the token, then the rest of the run does
    have hfirst : (c.step st).2.tokens.lookup t = some v :=
      heffect.lookup hlookup (hclock 0)
        (fun m hlo hhi => hfresh m hlo (Nat.lt_of_lt_of_le hhi hrest))
        (hkeep.imp_right fun h => h st List.mem_cons_self)
    refine ih (c.step st).2 hfirst (fun k => hclock (k + 1))
      (fun m hlo hhi => hfresh m (Nat.le_trans heffect.fresh_le hlo) hhi) ?_
    rw [heffect.retention]
    exact hkeep.imp_right fun h st' hst' => h st' (List.mem_cons_of_mem _ hst')

/-! ### Trading a token in -/

variable {t : Uuid} {v : TokenValue}

/-- A token standing for `v`, traded in for `v`'s format before `v` expires, gives `v`. -/
lemma tokenValue_of_lookup (h : c.tokens.lookup t = some v) (hlive : c.clock < v.expiresAt) :
    (c.tokenValue (some t) v.format).1 = some v := by
  simp [tokenValue, TokenStore.resolve_of_live h rfl hlive]

lemma displayUrl_of_lookup (h : c.tokens.lookup t = some v) (hlive : c.clock < v.expiresAt)
    {url : String} (hurl : v.payload = .displayUrl url) :
    (c.displayUrl (some t) v.format).1 = some url := by
  unfold displayUrl
  rcases hv : c.tokenValue (some t) v.format with ⟨w, c₁⟩
  have hw : w = some v := by
    rw [← tokenValue_of_lookup h hlive, hv]
  simp [hw, hurl]

lemma nativeValue_of_lookup (h : c.tokens.lookup t = some v) (hlive : c.clock < v.expiresAt)
    (hf : v.format = .native) {a : NativeAssets} (ha : v.payload = .native a) :
    (c.nativeValue (some t)).1 = some a := by
  unfold nativeValue
  rcases hv : c.tokenValue (some t) .native with ⟨w, c₁⟩
  have hw : w = some v := by
    rw [← tokenValue_of_lookup h hlive, hf] at *
    rw [hv]
  simp [hw, ha]

/-- A token standing for bid `s` in a display format gives the bid's display address, when `s`
is native exactly when the format is. -/
lemma displayUrl_of_lookup_ofBid {s : Bid} {f : Format}
    (h : c.tokens.lookup t = some (TokenValue.ofBid s f)) (hlive : c.clock < s.expiresAt)
    (hnative : s.isNative = true ↔ f = .native) (hf : f ≠ .native) :
    ∃ url, s.payload = .displayUrl url ∧ (c.displayUrl (some t) f).1 = some url := by
  cases hp : s.payload with
  | displayUrl url => exact ⟨url, rfl, displayUrl_of_lookup h hlive hp⟩
  | native a => exact absurd (hnative.mp (by simp [Bid.isNative, hp])) hf

/-- A token standing for bid `s` in the native format gives the bid's native assets, when `s`
is native exactly when the format is. -/
lemma nativeValue_of_lookup_ofBid {s : Bid} {f : Format}
    (h : c.tokens.lookup t = some (TokenValue.ofBid s f)) (hlive : c.clock < s.expiresAt)
    (hnative : s.isNative = true ↔ f = .native) (hf : f = .native) :
    ∃ a, s.payload = .native a ∧ (c.nativeValue (some t)).1 = some a := by
  cases hp : s.payload with
  | displayUrl url => exact absurd (hnative.mpr hf) (by simp [Bid.isNative, hp])
  | native a => exact ⟨a, rfl, nativeValue_of_lookup h hlive hf hp⟩

/-- A query for a token standing for `v`, in `v`'s format, answers `v` before it expires. -/
lemma serve_of_lookup (h : c.tokens.lookup t = some v) (hlive : c.clock < v.expiresAt)
    {req : Http.Request} {j : Json} (hp : req.path = "/inhouse/token") (hm : req.method = "POST")
    (hj : req.json TokenQuery.schema = .ok j) (hq : TokenQuery.ofJson j = ⟨t, v.format⟩) :
    (c.serve req).1 = .json v.toJson := by
  rw [serve_of_token hp hm]
  unfold serveToken
  rw [hj]
  dsimp only
  rw [hq]
  rcases hv : c.tokenValue (some t) v.format with ⟨w, c₁⟩
  have hw : w = some v := by
    rw [← tokenValue_of_lookup h hlive, hv]
  subst hw
  rfl

end Client

/-- In-house auctions hand out tokens that redeem the bid shown. Every client a session reaches
keeps a well-formed cache, and for a client with one and an ad unit `u`:
* the auction succeeds exactly when a get for `u` shows a bid; when it fails it answers price
  `0` and no token, and puts no token in;
* when the get shows `s`, the auction answers `s`'s price, which is positive, and a token `t`;
  the one value it puts in stands for `s`'s price, payload and expiry in `u`'s format, is
  unexpired at the clock, and `s` is native exactly when `u` is;
* along any later run whose clock stays before that expiry, that takes no identifier equal to
  `t` and, for single-use tokens, that does not trade `t` in for `u`'s format, the token still
  stands for the value: trading it in gives the value, the display address for a display unit,
  the native assets for a native one, and the token route answers the value. -/
theorem inhouse_tokens_redeem_the_shown_bid :
    (∀ (screen : Screen) (settings : Settings) (retention : Retention) (clock : Int)
        (log : Option RuntimeLog) (configReply : Option RemoteConfig) (link : Link)
        (steps : List Step),
      ((Client.new screen settings retention clock log configReply link).runAll
        steps).2.bidder.WellCached) ∧
    ∀ (c : Client) (u : AdUnit), c.bidder.WellCached →
      let r := c.inhouseBid (some u)
      (r.1.success = true ↔ ∃ s, (c.get (some u)).1 = some s) ∧
      (r.1.success = false → r.1.price = 0 ∧ r.1.token = none ∧ r.2.tokens = c.tokens) ∧
      ∀ s, (c.get (some u)).1 = some s →
        ∃ t v, r.1 = ⟨s.price, some t, true⟩ ∧ s.price > 0 ∧
          v.price = s.price ∧ v.payload = s.payload ∧ v.format = u.format ∧
          v.expiresAt = s.expiresAt ∧ r.2.tokens = c.tokens.put t v c.clock ∧
          c.clock < v.expiresAt ∧ (s.isNative = true ↔ u.format = .native) ∧
          ∀ later : List Step,
            (∀ k, (r.2.runAll (later.take k)).2.clock < v.expiresAt) →
            (∀ m, r.2.fresh.next ≤ m → m < (r.2.runAll later).2.fresh.next →
              Uuid.ofSerial m ≠ t) →
            (c.tokens.retention = .untilExpiry ∨
              ∀ st ∈ later, st.tradeIn? ≠ some (some t, u.format)) →
            let c'' := (r.2.runAll later).2
            c''.tokens.lookup t = some v ∧ (c''.tokenValue (some t) u.format).1 = some v ∧
            (u.format ≠ .native →
              ∃ url, s.payload = .displayUrl url ∧ (c''.displayUrl (some t) u.format).1 = some url) ∧
            (u.format = .native →
              ∃ a, s.payload = .native a ∧ (c''.nativeValue (some t)).1 = some a) ∧
            ∀ (req : Http.Request) (j : Json), req.path = "/inhouse/token" →
              req.method = "POST" → req.json TokenQuery.schema = .ok j →
              TokenQuery.ofJson j = ⟨t, u.format⟩ → (c''.serve req).1 = .json v.toJson := by
  refine ⟨fun screen _ _ _ _ _ _ steps =>
    Client.wellCached_runAll (Bidder.wellCached_new screen) steps, fun c u hc => ?_⟩
  refine ⟨Client.success_inhouseBid_iff, Client.inhouseBid_of_failure, fun s hshown => ?_⟩
  obtain ⟨-, -, -, -, hvalid, hlive⟩ := Client.get_fst_eq_some_iff.mp hshown
  have hnative := Client.isNative_iff_of_shown hc hshown
  have htokens := Client.tokens_inhouseBid_of_shown hshown
  refine ⟨_, TokenValue.ofBid s u.format, by rw [Client.inhouseBid_of_shown hshown],
    (Bid.classify_eq_valid_iff s).mp hvalid, rfl, rfl, rfl, rfl, htokens,
    (Bid.isExpired_eq_false_iff s c.clock).mp hlive, hnative,
    fun later hclock hfresh hkeep => ?_⟩
  -- the token stays along the later run, whose clock stays before the value's expiry
  have hlookup := Client.lookup_runAll _ later (htokens ▸ TokenStore.lookup_put_self) hclock
    hfresh (by rwa [htokens, TokenStore.retention_put])
  have hnow := List.take_length (l := later) ▸ hclock later.length
  exact ⟨hlookup, Client.tokenValue_of_lookup hlookup hnow,
    Client.displayUrl_of_lookup_ofBid hlookup hnow hnative,
    Client.nativeValue_of_lookup_ofBid hlookup hnow hnative,
    fun req j hp hm hj hq => Client.serve_of_lookup hlookup hnow hp hm hj hq⟩

/-- A native bid for the `feed` placement, downloaded at `0` for a minute. -/
def nativeFeedBid : Bid :=
  ⟨"feed", none, 1.5, none, Screen.nativeSize, 60, .native ⟨.null⟩, 0⟩

/-- A new client of the standard screen, at clock `0`, whose cache holds `nativeFeedBid`. -/
def clientWithNativeFeedBid : Client :=
  { Client.new Screen.standard Settings.volatile .untilExpiry 0 none none .held with
    bidder := { Bidder.new Screen.standard with
      cache := ⟨[(⟨"feed", Screen.nativeSize, .native⟩, nativeFeedBid)]⟩ } }

/-- The auction for the native `feed` unit hands out a token that still gives the bid's assets
after half a minute, a second auction that finds nothing, and a first trade-in. -/
theorem native_feed_token_gives_its_assets :
    ∃ t, (clientWithNativeFeedBid.inhouseBid (some (.native "feed"))).1 = ⟨1.5, some t, true⟩ ∧
      (((clientWithNativeFeedBid.inhouseBid (some (.native "feed"))).2.runAll
          [.advance 30000, .inhouseBid (some (.native "feed")), .nativeValue (some t)]).2.nativeValue
          (some t)).1 = some ⟨.null⟩ := by
  have hc : clientWithNativeFeedBid.bidder.WellCached := by
    intro k bid hmem
    obtain ⟨rfl, rfl⟩ := Prod.mk.inj (List.mem_singleton.mp hmem)
    exact ⟨rfl, by decide, by decide +kernel⟩
  have hshown : (clientWithNativeFeedBid.get (some (.native "feed"))).1 = some nativeFeedBid := by
    rw [Client.get_fst_eq_some_iff]
    exact ⟨rfl, ⟨"feed", Screen.nativeSize, .native⟩, by decide +kernel, rfl, by decide, by decide⟩
  have htoken : (clientWithNativeFeedBid.inhouseBid (some (.native "feed"))).1.token =
      some (Uuid.ofSerial 3) := by
    decide +kernel
  obtain ⟨-, hauction⟩ := inhouse_tokens_redeem_the_shown_bid
  obtain ⟨-, -, hredeem⟩ := hauction _ _ hc
  obtain ⟨t, v, hreply, -, -, -, -, hexpires, -, -, -, hlater⟩ := hredeem _ hshown
  have ht : t = Uuid.ofSerial 3 := by
    rw [hreply] at htoken
    exact Option.some.inj htoken
  subst ht
  -- the later run moves the clock to half a minute, short of the bid's minute
  have hclock : ∀ k, ((clientWithNativeFeedBid.inhouseBid (some (.native "feed"))).2.runAll
      ([.advance 30000, .inhouseBid (some (.native "feed")), .nativeValue (some (Uuid.ofSerial 3))].take
        k)).2.clock < v.expiresAt := by
    intro k
    rw [hexpires]
    rcases k with _ | _ | _ | _ | k
    case succ.succ.succ.succ =>
      rw [List.take_of_length_le (by simp)]
      decide +kernel
    all_goals decide +kernel
  -- it draws serials `4` and `5` for the second auction's request, past the token's `3`
  have hfresh : ∀ m, (clientWithNativeFeedBid.inhouseBid (some (.native "feed"))).2.fresh.next ≤ m →
      m < ((clientWithNativeFeedBid.inhouseBid (some (.native "feed"))).2.runAll
        [.advance 30000, .inhouseBid (some (.native "feed")),
          .nativeValue (some (Uuid.ofSerial 3))]).2.fresh.next →
      Uuid.ofSerial m ≠ Uuid.ofSerial 3 := by
    have hfrom : (clientWithNativeFeedBid.inhouseBid (some (.native "feed"))).2.fresh.next = 4 := by
      decide +kernel
    have hto : ((clientWithNativeFeedBid.inhouseBid (some (.native "feed"))).2.runAll
        [.advance 30000, .inhouseBid (some (.native "feed")),
          .nativeValue (some (Uuid.ofSerial 3))]).2.fresh.next = 6 := by
      decide +kernel
    intro m hlo hhi heq
    rw [hfrom] at hlo
    rw [hto] at hhi
    interval_cases m <;> exact absurd heq (by decide)
  obtain ⟨-, -, -, hnative, -⟩ := hlater _ hclock hfresh (.inl rfl)
  obtain ⟨a, ha, hvalue⟩ := hnative rfl
  cases ha
  exact ⟨Uuid.ofSerial 3, hreply, hvalue⟩

end HeaderBidding
