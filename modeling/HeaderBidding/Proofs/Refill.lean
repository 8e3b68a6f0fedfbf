import Mathlib.Tactic.Lemma
import HeaderBidding.Proofs.Client

/-!
# Refills and the back-off

A get for an ad unit asks the bidding server for a new bid for the unit's key, in the current
session, exactly when the kill switch is off, the unit has a key, the key does not hold a silent
bid that has not expired, and the server's back-off allows a call at the clock
(`Bidder.refill_eq_some_iff`); the request is then recorded once, and otherwise nothing is sent
(`Client.sent_get_of_refill`, `Client.sent_get_of_no_refill`).

The back-off is shared by all keys and moves only when a response of the current session asks
for a positive pause (`Bidder.nextCallNotBefore_apply`).

A prefetch asks for the configuration once and then sends the units' keys in chunks, in order,
in the current session and whatever the back-off, unless the kill switch is on once the
configuration has been asked for (`Client.prefetch_sent`).
-/

namespace HeaderBidding

namespace Bidder

/-! ### The refill a lookup asks for -/

/-- A lookup of an ad unit with key `k` asks for `k` when the back-off allows, unless the key
holds a silent bid that has not expired. -/
lemma refill_of_key {b : Bidder} {unit : Option AdUnit} {k : SlotKey}
    (h : unit.bind b.screen.keyOf? = some k) (now : Int) :
    (b.lookup false now unit).refill =
      if ∃ bid, b.cache.peek? k = some bid ∧ bid.classify = .silent ∧ bid.isExpired now = false
      then none else b.refillFor k now := by
  simp only [lookup, h, Bool.false_eq_true, if_false]
  split
  · rename_i hp
    simp [hp]
  · rename_i bid hp
    by_cases hs : bid.classify = .silent ∧ bid.isExpired now = false
    · simp [hp, hs]
    · simp [hp, hs]

/-- A lookup of an ad unit asks for its key alone, in the current session, exactly when the kill
switch is off, the unit has a key, the key holds no silent bid that has not expired, and the
back-off allows a call at `now`. -/
lemma refill_eq_some_iff {b : Bidder} {killed : Bool} {now : Int} {u : AdUnit}
    {x : List SlotKey × Nat} :
    (b.lookup killed now (some u)).refill = some x ↔
      killed = false ∧ ∃ k, b.screen.keyOf? u = some k ∧
        (∀ bid, b.cache.peek? k = some bid →
          ¬(bid.classify = .silent ∧ bid.isExpired now = false)) ∧
        b.nextCallNotBefore ≤ now ∧ x = ([k], b.session) := by
  cases killed with
  | true => simp [lookup_of_killed]
  | false =>
    cases hkey : b.screen.keyOf? u with
    | none =>
      have hunmapped : (some u).bind b.screen.keyOf? = none :=
        (Option.bind_some u _).trans hkey
      simp [lookup_of_unmapped hunmapped]
    | some k =>
      have hmapped : (some u).bind b.screen.keyOf? = some k :=
        (Option.bind_some u _).trans hkey
      rw [refill_of_key hmapped]
      by_cases hs : ∃ bid, b.cache.peek? k = some bid ∧ bid.classify = .silent ∧
          bid.isExpired now = false
      · -- an unexpired silent bid stands for the back-off: nothing is asked
        obtain ⟨bid, hp, hsilent⟩ := hs
        rw [if_pos ⟨bid, hp, hsilent⟩]
        constructor
        · rintro ⟨⟩
        · rintro ⟨-, k', hk', hnot, -⟩
          cases hk'
          exact absurd hsilent (hnot bid hp)
      · have hnot : ∀ bid, b.cache.peek? k = some bid →
            ¬(bid.classify = .silent ∧ bid.isExpired now = false) :=
          fun bid hp hsilent => hs ⟨bid, hp, hsilent⟩
        rw [if_neg hs]
        unfold refillFor mayCall
        by_cases hcall : b.nextCallNotBefore ≤ now
        · rw [if_pos (decide_eq_true hcall)]
          constructor
          · rintro ⟨⟩
            exact ⟨rfl, k, rfl, hnot, hcall, rfl⟩
          · rintro ⟨-, k', hk', -, -, rfl⟩
            cases hk'
            rfl
        · rw [if_neg (by simpa using hcall)]
          constructor
          · rintro ⟨⟩
          · rintro ⟨-, k', -, -, hle, -⟩
            exact absurd hle hcall

/-! ### The back-off -/

/-- The back-off after an event: only a response of the current session with a positive pause
moves it, to that many seconds after the response's time, saturating. -/
lemma nextCallNotBefore_apply (b : Bidder) (e : Event) :
    (b.apply e).nextCallNotBefore =
      match e with
      | .deliver session now r =>
        if session = b.session ∧ 0 < r.timeToNextCall then
          satAdd now (satMul r.timeToNextCall 1000)
        else b.nextCallNotBefore
      | _ => b.nextCallNotBefore := by
  cases e with
  | lookup killed now unit =>
    rcases lookup_bidder_cases b killed now unit with h | ⟨k, -, h⟩ <;> simp [apply, h]
  | deliver session now r =>
    rw [apply_deliver]
    by_cases hs : session = b.session
    · by_cases hp : 0 < r.timeToNextCall <;> simp [hs, hp, receive_self, backoffAfter]
    · simp [hs]
  | stop => rfl

end Bidder

namespace Client

/-! ### Operations that send nothing -/

/-- An operation that leaves the requests sent, the settings and the number of configuration
requests as they are. -/
structure KeepsRequests (c c' : Client) : Prop where
  sent : c'.sent = c.sent
  settings : c'.settings = c.settings
  configRequests : c'.configRequests = c.configRequests

variable {c c' c'' : Client}

lemma KeepsRequests.refl (c : Client) : KeepsRequests c c :=
  ⟨rfl, rfl, rfl⟩

lemma KeepsRequests.trans (h₁ : KeepsRequests c c') (h₂ : KeepsRequests c' c'') :
    KeepsRequests c c'' :=
  ⟨h₂.sent.trans h₁.sent, h₂.settings.trans h₁.settings,
    h₂.configRequests.trans h₁.configRequests⟩

lemma KeepsRequests.killed (h : KeepsRequests c c') : c'.killed = c.killed := by
  simp only [Client.killed, h.settings]

lemma Reports.keepsRequests (h : Reports c c') : KeepsRequests c c' :=
  ⟨h.sent, h.settings, h.configRequests⟩

lemma keepsRequests_received (c : Client) (i : Nat) (r : WireResponse) :
    KeepsRequests c (c.received i r) := by
  unfold received
  split
  · split
    · exact ⟨rfl, rfl, rfl⟩
    · exact KeepsRequests.refl c
  · exact KeepsRequests.refl c

lemma keepsRequests_conclude (c : Client) (i : Nat) (o : Except CallError WireResponse) :
    KeepsRequests c (c.conclude i o) := by
  cases o with
  | ok r => exact keepsRequests_received c i r
  | error e => exact (reports_failed c i e).keepsRequests

/-! ### Sending -/

/-- Sending a request records it once, with the keys and the session given, unless the kill
switch is on; what the link then does with it sends nothing more. -/
lemma keepsRequests_send (c : Client) (keys : List SlotKey) (session : Nat) :
    KeepsRequests (if c.killed then c else { c with sent := c.sent.push (Sent.mk keys
      (BidRequest.make c.publisher c.sdkVersion c.profileId keys c.fresh).1 session) })
      (c.send keys session) := by
  unfold send
  split
  · exact KeepsRequests.refl c
  · dsimp only
    split
    · exact ⟨rfl, rfl, rfl⟩
    · refine KeepsRequests.trans ?_ (keepsRequests_conclude _ _ _)
      refine KeepsRequests.trans ?_ (reports_started _ _).keepsRequests
      exact ⟨rfl, rfl, rfl⟩
    · exact ⟨rfl, rfl, rfl⟩

lemma sent_send (c : Client) (keys : List SlotKey) (session : Nat) :
    (c.send keys session).sent = if c.killed then c.sent else c.sent.push
      ⟨keys, (BidRequest.make c.publisher c.sdkVersion c.profileId keys c.fresh).1, session⟩ := by
  rw [(keepsRequests_send c keys session).sent]
  split <;> rfl

/-- Sending from a client that has sent what `c` has, with `c`'s settings. -/
lemma sent_send_of_keeps (h : KeepsRequests c c') (keys : List SlotKey) (session : Nat) :
    (c'.send keys session).sent = if c.killed then c.sent else c.sent.push
      ⟨keys, (BidRequest.make c'.publisher c'.sdkVersion c'.profileId keys c'.fresh).1, session⟩ := by
  rw [sent_send, h.killed, h.sent]

/-! ### Gets -/

/-- Up to the sending of its refill, a get sends nothing and keeps the settings. -/
lemma keepsRequests_lookup (c : Client) (unit : Option AdUnit) :
    KeepsRequests c { (if c.killed = true then c else c.noteUnmapped unit) with
      bidder := (c.bidder.lookup c.killed c.clock unit).bidder } := by
  split
  · exact ⟨rfl, rfl, rfl⟩
  · have hnote := reports_noteUnmapped c unit
    exact ⟨hnote.sent, hnote.settings, hnote.configRequests⟩

/-- A get whose lookup asks for keys records one request for them, in the session asked. -/
lemma sent_get_of_refill {u : AdUnit} {keys : List SlotKey} {session : Nat}
    (h : (c.bidder.lookup c.killed c.clock (some u)).refill = some (keys, session)) :
    ∃ req, (c.get (some u)).2.sent = c.sent.push ⟨keys, req, session⟩ := by
  have hlive : c.killed = false := (Bidder.refill_eq_some_iff.mp h).1
  have hpre := keepsRequests_lookup c (some u)
  unfold get
  dsimp only
  split
  · rename_i keys' session' hrefill
    obtain ⟨rfl, rfl⟩ := Prod.mk.inj (Option.some.inj (h.symm.trans hrefill))
    -- the consumed bid, if any, is reported before the request is sent
    split
    · rw [sent_send_of_keeps (hpre.trans (reports_emit _ _).keepsRequests), hlive,
        if_neg Bool.false_ne_true]
      exact ⟨_, rfl⟩
    · rw [sent_send_of_keeps hpre, hlive, if_neg Bool.false_ne_true]
      exact ⟨_, rfl⟩
  · rename_i hnone
    cases h.symm.trans hnone

/-- A get whose lookup asks for nothing sends nothing. -/
lemma sent_get_of_no_refill {u : AdUnit}
    (h : (c.bidder.lookup c.killed c.clock (some u)).refill = none) :
    (c.get (some u)).2.sent = c.sent := by
  have hpre := keepsRequests_lookup c (some u)
  unfold get
  dsimp only
  split
  · rename_i hrefill
    cases h.symm.trans hrefill
  · split
    · exact (hpre.trans (reports_emit _ _).keepsRequests).sent
    · exact hpre.sent

/-! ### Responses -/

/-- A response to request `i` is a delivery, at the clock, to the request's session. -/
lemma bidder_received {i : Nat} {s : Sent} (h : c.sent[i]? = some s) (r : WireResponse) :
    (c.received i r).bidder = c.bidder.apply (.deliver s.session c.clock r) := by
  unfold received
  rw [h]
  dsimp only
  cases hb : c.bidder.receive s.session c.clock r with
  | none => simp [Bidder.apply, hb]
  | some b => simp [Bidder.apply, hb, emit]

/-- A failed request leaves the bidder, and so the back-off, alone. -/
lemma bidder_failed (c : Client) (i : Nat) (e : CallError) : (c.failed i e).bidder = c.bidder := by
  unfold failed
  split
  · split <;> rfl
  · rfl

/-! ### Prefetches -/

/-- Tracing the units without a key changes the trace only. -/
lemma foldl_noteIgnored (units : List AdUnit) (c : Client) :
    ∃ tr, units.foldl (fun c u =>
      if (c.bidder.screen.keyOf? u).isSome then c else c.note (ignoredUnit u)) c =
        { c with trace := tr } := by
  induction units generalizing c with
  | nil => exact ⟨c.trace, rfl⟩
  | cons u rest ih =>
    simp only [List.foldl_cons]
    split
    · exact ih c
    · obtain ⟨tr, htr⟩ := ih (c.note (ignoredUnit u))
      exact ⟨tr, htr⟩

/-- Asking for the configuration does not read the trace. -/
lemma requestConfig_withTrace (c : Client) (tr : Array TraceLine) :
    ∃ tr', ({ c with trace := tr } : Client).requestConfig = { c.requestConfig with trace := tr' } := by
  rcases c with ⟨bidder, settings, tokens, clock, fresh, publisher, sdkVersion, profileId, sent,
    configRequests, cancels, events, trace, log, configReply, link⟩
  cases link <;> cases configReply <;> exact ⟨_, rfl⟩

lemma keepsRequests_requestConfig_bidder (c : Client) :
    c.requestConfig.sent = c.sent ∧ c.requestConfig.configRequests = c.configRequests + 1 ∧
      c.requestConfig.bidder = c.bidder := by
  unfold requestConfig
  dsimp only
  split
  · exact ⟨rfl, rfl, rfl⟩
  · split
    · exact ⟨rfl, rfl, rfl⟩
    · exact ⟨rfl, rfl, rfl⟩

/-- Sending chunks of keys in a session records one request per chunk, in order, unless the
kill switch is on, which sending does not turn. -/
lemma foldl_send (chunks : List (List SlotKey)) (session : Nat) (c : Client) :
    let c' := chunks.foldl (fun c keys => c.send keys session) c
    c'.settings = c.settings ∧ c'.configRequests = c.configRequests ∧
      ∃ new, c'.sent.toList = c.sent.toList ++ new ∧
        new.map (fun s => (s.keys, s.session)) =
          if c.killed then [] else chunks.map (·, session) := by
  induction chunks generalizing c with
  | nil => simp
  | cons keys rest ih =>
    have hsend := keepsRequests_send c keys session
    obtain ⟨hsettings, hconfig, new, hsent, hnew⟩ := ih (c.send keys session)
    have hkilled : (c.send keys session).killed = c.killed := by
      rw [hsend.killed]
      split <;> rfl
    refine ⟨?_, ?_, ?_⟩
    · rw [List.foldl_cons, hsettings, hsend.settings]
      split <;> rfl
    · rw [List.foldl_cons, hconfig, hsend.configRequests]
      split <;> rfl
    · rw [hkilled] at hnew
      rw [sent_send] at hsent
      by_cases hk : c.killed
      · rw [if_pos hk] at hsent hnew
        exact ⟨new, by rw [List.foldl_cons, hsent], by rw [if_pos hk, hnew]⟩
      · rw [if_neg hk] at hsent hnew
        refine ⟨⟨keys, (BidRequest.make c.publisher c.sdkVersion c.profileId keys c.fresh).1,
          session⟩ :: new, by rw [List.foldl_cons, hsent]; simp, ?_⟩
        rw [if_neg hk, List.map_cons, hnew, List.map_cons]

/-- A prefetch asks for the configuration once, then records one request per chunk of the units'
keys, in order and in the current session, unless the kill switch is on once the configuration
has been asked for. -/
lemma prefetch_sent (c : Client) (units : List AdUnit) :
    (c.prefetch units).configRequests = c.configRequests + 1 ∧
      ∃ new, (c.prefetch units).sent.toList = c.sent.toList ++ new ∧
        new.map (fun s => (s.keys, s.session)) =
          if c.requestConfig.killed then []
          else (c.bidder.screen.chunks units).map (·, c.bidder.session) := by
  obtain ⟨tr, hnotes⟩ := foldl_noteIgnored units c
  obtain ⟨tr', hconfig⟩ := requestConfig_withTrace c tr
  obtain ⟨hsent, hcount, hbidder⟩ := keepsRequests_requestConfig_bidder c
  unfold prefetch
  simp only
  rw [hnotes, hconfig]
  obtain ⟨-, hcount', new, hnew, hcalls⟩ := foldl_send (c.bidder.screen.chunks units)
    c.requestConfig.bidder.session { c.requestConfig with trace := tr' }
  refine ⟨hcount'.trans hcount, new, hnew.trans (by rw [hsent]), ?_⟩
  rw [hcalls, hbidder]
  rfl

end Client

/-- A get sends one request, for its unit's key, exactly when bidding is live, the key holds no
unexpired silent bid and the back-off allows it; a prefetch sends one per chunk, whatever the back-off. -/
theorem refills_follow_the_backoff :
    (∀ (c : Client) (u : AdUnit),
      ((c.get (some u)).2.sent = c.sent ∨
        ∃ k req, c.bidder.screen.keyOf? u = some k ∧
          (c.get (some u)).2.sent = c.sent.push ⟨[k], req, c.bidder.session⟩) ∧
      ((∃ k req, c.bidder.screen.keyOf? u = some k ∧
          (c.get (some u)).2.sent = c.sent.push ⟨[k], req, c.bidder.session⟩) ↔
        c.killed = false ∧ ∃ k, c.bidder.screen.keyOf? u = some k ∧
          (∀ s, c.bidder.cache.peek? k = some s →
            ¬(s.classify = .silent ∧ s.isExpired c.clock = false)) ∧
          c.bidder.nextCallNotBefore ≤ c.clock)) ∧
    (∀ (b : Bidder) (e : Bidder.Event), (b.apply e).nextCallNotBefore =
      match e with
      | .deliver session now r =>
        if session = b.session ∧ 0 < r.timeToNextCall then
          satAdd now (satMul r.timeToNextCall 1000)
        else b.nextCallNotBefore
      | _ => b.nextCallNotBefore) ∧
    (∀ (c : Client) (steps : List Step), ∃ evs, c.bidder.run evs = (c.runAll steps).2.bidder) ∧
    (∀ (c : Client) (i : Nat) (s : Sent) (r : WireResponse), c.sent[i]? = some s →
      (c.received i r).bidder.nextCallNotBefore =
        if s.session = c.bidder.session ∧ 0 < r.timeToNextCall then
          satAdd c.clock (satMul r.timeToNextCall 1000)
        else c.bidder.nextCallNotBefore) ∧
    (∀ (c : Client) (i : Nat) (e : CallError), (c.failed i e).bidder = c.bidder) ∧
    (∀ (c : Client) (units : List AdUnit),
      (c.prefetch units).configRequests = c.configRequests + 1 ∧
      ∃ new, (c.prefetch units).sent.toList = c.sent.toList ++ new ∧
        new.map (fun s => (s.keys, s.session)) =
          if c.requestConfig.killed then []
          else (c.bidder.screen.chunks units).map (·, c.bidder.session)) := by
  refine ⟨fun c u => ?_, Bidder.nextCallNotBefore_apply,
    fun c steps => (Client.moves_runAll c steps).run,
    fun c i s r h => by rw [Client.bidder_received h, Bidder.nextCallNotBefore_apply],
    Client.bidder_failed, Client.prefetch_sent⟩
  -- the get sends what its lookup asks for
  cases hrefill : (c.bidder.lookup c.killed c.clock (some u)).refill with
  | none =>
    have hsame := Client.sent_get_of_no_refill hrefill
    refine ⟨.inl hsame, ⟨?_, ?_⟩⟩
    · rintro ⟨k, req, -, hpush⟩
      have hsize := congrArg Array.size (hpush.symm.trans hsame)
      rw [Array.size_push] at hsize
      omega
    · rintro ⟨hlive, k, hk, hnot, hcall⟩
      have hasks := Bidder.refill_eq_some_iff.mpr ⟨hlive, k, hk, hnot, hcall, rfl⟩
      rw [hrefill] at hasks
      cases hasks
  | some x =>
    obtain ⟨hlive, k, hk, hnot, hcall, rfl⟩ := Bidder.refill_eq_some_iff.mp hrefill
    obtain ⟨req, hpush⟩ := Client.sent_get_of_refill hrefill
    exact ⟨.inr ⟨k, req, hk, hpush⟩, fun _ => ⟨hlive, k, hk, hnot, hcall⟩,
      fun _ => ⟨k, req, hk, hpush⟩⟩

/-- On a new client a get for a banner asks for its key in session `0`; with the back-off set
past the clock the same get sends nothing; and a response asking for a thirty-second pause sets
the back-off to thirty seconds after the clock. -/
theorem refills_follow_the_backoff_on_a_new_client :
    (∃ k req, Screen.standard.keyOf? (.banner "b" ⟨300, 250⟩) = some k ∧
      ((Client.new Screen.standard Settings.volatile .singleUse 0 none none .held).get
        (some (.banner "b" ⟨300, 250⟩))).2.sent = #[].push ⟨[k], req, 0⟩) ∧
    ({ Client.new Screen.standard Settings.volatile .singleUse 0 none none .held with
        bidder := { Bidder.new Screen.standard with nextCallNotBefore := 30000 } }.get
        (some (.banner "b" ⟨300, 250⟩))).2.sent = #[] ∧
    ({ Client.new Screen.standard Settings.volatile .singleUse 0 none none .held with
        sent := #[⟨[⟨"b", ⟨300, 250⟩, .banner⟩], default, 0⟩] }.received 0
        ⟨[], 30⟩).bidder.nextCallNotBefore = 30000 := by
  obtain ⟨hget, -, -, hreceived, -, -⟩ := refills_follow_the_backoff
  have hkey : Screen.standard.keyOf? (.banner "b" ⟨300, 250⟩) =
      some ⟨"b", ⟨300, 250⟩, .banner⟩ := by
    decide +kernel
  refine ⟨?_, ?_, ?_⟩
  · exact (hget (Client.new Screen.standard Settings.volatile .singleUse 0 none none .held)
      (.banner "b" ⟨300, 250⟩)).2.mpr ⟨rfl, _, hkey, fun s hs => (by cases hs), Int.le_refl 0⟩
  · -- the back-off is past the clock, so the get asks for nothing
    have hsends := hget { Client.new Screen.standard Settings.volatile .singleUse 0 none none .held with
        bidder := { Bidder.new Screen.standard with nextCallNotBefore := 30000 } }
      (.banner "b" ⟨300, 250⟩)
    refine hsends.1.resolve_right fun hone => ?_
    obtain ⟨-, -, -, -, hcall⟩ := hsends.2.mp hone
    exact absurd hcall (by decide)
  · rw [hreceived _ 0 _ _ rfl]
    decide

end HeaderBidding
