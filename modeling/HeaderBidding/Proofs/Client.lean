import Mathlib.Tactic.Lemma
import HeaderBidding.Proofs.Bidder
import HeaderBidding.Client.Script

/-!
# How the client moves its bidder

Every operation of the client, and so every step of a scripted session, changes the bidder only
by bidder events (`Bidder.Event`): lookups, responses, and stops. The requests the client has sent
stay as they were; new ones are appended, each carrying a session no later than the bidder's.
`Client.Moves` says both, and holds of every operation (`moves_step`) and every run of steps
(`moves_runAll`), however the link to the server answers.

Many operations only report what happens, by events, trace lines and log entries, and change
nothing else (`Client.Reports`): the starts and failures of requests among them
(`reports_started`, `reports_failed`). That is said once here, and what other relations need of
such operations follows from it.

What the bidder keeps along its runs then holds of the client: every run of steps keeps the
cache well formed (`wellCached_runAll`).
-/

namespace HeaderBidding

namespace Client

/-! ### Moves -/

/-- How one client may become another: its bidder moves by a run of bidder events, and the
requests it has sent stay, with the new ones appended, each in a session no later than the
bidder's at the end. -/
structure Moves (c c' : Client) : Prop where
  run : ∃ evs, c.bidder.run evs = c'.bidder
  sent : ∃ fresh, c'.sent.toList = c.sent.toList ++ fresh ∧
    ∀ s ∈ fresh, s.session ≤ c'.bidder.session

variable {c c' c'' : Client}

lemma Moves.refl (c : Client) : Moves c c :=
  ⟨⟨[], rfl⟩, ⟨[], by simp, by simp⟩⟩

lemma Moves.session_le (h : Moves c c') : c.bidder.session ≤ c'.bidder.session := by
  obtain ⟨evs, hrun⟩ := h.run
  rw [← hrun]
  exact Bidder.session_le_run _ _

lemma Moves.trans (h₁ : Moves c c') (h₂ : Moves c' c'') : Moves c c'' where
  run := by
    obtain ⟨evs₁, hrun₁⟩ := h₁.run
    obtain ⟨evs₂, hrun₂⟩ := h₂.run
    exact ⟨evs₁ ++ evs₂, by rw [Bidder.run_append, hrun₁, hrun₂]⟩
  sent := by
    obtain ⟨fresh₁, hsent₁, hfresh₁⟩ := h₁.sent
    obtain ⟨fresh₂, hsent₂, hfresh₂⟩ := h₂.sent
    refine ⟨fresh₁ ++ fresh₂, by rw [hsent₂, hsent₁, List.append_assoc], ?_⟩
    intro s hs
    rcases List.mem_append.mp hs with hs | hs
    · exact Nat.le_trans (hfresh₁ s hs) h₂.session_le
    · exact hfresh₂ s hs

/-- An operation that leaves the bidder and the sent requests as they are. -/
lemma Moves.of_eq (hb : c'.bidder = c.bidder) (hs : c'.sent = c.sent) : Moves c c' :=
  ⟨⟨[], by simp [hb]⟩, ⟨[], by simp [hs], by simp⟩⟩

/-- An operation that applies one bidder event and sends nothing. -/
lemma Moves.of_event (e : Bidder.Event) (hb : c'.bidder = c.bidder.apply e)
    (hs : c'.sent = c.sent) : Moves c c' :=
  ⟨⟨[e], by simp [hb]⟩, ⟨[], by simp [hs], by simp⟩⟩

/-- Moves along a fold, when each step moves. -/
lemma Moves.foldl {α : Type} (f : Client → α → Client) (hf : ∀ c a, Moves c (f c a))
    (l : List α) (c : Client) : Moves c (l.foldl f c) := by
  induction l generalizing c with
  | nil => exact Moves.refl c
  | cons a rest ih => exact (hf c a).trans (ih (f c a))

/-! ### Operations that only report -/

/-- An operation that only reports what happens, by events, trace lines and log entries: the
bidder, the settings, the tokens, the clock, the supply of identifiers, the requests sent and the
count of configuration requests stay as they were. -/
structure Reports (c c' : Client) : Prop where
  bidder : c'.bidder = c.bidder
  settings : c'.settings = c.settings
  tokens : c'.tokens = c.tokens
  clock : c'.clock = c.clock
  fresh : c'.fresh = c.fresh
  sent : c'.sent = c.sent
  configRequests : c'.configRequests = c.configRequests

lemma Reports.refl (c : Client) : Reports c c :=
  ⟨rfl, rfl, rfl, rfl, rfl, rfl, rfl⟩

lemma Reports.trans (h₁ : Reports c c') (h₂ : Reports c' c'') : Reports c c'' :=
  ⟨h₂.bidder.trans h₁.bidder, h₂.settings.trans h₁.settings, h₂.tokens.trans h₁.tokens,
    h₂.clock.trans h₁.clock, h₂.fresh.trans h₁.fresh, h₂.sent.trans h₁.sent,
    h₂.configRequests.trans h₁.configRequests⟩

lemma Reports.moves (h : Reports c c') : Moves c c' :=
  Moves.of_eq h.bidder h.sent

lemma reports_emit (c : Client) (e : Lifecycle) : Reports c (c.emit e) :=
  ⟨rfl, rfl, rfl, rfl, rfl, rfl, rfl⟩

lemma reports_note (c : Client) (t : TraceLine) : Reports c (c.note t) :=
  ⟨rfl, rfl, rfl, rfl, rfl, rfl, rfl⟩

lemma reports_yieldToLog (c : Client) : Reports c c.yieldToLog :=
  ⟨rfl, rfl, rfl, rfl, rfl, rfl, rfl⟩

lemma reports_logWaiting (c : Client) (level message : String) :
    Reports c (c.logWaiting level message) :=
  ⟨rfl, rfl, rfl, rfl, rfl, rfl, rfl⟩

/-- Tracing an ad unit without a key, or a missing one, only reports. -/
lemma reports_noteUnmapped (c : Client) (unit : Option AdUnit) :
    Reports c (c.noteUnmapped unit) := by
  unfold noteUnmapped
  split
  · exact reports_note c _
  · split
    · exact Reports.refl c
    · exact (reports_note c _).trans (reports_note _ _)

@[simp] lemma noteUnmapped_bidder (c : Client) (unit : Option AdUnit) :
    (c.noteUnmapped unit).bidder = c.bidder :=
  (reports_noteUnmapped c unit).bidder

@[simp] lemma noteUnmapped_sent (c : Client) (unit : Option AdUnit) :
    (c.noteUnmapped unit).sent = c.sent :=
  (reports_noteUnmapped c unit).sent

/-- The start of a request is reported, unless its session is over. -/
lemma reports_started (c : Client) (i : Nat) : Reports c (c.started i) := by
  unfold started
  split
  · split
    · exact Reports.refl c
    · exact reports_emit c _
  · exact Reports.refl c

/-- The failure of a request is reported, unless its session is over. -/
lemma reports_failed (c : Client) (i : Nat) (e : CallError) : Reports c (c.failed i e) := by
  unfold failed
  split
  · split
    · exact Reports.refl c
    · exact reports_emit c _
  · exact Reports.refl c

/-! ### Operations that leave the bidder alone -/

lemma moves_refreshConfig (c : Client) (u : RemoteConfig) : Moves c (c.refreshConfig u) :=
  Moves.of_eq rfl rfl

/-- Asking for the configuration leaves the bidder and the requests alone. -/
lemma moves_requestConfig (c : Client) : Moves c c.requestConfig := by
  unfold requestConfig
  dsimp only
  split
  · exact Moves.of_eq rfl rfl
  · split
    · exact Moves.of_eq rfl rfl
    · exact Moves.of_eq rfl rfl

/-! ### Responses and requests -/

/-- A response to request `i` is a delivery to the request's session. -/
lemma moves_received (c : Client) (i : Nat) (r : WireResponse) : Moves c (c.received i r) := by
  unfold received
  split
  · rename_i s _
    split
    · rename_i b hb
      have happly : c.bidder.apply (.deliver s.session c.clock r) = b := by
        simp [Bidder.apply, hb]
      exact Moves.of_event (.deliver s.session c.clock r) happly.symm rfl
    · exact Moves.refl c
  · exact Moves.refl c

lemma moves_conclude (c : Client) (i : Nat) (o : Except CallError WireResponse) :
    Moves c (c.conclude i o) := by
  cases o with
  | ok r => exact moves_received c i r
  | error e => exact (reports_failed c i e).moves

/-- Recording a request in a session no later than the bidder's. -/
lemma moves_record (c : Client) (x : Sent) (fresh : Token.Fresh) (h : x.session ≤ c.bidder.session) :
    Moves c { c with fresh, sent := c.sent.push x } :=
  ⟨⟨[], rfl⟩, ⟨[x], by simp, by simpa using h⟩⟩

/-- Sending a request records it in the session given; a link that answers at once delivers the
answer too. -/
lemma moves_send (c : Client) (keys : List SlotKey) (session : Nat)
    (h : session ≤ c.bidder.session) : Moves c (c.send keys session) := by
  unfold send
  split
  · exact Moves.refl c
  · dsimp only
    have hrecord := moves_record c ⟨keys, (BidRequest.make c.publisher c.sdkVersion c.profileId
      keys c.fresh).1, session⟩ (BidRequest.make c.publisher c.sdkVersion c.profileId keys c.fresh).2 h
    split
    · exact hrecord
    · exact hrecord.trans ((reports_started _ _).moves.trans (moves_conclude _ _ _))
    · exact hrecord.trans (Moves.of_eq rfl rfl)

/-- A lookup asks for a refill only in the bidder's own session. -/
lemma session_of_refill {b : Bidder} {killed : Bool} {now : Int} {unit : Option AdUnit}
    {keys : List SlotKey} {session : Nat}
    (h : (b.lookup killed now unit).refill = some (keys, session)) : session = b.session := by
  unfold Bidder.lookup at h
  split at h
  · simp at h
  · split at h
    · simp at h
    · rename_i key _
      have hrefill : ∀ {x}, b.refillFor key now = some x → x.2 = b.session := by
        intro x hx
        unfold Bidder.refillFor at hx
        split at hx
        · cases hx; rfl
        · simp at hx
      split at h
      · exact hrefill h
      · split at h
        · simp at h
        · exact hrefill h

/-! ### The app's operations -/

lemma moves_get (c : Client) (unit : Option AdUnit) : Moves c (c.get unit).2 := by
  -- the lookup is one bidder event, in the bidder's session
  have hlookup : Moves c { (if c.killed = true then c else c.noteUnmapped unit) with
      bidder := (c.bidder.lookup c.killed c.clock unit).bidder } := by
    refine Moves.of_event (.lookup c.killed c.clock unit) rfl ?_
    split
    · rfl
    · exact noteUnmapped_sent c unit
  have hsession : (c.bidder.lookup c.killed c.clock unit).bidder.session = c.bidder.session := by
    simpa [Bidder.apply, Bidder.Event.isStop] using
      Bidder.session_apply c.bidder (.lookup c.killed c.clock unit)
  unfold get
  dsimp only
  -- then what it consumed is reported, and the refill it asks for is sent
  split
  · rename_i keys session hrefill
    have hs : session ≤ (c.bidder.lookup c.killed c.clock unit).bidder.session :=
      Nat.le_of_eq (by rw [hsession, session_of_refill hrefill])
    split
    · exact (hlookup.trans (reports_emit _ _).moves).trans (moves_send _ _ _ hs)
    · exact hlookup.trans (moves_send _ _ _ hs)
  · split
    · exact hlookup.trans (reports_emit _ _).moves
    · exact hlookup

/-- Asking ahead of time sends the chunks in the session current after the configuration was
asked for; later answers of the link do not move that session back. -/
lemma moves_prefetch (c : Client) (units : List AdUnit) : Moves c (c.prefetch units) := by
  unfold prefetch
  simp only
  have hnotes : ∀ (l : List AdUnit) (c : Client), Moves c (l.foldl (fun c u =>
      if (c.bidder.screen.keyOf? u).isSome then c else c.note (ignoredUnit u)) c) :=
    Moves.foldl _ fun c u => by
      split
      · exact Moves.refl c
      · exact (reports_note c _).moves
  have hsends : ∀ (chunks : List (List SlotKey)) (session : Nat) (c : Client),
      session ≤ c.bidder.session →
        Moves c (chunks.foldl (fun c keys => c.send keys session) c) := by
    intro chunks session
    induction chunks with
    | nil => intro c _; exact Moves.refl c
    | cons keys rest ih =>
      intro c hs
      have hsend := moves_send c keys session hs
      exact hsend.trans (ih _ (Nat.le_trans hs hsend.session_le))
  refine (hnotes units c).trans ((moves_requestConfig _).trans ?_)
  exact hsends _ _ _ (Nat.le_refl _)

lemma moves_stop (c : Client) : Moves c c.stop :=
  Moves.of_event .stop rfl rfl

lemma moves_respond (c : Client) (i : Nat) (start : Bool) (status : Int) (body : String) :
    Moves c (c.respond i start status body) := by
  unfold respond
  refine (?_ : Moves c (if start = true then c.started i else c)).trans (moves_conclude _ _ _)
  split
  · exact (reports_started c i).moves
  · exact Moves.refl c

lemma moves_fail (c : Client) (i : Nat) (start : Bool) (e : CallError) :
    Moves c (c.fail i start e) := by
  unfold fail
  refine (?_ : Moves c (if start = true then c.started i else c)).trans (reports_failed _ _ _).moves
  split
  · exact (reports_started c i).moves
  · exact Moves.refl c

lemma moves_runCall (c : Client) (call : Call) : Moves c (c.runCall call) := by
  unfold runCall
  split
  · split
    · split
      · -- the log's writer runs around the call's start and its end
        exact ((reports_yieldToLog c).trans ((reports_started _ _).trans
          (reports_yieldToLog _))).moves.trans (moves_conclude _ _ _)
      · exact Moves.refl c
    · split
      · exact moves_refreshConfig c _
      · exact (reports_note c _).moves
  · exact Moves.refl c

lemma moves_wait (c : Client) : Moves c c.wait := by
  unfold wait
  split
  · exact (Moves.foldl _ moves_runCall _ c).trans (Moves.of_eq rfl rfl)
  · exact (reports_yieldToLog c).moves

lemma moves_inhouseBid (c : Client) (unit : Option AdUnit) : Moves c (c.inhouseBid unit).2 := by
  unfold inhouseBid
  split
  · exact Moves.refl c
  · rename_i u
    have hget := moves_get c (some u)
    rcases hc : c.get (some u) with ⟨_ | b, c'⟩
    · rw [hc] at hget
      exact hget
    · -- a token is handed out, which the bidder does not see
      rw [hc] at hget
      exact hget.trans (Moves.of_eq rfl rfl)

lemma moves_tokenValue (c : Client) (token : Option Token.Uuid) (format : Format) :
    Moves c (c.tokenValue token format).2 :=
  Moves.of_eq rfl rfl

lemma displayUrl_snd (c : Client) (token : Option Token.Uuid) (format : Format) :
    (c.displayUrl token format).2 = (c.tokenValue token format).2 := by
  unfold displayUrl
  rcases c.tokenValue token format with ⟨v, c'⟩
  dsimp only
  split <;> rfl

lemma nativeValue_snd (c : Client) (token : Option Token.Uuid) :
    (c.nativeValue token).2 = (c.tokenValue token .native).2 := by
  unfold nativeValue
  rcases c.tokenValue token .native with ⟨v, c'⟩
  dsimp only
  split <;> rfl

/-- Routing a request moves the client as the route that answers does. -/
lemma moves_dispatch (routes : List (Http.Route Client))
    (hroutes : ∀ route ∈ routes, ∀ req c, Moves c (route.handle req c).2)
    (req : Http.Request) (c : Client) : Moves c (Http.dispatch routes req c).2 := by
  have honPath : ∀ route ∈ routes.filter (·.path == req.path), ∀ req c,
      Moves c (route.handle req c).2 :=
    fun route h => hroutes route (List.mem_filter.mp h).1
  unfold Http.dispatch
  dsimp only
  split
  · rename_i route hfound
    exact honPath route (List.mem_of_find?_eq_some hfound) req c
  · split
    · rename_i hfound
      exact (Moves.of_eq rfl rfl).trans
        (honPath _ (List.mem_of_find?_eq_some hfound) _ c)
    · exact Moves.refl c

lemma moves_serveBid (c : Client) (req : Http.Request) : Moves c (serveBid req c).2 := by
  unfold serveBid
  split
  · exact Moves.refl c
  · rename_i j _
    dsimp only
    have hbid := moves_inhouseBid c (some (AdUnit.ofJson j))
    rcases hc : c.inhouseBid (some (AdUnit.ofJson j)) with ⟨reply, c'⟩
    rw [hc] at hbid
    -- the auction, then a wait for the log to take its note
    exact hbid.trans (reports_logWaiting _ _ _).moves

lemma moves_serveToken (c : Client) (req : Http.Request) : Moves c (serveToken req c).2 := by
  unfold serveToken
  split
  · exact Moves.refl c
  · rename_i j _
    dsimp only
    have htoken := moves_tokenValue c (some (TokenQuery.ofJson j).token) (TokenQuery.ofJson j).format
    rcases hc : c.tokenValue (some (TokenQuery.ofJson j).token) (TokenQuery.ofJson j).format
      with ⟨_ | v, c'⟩
    · -- a token that gives nothing is noted in the log
      rw [hc] at htoken
      exact htoken.trans (reports_logWaiting _ _ _).moves
    · rw [hc] at htoken
      exact htoken

lemma moves_serve (c : Client) (req : Http.Request) : Moves c (c.serve req).2 := by
  refine moves_dispatch routes ?_ req c
  intro route hroute req c
  simp only [routes, List.mem_cons, List.not_mem_nil, or_false] at hroute
  rcases hroute with rfl | rfl
  · exact moves_serveBid c req
  · exact moves_serveToken c req

/-! ### Steps and runs -/

/-- A request to the service leaves the client as the service does. Stated apart because
unifying the two sides directly evaluates the routing on the request's path. -/
lemma step_http_snd (c : Client) (req : Http.Request) : (c.step (.http req)).2 = (c.serve req).2 := by
  rw [step]

/-- Every step of a session moves the client. -/
lemma moves_step (c : Client) (st : Step) : Moves c (c.step st).2 := by
  cases st with
  | get unit => exact moves_get c unit
  | prefetch units => exact moves_prefetch c units
  | stop => exact moves_stop c
  | start i => exact (reports_started c i).moves
  | respond i start status body => exact moves_respond c i start status body
  | fail i start e => exact moves_fail c i start e
  | inhouseBid unit => exact moves_inhouseBid c unit
  | tokenValue token format => exact moves_tokenValue c token format
  | displayUrl token format =>
    show Moves c (c.displayUrl token format).2
    rw [displayUrl_snd]
    exact moves_tokenValue c token format
  | nativeValue token =>
    show Moves c (c.nativeValue token).2
    rw [nativeValue_snd]
    exact moves_tokenValue c token .native
  | http req =>
    rw [step_http_snd]
    exact moves_serve c req
  | wait => exact moves_wait c
  | setClock _ | advance _ | killSwitch _ | refreshConfig _ | remoteConfig | mapperMap _
  | pending => exact Moves.of_eq rfl rfl

@[simp] lemma runAll_nil (c : Client) : (c.runAll []).2 = c := rfl

@[simp] lemma runAll_cons (c : Client) (st : Step) (rest : List Step) :
    (c.runAll (st :: rest)).2 = ((c.step st).2.runAll rest).2 := rfl

lemma runAll_append (c : Client) (steps steps' : List Step) :
    (c.runAll (steps ++ steps')).2 = ((c.runAll steps).2.runAll steps').2 := by
  induction steps generalizing c with
  | nil => rfl
  | cons st rest ih => exact ih _

/-- Every run of steps moves the client. -/
lemma moves_runAll (c : Client) (steps : List Step) : Moves c (c.runAll steps).2 := by
  induction steps generalizing c with
  | nil => exact Moves.refl c
  | cons st rest ih => exact (moves_step c st).trans (ih _)

/-! ### The cache along runs -/

/-- Whatever the steps, a client whose cache is well formed keeps it well formed. -/
lemma wellCached_runAll {c : Client} (hc : c.bidder.WellCached) (steps : List Step) :
    (c.runAll steps).2.bidder.WellCached := by
  obtain ⟨evs, hrun⟩ := (moves_runAll c steps).run
  rw [← hrun]
  exact hc.run evs

end Client

/-- A response of the current session leaves every key with the last slot of the response that
reads, passes the checks and has that key, promoted and stamped with the time of arrival, or with
what the key held when no such slot has it. Whatever steps a client takes from its start, every
cached bid passes the checks, has a positive lifetime and sits under the key the screen gives
it. -/
theorem responses_update_cache_by_key :
    (∀ (b : Bidder) (now : Int) (r : WireResponse),
      ∃ b', b.receive b.session now r = some b' ∧ ∀ k,
        b'.cache.peek? k =
          (((Bidder.accepted now r).filter fun bid => b.screen.keyOfBid bid = k).getLast?).or
            (b.cache.peek? k)) ∧
    (∀ (now : Int) (w : WireSlot) (bid : Bid), Bidder.accept now w = some bid ↔
      ∃ b, Bid.ofWire w = .ok b ∧ b.validate = .ok () ∧
        bid = { b.promote with downloadedAt := now }) ∧
    (∀ (screen : Screen) (settings : Settings) (retention : Retention) (clock : Int)
      (log : Option RuntimeLog) (configReply : Option RemoteConfig) (link : Link)
      (steps : List Step),
      ((Client.new screen settings retention clock log configReply link).runAll
        steps).2.bidder.WellCached) := by
  refine ⟨fun b now r => ?_, fun now w bid => Bidder.accept_eq_some_iff, ?_⟩
  · refine ⟨_, Bidder.receive_self b now r, fun k => ?_⟩
    have hpeek := Bidder.peek?_receive b now r k
    rw [Bidder.receive_self, Option.getD_some] at hpeek
    exact hpeek
  · intro screen settings retention clock log configReply link steps
    exact Client.wellCached_runAll (Bidder.wellCached_new screen) steps

end HeaderBidding
