import Mathlib.Tactic.Lemma
import HeaderBidding.Proofs.Client

/-!
# Sessions

Every request the client sends carries the session it was sent in, and the callbacks of a request
(its start, its response, its failure) count only while that session is the bidder's. A stop
ends the session.

* A callback of a request of an older session changes nothing at all, and one of the current
  session is carried out in full (`started_of_stale`, `received_of_live`, and the others).
* Hence leaving out, along a run, the steps that deliver a callback of an older session gives the
  same client (`runAll_liveSteps`).
* A request sent before a stop is of an older session from the stop on, whatever happens next
  (`stale_after_stop`): sessions only grow, and a request never carries a session later than the
  bidder's (`SentNoLater`).
-/

namespace HeaderBidding

namespace Client

/-! ### Callbacks of old and current sessions -/

section Callbacks

variable {c : Client} {i : Nat} {s : Sent}

lemma started_of_stale (h : c.sent[i]? = some s) (hs : s.session ≠ c.bidder.session) :
    c.started i = c := by
  simp [started, h, Bidder.isStale, hs]

lemma failed_of_stale (h : c.sent[i]? = some s) (hs : s.session ≠ c.bidder.session)
    (e : CallError) : c.failed i e = c := by
  simp [failed, h, Bidder.isStale, hs]

lemma received_of_stale (h : c.sent[i]? = some s) (hs : s.session ≠ c.bidder.session)
    (r : WireResponse) : c.received i r = c := by
  simp [received, h, Bidder.receive_of_ne hs]

lemma started_of_live (h : c.sent[i]? = some s) (hs : s.session = c.bidder.session) :
    c.started i = c.emit (.started s.request) := by
  simp [started, h, Bidder.isStale, hs]

lemma failed_of_live (h : c.sent[i]? = some s) (hs : s.session = c.bidder.session)
    (e : CallError) : c.failed i e = c.emit (.failed s.request e) := by
  simp [failed, h, Bidder.isStale, hs]

/-- A response of the current session puts the accepted bids under their keys, moves the
back-off, and is reported. -/
lemma received_of_live (h : c.sent[i]? = some s) (hs : s.session = c.bidder.session)
    (r : WireResponse) :
    c.received i r =
      ({ c with
        bidder := { c.bidder with
          cache := (Bidder.accepted c.clock r).foldl
            (fun cache bid => cache.upsert (c.bidder.screen.keyOfBid bid) bid) c.bidder.cache
          nextCallNotBefore := c.bidder.backoffAfter c.clock r } } : Client).emit
        (.finished s.request r) := by
  simp [received, h, hs, Bidder.receive_self]

lemma conclude_of_stale (h : c.sent[i]? = some s) (hs : s.session ≠ c.bidder.session)
    (o : Except CallError WireResponse) : c.conclude i o = c := by
  cases o with
  | ok r => exact received_of_stale h hs r
  | error e => exact failed_of_stale h hs e

lemma respond_of_stale (h : c.sent[i]? = some s) (hs : s.session ≠ c.bidder.session)
    (start : Bool) (status : Int) (body : String) : c.respond i start status body = c := by
  unfold respond
  cases start with
  | false => exact conclude_of_stale h hs _
  | true =>
    rw [if_pos rfl, started_of_stale h hs]
    exact conclude_of_stale h hs _

lemma fail_of_stale (h : c.sent[i]? = some s) (hs : s.session ≠ c.bidder.session)
    (start : Bool) (e : CallError) : c.fail i start e = c := by
  unfold fail
  cases start with
  | false => exact failed_of_stale h hs e
  | true =>
    rw [if_pos rfl, started_of_stale h hs]
    exact failed_of_stale h hs e

end Callbacks

end Client

/-! ### Leaving out callbacks of old sessions -/

/-- The request a step delivers a callback of, if it is a delivery. -/
def Step.delivery? : Step → Option Nat
  | .start i => some i
  | .respond i _ _ _ => some i
  | .fail i _ _ => some i
  | _ => none

namespace Client

/-- Whether a step delivers a callback of a request of an older session. -/
def isStaleDelivery (c : Client) (st : Step) : Bool :=
  match st.delivery? with
  | some i =>
    match c.sent[i]? with
    | some s => c.bidder.isStale s.session
    | none => false
  | none => false

lemma isStaleDelivery_eq_true_iff {c : Client} {st : Step} :
    c.isStaleDelivery st = true ↔
      ∃ i s, st.delivery? = some i ∧ c.sent[i]? = some s ∧ s.session ≠ c.bidder.session := by
  unfold isStaleDelivery
  constructor
  · intro h
    split at h
    · rename_i i hi
      split at h
      · rename_i s hs
        exact ⟨i, s, hi, hs, by simpa [Bidder.isStale] using h⟩
      · cases h
    · cases h
  · rintro ⟨i, s, hi, hs, hold⟩
    simp [hi, hs, Bidder.isStale, hold]

/-- A step that delivers a callback of an older session changes nothing. -/
lemma step_of_isStaleDelivery {c : Client} {st : Step} (h : c.isStaleDelivery st = true) :
    (c.step st).2 = c := by
  obtain ⟨i, s, hi, hs, hold⟩ := isStaleDelivery_eq_true_iff.mp h
  cases st with
  | start j =>
    cases hi
    exact started_of_stale hs hold
  | respond j start status body =>
    cases hi
    exact respond_of_stale hs hold start status body
  | fail j start e =>
    cases hi
    exact fail_of_stale hs hold start e
  | _ => cases hi

/-- The steps of a run less those that, when they come, deliver a callback of a request of an
older session. -/
def liveSteps (c : Client) : List Step → List Step
  | [] => []
  | st :: rest =>
    if c.isStaleDelivery st then c.liveSteps rest else st :: (c.step st).2.liveSteps rest

/-- Leaving out the callbacks of older sessions changes nothing: the client at the end, its
cache and back-off among the rest, is the same. -/
lemma runAll_liveSteps (c : Client) (steps : List Step) :
    (c.runAll (c.liveSteps steps)).2 = (c.runAll steps).2 := by
  induction steps generalizing c with
  | nil => rfl
  | cons st rest ih =>
    by_cases h : c.isStaleDelivery st = true
    · -- the step left out is one that changes nothing
      rw [liveSteps, if_pos h, ih, runAll_cons, step_of_isStaleDelivery h]
    · rw [liveSteps, if_neg h, runAll_cons, runAll_cons, ih]

/-! ### Requests sent before a stop -/

/-- Every request sent is of the bidder's session or an older one. -/
def SentNoLater (c : Client) : Prop :=
  ∀ s ∈ c.sent.toList, s.session ≤ c.bidder.session

variable {c c' : Client}

lemma sentNoLater_new (screen : Screen) (settings : Settings) (retention : Retention)
    (clock : Int) (log : Option RuntimeLog) (configReply : Option RemoteConfig) (link : Link) :
    (Client.new screen settings retention clock log configReply link).SentNoLater := by
  intro s hs
  simp [Client.new] at hs

/-- Requests stay in a session no later than the bidder's: old ones because sessions only grow,
new ones because they are sent in the bidder's session or an older one. -/
lemma Moves.sentNoLater (h : Moves c c') (hc : c.SentNoLater) : c'.SentNoLater := by
  obtain ⟨fresh, hsent, hfresh⟩ := h.sent
  intro s hs
  rw [hsent] at hs
  rcases List.mem_append.mp hs with hold | hnew
  · exact Nat.le_trans (hc s hold) h.session_le
  · exact hfresh s hnew

/-- A request once sent stays where it is. -/
lemma Moves.getElem?_sent (h : Moves c c') {i : Nat} {s : Sent} (hi : c.sent[i]? = some s) :
    c'.sent[i]? = some s := by
  obtain ⟨fresh, hsent, -⟩ := h.sent
  have hlt : i < c.sent.toList.length := by
    rw [Array.length_toList]
    exact (Array.getElem?_eq_some_iff.mp hi).1
  rw [← Array.getElem?_toList, hsent, List.getElem?_append_left hlt, Array.getElem?_toList]
  exact hi

/-- A request sent before a stop is of an older session from the stop on, whatever the client
does next. -/
lemma stale_after_stop (hc : c.SentNoLater) (h : Moves c.stop c') {i : Nat}
    (hi : i < c.sent.size) : ∃ s, c'.sent[i]? = some s ∧ c'.bidder.isStale s.session = true := by
  have hs : c.sent[i]? = some c.sent[i] := Array.getElem?_eq_getElem hi
  refine ⟨c.sent[i], h.getElem?_sent hs, ?_⟩
  -- the request's session is at most the bidder's before the stop, which the stop passes
  have hle : c.sent[i].session ≤ c.bidder.session := hc _ (Array.getElem_mem_toList hi)
  have hlt : c.bidder.session < c'.bidder.session := h.session_le
  simp only [Bidder.isStale, bne_iff_ne, ne_eq]
  omega

end Client

/-! ### Callbacks count only in their session -/

/-- Callbacks count only in their own session. A callback of a request of an older session (its
start, its response, its failure) changes nothing, the cache, back-off, session and reports among
the rest; one of the current session is carried out in full: its start and failure are reported,
and its response puts the accepted bids under their keys, moves the back-off and is reported.
Hence the client at the end of a run is the one of the run less the callbacks of older sessions.
In every run, a request sent before a stop is of an older session from the stop on, whatever
happens after it, further stops included. -/
theorem callbacks_count_only_in_their_session :
    (∀ (c : Client) (i : Nat) (s : Sent), c.sent[i]? = some s → s.session ≠ c.bidder.session →
      c.started i = c ∧ (∀ r, c.received i r = c) ∧ (∀ e, c.failed i e = c)) ∧
    (∀ (c : Client) (i : Nat) (s : Sent), c.sent[i]? = some s → s.session = c.bidder.session →
      c.started i = c.emit (.started s.request) ∧
      (∀ e, c.failed i e = c.emit (.failed s.request e)) ∧
      (∀ r, c.received i r =
        ({ c with
          bidder := { c.bidder with
            cache := (Bidder.accepted c.clock r).foldl
              (fun cache bid => cache.upsert (c.bidder.screen.keyOfBid bid) bid) c.bidder.cache
            nextCallNotBefore := c.bidder.backoffAfter c.clock r } } : Client).emit
          (.finished s.request r))) ∧
    (∀ (c : Client) (steps : List Step), (c.runAll (c.liveSteps steps)).2 = (c.runAll steps).2) ∧
    (∀ (screen : Screen) (settings : Settings) (retention : Retention) (clock : Int)
      (log : Option RuntimeLog) (configReply : Option RemoteConfig) (link : Link)
      (pre post : List Step) (i : Nat),
      i < ((Client.new screen settings retention clock log configReply link).runAll
        pre).2.sent.size →
      ∃ s, ((Client.new screen settings retention clock log configReply link).runAll
          (pre ++ .stop :: post)).2.sent[i]? = some s ∧
        ((Client.new screen settings retention clock log configReply link).runAll
          (pre ++ .stop :: post)).2.bidder.isStale s.session = true) := by
  refine ⟨fun c i s h hs => ?_, fun c i s h hs => ?_, Client.runAll_liveSteps, ?_⟩
  · exact ⟨Client.started_of_stale h hs, Client.received_of_stale h hs,
      Client.failed_of_stale h hs⟩
  · exact ⟨Client.started_of_live h hs, Client.failed_of_live h hs, Client.received_of_live h hs⟩
  · intro screen settings retention clock log configReply link pre post i hi
    -- the requests sent before the stop are those of the client the first steps lead to
    have hpre := (Client.moves_runAll _ pre).sentNoLater
      (Client.sentNoLater_new screen settings retention clock log configReply link)
    rw [Client.runAll_append, Client.runAll_cons]
    exact Client.stale_after_stop hpre (Client.moves_runAll _ post) hi

/-- A start, response or failure of a request of session `0` changes nothing once the bidder is in
session `1`; and on a client of the standard screen, the refill a first get sends is of an older
session after a stop. -/
theorem callbacks_count_only_in_their_session_after_stop :
    ({ Client.new Screen.standard Settings.volatile .singleUse 0 none none .held with
        sent := #[default], bidder := (Bidder.new Screen.standard).stop } : Client).started 0 =
      { Client.new Screen.standard Settings.volatile .singleUse 0 none none .held with
        sent := #[default], bidder := (Bidder.new Screen.standard).stop } ∧
    ({ Client.new Screen.standard Settings.volatile .singleUse 0 none none .held with
        sent := #[default] } : Client).started 0 =
      ({ Client.new Screen.standard Settings.volatile .singleUse 0 none none .held with
        sent := #[default] } : Client).emit (.started default) ∧
    ∃ s, ((Client.new Screen.standard Settings.volatile .singleUse 0 none none .held).runAll
        ([.get (some (.banner "b" ⟨300, 250⟩))] ++ [.stop])).2.sent[0]? = some s ∧
      ((Client.new Screen.standard Settings.volatile .singleUse 0 none none .held).runAll
        ([.get (some (.banner "b" ⟨300, 250⟩))] ++ [.stop])).2.bidder.isStale s.session = true := by
  obtain ⟨hstale, hlive, -, hstop⟩ := callbacks_count_only_in_their_session
  refine ⟨(hstale _ 0 default rfl (by decide)).1, (hlive _ 0 default rfl rfl).1, ?_⟩
  exact hstop Screen.standard Settings.volatile .singleUse 0 none none .held
    [.get (some (.banner "b" ⟨300, 250⟩))] [] 0 (by decide +kernel)

end HeaderBidding
