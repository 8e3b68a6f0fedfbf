import Mathlib.Tactic.Lemma
import HeaderBidding.Proofs.Cache
import HeaderBidding.Proofs.Slot

/-!
# Runs of the bidder

Three things happen to a bidder: the app looks an ad unit up, a response arrives for a request
of some session, or the session ends. A `Bidder.Event` names one of them, `Bidder.apply` carries
it out, and `Bidder.run` carries out a list of them in order. A response of an older session
leaves the bidder as it is.

What each event does is said once, in a spec lemma that later proofs cite instead of unfolding
the event:

* a lookup of a key takes the cached bid out unless it is a silent bid that has not expired
  (`lookup_of_key`), and touches no other field;
* a response of the current session puts each accepted bid under its own key, the last one for a
  key winning, and leaves the other keys alone (`peek?_receive`).

From these, by induction over runs: every cached bid passes the checks, has a positive lifetime
and sits under its own key (`WellCached.run`), and the bids shown for a key are, in order, a
sublist of the bids cached under it (`shownAlong_sublist`).
-/

namespace HeaderBidding

open scoped List

namespace Bidder

/-! ### Events and runs -/

/-- What can happen to a bidder: an ad unit is looked up with the kill switch `killed` and the
clock at `now`; a response arrives at `now` for a request of `session`; the session ends. -/
inductive Event where
  | lookup (killed : Bool) (now : Int) (unit : Option AdUnit)
  | deliver (session : Nat) (now : Int) (response : WireResponse)
  | stop

/-- Whether an event ends the session. -/
def Event.isStop : Event → Bool
  | .stop => true
  | _ => false

/-- The bidder after an event; a response of an older session changes nothing. -/
def apply (b : Bidder) : Event → Bidder
  | .lookup killed now unit => (b.lookup killed now unit).bidder
  | .deliver session now r => (b.receive session now r).getD b
  | .stop => b.stop

/-- The bidder after events, in order. -/
def run (b : Bidder) (evs : List Event) : Bidder :=
  evs.foldl apply b

@[simp] lemma run_nil (b : Bidder) : b.run [] = b := rfl

@[simp] lemma run_cons (b : Bidder) (e : Event) (evs : List Event) :
    b.run (e :: evs) = (b.apply e).run evs := rfl

lemma run_append (b : Bidder) (evs evs' : List Event) :
    b.run (evs ++ evs') = (b.run evs).run evs' := by
  simp [run, List.foldl_append]

/-! ### Looking ad units up -/

/-- The bid a lookup of `k` at `now` takes out of the cache: the cached bid, unless it is a
silent bid that has not expired. -/
def taken? (b : Bidder) (now : Int) (k : SlotKey) : Option Bid :=
  (b.cache.peek? k).filter fun bid => !decide (bid.classify = .silent ∧ bid.isExpired now = false)

lemma lookup_of_killed (b : Bidder) (now : Int) (unit : Option AdUnit) :
    b.lookup true now unit = ⟨none, none, none, b⟩ := rfl

lemma lookup_of_unmapped {b : Bidder} {killed : Bool} {now : Int} {unit : Option AdUnit}
    (h : unit.bind b.screen.keyOf? = none) :
    b.lookup killed now unit = ⟨none, none, none, b⟩ := by
  cases killed <;> simp [lookup, h]

/-- A lookup of an ad unit with key `k`: it consumes the bid it takes, takes it out of the cache
and nothing else, and shows it if it is a valid bid that has not expired. -/
lemma lookup_of_key {b : Bidder} {unit : Option AdUnit} {k : SlotKey}
    (h : unit.bind b.screen.keyOf? = some k) (now : Int) :
    (b.lookup false now unit).consumed = (b.taken? now k).map (k, ·) ∧
    (b.lookup false now unit).bidder =
      (if (b.taken? now k).isSome then { b with cache := (b.cache.remove k).2 } else b) ∧
    (b.lookup false now unit).shown =
      (b.cache.peek? k).filter fun bid => decide (bid.classify = .valid ∧ bid.isExpired now = false) := by
  simp only [lookup, h, taken?, Bool.false_eq_true, if_false]
  split
  · rename_i hp
    simp [hp]
  · rename_i bid hp
    by_cases hs : bid.classify = .silent ∧ bid.isExpired now = false
    · -- an unexpired silent bid is kept, and being silent it is not shown either
      simp [hp, hs, Option.filter_some]
    · simp [hp, hs, Option.filter_some]

/-- A lookup changes the cache only, by taking out at most one key, that of the ad unit. -/
lemma lookup_bidder_cases (b : Bidder) (killed : Bool) (now : Int) (unit : Option AdUnit) :
    (b.lookup killed now unit).bidder = b ∨
      ∃ k, unit.bind b.screen.keyOf? = some k ∧
        (b.lookup killed now unit).bidder = { b with cache := (b.cache.remove k).2 } := by
  cases killed with
  | true => exact Or.inl rfl
  | false =>
    cases hkey : unit.bind b.screen.keyOf? with
    | none => exact Or.inl (by rw [lookup_of_unmapped hkey])
    | some k =>
      rw [(lookup_of_key hkey now).2.1]
      split
      · exact Or.inr ⟨k, rfl, rfl⟩
      · exact Or.inl rfl

/-! ### Taking in responses -/

/-- The bids a response gives at `now`: the slots that read and pass the checks, promoted and
stamped, in order. -/
def accepted (now : Int) (r : WireResponse) : List Bid :=
  r.slots.filterMap (accept now)

/-- The earliest time of the next call after a response at `now`: moved by a positive pause,
kept otherwise. -/
def backoffAfter (b : Bidder) (now : Int) (r : WireResponse) : Int :=
  if r.timeToNextCall > 0 then satAdd now (satMul r.timeToNextCall 1000) else b.nextCallNotBefore

lemma receive_of_ne {b : Bidder} {session : Nat} (h : session ≠ b.session) (now : Int)
    (r : WireResponse) : b.receive session now r = none := by
  simp [receive, h]

/-- A response of the current session puts the accepted bids under their keys, in order, and
moves the back-off. -/
lemma receive_self (b : Bidder) (now : Int) (r : WireResponse) :
    b.receive b.session now r =
      some { b with
        cache := (accepted now r).foldl (fun c bid => c.upsert (b.screen.keyOfBid bid) bid) b.cache
        nextCallNotBefore := b.backoffAfter now r } := by
  simp only [receive, ne_eq, not_true_eq_false, if_false, accepted, backoffAfter, Option.some.injEq]
  congr 1
  -- a slot that is not accepted leaves the cache as it is
  generalize b.cache = c
  induction r.slots generalizing c with
  | nil => rfl
  | cons w rest ih =>
    cases hw : accept now w with
    | none => simp [hw, ih]
    | some bid => simp [hw, ih]

/-- After a response of the current session, each key reads the last accepted bid put under it,
or what it read before when none was. -/
lemma peek?_receive (b : Bidder) (now : Int) (r : WireResponse) (k : SlotKey) :
    ((b.receive b.session now r).getD b).cache.peek? k =
      (((accepted now r).filter fun bid => b.screen.keyOfBid bid = k).getLast?).or
        (b.cache.peek? k) := by
  rw [receive_self, Option.getD_some]
  exact BidCache.peek?_foldl_upsert _ _ _ _

lemma apply_deliver (b : Bidder) (session : Nat) (now : Int) (r : WireResponse) :
    b.apply (.deliver session now r) =
      if session = b.session then (b.receive b.session now r).getD b else b := by
  by_cases h : session = b.session
  · subst h; simp [apply]
  · simp [apply, h, receive_of_ne h]

/-! ### What every event keeps -/

@[simp] lemma screen_apply (b : Bidder) (e : Event) : (b.apply e).screen = b.screen := by
  cases e with
  | lookup killed now unit =>
    rcases lookup_bidder_cases b killed now unit with h | ⟨k, -, h⟩ <;> simp [apply, h]
  | deliver session now r =>
    rw [apply_deliver]
    split
    · simp [receive_self]
    · rfl
  | stop => rfl

@[simp] lemma screen_run (b : Bidder) (evs : List Event) : (b.run evs).screen = b.screen := by
  induction evs generalizing b with
  | nil => rfl
  | cons e evs ih => rw [run_cons, ih, screen_apply]

/-- Sessions only move forward: by one at a stop, not at all otherwise. -/
lemma session_apply (b : Bidder) (e : Event) :
    (b.apply e).session = if e.isStop then b.session + 1 else b.session := by
  cases e with
  | lookup killed now unit =>
    rcases lookup_bidder_cases b killed now unit with h | ⟨k, -, h⟩ <;> simp [apply, h, Event.isStop]
  | deliver session now r =>
    rw [apply_deliver]
    split
    · simp [receive_self, Event.isStop]
    · simp [Event.isStop]
  | stop => simp [apply, stop, Event.isStop]

lemma session_le_run (b : Bidder) (evs : List Event) : b.session ≤ (b.run evs).session := by
  induction evs generalizing b with
  | nil => exact Nat.le_refl _
  | cons e evs ih =>
    have hstep : b.session ≤ (b.apply e).session := by
      rw [session_apply]
      split <;> omega
    exact Nat.le_trans hstep (ih _)

/-! ### Well-cached bidders -/

/-- Every cached bid passes the checks, has a positive lifetime, and sits under the key the
bidder's screen gives it. -/
def WellCached (b : Bidder) : Prop :=
  ∀ k bid, (k, bid) ∈ b.cache.entries →
    bid.validate = .ok () ∧ 0 < bid.ttl ∧ k = b.screen.keyOfBid bid

lemma wellCached_new (screen : Screen) : (Bidder.new screen).WellCached := by
  intro k bid h
  simp [Bidder.new, BidCache.empty] at h

/-- Putting bids that pass the checks and have a lifetime under their own keys keeps the cache
well formed. -/
lemma WellCached.foldl_upsert {b : Bidder} (hb : b.WellCached) {bids : List Bid}
    (hbids : ∀ bid ∈ bids, bid.validate = .ok () ∧ 0 < bid.ttl) :
    ({ b with cache := bids.foldl (fun c bid => c.upsert (b.screen.keyOfBid bid) bid) b.cache } :
      Bidder).WellCached := by
  induction bids generalizing b with
  | nil => exact hb
  | cons bid rest ih =>
    -- put the first bid, then the rest into the bidder holding it
    have hfirst : ({ b with cache := b.cache.upsert (b.screen.keyOfBid bid) bid } :
        Bidder).WellCached := by
      intro k' bid' hmem
      rcases BidCache.mem_upsert hmem with ⟨rfl, rfl⟩ | ⟨-, hold⟩
      · have hchecks := hbids bid' List.mem_cons_self
        exact ⟨hchecks.1, hchecks.2, rfl⟩
      · exact hb k' bid' hold
    exact ih hfirst fun bid' h => hbids bid' (List.mem_cons_of_mem _ h)

/-- Every event keeps the cache well formed. -/
lemma WellCached.apply {b : Bidder} (hb : b.WellCached) (e : Event) : (b.apply e).WellCached := by
  cases e with
  | lookup killed now unit =>
    rcases lookup_bidder_cases b killed now unit with h | ⟨k, -, h⟩
    · simpa [Bidder.apply, h] using hb
    · intro k' bid hmem
      rw [screen_apply]
      simp only [Bidder.apply, h] at hmem
      exact hb k' bid (BidCache.mem_remove hmem).2
  | deliver session now r =>
    rw [apply_deliver]
    split
    · rw [receive_self, Option.getD_some]
      refine hb.foldl_upsert fun bid hbid => ?_
      obtain ⟨w, -, hw⟩ := List.mem_filterMap.mp hbid
      have hsound := accept_sound hw
      exact ⟨hsound.1, hsound.2.1⟩
    · exact hb
  | stop => exact hb

/-- Every run keeps the cache well formed. -/
lemma WellCached.run {b : Bidder} (hb : b.WellCached) (evs : List Event) :
    (b.run evs).WellCached := by
  induction evs generalizing b with
  | nil => exact hb
  | cons e evs ih => exact ih (hb.apply e)

/-! ### Bids shown and bids cached -/

/-- The bid a lookup event shows for an ad unit of key `k`. -/
def shownBy (k : SlotKey) (b : Bidder) : Event → List Bid
  | .lookup killed now unit =>
    if unit.bind b.screen.keyOf? = some k then (b.lookup killed now unit).shown.toList else []
  | _ => []

/-- The bids an event puts under key `k`, in order. -/
def insertedBy (k : SlotKey) (b : Bidder) : Event → List Bid
  | .deliver session now r =>
    if session = b.session then (accepted now r).filter fun bid => b.screen.keyOfBid bid = k
    else []
  | _ => []

/-- The bids shown for ad units of key `k` along a run, in order. -/
def shownAlong (k : SlotKey) : Bidder → List Event → List Bid
  | _, [] => []
  | b, e :: evs => shownBy k b e ++ shownAlong k (b.apply e) evs

/-- The bids put under key `k` along a run, in order. -/
def insertedAlong (k : SlotKey) : Bidder → List Event → List Bid
  | _, [] => []
  | b, e :: evs => insertedBy k b e ++ insertedAlong k (b.apply e) evs

/-- A lookup of an ad unit of key `k` shows at most the bid it takes out of `k`; a lookup of
another key leaves `k` alone. -/
lemma shownBy_lookup_sublist (k : SlotKey) (b : Bidder) (killed : Bool) (now : Int)
    (unit : Option AdUnit) :
    shownBy k b (.lookup killed now unit) ++
        ((b.apply (.lookup killed now unit)).cache.peek? k).toList <+
      (b.cache.peek? k).toList := by
  by_cases hk : unit.bind b.screen.keyOf? = some k
  · cases killed with
    | true => simp [shownBy, Bidder.apply, lookup_of_killed]
    | false =>
      obtain ⟨-, hbidder, hshown⟩ := lookup_of_key hk now
      simp only [shownBy, hk, if_true, Bidder.apply, hbidder, hshown]
      cases hp : b.cache.peek? k with
      | none => simp [taken?, hp]
      | some bid =>
        by_cases hs : bid.classify = .silent ∧ bid.isExpired now = false
        · -- an unexpired silent bid stays and is not shown
          simp [taken?, hp, hs, Option.filter_some]
        · -- any other bid is taken out, and shown or not
          have htaken : (b.taken? now k).isSome = true := by
            simp only [taken?, hp, Option.filter_some, hs, decide_false, Bool.not_false, if_true,
              Option.isSome_some]
          simp only [htaken, if_true, BidCache.peek?_remove, Option.toList_none,
            List.append_nil, Option.toList_some]
          by_cases hv : bid.classify = .valid ∧ bid.isExpired now = false <;>
            simp [hv, Option.filter_some]
  · simp only [shownBy, hk, if_false, List.nil_append]
    rcases lookup_bidder_cases b killed now unit with h | ⟨k', hk', h⟩
    · simp [Bidder.apply, h]
    · have hne : k ≠ k' := fun heq => hk (heq ▸ hk')
      simp [Bidder.apply, h, hne]

/-- One event: the bid it shows for `k` followed by what `k` holds after it is a sublist of what
`k` held before followed by the bids the event puts under `k`. -/
lemma shownBy_sublist (k : SlotKey) (b : Bidder) (e : Event) :
    shownBy k b e ++ ((b.apply e).cache.peek? k).toList <+
      (b.cache.peek? k).toList ++ insertedBy k b e := by
  cases e with
  | lookup killed now unit =>
    exact (shownBy_lookup_sublist k b killed now unit).trans (List.sublist_append_left _ _)
  | deliver session now r =>
    rw [apply_deliver]
    by_cases hs : session = b.session
    · -- the key holds the last bid put under it, or what it held
      subst hs
      simp only [shownBy, insertedBy, if_true, List.nil_append, peek?_receive]
      cases hlast : ((accepted now r).filter fun bid => b.screen.keyOfBid bid = k).getLast? with
      | none => simp
      | some bid =>
        have hmem := List.mem_of_getLast? hlast
        rw [Option.some_or, Option.toList_some]
        exact List.sublist_append_of_sublist_right (List.singleton_sublist.mpr hmem)
    · simp [shownBy, insertedBy, hs]
  | stop => simp [shownBy, insertedBy, Bidder.apply, stop]

/-- Along any run, the bids shown for ad units of key `k` followed by what `k` holds at the end
form a sublist of what `k` held at the start followed by the bids put under `k`: each cached bid
is shown at most once. -/
theorem shownAlong_sublist (k : SlotKey) (b : Bidder) (evs : List Event) :
    shownAlong k b evs ++ ((b.run evs).cache.peek? k).toList <+
      (b.cache.peek? k).toList ++ insertedAlong k b evs := by
  induction evs generalizing b with
  | nil => simp [shownAlong, insertedAlong]
  | cons e evs ih =>
    simp only [shownAlong, insertedAlong, run_cons, List.append_assoc]
    calc shownBy k b e ++ (shownAlong k (b.apply e) evs ++ (((b.apply e).run evs).cache.peek? k).toList)
        _ <+ shownBy k b e ++ (((b.apply e).cache.peek? k).toList ++
              insertedAlong k (b.apply e) evs) := (ih (b.apply e)).append_left _
        _ = (shownBy k b e ++ ((b.apply e).cache.peek? k).toList) ++
              insertedAlong k (b.apply e) evs := by rw [List.append_assoc]
        _ <+ ((b.cache.peek? k).toList ++ insertedBy k b e) ++ insertedAlong k (b.apply e) evs :=
            (shownBy_sublist k b e).append_right _
        _ = (b.cache.peek? k).toList ++ (insertedBy k b e ++ insertedAlong k (b.apply e) evs) := by
            rw [List.append_assoc]

end Bidder

end HeaderBidding
