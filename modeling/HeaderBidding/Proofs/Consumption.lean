import Mathlib.Tactic.Lemma
import HeaderBidding.Proofs.Client

/-!
# Showing and consuming cached bids

When the app asks for a bid for an ad unit, the client looks the unit's key up in the cache
(`Bidder.lookup`), reports the bid it takes out as consumed, and asks the server for a new one.
What one such request does:

* it shows a bid exactly when the kill switch is off, the unit has a key, and the cache holds a
  valid bid under that key that has not expired (`Client.get_fst_eq_some_iff`);
* with the kill switch on it changes nothing at all (`Client.get_of_killed`), and for a unit
  without a key it changes neither the bidder nor what was sent or reported
  (`Client.get_of_unmapped`);
* otherwise it takes the key's bid out exactly when there is one that is not a silent bid still
  unexpired (`Bidder.taken?_eq_some_iff`), leaves every other key alone
  (`Bidder.peek?_lookup_of_ne`), and reports exactly the bid it took as consumed
  (`Client.consumedReports_get_of_key`).

With `Bidder.shownAlong_sublist`, which follows the bids of one key along any run, the main
statement `get_shows_cached_bid_once` says also that no cached bid is shown twice.
-/

namespace HeaderBidding

open scoped List

namespace Bidder

/-- A lookup of `k` takes the cached bid out exactly when it is not a silent bid still
unexpired. -/
lemma taken?_eq_some_iff {b : Bidder} {now : Int} {k : SlotKey} {bid : Bid} :
    b.taken? now k = some bid ↔
      b.cache.peek? k = some bid ∧ ¬(bid.classify = .silent ∧ bid.isExpired now = false) := by
  rw [taken?, Option.filter_eq_some_iff, Bool.not_eq_true', decide_eq_false_iff_not]

/-- A lookup shows a bid exactly when the kill switch is off, the ad unit has a key, and the bid
cached under it is valid and unexpired. -/
lemma lookup_shown_eq_some_iff {b : Bidder} {killed : Bool} {now : Int} {unit : Option AdUnit}
    {s : Bid} :
    (b.lookup killed now unit).shown = some s ↔
      killed = false ∧ ∃ k, unit.bind b.screen.keyOf? = some k ∧ b.cache.peek? k = some s ∧
        s.classify = .valid ∧ s.isExpired now = false := by
  cases killed with
  | true => simp [lookup_of_killed]
  | false =>
    cases hkey : unit.bind b.screen.keyOf? with
    | none => simp [lookup_of_unmapped hkey]
    | some k =>
      rw [(lookup_of_key hkey now).2.2]
      simp [Option.filter_eq_some_iff]

/-- A lookup leaves every key but that of the ad unit as it was. -/
lemma peek?_lookup_of_ne {b : Bidder} {killed : Bool} {now : Int} {unit : Option AdUnit}
    {k' : SlotKey} (h : unit.bind b.screen.keyOf? ≠ some k') :
    (b.lookup killed now unit).bidder.cache.peek? k' = b.cache.peek? k' := by
  rcases lookup_bidder_cases b killed now unit with hb | ⟨k, hk, hb⟩
  · rw [hb]
  · have hne : k' ≠ k := fun heq => h (heq ▸ hk)
    rw [hb, BidCache.peek?_remove, if_neg hne]

end Bidder

namespace Lifecycle

/-- Whether an event reports a consumed bid. -/
def isConsumed : Lifecycle → Bool
  | .consumed _ _ => true
  | _ => false

end Lifecycle

namespace Client

/-! ### What a get shows -/

lemma get_fst (c : Client) (unit : Option AdUnit) :
    (c.get unit).1 = (c.bidder.lookup c.killed c.clock unit).shown := rfl

/-- A get shows a bid exactly when the kill switch is off, the ad unit has a key, and the bid
cached under it is valid and unexpired. -/
lemma get_fst_eq_some_iff {c : Client} {u : AdUnit} {s : Bid} :
    (c.get (some u)).1 = some s ↔
      c.killed = false ∧ ∃ k, c.bidder.screen.keyOf? u = some k ∧ c.bidder.cache.peek? k = some s ∧
        s.classify = .valid ∧ s.isExpired c.clock = false := by
  rw [get_fst, Bidder.lookup_shown_eq_some_iff, Option.bind_some]

/-! ### Gets that change nothing -/

/-- With the kill switch on, a get shows nothing and changes nothing. -/
lemma get_of_killed {c : Client} (h : c.killed = true) (unit : Option AdUnit) :
    c.get unit = (none, c) := by
  unfold get
  simp [h, Bidder.lookup_of_killed]

@[simp] lemma noteUnmapped_events (c : Client) (unit : Option AdUnit) :
    (c.noteUnmapped unit).events = c.events := by
  unfold noteUnmapped
  split
  · rfl
  · split <;> rfl

/-- A get for an ad unit without a key shows nothing, and changes neither the bidder nor what
was sent or reported; only the trace says that the unit was not valid. -/
lemma get_of_unmapped {c : Client} {unit : Option AdUnit}
    (h : unit.bind c.bidder.screen.keyOf? = none) :
    (c.get unit).1 = none ∧ (c.get unit).2.bidder = c.bidder ∧ (c.get unit).2.sent = c.sent ∧
      (c.get unit).2.events = c.events := by
  have hlookup : c.bidder.lookup c.killed c.clock unit = ⟨none, none, none, c.bidder⟩ :=
    Bidder.lookup_of_unmapped h
  unfold get
  simp only [hlookup]
  split <;> simp

/-! ### Consumed-bid reports -/

/-- The consumed-bid reports among the events a client recorded, in order. -/
def consumedReports (c : Client) : List Lifecycle :=
  c.events.toList.filter Lifecycle.isConsumed

lemma consumedReports_emit (c : Client) (e : Lifecycle) :
    (c.emit e).consumedReports = c.consumedReports ++ if e.isConsumed then [e] else [] := by
  cases he : e.isConsumed <;> simp [consumedReports, emit, List.filter_append, he]

lemma consumedReports_emit_of_not {c : Client} {e : Lifecycle} (he : e.isConsumed = false) :
    (c.emit e).consumedReports = c.consumedReports := by
  rw [consumedReports_emit, he, if_neg Bool.false_ne_true, List.append_nil]

lemma consumedReports_started (c : Client) (i : Nat) :
    (c.started i).consumedReports = c.consumedReports := by
  unfold started
  split
  · split
    · rfl
    · exact consumedReports_emit_of_not rfl
  · rfl

lemma consumedReports_failed (c : Client) (i : Nat) (e : CallError) :
    (c.failed i e).consumedReports = c.consumedReports := by
  unfold failed
  split
  · split
    · rfl
    · exact consumedReports_emit_of_not rfl
  · rfl

lemma consumedReports_received (c : Client) (i : Nat) (r : WireResponse) :
    (c.received i r).consumedReports = c.consumedReports := by
  unfold received
  split
  · split
    · rw [consumedReports_emit_of_not rfl]
      rfl
    · rfl
  · rfl

/-- Sending a request, and taking in the answer of a link that answers at once, reports no
consumed bid. -/
lemma consumedReports_send (c : Client) (keys : List SlotKey) (session : Nat) :
    (c.send keys session).consumedReports = c.consumedReports := by
  unfold send
  split
  · rfl
  · dsimp only
    split
    · rfl
    · rename_i body _
      rw [conclude.eq_def]
      split
      · rw [consumedReports_received, consumedReports_started]
        rfl
      · rw [consumedReports_failed, consumedReports_started]
        rfl
    · rfl

/-- A get reports the bid its lookup consumed, and no other. -/
lemma consumedReports_get (c : Client) (unit : Option AdUnit) :
    (c.get unit).2.consumedReports = c.consumedReports ++
      ((c.bidder.lookup c.killed c.clock unit).consumed.map
        fun taken => Lifecycle.consumed taken.1 taken.2).toList := by
  -- noting an unmapped unit and installing the lookup's bidder touch no event
  have hbefore : ({ (if c.killed = true then c else c.noteUnmapped unit) with
      bidder := (c.bidder.lookup c.killed c.clock unit).bidder } : Client).consumedReports =
        c.consumedReports := by
    split <;> simp [consumedReports]
  unfold get
  dsimp only
  split
  · rw [consumedReports_send]
    split
    · rename_i key bid hconsumed
      rw [consumedReports_emit, hbefore, hconsumed]
      rfl
    · rename_i hconsumed
      rw [hbefore, hconsumed]
      simp
  · split
    · rename_i key bid hconsumed
      rw [consumedReports_emit, hbefore, hconsumed]
      rfl
    · rename_i hconsumed
      rw [hbefore, hconsumed]
      simp

/-- A get of an ad unit of key `k`, with the kill switch off, reports as consumed exactly the
bid it takes out of `k`. -/
lemma consumedReports_get_of_key {c : Client} {u : AdUnit} {k : SlotKey}
    (hkill : c.killed = false) (hkey : c.bidder.screen.keyOf? u = some k) :
    (c.get (some u)).2.consumedReports =
      c.consumedReports ++ ((c.bidder.taken? c.clock k).map (Lifecycle.consumed k)).toList := by
  have hunit : (some u).bind c.bidder.screen.keyOf? = some k := (Option.bind_some u _).trans hkey
  have hconsumed := (Bidder.lookup_of_key hunit c.clock).1
  rw [consumedReports_get, hkill, hconsumed, Option.map_map]
  rfl

end Client

/-! ### Bids are single use -/

/-- Bids are single use. A get shows a bid exactly when the kill switch is off, the ad unit has
a key, and the cache holds under that key a valid bid (one with a positive price) that has not
expired. With the kill switch on a get changes nothing; for an ad unit without a key it changes
neither the bidder nor what was sent or reported. Otherwise its lookup takes the key's bid out
exactly when there is one that is not a silent bid still unexpired, changes nothing else, and
the get reports that bid, and only it, as consumed. Along any run of lookups, responses and
stops, the bids shown for a key followed by what the key holds at the end form a sublist of what
it held at the start followed by the bids put under it: no bid put in the cache is shown twice,
and a new bidder shows no more bids for a key than were put under it. -/
theorem get_shows_cached_bid_once :
    (∀ (c : Client) (u : AdUnit) (s : Bid), (c.get (some u)).1 = some s ↔
      c.killed = false ∧ ∃ k, c.bidder.screen.keyOf? u = some k ∧
        c.bidder.cache.peek? k = some s ∧ s.classify = .valid ∧ s.price > 0 ∧
        c.clock < s.expiresAt) ∧
    (∀ (c : Client) (unit : Option AdUnit), c.killed = true → c.get unit = (none, c)) ∧
    (∀ (c : Client) (unit : Option AdUnit), unit.bind c.bidder.screen.keyOf? = none →
      (c.get unit).1 = none ∧ (c.get unit).2.bidder = c.bidder ∧
        (c.get unit).2.sent = c.sent ∧ (c.get unit).2.events = c.events) ∧
    (∀ (b : Bidder) (now : Int) (unit : Option AdUnit) (k : SlotKey),
      unit.bind b.screen.keyOf? = some k →
        (b.lookup false now unit).bidder =
          (if (b.taken? now k).isSome then { b with cache := (b.cache.remove k).2 } else b) ∧
        (∀ bid, b.taken? now k = some bid ↔
          b.cache.peek? k = some bid ∧ ¬(bid.classify = .silent ∧ bid.isExpired now = false)) ∧
        (∀ k', k' ≠ k → (b.lookup false now unit).bidder.cache.peek? k' = b.cache.peek? k')) ∧
    (∀ (c : Client) (u : AdUnit) (k : SlotKey), c.killed = false →
      c.bidder.screen.keyOf? u = some k →
        (c.get (some u)).2.consumedReports =
          c.consumedReports ++ ((c.bidder.taken? c.clock k).map (Lifecycle.consumed k)).toList) ∧
    (∀ (b : Bidder) (evs : List Bidder.Event) (k : SlotKey),
      Bidder.shownAlong k b evs ++ ((b.run evs).cache.peek? k).toList <+
        (b.cache.peek? k).toList ++ Bidder.insertedAlong k b evs) ∧
    (∀ (screen : Screen) (evs : List Bidder.Event) (k : SlotKey),
      (Bidder.shownAlong k (Bidder.new screen) evs).length ≤
        (Bidder.insertedAlong k (Bidder.new screen) evs).length) := by
  refine ⟨fun c u s => ?_, fun c unit h => Client.get_of_killed h unit,
    fun c unit h => Client.get_of_unmapped h, fun b now unit k hk => ?_,
    fun c u k hkill hkey => Client.consumedReports_get_of_key hkill hkey,
    fun b evs k => Bidder.shownAlong_sublist k b evs, fun screen evs k => ?_⟩
  · -- a valid bid is one with a positive price, and an unexpired one expires after the clock
    have hbid : s.classify = .valid ∧ s.isExpired c.clock = false ↔
        s.classify = .valid ∧ s.price > 0 ∧ c.clock < s.expiresAt := by
      rw [Bid.isExpired_eq_false_iff]
      constructor
      · rintro ⟨hv, hexp⟩
        exact ⟨hv, (Bid.classify_eq_valid_iff s).mp hv, hexp⟩
      · rintro ⟨hv, -, hexp⟩
        exact ⟨hv, hexp⟩
    rw [Client.get_fst_eq_some_iff]
    simp only [hbid]
  · obtain ⟨-, hbidder, -⟩ := Bidder.lookup_of_key hk now
    refine ⟨hbidder, fun bid => Bidder.taken?_eq_some_iff, fun k' hne => ?_⟩
    exact Bidder.peek?_lookup_of_ne fun h => hne (Option.some.inj (hk.symm.trans h)).symm
  · -- a new bidder holds nothing, so what it shows is a sublist of what was put
    have hempty : (Bidder.new screen).cache.peek? k = none := rfl
    have hsub := Bidder.shownAlong_sublist k (Bidder.new screen) evs
    rw [hempty, Option.toList_none, List.nil_append] at hsub
    exact ((List.sublist_append_left _ _).trans hsub).length_le

/-- A bid of price 1 for a `300x250` banner, lasting a minute from time `0`. -/
def bannerBid : Bid :=
  ⟨"b", none, 1, none, ⟨300, 250⟩, 60, .displayUrl "http://cdb-tracker.local/ad.js?imp=b", 0⟩

/-- A new client on the standard screen whose cache holds `bannerBid` under the key of its
banner, and the same bid for a `320x50` banner of placement `c` under that banner's key. -/
def clientHoldingBanners (settings : Settings) : Client :=
  let c := Client.new Screen.standard settings .singleUse 0 none none .held
  { c with
    bidder := { c.bidder with
      cache := (c.bidder.cache.upsert ⟨"b", ⟨300, 250⟩, .banner⟩ bannerBid).upsert
        ⟨"c", ⟨320, 50⟩, .banner⟩ { bannerBid with placement := "c", size := ⟨320, 50⟩ } } }

/-- A client holding a valid bid for a banner shows it once asked for the banner: the lookup
takes it out of the banner's key, leaves the other banner's bid in place, and the get reports it
as consumed. With the kill switch on the same client changes nothing, and a get without an ad
unit leaves its bidder as it is. -/
theorem get_shows_cached_bid_once_on_a_held_banner :
    ((clientHoldingBanners Settings.volatile).get (some (.banner "b" ⟨300, 250⟩))).1 =
      some bannerBid ∧
    ((clientHoldingBanners Settings.volatile).bidder.lookup false 0
        (some (.banner "b" ⟨300, 250⟩))).bidder.cache.peek? ⟨"b", ⟨300, 250⟩, .banner⟩ = none ∧
    ((clientHoldingBanners Settings.volatile).bidder.lookup false 0
        (some (.banner "b" ⟨300, 250⟩))).bidder.cache.peek? ⟨"c", ⟨320, 50⟩, .banner⟩ =
      some { bannerBid with placement := "c", size := ⟨320, 50⟩ } ∧
    ((clientHoldingBanners Settings.volatile).get (some (.banner "b" ⟨300, 250⟩))).2.consumedReports =
      [.consumed ⟨"b", ⟨300, 250⟩, .banner⟩ bannerBid] ∧
    (clientHoldingBanners (Settings.volatile.setKillSwitch true)).get
        (some (.banner "b" ⟨300, 250⟩)) =
      (none, clientHoldingBanners (Settings.volatile.setKillSwitch true)) ∧
    ((clientHoldingBanners Settings.volatile).get none).2.bidder =
      (clientHoldingBanners Settings.volatile).bidder := by
  have hkey : Screen.standard.keyOf? (.banner "b" ⟨300, 250⟩) = some ⟨"b", ⟨300, 250⟩, .banner⟩ := by
    decide +kernel
  have hpeek : (clientHoldingBanners Settings.volatile).bidder.cache.peek?
      ⟨"b", ⟨300, 250⟩, .banner⟩ = some bannerBid := by
    simp [clientHoldingBanners]
  have hvalid : bannerBid.classify = .valid := by decide
  obtain ⟨hget, hkilled, hunmapped, hlookup, hreports, -, -⟩ := get_shows_cached_bid_once
  obtain ⟨hbidder, htaken, hother⟩ :=
    hlookup (clientHoldingBanners Settings.volatile).bidder 0 (some (.banner "b" ⟨300, 250⟩)) _ hkey
  have ht : (clientHoldingBanners Settings.volatile).bidder.taken? 0 ⟨"b", ⟨300, 250⟩, .banner⟩ =
      some bannerBid :=
    (htaken bannerBid).mpr ⟨hpeek, by simp [hvalid]⟩
  have hlive : (clientHoldingBanners Settings.volatile).killed = false := rfl
  have hprice : bannerBid.price > 0 := by decide
  have hclock : (clientHoldingBanners Settings.volatile).clock < bannerBid.expiresAt := by decide
  have hshown :=
    (hget (clientHoldingBanners Settings.volatile) (.banner "b" ⟨300, 250⟩) bannerBid).mpr
      ⟨hlive, _, hkey, hpeek, hvalid, hprice, hclock⟩
  have hkilledGet := hkilled (clientHoldingBanners (Settings.volatile.setKillSwitch true))
    (some (.banner "b" ⟨300, 250⟩)) rfl
  have hnoUnit := (hunmapped (clientHoldingBanners Settings.volatile) none rfl).2.1
  refine ⟨hshown, ?_, ?_, ?_, hkilledGet, hnoUnit⟩
  · rw [hbidder, ht]
    simp
  · rw [hother _ (by decide)]
    simp [clientHoldingBanners]
  · have hnone : (clientHoldingBanners Settings.volatile).consumedReports = [] := rfl
    rw [hreports (clientHoldingBanners Settings.volatile) (.banner "b" ⟨300, 250⟩) _ hlive hkey,
      hnone]
    have hclock0 : (clientHoldingBanners Settings.volatile).clock = 0 := rfl
    rw [List.nil_append, hclock0, ht]
    rfl

end HeaderBidding
