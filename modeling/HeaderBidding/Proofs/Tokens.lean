import Mathlib.Data.List.Induction
import Mathlib.Data.List.Perm.Subperm
import Mathlib.Data.List.Nodup
import HeaderBidding.Token.Value

/-!
# Tokens traded in, against the calls that made the store

A token store answers a trade-in by what was done to it before. This module states that answer
through the calls alone. Carried out from an empty store, calls that hand out distinct tokens at
times that never go back leave a store in which a token gives a value for a format exactly when
it was handed out with that value, the format is the value's, the value has not expired, and,
for single-use tokens, it was not traded in before (`resolve_eq_some_iff_of_tracks`).

Each call does only what it must:

* trading in no token, a token that is not kept, or a token for another format than its value's
  changes nothing (`resolve_none`, `resolve_of_lookup_eq_none`, `resolve_of_format_ne`);
* right after a token is handed out at `now`, every other token kept is unexpired at `now`
  (`expiresAt_of_mem_put`), so the store holds at most one token more than there are tokens
  handed out before that are unexpired and not used up (`size_run_mint_le`).

`Tracks` says what the store after some calls holds, in terms of those calls: only values handed
out, never a used-up token, and every token handed out that can still be traded in. One lemma
per kind of call keeps it (`Tracks.concat`), and so it holds after every run (`tracks_run`).
-/

namespace HeaderBidding

open Token

namespace TokenStore

variable {s : TokenStore} {t t' : Uuid} {v v' : TokenValue} {f : Format} {now : Int}

/-! ### Looking tokens up -/

/-- Two entries with one token are one entry. -/
lemma eq_of_mem_of_mem (h : (t, v) ∈ s.entries) (h' : (t, v') ∈ s.entries) : v = v' :=
  congrArg Prod.snd (List.inj_on_of_nodup_map s.distinct h h' rfl)

lemma lookup_eq_some_iff : s.lookup t = some v ↔ (t, v) ∈ s.entries := by
  unfold lookup
  constructor
  · intro h
    obtain ⟨e, he, rfl⟩ := Option.map_eq_some_iff.mp h
    have hkey : e.1 = t := by simpa using List.find?_some he
    rw [← hkey]
    exact List.mem_of_find?_eq_some he
  · intro h
    cases hfind : s.entries.find? (·.1 = t) with
    | none =>
      have hnot := List.find?_eq_none.mp hfind (t, v) h
      simp at hnot
    | some e =>
      have hkey : e.1 = t := by simpa using List.find?_some hfind
      have hmem : (t, e.2) ∈ s.entries := by
        rw [← hkey]
        exact List.mem_of_find?_eq_some hfind
      rw [Option.map_some, s.eq_of_mem_of_mem hmem h]

@[simp] lemma lookup_empty (r : Retention) (t : Uuid) : (empty r).lookup t = none := rfl

@[simp] lemma retention_empty (r : Retention) : (empty r).retention = r := rfl

/-! ### Putting and erasing tokens -/

/-- Handing out a token puts the supply's next identifier in. -/
lemma mint_eq (s : TokenStore) (v : TokenValue) (now : Int) (fresh : Fresh) :
    s.mint v now fresh = (fresh.take.1, s.put fresh.take.1 v now, fresh.take.2) := rfl

@[simp] lemma retention_put : (s.put t v now).retention = s.retention := rfl

@[simp] lemma retention_erase : (s.erase t).retention = s.retention := rfl

/-- After a token is put in at `now`, the store holds it with its new value and the other tokens
it held that are unexpired at `now`. -/
lemma mem_put : (t', v') ∈ (s.put t v now).entries ↔
    ((t', v') ∈ s.entries ∧ now < v'.expiresAt ∧ t' ≠ t) ∨ (t' = t ∧ v' = v) := by
  simp [put, TokenValue.isExpired]

/-- Right after a token is put in at `now`, every other token the store holds is unexpired at
`now`. -/
lemma expiresAt_of_mem_put (h : (t', v') ∈ (s.put t v now).entries) (hne : t' ≠ t) :
    now < v'.expiresAt := by
  rcases mem_put.mp h with ⟨-, hlive, -⟩ | ⟨heq, -⟩
  · exact hlive
  · exact absurd heq hne

lemma lookup_put_self : (s.put t v now).lookup t = some v :=
  lookup_eq_some_iff.mpr (mem_put.mpr (.inr ⟨rfl, rfl⟩))

/-- Putting a token in keeps every other token that is unexpired at the time. -/
lemma lookup_put_of_ne (hne : t' ≠ t) (h : s.lookup t' = some v') (hlive : now < v'.expiresAt) :
    (s.put t v now).lookup t' = some v' :=
  lookup_eq_some_iff.mpr (mem_put.mpr (.inl ⟨lookup_eq_some_iff.mp h, hlive, hne⟩))

lemma mem_erase : (t', v') ∈ (s.erase t).entries ↔ (t', v') ∈ s.entries ∧ t' ≠ t := by
  simp [erase]

lemma lookup_erase_of_ne (hne : t' ≠ t) : (s.erase t).lookup t' = s.lookup t' := by
  apply Option.ext
  intro w
  rw [lookup_eq_some_iff, lookup_eq_some_iff, mem_erase]
  exact and_iff_left hne

/-! ### Trading tokens in -/

lemma resolve_none (s : TokenStore) (f : Format) (now : Int) : s.resolve none f now = (none, s) :=
  rfl

/-- A token that is not kept gives nothing and changes nothing. -/
lemma resolve_of_lookup_eq_none (h : s.lookup t = none) : s.resolve (some t) f now = (none, s) := by
  simp [resolve, h]

/-- A token traded in for another format than its value's gives nothing and changes nothing. -/
lemma resolve_of_format_ne (h : s.lookup t = some v) (hf : v.format ≠ f) :
    s.resolve (some t) f now = (none, s) := by
  simp [resolve, h, hf]

/-- An expired token traded in for its format gives nothing and is dropped. -/
lemma resolve_of_expired (h : s.lookup t = some v) (hf : v.format = f) (hexp : v.expiresAt ≤ now) :
    s.resolve (some t) f now = (none, s.erase t) := by
  simp [resolve, h, hf, TokenValue.isExpired, hexp]

/-- An unexpired token traded in for its format gives its value; a single-use token is
dropped. -/
lemma resolve_of_live (h : s.lookup t = some v) (hf : v.format = f) (hlive : now < v.expiresAt) :
    s.resolve (some t) f now = (some v, if s.retention = .singleUse then s.erase t else s) := by
  have hexp : v.isExpired now = false := by
    simpa [TokenValue.isExpired] using hlive
  cases hr : s.retention <;> simp [resolve, h, hf, hexp, hr]

/-- A trade-in leaves the store as it was or drops the token traded in. -/
lemma resolve_snd_eq_or (s : TokenStore) (t : Uuid) (f : Format) (now : Int) :
    (s.resolve (some t) f now).2 = s ∨ (s.resolve (some t) f now).2 = s.erase t := by
  cases hlookup : s.lookup t with
  | none => exact .inl (by rw [resolve_of_lookup_eq_none hlookup])
  | some w =>
    by_cases hf : w.format = f
    · by_cases hexp : w.expiresAt ≤ now
      · exact .inr (by rw [resolve_of_expired hlookup hf hexp])
      · rw [resolve_of_live hlookup hf (Int.lt_of_not_ge hexp)]
        split
        · exact .inr rfl
        · exact .inl rfl
    · exact .inl (by rw [resolve_of_format_ne hlookup hf])

/-- A trade-in before `v` expires keeps token `t` standing for `v`, unless it trades `t` in for
`v`'s format and tokens are single use. -/
lemma lookup_resolve {token : Option Uuid} (h : s.lookup t = some v) (hlive : now < v.expiresAt)
    (hkeep : s.retention = .untilExpiry ∨ (token, f) ≠ (some t, v.format)) :
    (s.resolve token f now).2.lookup t = some v := by
  cases token with
  | none => exact h
  | some t' =>
    by_cases ht : t' = t
    · subst ht
      by_cases hf : v.format = f
      · -- a trade-in of `t` for its format before it expires: kept unless used up
        rw [resolve_of_live h hf hlive]
        rcases hkeep with hr | hne
        · rw [hr]
          exact h
        · exact absurd (by rw [hf]) hne
      · rw [resolve_of_format_ne h hf]
        exact h
    · rcases resolve_snd_eq_or s t' f now with heq | heq <;> rw [heq]
      · exact h
      · rw [lookup_erase_of_ne (Ne.symm ht)]
        exact h

/-! ### Calls and their answers -/

/-- A call on a token store: a token handed out for a value at `now`, or a token, if any, traded
in for a format at `now`. -/
inductive Call where
  | mint (token : Uuid) (value : TokenValue) (now : Int)
  | resolve (token : Option Uuid) (expected : Format) (now : Int)

namespace Call

/-- The time of a call. -/
def time : Call → Int
  | .mint _ _ now | .resolve _ _ now => now

/-- The token a call hands out. -/
def minted? : Call → Option Uuid
  | .mint t _ _ => some t
  | .resolve _ _ _ => none

/-- Whether a call trades token `t` in. -/
def tradesIn (t : Uuid) : Call → Bool
  | .resolve (some t') _ _ => decide (t' = t)
  | _ => false

end Call

/-- Carries a call out: what it gives back, and the store after it. -/
def call (s : TokenStore) : Call → Option TokenValue × TokenStore
  | .mint t v now => (none, s.put t v now)
  | .resolve t f now => s.resolve t f now

/-- The store after calls, in order. -/
def run (s : TokenStore) (cs : List Call) : TokenStore :=
  cs.foldl (fun s c => (s.call c).2) s

/-- Each call with what it gave back, along calls from `s`. -/
def answers : TokenStore → List Call → List (Call × Option TokenValue)
  | _, [] => []
  | s, c :: cs => (c, (s.call c).1) :: answers (s.call c).2 cs

/-- Whether token `t` was traded in for a value along answered calls. -/
def spent (t : Uuid) (hist : List (Call × Option TokenValue)) : Bool :=
  hist.any fun (c, a) => c.tradesIn t && a.isSome

/-- The tokens handed out along calls from `s` whose values are unexpired at `now` and that are
not used up (traded in, for single-use tokens). -/
def liveAt (s : TokenStore) (cs : List Call) (now : Int) : List Uuid :=
  cs.filterMap fun c =>
    match c with
    | .mint t v _ =>
      if now < v.expiresAt ∧ (s.retention = .untilExpiry ∨ spent t (s.answers cs) = false) then
        some t
      else none
    | .resolve _ _ _ => none

@[simp] lemma retention_call (s : TokenStore) (c : Call) : (s.call c).2.retention = s.retention := by
  cases c with
  | mint t v now => rfl
  | resolve t f now =>
    simp only [call, resolve]
    split
    · rfl
    · split
      · rfl
      · split
        · rfl
        · split
          · rfl
          · split <;> rfl

@[simp] lemma retention_run (s : TokenStore) (cs : List Call) : (s.run cs).retention = s.retention := by
  induction cs generalizing s with
  | nil => rfl
  | cons c cs ih => exact (ih _).trans (retention_call s c)

lemma run_concat (s : TokenStore) (cs : List Call) (c : Call) :
    s.run (cs ++ [c]) = ((s.run cs).call c).2 := by
  simp [run, List.foldl_append]

lemma answers_concat (s : TokenStore) (cs : List Call) (c : Call) :
    s.answers (cs ++ [c]) = s.answers cs ++ [(c, ((s.run cs).call c).1)] := by
  induction cs generalizing s with
  | nil => rfl
  | cons c' cs ih => simp [answers, ih, run, List.foldl_cons]

lemma spent_concat (t : Uuid) (hist : List (Call × Option TokenValue)) (c : Call)
    (a : Option TokenValue) :
    spent t (hist ++ [(c, a)]) = (spent t hist || (c.tradesIn t && a.isSome)) := by
  simp [spent, List.any_append]

/-- A call that gives nothing leaves every token spent or not as it was. -/
lemma spent_answers_concat_of_none {cs : List Call} {c : Call} (h : ((s.run cs).call c).1 = none)
    (t : Uuid) : spent t (s.answers (cs ++ [c])) = spent t (s.answers cs) := by
  rw [answers_concat, h, spent_concat]
  simp

/-- A call that hands nothing out adds no call handing a token out. -/
lemma mem_of_mem_concat_of_minted? {cs : List Call} {c : Call} (hc : c.minted? = none)
    {n : Int} (h : Call.mint t v n ∈ cs ++ [c]) : Call.mint t v n ∈ cs := by
  rcases List.mem_append.mp h with hold | hthis
  · exact hold
  · rw [← List.mem_singleton.mp hthis] at hc
    simp [Call.minted?] at hc

/-! ### What the store holds after calls -/

/-- What the store after calls `cs` from an empty store holds, in terms of the calls: only
values handed out with their tokens; under single use, no token traded in already; every token
handed out that no call outlived and that is not used up; and a token traded in was handed out. -/
structure Tracks (r : Retention) (cs : List Call) : Prop where
  minted : ∀ t v, (t, v) ∈ ((empty r).run cs).entries → ∃ n, Call.mint t v n ∈ cs
  unspent : r = .singleUse → ∀ t v, (t, v) ∈ ((empty r).run cs).entries →
    spent t ((empty r).answers cs) = false
  kept : ∀ t v n, Call.mint t v n ∈ cs → (∀ c ∈ cs, c.time < v.expiresAt) →
    (r = .untilExpiry ∨ spent t ((empty r).answers cs) = false) →
      ((empty r).run cs).lookup t = some v
  spentMinted : ∀ t, spent t ((empty r).answers cs) = true → ∃ v n, Call.mint t v n ∈ cs

variable {r : Retention} {cs : List Call}

lemma tracks_nil (r : Retention) : Tracks r [] where
  minted := by simp [run, empty]
  unspent := by simp [run, empty]
  kept := by simp
  spentMinted := by simp [answers, spent]

/-- Handing out a token not handed out before keeps `Tracks`. -/
lemma Tracks.mint (h : Tracks r cs) (hnew : ∀ v' n', Call.mint t v' n' ∉ cs) :
    Tracks r (cs ++ [.mint t v now]) := by
  have hrun : (empty r).run (cs ++ [.mint t v now]) = ((empty r).run cs).put t v now :=
    run_concat _ _ _
  have hspent : ∀ t', spent t' ((empty r).answers (cs ++ [.mint t v now])) =
      spent t' ((empty r).answers cs) :=
    spent_answers_concat_of_none rfl
  -- the new token was never traded in, since only tokens handed out are
  have hfresh : spent t ((empty r).answers cs) = false := by
    cases hs : spent t ((empty r).answers cs) with
    | false => rfl
    | true =>
      obtain ⟨v', n', hmint⟩ := h.spentMinted t hs
      exact absurd hmint (hnew v' n')
  refine ⟨?_, ?_, ?_, ?_⟩
  · intro t' v' hmem
    rw [hrun] at hmem
    rcases mem_put.mp hmem with ⟨hold, -, -⟩ | ⟨rfl, rfl⟩
    · obtain ⟨n', hmint⟩ := h.minted t' v' hold
      exact ⟨n', List.mem_append_left _ hmint⟩
    · exact ⟨now, List.mem_concat_self⟩
  · intro hr t' v' hmem
    rw [hrun] at hmem
    rw [hspent]
    rcases mem_put.mp hmem with ⟨hold, -, -⟩ | ⟨rfl, -⟩
    · exact h.unspent hr t' v' hold
    · exact hfresh
  · intro t' v' n' hmint hlive hleft
    rw [hrun]
    rw [hspent] at hleft
    rcases List.mem_append.mp hmint with hold | hthis
    · -- an older token: it is not the new one, and it outlives the new call
      have hne : t' ≠ t := by
        rintro rfl
        exact hnew v' n' hold
      have hnow : now < v'.expiresAt := hlive _ List.mem_concat_self
      have hkept := h.kept t' v' n' hold (fun c hc => hlive c (List.mem_append_left _ hc)) hleft
      exact lookup_put_of_ne hne hkept hnow
    · obtain ⟨rfl, rfl, -⟩ := Call.mint.inj (List.mem_singleton.mp hthis)
      exact lookup_put_self
  · intro t' hs
    rw [hspent] at hs
    obtain ⟨v', n', hmint⟩ := h.spentMinted t' hs
    exact ⟨v', n', List.mem_append_left _ hmint⟩

/-- A call that gives nothing and hands nothing out keeps `Tracks` when the store after it holds
only entries it held before, and still holds every token unexpired at the time of the call. -/
lemma Tracks.quiet (h : Tracks r cs) {c : Call} (hc : c.minted? = none)
    (hnone : (((empty r).run cs).call c).1 = none)
    (hsub : ∀ t v, (t, v) ∈ (((empty r).run cs).call c).2.entries →
      (t, v) ∈ ((empty r).run cs).entries)
    (hkeep : ∀ t v, ((empty r).run cs).lookup t = some v → c.time < v.expiresAt →
      (((empty r).run cs).call c).2.lookup t = some v) :
    Tracks r (cs ++ [c]) := by
  have hspent := spent_answers_concat_of_none hnone
  refine ⟨?_, ?_, ?_, ?_⟩
  · intro t' v' hmem
    rw [run_concat] at hmem
    obtain ⟨n', hm⟩ := h.minted t' v' (hsub t' v' hmem)
    exact ⟨n', List.mem_append_left _ hm⟩
  · intro hr t' v' hmem
    rw [run_concat] at hmem
    rw [hspent]
    exact h.unspent hr t' v' (hsub t' v' hmem)
  · intro t' v' n' hm hlive hleft
    rw [run_concat]
    rw [hspent] at hleft
    -- the token was handed out before this call, and no call outlives it, this one included
    have hkept := h.kept t' v' n' (mem_of_mem_concat_of_minted? hc hm)
      (fun c' hc' => hlive c' (List.mem_append_left _ hc')) hleft
    exact hkeep t' v' hkept (hlive c List.mem_concat_self)
  · intro t' hs
    rw [hspent] at hs
    obtain ⟨v', n', hm⟩ := h.spentMinted t' hs
    exact ⟨v', n', List.mem_append_left _ hm⟩

/-- A call that gives nothing, hands nothing out and leaves the store as it is keeps `Tracks`. -/
lemma Tracks.idle (h : Tracks r cs) {c : Call} (hc : c.minted? = none)
    (hcall : ((empty r).run cs).call c = (none, (empty r).run cs)) : Tracks r (cs ++ [c]) := by
  refine h.quiet hc (by rw [hcall]) (fun t' v' hmem => ?_) (fun t' v' hkept _ => ?_)
  · rwa [hcall] at hmem
  · rwa [hcall]

/-- Dropping an expired token when it is traded in keeps `Tracks`. -/
lemma Tracks.expire (h : Tracks r cs) (hlookup : ((empty r).run cs).lookup t = some v)
    (hf : v.format = f) (hexp : v.expiresAt ≤ now) :
    Tracks r (cs ++ [.resolve (some t) f now]) := by
  have hcall : ((empty r).run cs).call (.resolve (some t) f now) =
      (none, ((empty r).run cs).erase t) :=
    resolve_of_expired hlookup hf hexp
  refine h.quiet rfl (by rw [hcall]) (fun t' v' hmem => ?_) (fun t' v' hkept hlive => ?_)
  · rw [hcall, mem_erase] at hmem
    exact hmem.1
  · -- the dropped token had expired, so it is not one unexpired at the call
    have hnow : now < v'.expiresAt := hlive
    have hne : t' ≠ t := by
      rintro rfl
      rw [hlookup] at hkept
      cases hkept
      omega
    rw [hcall, lookup_erase_of_ne hne]
    exact hkept

/-- Trading an unexpired token in for its format keeps `Tracks`: the token is used up under single
use, and stays otherwise. -/
lemma Tracks.trade (h : Tracks r cs) (hlookup : ((empty r).run cs).lookup t = some v)
    (hf : v.format = f) (hlive : now < v.expiresAt) :
    Tracks r (cs ++ [.resolve (some t) f now]) := by
  have hcall : ((empty r).run cs).call (.resolve (some t) f now) =
      (some v, if r = .singleUse then ((empty r).run cs).erase t else (empty r).run cs) := by
    simpa [call, retention_run] using resolve_of_live hlookup hf hlive
  have hrun : (empty r).run (cs ++ [.resolve (some t) f now]) =
      if r = .singleUse then ((empty r).run cs).erase t else (empty r).run cs := by
    rw [run_concat, hcall]
  have hspent : ∀ t', spent t' ((empty r).answers (cs ++ [.resolve (some t) f now])) =
      (spent t' ((empty r).answers cs) || decide (t = t')) := fun t' => by
    rw [answers_concat, hcall, spent_concat]
    simp [Call.tradesIn]
  refine ⟨?_, ?_, ?_, ?_⟩
  · intro t' v' hmem
    rw [hrun] at hmem
    have hold : (t', v') ∈ ((empty r).run cs).entries := by
      split at hmem
      · exact (mem_erase.mp hmem).1
      · exact hmem
    obtain ⟨n', hm⟩ := h.minted t' v' hold
    exact ⟨n', List.mem_append_left _ hm⟩
  · -- under single use the traded token is gone, and the others were not traded in
    intro hr t' v' hmem
    rw [hrun, if_pos hr, mem_erase] at hmem
    rw [hspent, h.unspent hr t' v' hmem.1, Bool.false_or, decide_eq_false_iff_not]
    exact fun heq => hmem.2 heq.symm
  · intro t' v' n' hm hlive' hleft
    have hkept := h.kept t' v' n' (mem_of_mem_concat_of_minted? rfl hm)
      (fun c hc => hlive' c (List.mem_append_left _ hc))
    rw [hrun]
    cases r with
    | singleUse =>
      rw [hspent] at hleft
      simp only [reduceCtorEq, false_or, Bool.or_eq_false_iff, decide_eq_false_iff_not] at hleft
      rw [if_pos rfl, lookup_erase_of_ne fun heq => hleft.2 heq.symm]
      exact hkept (.inr hleft.1)
    | untilExpiry =>
      rw [if_neg (by decide)]
      exact hkept (.inl rfl)
  · intro t' hs
    rw [hspent] at hs
    rcases Bool.or_eq_true_iff.mp hs with hs | heq
    · obtain ⟨v', n', hm⟩ := h.spentMinted t' hs
      exact ⟨v', n', List.mem_append_left _ hm⟩
    · -- the traded token is held, so it was handed out
      obtain rfl := of_decide_eq_true heq
      obtain ⟨n', hm⟩ := h.minted t v (lookup_eq_some_iff.mp hlookup)
      exact ⟨v, n', List.mem_append_left _ hm⟩

/-- Every call that hands out no token handed out before keeps `Tracks`. -/
lemma Tracks.concat (h : Tracks r cs) (c : Call)
    (hnew : ∀ t, c.minted? = some t → ∀ v n, Call.mint t v n ∉ cs) : Tracks r (cs ++ [c]) := by
  cases c with
  | mint t v now => exact h.mint (hnew t rfl)
  | resolve token f now =>
    cases token with
    | none => exact h.idle rfl (resolve_none _ f now)
    | some t =>
      cases hlookup : ((empty r).run cs).lookup t with
      | none => exact h.idle rfl (resolve_of_lookup_eq_none hlookup)
      | some v =>
        by_cases hf : v.format = f
        · by_cases hexp : v.expiresAt ≤ now
          · exact h.expire hlookup hf hexp
          · exact h.trade hlookup hf (Int.lt_of_not_ge hexp)
        · exact h.idle rfl (resolve_of_format_ne hlookup hf)

/-- Calls that hand out distinct tokens keep `Tracks` from the empty store on. -/
theorem tracks_run (r : Retention) (cs : List Call) (hnodup : (cs.filterMap Call.minted?).Nodup) :
    Tracks r cs := by
  induction cs using List.reverseRecOn with
  | nil => exact tracks_nil r
  | append_singleton cs c ih =>
    rw [List.filterMap_append, List.nodup_append] at hnodup
    refine (ih hnodup.1).concat c fun t ht v n hmint => ?_
    have hin : t ∈ cs.filterMap Call.minted? := List.mem_filterMap.mpr ⟨_, hmint, rfl⟩
    exact hnodup.2.2 t hin t (by simp [ht]) rfl

/-! ### Trading in after calls -/

/-- After calls that hand out distinct tokens, a token traded in at a time no earlier than the
calls gives a value exactly when it was handed out with that value, the format is the value's,
the value has not expired, and (for single-use tokens) it was not traded in before. -/
theorem resolve_eq_some_iff_of_tracks (h : Tracks r cs) (hnow : ∀ c ∈ cs, c.time ≤ now) :
    (((empty r).run cs).resolve (some t) f now).1 = some v ↔
      (∃ n, Call.mint t v n ∈ cs) ∧ v.format = f ∧ now < v.expiresAt ∧
        (r = .untilExpiry ∨ spent t ((empty r).answers cs) = false) := by
  constructor
  · intro hres
    cases hlookup : ((empty r).run cs).lookup t with
    | none => simp [resolve_of_lookup_eq_none hlookup] at hres
    | some w =>
      have hmem := lookup_eq_some_iff.mp hlookup
      by_cases hf : w.format = f
      · by_cases hexp : w.expiresAt ≤ now
        · simp [resolve_of_expired hlookup hf hexp] at hres
        · have hlive : now < w.expiresAt := Int.lt_of_not_ge hexp
          rw [resolve_of_live hlookup hf hlive] at hres
          obtain rfl := Option.some.inj hres
          refine ⟨h.minted t w hmem, hf, hlive, ?_⟩
          cases r with
          | singleUse => exact .inr (h.unspent rfl t w (by simpa using hmem))
          | untilExpiry => exact .inl rfl
      · simp [resolve_of_format_ne hlookup hf] at hres
  · rintro ⟨⟨n, hmint⟩, hf, hlive, hleft⟩
    -- every call came no later than `now`, so none outlived the value
    have hkept := h.kept t v n hmint (fun c hc => Int.lt_of_le_of_lt (hnow c hc) hlive) hleft
    rw [resolve_of_live hkept hf hlive]

/-- Right after a token is handed out at `now`, following calls that hand out distinct tokens, the
store holds at most one token more than the tokens handed out before that are unexpired at `now`
and not used up. -/
theorem size_run_mint_le (h : Tracks r cs) (t : Uuid) (v : TokenValue) (now : Int) :
    ((empty r).run (cs ++ [.mint t v now])).size ≤ 1 + ((empty r).liveAt cs now).length := by
  rw [run_concat]
  -- the entries besides the new one are held tokens that are unexpired, so live
  set held := (empty r).run cs
  set kept := held.entries.filter fun e => !e.2.isExpired now && e.1 != t
  have hsize : (held.put t v now).size = kept.length + 1 := by
    simp [size, put, kept]
  have hsub : kept.map (·.1) ⊆ (empty r).liveAt cs now := by
    intro t' ht'
    obtain ⟨⟨t'', v'⟩, hk, rfl⟩ := List.mem_map.mp ht'
    have hmemk := List.mem_filter.mp hk
    have hlive : now < v'.expiresAt := by
      have hkeep : v'.isExpired now = false ∧ t'' ≠ t := by simpa using hmemk.2
      simpa [TokenValue.isExpired] using hkeep.1
    obtain ⟨n', hmint⟩ := h.minted t'' v' hmemk.1
    have hleft : (empty r).retention = .untilExpiry ∨
        spent t'' ((empty r).answers cs) = false := by
      cases r with
      | singleUse => exact .inr (h.unspent rfl t'' v' hmemk.1)
      | untilExpiry => exact .inl rfl
    exact List.mem_filterMap.mpr ⟨.mint t'' v' n', hmint, if_pos ⟨hlive, hleft⟩⟩
  have hle := ((held.distinct_filter _).subperm hsub).length_le
  rw [List.length_map] at hle
  change kept.length ≤ _ at hle
  change (held.put t v now).size ≤ _
  omega

end TokenStore

/-- A trade-in gives exactly the value handed out for the token, in its format, unexpired and
not used up; any other trade-in changes nothing; a mint leaves at most one token beyond the live. -/
theorem tokens_resolve_as_handed_out (r : Retention) :
    (∀ (cs : List TokenStore.Call) (t : Token.Uuid) (f : Format) (now : Int) (v : TokenValue),
      (cs.filterMap TokenStore.Call.minted?).Nodup →
      (cs ++ [TokenStore.Call.resolve (some t) f now]).Pairwise
        (fun a b : TokenStore.Call => a.time ≤ b.time) →
      ((((TokenStore.empty r).run cs).resolve (some t) f now).1 = some v ↔
        (∃ n, TokenStore.Call.mint t v n ∈ cs) ∧ v.format = f ∧ now < v.expiresAt ∧
          (r = .untilExpiry ∨ TokenStore.spent t ((TokenStore.empty r).answers cs) = false))) ∧
    (∀ (s : TokenStore) (t : Token.Uuid) (v : TokenValue) (f : Format) (now : Int),
      s.lookup t = some v → v.format ≠ f → s.resolve (some t) f now = (none, s)) ∧
    (∀ (s : TokenStore) (f : Format) (now : Int), s.resolve none f now = (none, s)) ∧
    (∀ (s : TokenStore) (t : Token.Uuid) (f : Format) (now : Int),
      s.lookup t = none → s.resolve (some t) f now = (none, s)) ∧
    (∀ (s : TokenStore) (t t' : Token.Uuid) (v v' : TokenValue) (now : Int),
      (t', v') ∈ (s.put t v now).entries → t' ≠ t → now < v'.expiresAt) ∧
    (∀ (cs : List TokenStore.Call) (t : Token.Uuid) (v : TokenValue) (now : Int),
      ((cs ++ [TokenStore.Call.mint t v now]).filterMap TokenStore.Call.minted?).Nodup →
        ((TokenStore.empty r).run (cs ++ [TokenStore.Call.mint t v now])).size ≤
          1 + ((TokenStore.empty r).liveAt cs now).length) := by
  refine ⟨fun cs t f now v hnodup hclock => ?_, fun s t v f now h hf => TokenStore.resolve_of_format_ne h hf,
    fun s f now => TokenStore.resolve_none s f now,
    fun s t f now h => TokenStore.resolve_of_lookup_eq_none h,
    fun s t t' v v' now h hne => TokenStore.expiresAt_of_mem_put h hne,
    fun cs t v now hnodup => ?_⟩
  · have hnow : ∀ c ∈ cs, c.time ≤ now :=
      fun c hc => (List.pairwise_append.mp hclock).2.2 c hc _ (List.mem_singleton_self _)
    exact TokenStore.resolve_eq_some_iff_of_tracks (TokenStore.tracks_run r cs hnodup) hnow
  · rw [List.filterMap_append, List.nodup_append] at hnodup
    exact TokenStore.size_run_mint_le (TokenStore.tracks_run r cs hnodup.1) t v now

/-- Three banner tokens handed out at `0`, `10` and `60`, expiring at `100`, `50` and `200`,
with the first traded in at `20`: the second has expired when the third is handed out. -/
def bannerTokenCalls : List TokenStore.Call :=
  [.mint ⟨1⟩ ⟨1.5, .displayUrl "https://cdn.example.com/a.js", .banner, 100⟩ 0,
    .mint ⟨2⟩ ⟨2, .displayUrl "https://cdn.example.com/b.js", .banner, 50⟩ 10,
    .resolve (some ⟨1⟩) .banner 20,
    .mint ⟨3⟩ ⟨1, .displayUrl "https://cdn.example.com/c.js", .banner, 200⟩ 60]

/-- After `bannerTokenCalls` on a single-use store, at `70` the third token gives its value,
the first gives nothing (it was used up at `20`), and neither does the second (it expired at
`50`); and a fourth token handed out at `80` leaves the store within one of the live tokens. -/
theorem tokens_resolve_as_handed_out_after_use_and_expiry :
    (((TokenStore.empty .singleUse).run bannerTokenCalls).resolve (some ⟨3⟩) .banner 70).1 =
      some ⟨1, .displayUrl "https://cdn.example.com/c.js", .banner, 200⟩ ∧
    (((TokenStore.empty .singleUse).run bannerTokenCalls).resolve (some ⟨1⟩) .banner 70).1 ≠
      some ⟨1.5, .displayUrl "https://cdn.example.com/a.js", .banner, 100⟩ ∧
    (((TokenStore.empty .singleUse).run bannerTokenCalls).resolve (some ⟨2⟩) .banner 70).1 ≠
      some ⟨2, .displayUrl "https://cdn.example.com/b.js", .banner, 50⟩ ∧
    ((TokenStore.empty .singleUse).run (bannerTokenCalls ++
        [.mint ⟨4⟩ ⟨1, .displayUrl "https://cdn.example.com/d.js", .banner, 300⟩ 80])).size ≤
      1 + ((TokenStore.empty .singleUse).liveAt bannerTokenCalls 80).length := by
  have hnodup : (bannerTokenCalls.filterMap TokenStore.Call.minted?).Nodup := by decide
  have horder : ∀ t f, (bannerTokenCalls ++ [TokenStore.Call.resolve (some t) f 70]).Pairwise
      (fun a b : TokenStore.Call => a.time ≤ b.time) := by
    intro t f
    simp [bannerTokenCalls, TokenStore.Call.time]
  obtain ⟨hresolve, -, -, -, -, hsize⟩ := tokens_resolve_as_handed_out .singleUse
  refine ⟨(hresolve _ _ _ _ _ hnodup (horder _ _)).mpr
      ⟨⟨60, by simp [bannerTokenCalls]⟩, rfl, by decide, .inr (by decide)⟩, fun h => ?_,
    fun h => ?_, hsize _ _ _ _ (by decide)⟩
  · -- the first token was traded in for its value at `20`
    have hspent := ((hresolve _ _ _ _ _ hnodup (horder _ _)).mp h).2.2.2
    revert hspent
    decide
  · -- the second token expired at `50`
    have hlive := ((hresolve _ _ _ _ _ hnodup (horder _ _)).mp h).2.2.1
    revert hlive
    decide

end HeaderBidding
