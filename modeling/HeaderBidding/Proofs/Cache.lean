import Mathlib.Tactic.Lemma
import HeaderBidding.Bid.Cache

/-!
# The bid cache as a map

A `BidCache` is read through `peek?`, the bid under each key. Putting a bid under a key changes
what that key reads and nothing else; taking a key out empties it and leaves every other key as
it was. Putting a list of bids, each under its own key, leaves each key with the last bid put
under it, or with what it held when none was.

The stored entries only ever come from what was put: after a put or a removal every entry is the
new one or one that was there before.
-/

namespace HeaderBidding

namespace BidCache

/-! ### Reading keys -/

@[simp] lemma peek?_empty (k : SlotKey) : BidCache.empty.peek? k = none := rfl

/-- Putting a bid under `k` changes what `k` reads and nothing else. -/
@[simp] lemma peek?_upsert (c : BidCache) (k : SlotKey) (b : Bid) (k' : SlotKey) :
    (c.upsert k b).peek? k' = if k' = k then some b else c.peek? k' := by
  unfold upsert peek?
  split
  · rename_i present
    -- the entries are rewritten in place, so the first entry under `k'` is the rewritten one
    rw [List.find?_map]
    have hkey : ((fun e : SlotKey × Bid => decide (e.1 = k')) ∘
        fun (e : SlotKey × Bid) => if e.1 = k then (e.1, b) else (e.1, e.2)) =
        fun e => decide (e.1 = k') := by
      funext e
      by_cases h : e.1 = k <;> simp [h]
    rw [hkey]
    by_cases hk : k' = k
    · subst hk
      obtain ⟨e, he, hek⟩ := List.any_eq_true.mp present
      have hfound : (c.entries.find? fun e => decide (e.1 = k')).isSome := by
        rw [List.find?_isSome]
        exact ⟨e, he, hek⟩
      obtain ⟨f, hf⟩ := Option.isSome_iff_exists.mp hfound
      have hfk : f.1 = k' := by simpa using List.find?_some hf
      simp [hf, hfk]
    · cases hf : c.entries.find? fun e => decide (e.1 = k') with
      | none => simp [hk]
      | some f =>
        have hfk : f.1 = k' := by simpa using List.find?_some hf
        simp [hk, hfk]
  · rename_i absent
    -- `k` is new: it goes last, behind every entry that could answer another key
    rw [List.find?_append]
    by_cases hk : k' = k
    · subst hk
      have hnone : (c.entries.find? fun e => decide (e.1 = k')) = none := by
        rw [List.find?_eq_none]
        intro e he hek
        exact absent (List.any_eq_true.mpr ⟨e, he, hek⟩)
      simp [hnone]
    · cases c.entries.find? fun e => decide (e.1 = k') <;> simp [hk, Ne.symm hk]

/-- Taking `k` out empties `k` and leaves the other keys as they were. -/
@[simp] lemma peek?_remove (c : BidCache) (k k' : SlotKey) :
    (c.remove k).2.peek? k' = if k' = k then none else c.peek? k' := by
  unfold remove peek?
  simp only [List.find?_filter]
  by_cases hk : k' = k
  · subst hk
    rw [if_pos rfl, Option.map_eq_none_iff, List.find?_eq_none]
    intro e _ h
    simp only [decide_eq_true_eq] at h
    exact h.1 h.2
  · rw [if_neg hk]
    congr 2
    funext e
    by_cases he : e.1 = k' <;> simp [he, hk]

/-- What taking a key out gives back is what the key read. -/
@[simp] lemma remove_fst (c : BidCache) (k : SlotKey) : (c.remove k).1 = c.peek? k := rfl

/-! ### Putting many bids -/

/-- Putting bids in order, each under the key `key` gives it, leaves each key with the last bid
put under it, or with what it read before when none was. -/
lemma peek?_foldl_upsert (key : Bid → SlotKey) (bids : List Bid) (c : BidCache)
    (k : SlotKey) :
    (bids.foldl (fun c b => c.upsert (key b) b) c).peek? k =
      ((bids.filter fun b => key b = k).getLast?).or (c.peek? k) := by
  induction bids generalizing c with
  | nil => simp
  | cons b rest ih =>
    rw [List.foldl_cons, ih, peek?_upsert]
    by_cases hb : key b = k
    · cases hlast : (rest.filter fun b => key b = k).getLast? <;>
        simp [hb, hlast, List.getLast?_cons]
    · simp [hb, Ne.symm hb]

/-! ### Stored entries -/

/-- After a put, an entry is the new one or an entry under another key that was there. -/
lemma mem_upsert {c : BidCache} {k k' : SlotKey} {b b' : Bid}
    (h : (k', b') ∈ (c.upsert k b).entries) :
    (k' = k ∧ b' = b) ∨ (k' ≠ k ∧ (k', b') ∈ c.entries) := by
  unfold upsert at h
  split at h
  · obtain ⟨⟨k₀, b₀⟩, h₀, he⟩ := List.mem_map.mp h
    by_cases hk : k₀ = k
    · simp only [hk, if_true, Prod.mk.injEq] at he
      exact Or.inl ⟨he.1.symm, he.2.symm⟩
    · simp only [hk, if_false, Prod.mk.injEq] at he
      obtain ⟨rfl, rfl⟩ := he
      exact Or.inr ⟨hk, h₀⟩
  · rename_i absent
    rcases List.mem_append.mp h with h | h
    · refine Or.inr ⟨fun hk => absent ?_, h⟩
      exact List.any_eq_true.mpr ⟨(k', b'), h, by simp [hk]⟩
    · simp only [List.mem_singleton, Prod.mk.injEq] at h
      exact Or.inl h

/-- After a removal, an entry is one that was there, under another key. -/
lemma mem_remove {c : BidCache} {k k' : SlotKey} {b' : Bid}
    (h : (k', b') ∈ (c.remove k).2.entries) : k' ≠ k ∧ (k', b') ∈ c.entries := by
  unfold remove at h
  simpa [and_comm] using List.mem_filter.mp h

end BidCache

end HeaderBidding
