import Mathlib.Tactic.Lemma
import Mathlib.Data.List.Induction
import HeaderBidding.Ad.Screen

/-!
# Requests in chunks

A prefetch asks for the keys of its ad units in chunks (`Screen.chunks`): the keys of the valid
units, each kept where it first occurs, cut into consecutive chunks of `chunkSize`. This module
says what those chunks are, for every screen and every list of units.

* Keeping first occurrences is the standard library's `List.eraseDups`
  (`firstOccurrences_eq_eraseDups`), so a key is dropped exactly when an equal key came before,
  wherever it came from.
* Cutting keeps every element, in order (`flatten_chunksOf`), makes no empty chunk
  (`ne_nil_of_mem_chunksOf`), fills every chunk but the last (`length_of_mem_dropLast_chunksOf`),
  overfills none (`length_le_of_mem_chunksOf`), and makes as many chunks as the length divided by
  the chunk size, rounded up (`length_chunksOf`).

`chunks_partition_the_distinct_keys` puts both together.
-/

namespace HeaderBidding

/-! ### Keeping first occurrences -/

section FirstOccurrences

variable {α : Type} [DecidableEq α]

lemma firstOccurrences_append_singleton (l : List α) (a : α) :
    firstOccurrences (l ++ [a]) =
      if a ∈ firstOccurrences l then firstOccurrences l else firstOccurrences l ++ [a] := by
  simp [firstOccurrences, List.foldl_append]

/-- Keeping each element where it first occurs is what the standard library's `eraseDups` does. -/
lemma firstOccurrences_eq_eraseDups (l : List α) : firstOccurrences l = l.eraseDups := by
  induction l using List.reverseRecOn with
  | nil => rfl
  | append_singleton l a ih =>
    rw [firstOccurrences_append_singleton, List.eraseDups_append, ih]
    -- the new element is erased exactly when it occurs before
    by_cases ha : a ∈ l
    · rw [if_pos (List.mem_eraseDups.mpr ha)]
      simp [ha, List.removeAll]
    · rw [if_neg (mt List.mem_eraseDups.mp ha)]
      simp [ha, List.removeAll, List.eraseDups_cons]

/-- A list without repeats is its own first occurrences. -/
lemma firstOccurrences_of_nodup {l : List α} (h : l.Nodup) : firstOccurrences l = l := by
  induction l using List.reverseRecOn with
  | nil => rfl
  | append_singleton l a ih =>
    obtain ⟨hl, -, hdisjoint⟩ := List.nodup_append.mp h
    have ha : a ∉ l := fun ha => hdisjoint a ha a (List.mem_singleton_self a) rfl
    rw [firstOccurrences_append_singleton, ih hl, if_neg ha]

end FirstOccurrences

/-! ### Cutting into chunks -/

section Chunks

variable {α : Type} {n : Nat} {l : List α} {c : List α}

@[simp] lemma chunksOf_nil (n : Nat) : chunksOf n ([] : List α) = [] := by
  rw [chunksOf]
  simp

lemma chunksOf_of_ne_nil (hn : 0 < n) (hl : l ≠ []) :
    chunksOf n l = l.take n :: chunksOf n (l.drop n) := by
  rw [chunksOf, dif_pos ⟨hn, hl⟩]

/-- The chunks read the list back, in order. -/
lemma flatten_chunksOf (hn : 0 < n) (l : List α) : (chunksOf n l).flatten = l := by
  fun_induction chunksOf n l with
  | case1 l h _ ih => rw [List.flatten_cons, ih, List.take_append_drop]
  | case2 l h =>
    have hl : l = [] := by simpa [hn] using h
    simp [hl]

lemma ne_nil_of_mem_chunksOf (h : c ∈ chunksOf n l) : c ≠ [] := by
  fun_induction chunksOf n l with
  | case1 l hl _ ih =>
    rcases List.mem_cons.mp h with rfl | hrest
    · simpa [List.take_eq_nil_iff, Nat.pos_iff_ne_zero.mp hl.1] using hl.2
    · exact ih hrest
  | case2 l hl => simp at h

lemma length_le_of_mem_chunksOf (h : c ∈ chunksOf n l) : c.length ≤ n := by
  fun_induction chunksOf n l with
  | case1 l hl _ ih =>
    rcases List.mem_cons.mp h with rfl | hrest
    · exact List.length_take_le _ _
    · exact ih hrest
  | case2 l hl => simp at h

/-- Every chunk followed by another is full. -/
lemma length_of_mem_dropLast_chunksOf (h : c ∈ (chunksOf n l).dropLast) : c.length = n := by
  fun_induction chunksOf n l with
  | case1 l hl _ ih =>
    -- the first chunk is followed by another exactly when the list is longer than one chunk
    by_cases hrest : l.drop n = []
    · simp [hrest] at h
    · rw [chunksOf_of_ne_nil hl.1 hrest, List.dropLast_cons_cons,
        ← chunksOf_of_ne_nil hl.1 hrest] at h
      rcases List.mem_cons.mp h with rfl | h
      · have hlong : n < l.length := by simpa using hrest
        simp only [List.length_take]
        omega
      · exact ih h
  | case2 l hl => simp at h

/-- There are as many chunks as the length divided by the chunk size, rounded up. -/
lemma length_chunksOf (hn : 0 < n) (l : List α) :
    (chunksOf n l).length = (l.length + n - 1) / n := by
  fun_induction chunksOf n l with
  | case1 l hl _ ih =>
    rw [List.length_cons, ih, List.length_drop]
    have hpos : 0 < l.length := List.length_pos_iff.mpr hl.2
    by_cases hshort : l.length ≤ n
    · -- one chunk takes the whole list
      have hzero : (l.length - n + n - 1) / n = 0 := Nat.div_eq_of_lt (by omega)
      have hone : (l.length + n - 1) / n = 1 := by
        refine Nat.div_eq_of_lt_le ?_ ?_ <;> omega
      rw [hzero, hone]
    · -- the rest is one chunk shorter
      have hsplit : l.length + n - 1 = (l.length - n + n - 1) + n := by omega
      rw [hsplit, Nat.add_div_right _ hn]
  | case2 l hl =>
    have hl : l = [] := by simpa [hn] using hl
    simp [hl, Nat.div_eq_of_lt (Nat.sub_lt hn Nat.one_pos)]

end Chunks

/-! ### The chunks of a prefetch -/

/-- The chunks a prefetch asks for partition the distinct keys of the valid units: let `ks` be the
keys of the units, in order, the invalid units left out and every key equal to an earlier one
dropped. The chunks read `ks` back in order; none is empty; all but the last hold exactly
`chunkSize` keys and the last at most that many; and there are `ks.length / chunkSize` of them,
rounded up (none when `ks` is empty). -/
theorem chunks_partition_the_distinct_keys (s : Screen) (units : List AdUnit) :
    let ks := (units.filterMap s.keyOf?).eraseDups
    let cs := s.chunks units
    cs.flatten = ks ∧ (∀ c ∈ cs, c ≠ []) ∧
      (∀ c ∈ cs.dropLast, c.length = Screen.chunkSize) ∧
      (∀ c ∈ cs.getLast?, c.length ≤ Screen.chunkSize) ∧
      cs.length = (ks.length + Screen.chunkSize - 1) / Screen.chunkSize := by
  have hsize : 0 < Screen.chunkSize := by decide
  intro ks cs
  have hcs : cs = chunksOf Screen.chunkSize ks := by
    simp only [cs, ks, Screen.chunks, firstOccurrences_eq_eraseDups]
  rw [hcs]
  refine ⟨flatten_chunksOf hsize ks, fun c hc => ne_nil_of_mem_chunksOf hc,
    fun c hc => length_of_mem_dropLast_chunksOf hc, fun c hc => ?_, length_chunksOf hsize ks⟩
  exact length_le_of_mem_chunksOf (List.mem_of_getLast? hc)

end HeaderBidding
