import Mathlib.Data.List.Nodup
import Mathlib.Logic.Function.Basic

/-!
# Tables: lists kept at the front of an array

An array is a function of the index.  `entries a start n` is the list of its `n`
entries from `start` on; writing behind the last one adds to the list
(`entries_update`), moving the entries behind an index down by one removes from it
(`entries_shiftDown`), and copying them into a buffer replaces as many of its slots
(`copyTo_eq`).  `runLength` is the length of the longest run of entries with a property
(`runLength_eq_iff`).
-/

namespace Table

open Function

variable {α : Type}

def entries (a : Nat → α) (start n : Nat) : List α := (List.range' start n).map a

/-- The loop `for (j = i; j < n - 1; j++) a[j] = a[j + 1];`. -/
def shiftDown (a : Nat → α) (i n : Nat) : Nat → α :=
  (List.range' i (n - 1 - i)).foldl (fun a j => update a j (a (j + 1))) a

@[simp] theorem length_entries (a : Nat → α) (start n : Nat) : (entries a start n).length = n := by
  simp [entries]

theorem getElem_entries (a : Nat → α) (start n k : Nat) (h : k < (entries a start n).length) :
    (entries a start n)[k] = a (start + k) := by
  simp [entries]

theorem entries_congr {a b : Nat → α} {start n : Nat}
    (h : ∀ k, start ≤ k → k < start + n → a k = b k) : entries a start n = entries b start n := by
  refine List.map_congr_left fun k hk => ?_
  obtain ⟨hlo, hhi⟩ := List.mem_range'_1.1 hk
  exact h k hlo hhi

theorem entries_update (a : Nat → α) (start n : Nat) (x : α) :
    entries (update a (start + n) x) start (n + 1) = entries a start n ++ [x] := by
  have hkept : entries (update a (start + n) x) start n = entries a start n :=
    entries_congr fun k _ hk => update_of_ne (by omega) _ _
  unfold entries at hkept ⊢
  rw [List.range'_1_concat, List.map_append, hkept]
  simp

theorem mem_entries {a : Nat → α} {start n k : Nat} (hlo : start ≤ k) (hhi : k < start + n) :
    a k ∈ entries a start n :=
  List.mem_map.2 ⟨k, List.mem_range'_1.2 ⟨hlo, hhi⟩, rfl⟩

theorem shiftDown_apply (a : Nat → α) (i n k : Nat) :
    shiftDown a i n k = if i ≤ k ∧ k < n - 1 then a (k + 1) else a k := by
  have key : ∀ (m i : Nat) (a : Nat → α),
      (List.range' i m).foldl (fun a j => update a j (a (j + 1))) a k =
        if i ≤ k ∧ k < i + m then a (k + 1) else a k := by
    intro m
    induction m with
    | zero =>
      intro i a
      rw [if_neg (by omega)]
      rfl
    | succ m ih =>
      intro i a
      rw [List.range'_succ, List.foldl_cons, ih]
      by_cases hk : k = i
      · subst hk
        rw [if_neg (by omega), if_pos (by omega), update_self]
      · by_cases hin : i + 1 ≤ k ∧ k < i + 1 + m
        · rw [if_pos hin, if_pos (by omega), update_of_ne (by omega)]
        · rw [if_neg hin, if_neg (by omega), update_of_ne hk]
  unfold shiftDown
  rw [key]
  by_cases hin : i ≤ k ∧ k < n - 1
  · rw [if_pos hin, if_pos (by omega)]
  · rw [if_neg hin, if_neg (by omega)]

/-- Moving down removes one entry, and keeps the order of the others. -/
theorem entries_shiftDown (a : Nat → α) {start n i : Nat} (hlo : start ≤ i) (hhi : i < start + n) :
    entries (shiftDown a i (start + n)) start (n - 1) =
      (entries a start n).eraseIdx (i - start) := by
  apply List.ext_getElem
  · rw [length_entries, List.length_eraseIdx, length_entries, if_pos (by omega)]
  · intro k hk _
    rw [length_entries] at hk
    rw [getElem_entries, shiftDown_apply, List.getElem_eraseIdx]
    by_cases hbefore : k < i - start
    · rw [if_neg (by omega), dif_pos hbefore, getElem_entries]
    · rw [if_pos (by omega), dif_neg hbefore, getElem_entries]
      rfl

/-- How many of the `n` entries have the property before one has not. -/
def runLength (m : α → Bool) (a : Nat → α) (start n : Nat) : Nat :=
  ((entries a start n).takeWhile m).length

theorem entries_succ (a : Nat → α) (start n : Nat) :
    entries a start (n + 1) = a start :: entries a (start + 1) n := by
  simp [entries, List.range'_succ]

theorem runLength_succ (m : α → Bool) (a : Nat → α) (start n : Nat) :
    runLength m a start (n + 1) =
      if m (a start) = true then runLength m a (start + 1) n + 1 else 0 := by
  unfold runLength
  rw [entries_succ, List.takeWhile_cons]
  split
  · rfl
  · rfl

theorem runLength_spec (m : α → Bool) (a : Nat → α) (n : Nat) : ∀ start,
    runLength m a start n ≤ n ∧ (∀ i, i < runLength m a start n → m (a (start + i)) = true) ∧
      (runLength m a start n < n → ¬m (a (start + runLength m a start n)) = true) := by
  induction n with
  | zero => exact fun start => ⟨Nat.le_refl 0, nofun, nofun⟩
  | succ n ih =>
    intro start
    obtain ⟨hle, hrun, hend⟩ := ih (start + 1)
    rw [runLength_succ]
    split
    · rename_i hm
      refine ⟨by omega, fun i hi => ?_, fun hlt => ?_⟩
      · cases i with
        | zero => exact hm
        | succ i =>
          rw [show start + (i + 1) = start + 1 + i by omega]
          exact hrun i (by omega)
      · rw [show start + (runLength m a (start + 1) n + 1) =
          start + 1 + runLength m a (start + 1) n by omega]
        exact hend (by omega)
    · rename_i hm
      exact ⟨by omega, nofun, fun _ => hm⟩

/-- **The longest run**: all before have the property, and the next, if there is one, has not. -/
theorem runLength_eq_iff {m : α → Bool} {a : Nat → α} {start n k : Nat} :
    runLength m a start n = k ↔
      k ≤ n ∧ (∀ i, i < k → m (a (start + i)) = true) ∧ (k < n → ¬m (a (start + k)) = true) := by
  obtain ⟨hle, hrun, hend⟩ := runLength_spec m a n start
  constructor
  · rintro rfl
    exact ⟨hle, hrun, hend⟩
  · rintro ⟨hle', hrun', hend'⟩
    rcases Nat.lt_trichotomy (runLength m a start n) k with hlt | heq | hgt
    · exact absurd (hrun' _ hlt) (hend (by omega))
    · exact heq
    · exact absurd (hrun k hgt) (hend' (by omega))

/-- The loop `while (n--) out[idx++] = *p++;`, or `none` where it writes behind the end of `out`. -/
def copyTo (a : Nat → α) : Nat → Nat → Nat → List α → Option (List α)
  | _, _, 0, out => some out
  | p, idx, n + 1, out =>
    if idx < out.length then copyTo a (p + 1) (idx + 1) n (out.set idx (a p)) else none

theorem copyTo_eq (a : Nat → α) (n : Nat) : ∀ (p idx : Nat) (out : List α), idx ≤ out.length →
    copyTo a p idx n out =
      if idx + n ≤ out.length then some (out.take idx ++ entries a p n ++ out.drop (idx + n))
      else none := by
  induction n with
  | zero =>
    intro p idx out h
    rw [Nat.add_zero, if_pos h]
    simp [copyTo, entries]
  | succ n ih =>
    intro p idx out h
    unfold copyTo
    by_cases hlt : idx < out.length
    · rw [if_pos hlt, ih _ _ _ (by rw [List.length_set]; omega), List.length_set]
      by_cases hroom : idx + (n + 1) ≤ out.length
      · have htake : (out.set idx (a p)).take (idx + 1) = out.take idx ++ [a p] := by
          rw [List.take_add_one, List.take_set_of_le (Nat.le_refl idx)]
          simp [hlt]
        have hdrop : (out.set idx (a p)).drop (idx + 1 + n) = out.drop (idx + (n + 1)) := by
          rw [List.drop_set_of_lt (by omega), show idx + 1 + n = idx + (n + 1) by omega]
        rw [if_pos (by omega), if_pos hroom, htake, hdrop]
        simp [entries, List.range'_succ]
      · rw [if_neg (by omega), if_neg hroom]
    · rw [if_neg hlt, if_neg (by omega)]

end Table
