import Mathlib.Data.List.GetD
import SwitchOcSuite.Lib.Table
import SwitchOcSuite.Loader.Cvb

/-!
# Walking a DVFS table (`pcv_common.hpp`)

`GetDvfsTableEntryCount` is a template: an entry is any number of bytes, and empty if all
of them are zero.  The walk is modelled over the bytes from the head of the table on, with
`none` for a read behind them.

    dvfsTable_right                     what the two functions return, and what they read
    getDvfsTableEntryCount_entryBytes   over CVB entries, the walk of `Loader.Cvb`
-/

namespace SwitchOc.DvfsTable

open Table

/-! ## The functions -/

/-- The loop of `is_empty` over `n` bytes from `p` on. -/
def isEmptyFrom (bytes : List UInt8) : Nat → Nat → Option Bool
  | 0, _ => some true
  | n + 1, p =>
    match bytes[p]? with
    | none => none
    | some b => if b ≠ 0 then some false else isEmptyFrom bytes n (p + 1)

/-- `is_empty` of the entry at an index. -/
def isEmpty (sizeofNT : Nat) (bytes : List UInt8) (entry : Nat) : Option Bool :=
  isEmptyFrom bytes sizeofNT (entry * sizeofNT)

/-- The `while` loop with `n` turns left. -/
def countFrom (sizeofNT : Nat) (bytes : List UInt8) : Nat → Nat → Option Nat
  | 0, count => some count
  | n + 1, count =>
    match isEmpty sizeofNT bytes count with
    | none => none
    | some true => some count
    | some false => countFrom sizeofNT bytes n (count + 1)

def getDvfsTableEntryCount (sizeofNT : Nat) (table_head : List UInt8) : Option Nat :=
  countFrom sizeofNT table_head dvfsTableEntryLimit 0

/-- The index of the last entry; the inner `none` is the null pointer. -/
def getDvfsTableLastEntry (sizeofNT : Nat) (table_head : List UInt8) : Option (Option Nat) :=
  match getDvfsTableEntryCount sizeofNT table_head with
  | none => none
  | some count => if count = 0 then some none else some (some (count - 1))

/-! ## What is read -/

/-- The bytes of the entry at an index. -/
def entryAt (sizeofNT : Nat) (bytes : List UInt8) (entry : Nat) : List UInt8 :=
  (bytes.drop (entry * sizeofNT)).take sizeofNT

/-- Some byte of the entry is not zero. -/
def inUse (entry : List UInt8) : Bool := !entry.all (· = 0)

/-- The length of the longest prefix of entries in use, among the first `limit`. -/
def usedCount (sizeofNT : Nat) (bytes : List UInt8) : Nat :=
  runLength inUse (entryAt sizeofNT bytes) 0 dvfsTableEntryLimit

theorem isEmptyFrom_eq (bytes : List UInt8) (n : Nat) : ∀ p, p + n ≤ bytes.length →
    isEmptyFrom bytes n p = some (((bytes.drop p).take n).all (· = 0)) := by
  induction n with
  | zero => exact fun p _ => rfl
  | succ n ih =>
    intro p hp
    have hlt : p < bytes.length := by omega
    unfold isEmptyFrom
    rw [List.getElem?_eq_getElem hlt, List.drop_eq_getElem_cons hlt, List.take_succ_cons,
      List.all_cons]
    dsimp only
    by_cases hb : bytes[p] = 0
    · rw [if_neg (not_not.2 hb), ih (p + 1) (by omega)]
      simp [hb]
    · rw [if_pos hb]
      simp [hb]

theorem isEmpty_eq {sizeofNT : Nat} {bytes : List UInt8} {entry : Nat}
    (h : (entry + 1) * sizeofNT ≤ bytes.length) :
    isEmpty sizeofNT bytes entry = some (!inUse (entryAt sizeofNT bytes entry)) := by
  rw [Nat.succ_mul] at h
  unfold isEmpty inUse entryAt
  rw [isEmptyFrom_eq bytes sizeofNT _ h, Bool.not_not]

/-- The walk reads up to the first empty entry, or all of its turns. -/
theorem countFrom_eq (sizeofNT : Nat) (bytes : List UInt8) (n : Nat) : ∀ count,
    (count + min (runLength inUse (entryAt sizeofNT bytes) count n + 1) n) * sizeofNT ≤
      bytes.length →
    countFrom sizeofNT bytes n count =
      some (count + runLength inUse (entryAt sizeofNT bytes) count n) := by
  induction n with
  | zero => exact fun count _ => rfl
  | succ n ih =>
    intro count hlen
    have hentry : (count + 1) * sizeofNT ≤ bytes.length :=
      Nat.le_trans (Nat.mul_le_mul_right _ (by omega)) hlen
    unfold countFrom
    rw [isEmpty_eq hentry]
    rw [runLength_succ] at hlen ⊢
    cases hused : inUse (entryAt sizeofNT bytes count) with
    | false => rfl
    | true =>
      rw [hused, if_pos rfl] at hlen
      rw [if_pos rfl]
      show countFrom sizeofNT bytes n (count + 1) = _
      rw [ih (count + 1)]
      · congr 1
        omega
      · refine Nat.le_trans (Nat.mul_le_mul_right _ ?_) hlen
        omega

/-- How many entries the walk reads. -/
def readCount (sizeofNT : Nat) (bytes : List UInt8) : Nat :=
  min (usedCount sizeofNT bytes + 1) dvfsTableEntryLimit

theorem getDvfsTableEntryCount_eq {sizeofNT : Nat} {bytes : List UInt8}
    (h : readCount sizeofNT bytes * sizeofNT ≤ bytes.length) :
    getDvfsTableEntryCount sizeofNT bytes = some (usedCount sizeofNT bytes) := by
  have hrun := countFrom_eq sizeofNT bytes dvfsTableEntryLimit 0
  rw [Nat.zero_add, Nat.zero_add] at hrun
  exact hrun h

/-- Bytes behind the entries that are read make no difference. -/
theorem entryAt_take_append {sizeofNT n entry : Nat} {bytes : List UInt8} (rest : List UInt8)
    (h : entry < n) (hlen : n * sizeofNT ≤ bytes.length) :
    entryAt sizeofNT (bytes.take (n * sizeofNT) ++ rest) entry = entryAt sizeofNT bytes entry := by
  have hend : entry * sizeofNT + sizeofNT ≤ n * sizeofNT := by
    rw [← Nat.succ_mul]
    exact Nat.mul_le_mul_right _ h
  unfold entryAt
  rw [List.drop_append_of_le_length (by rw [List.length_take]; omega),
    List.take_append_of_le_length (by rw [List.length_drop, List.length_take]; omega),
    List.drop_take, List.take_take, Nat.min_eq_left (by omega)]

theorem usedCount_take_append {sizeofNT : Nat} {bytes : List UInt8} (rest : List UInt8)
    (hlen : readCount sizeofNT bytes * sizeofNT ≤ bytes.length) :
    usedCount sizeofNT (bytes.take (readCount sizeofNT bytes * sizeofNT) ++ rest) =
      usedCount sizeofNT bytes := by
  obtain ⟨hle, hrun, hend⟩ := runLength_eq_iff.1 (rfl : usedCount sizeofNT bytes = _)
  refine runLength_eq_iff.2 ⟨hle, fun i hi => ?_, fun hlt => ?_⟩
  · rw [Nat.zero_add, entryAt_take_append rest (by unfold readCount; omega) hlen, ← Nat.zero_add i]
    exact hrun i hi
  · rw [Nat.zero_add, entryAt_take_append rest (by unfold readCount; omega) hlen]
    have hempty := hend hlt
    rw [Nat.zero_add] at hempty
    exact hempty

/-- A table with 31 entries, or with an empty one, holds the entries that are read. -/
theorem readCount_le {sizeofNT slots : Nat} {bytes : List UInt8}
    (hlen : slots * sizeofNT ≤ bytes.length)
    (htable : dvfsTableEntryLimit ≤ slots ∨
      ∃ t, t < slots ∧ inUse (entryAt sizeofNT bytes t) = false) :
    readCount sizeofNT bytes * sizeofNT ≤ bytes.length := by
  refine Nat.le_trans (Nat.mul_le_mul_right _ ?_) hlen
  unfold readCount
  rcases htable with hfull | ⟨t, ht, hempty⟩
  · omega
  · obtain ⟨-, hrun, -⟩ := runLength_eq_iff.1 (rfl : usedCount sizeofNT bytes = _)
    have hle : usedCount sizeofNT bytes ≤ t := by
      rcases Nat.lt_or_ge t (usedCount sizeofNT bytes) with hlt | hge
      · have hused := hrun t hlt
        rw [Nat.zero_add, hempty] at hused
        exact absurd hused Bool.false_ne_true
      · exact hge
    omega

/-- **The count is the longest prefix of entries in use**, 31 at most; what is behind the
entry that ends it, and behind the 31st, is not read; and the last entry is that of the
prefix. -/
theorem dvfsTable_right {sizeofNT slots : Nat} {bytes : List UInt8}
    (hlen : slots * sizeofNT ≤ bytes.length)
    (htable : dvfsTableEntryLimit ≤ slots ∨
      ∃ t, t < slots ∧ inUse (entryAt sizeofNT bytes t) = false) :
    getDvfsTableEntryCount sizeofNT bytes = some (usedCount sizeofNT bytes) ∧
      (∀ rest, getDvfsTableEntryCount sizeofNT
        (bytes.take (min (usedCount sizeofNT bytes + 1) dvfsTableEntryLimit * sizeofNT) ++ rest) =
          some (usedCount sizeofNT bytes)) ∧
      getDvfsTableLastEntry sizeofNT bytes =
        some (if usedCount sizeofNT bytes = 0 then none
          else some (usedCount sizeofNT bytes - 1)) := by
  have hread := readCount_le hlen htable
  have hcount := getDvfsTableEntryCount_eq hread
  refine ⟨hcount, fun rest => ?_, ?_⟩
  · have hused := usedCount_take_append rest hread
    have hrest : readCount sizeofNT
        (bytes.take (readCount sizeofNT bytes * sizeofNT) ++ rest) * sizeofNT ≤
          (bytes.take (readCount sizeofNT bytes * sizeofNT) ++ rest).length := by
      have hsame : readCount sizeofNT
          (bytes.take (readCount sizeofNT bytes * sizeofNT) ++ rest) =
            readCount sizeofNT bytes := by
        unfold readCount at hused ⊢
        rw [hused]
      rw [hsame, List.length_append, List.length_take]
      omega
    exact (getDvfsTableEntryCount_eq hrest).trans (congrArg some hused)
  · unfold getDvfsTableLastEntry
    rw [hcount]
    dsimp only
    split
    · rfl
    · rfl

/-- Two entries of four bytes, and an empty one. -/
theorem dvfsTable_right_short :
    getDvfsTableEntryCount 4 [1, 0, 0, 0, 0, 0, 0, 7, 0, 0, 0, 0] = some 2 ∧
      getDvfsTableLastEntry 4 [1, 0, 0, 0, 0, 0, 0, 7, 0, 0, 0, 0] = some (some 1) := by
  have h := @dvfsTable_right 4 3 [1, 0, 0, 0, 0, 0, 0, 7, 0, 0, 0, 0] (by decide)
    (.inr ⟨2, by decide, by decide⟩)
  exact ⟨h.1, h.2.2⟩

/-! ## CVB entries -/

/-- The bytes of a word, low byte first. -/
def wordBytes (w : UInt32) : List UInt8 :=
  [.ofNat w.toNat, .ofNat (w.toNat / 2 ^ 8), .ofNat (w.toNat / 2 ^ 16), .ofNat (w.toNat / 2 ^ 24)]

/-- The bytes of a `cvb_entry_t`. -/
def entryBytes (e : CvbEntry) : List UInt8 := e.words.flatMap wordBytes

/-- `sizeof(cvb_entry_t)`. -/
def sizeofCvbEntry : Nat := 4 * cvbWords

theorem length_entryBytes (e : CvbEntry) : (entryBytes e).length = sizeofCvbEntry := rfl

theorem wordBytes_zero_iff (w : UInt32) : (∀ b ∈ wordBytes w, b = 0) ↔ w = 0 := by
  have hw := w.toNat_lt
  have hbyte : ∀ n : Nat, UInt8.ofNat n = 0 ↔ n % 256 = 0 := fun n => by
    rw [← UInt8.toNat_inj, UInt8.toNat_ofNat']
    rfl
  have hword : w = 0 ↔ w.toNat = 0 := by
    rw [← UInt32.toNat_inj]
    rfl
  unfold wordBytes
  simp only [List.forall_mem_cons, List.not_mem_nil, false_implies, implies_true, and_true, hbyte,
    hword]
  omega

theorem words_zero_iff (e : CvbEntry) : (∀ w ∈ e.words, w = 0) ↔ e.IsEmpty := by
  constructor
  · intro h
    have hzero : (fun k => e.words.getD k 0) = fun _ => (0 : UInt32) := by
      funext k
      rcases Nat.lt_or_ge k e.words.length with hlt | hge
      · rw [List.getD_eq_getElem _ _ hlt]
        exact h _ (List.getElem_mem hlt)
      · exact List.getD_eq_default _ _ hge
    have he := e.ofWords_words
    rw [hzero] at he
    exact he.symm.trans (by decide)
  · rintro rfl
    have hwords : ({} : CvbEntry).words = List.replicate 14 0 := by decide
    rw [hwords]
    exact fun w hw => List.eq_of_mem_replicate hw

/-- The entry is empty if its words are zero, and so if its bytes are. -/
theorem inUse_entryBytes (e : CvbEntry) : inUse (entryBytes e) = true ↔ ¬e.IsEmpty := by
  have hbytes : (entryBytes e).all (· = 0) = true ↔ ∀ w ∈ e.words, w = 0 := by
    unfold entryBytes
    simp only [List.all_eq_true, decide_eq_true_eq, List.mem_flatMap]
    constructor
    · exact fun h w hw => (wordBytes_zero_iff w).1 fun b hb => h b ⟨w, hw, hb⟩
    · rintro h b ⟨w, hw, hb⟩
      exact (wordBytes_zero_iff w).2 (h w hw) b hb
  rw [← words_zero_iff, ← hbytes]
  unfold inUse
  rw [Bool.not_eq_true', Bool.not_eq_true]

theorem entryAt_entryBytes (table : List CvbEntry) : ∀ i, (h : i < table.length) →
    entryAt sizeofCvbEntry (table.flatMap entryBytes) i = entryBytes table[i] := by
  unfold entryAt
  induction table with
  | nil => exact fun i h => absurd h (Nat.not_lt_zero i)
  | cons e table ih =>
    intro i h
    rw [List.flatMap_cons]
    cases i with
    | zero =>
      rw [Nat.zero_mul, List.drop_zero]
      exact List.take_left' (length_entryBytes e)
    | succ i =>
      rw [Nat.succ_mul, Nat.add_comm, ← List.drop_drop, ← length_entryBytes e, List.drop_left,
        length_entryBytes e]
      exact ih i (Nat.lt_of_succ_lt_succ h)

/-- **The walk over the bytes is the walk over the entries.** -/
theorem getDvfsTableEntryCount_entryBytes {table : List CvbEntry}
    (htable : dvfsTableEntryLimit ≤ table.length ∨
      ∃ t, ∃ h : t < table.length, table[t].IsEmpty) :
    getDvfsTableEntryCount sizeofCvbEntry (table.flatMap entryBytes) =
      some (SwitchOc.getDvfsTableEntryCount fun i => table.getD i {}) := by
  have hlen : (table.flatMap entryBytes).length = table.length * sizeofCvbEntry := by
    rw [List.length_flatMap, List.map_congr_left fun e _ => length_entryBytes e]
    simp
  have hused : ∀ i, inUse (entryAt sizeofCvbEntry (table.flatMap entryBytes) i) = true ↔
      ¬(table.getD i {}).IsEmpty := by
    intro i
    rcases Nat.lt_or_ge i table.length with hlt | hge
    · rw [entryAt_entryBytes table i hlt, inUse_entryBytes, List.getD_eq_getElem _ _ hlt]
    · have hnil : entryAt sizeofCvbEntry (table.flatMap entryBytes) i = [] := by
        unfold entryAt
        rw [List.drop_of_length_le (by rw [hlen]; exact Nat.mul_le_mul_right _ hge)]
        rfl
      rw [hnil, List.getD_eq_default _ _ hge]
      exact iff_of_false (by decide) (not_not.2 rfl)
  have hcount : usedCount sizeofCvbEntry (table.flatMap entryBytes) =
      SwitchOc.getDvfsTableEntryCount fun i => table.getD i {} := by
    obtain ⟨hle, hrun, hend⟩ := runLength_eq_iff.1
      (rfl : usedCount sizeofCvbEntry (table.flatMap entryBytes) = _)
    refine (getDvfsTableEntryCount_eq_iff.2 ⟨hle, fun i hi => ?_, fun hlt => ?_⟩).symm
    · have hi := (hused (0 + i)).1 (hrun i hi)
      rwa [Nat.zero_add] at hi
    · have hnot := mt (hused (0 + usedCount sizeofCvbEntry (table.flatMap entryBytes))).2 (hend hlt)
      rw [Nat.zero_add] at hnot
      exact not_not.1 hnot
  rw [← hcount]
  refine getDvfsTableEntryCount_eq (readCount_le (Nat.le_of_eq hlen.symm) (htable.imp_right ?_))
  rintro ⟨t, ht, hempty⟩
  refine ⟨t, ht, ?_⟩
  rw [← Bool.not_eq_true, hused, List.getD_eq_getElem _ _ ht]
  exact not_not.2 hempty

end SwitchOc.DvfsTable
