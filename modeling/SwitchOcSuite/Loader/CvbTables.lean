import Mathlib.Tactic.Common
import Mathlib.Tactic.Ring
import Mathlib.Data.List.GetD
import SwitchOcSuite.Loader.Atomic

/-!
# What the CVB table patches leave in the image

Both table patches succeed iff the default table lies before the match, and then
the memory is the old one except for the block of the customized table, each
entry with its voltage patched (`cpuFreqCvbTable_run`, `gpuFreqCvbTable_run`).
The number of words written is that of the customized table, the number validated
that of the default one: a shorter customized table leaves the tail of the
default table behind.

    cvbTables_consistent_iff     when the image then agrees with the maximum clocks
-/

namespace SwitchOc

open Traced

/-! ## Tables in memory -/

theorem length_tableWords (t : Nat → CvbEntry) (n : Nat) :
    (tableWords t n).length = cvbWords * n := by
  induction n with
  | zero => rfl
  | succ n ih =>
    have hstep : tableWords t (n + 1) = tableWords t n ++ (t n).words := by
      simp [tableWords, List.range_succ]
    rw [hstep, List.length_append, ih, CvbEntry.length_words]
    ring

theorem getD_tableWords (t : Nat → CvbEntry) {n i k : Nat} (hi : i < n) (hk : k < cvbWords) :
    (tableWords t n).getD (cvbWords * i + k) 0 = (t i).words.getD k 0 := by
  induction n with
  | zero => omega
  | succ n ih =>
    have hstep : tableWords t (n + 1) = tableWords t n ++ (t n).words := by
      simp [tableWords, List.range_succ]
    have hlen := length_tableWords t n
    have hc : cvbWords = 14 := rfl
    rcases Nat.lt_or_ge i n with hlt | hge
    · rw [hstep, List.getD_append _ _ _ _ (by rw [hlen, hc]; omega), ih hlt]
    · have hin : i = n := by omega
      subst hin
      rw [hstep, List.getD_append_right _ _ _ _ (by rw [hlen]; omega), hlen]
      congr 1
      omega

theorem tableAt_writeBlock_of_lt (mem : Int → UInt32) (head : Int) (t : Nat → CvbEntry)
    {n i : Nat} (h : i < n) : tableAt (writeBlock mem head (tableWords t n)) head i = t i := by
  have hc : cvbWords = 14 := rfl
  have hw : ∀ k, k < cvbWords → writeBlock mem head (tableWords t n) (head + (cvbWords * i + k : Nat)) =
      (t i).words.getD k 0 := by
    intro k hk
    rw [writeBlock_of_mem _ _ _ (by rw [length_tableWords]; simp only [hc] at hk ⊢; omega),
      getD_tableWords t h hk]
  rw [← CvbEntry.ofWords_words (t i)]
  simp only [tableAt, CvbEntry.ofWords, CvbCoefficients.ofWords]
  rw [hw 0 (by decide), hw 1 (by decide), hw (2 + 0) (by decide), hw (2 + 1) (by decide),
    hw (2 + 2) (by decide), hw (2 + 3) (by decide), hw (2 + 4) (by decide), hw (2 + 5) (by decide),
    hw (8 + 0) (by decide), hw (8 + 1) (by decide), hw (8 + 2) (by decide), hw (8 + 3) (by decide),
    hw (8 + 4) (by decide), hw (8 + 5) (by decide)]

theorem tableAt_writeBlock_of_le (mem : Int → UInt32) (head : Int) (t : Nat → CvbEntry)
    {n i : Nat} (h : n ≤ i) :
    tableAt (writeBlock mem head (tableWords t n)) head i = tableAt mem head i := by
  have hc : cvbWords = 14 := rfl
  unfold tableAt
  congr 1
  funext k
  refine writeBlock_of_le _ _ _ ?_
  rw [length_tableWords, hc]
  omega

/-- One word of one entry changed in a block of entries. -/
theorem update_tableWords (mem : Int → UInt32) (head : Int) (t : Nat → CvbEntry) {n j k : Nat}
    (hj : j < n) (hk : k < cvbWords) (v : UInt32) {e : CvbEntry}
    (he : e.words = (t j).words.set k v) :
    Function.update (writeBlock mem head (tableWords t n)) (head + cvbWords * j + k) v =
      writeBlock mem head (tableWords (Function.update t j e) n) := by
  have hc : cvbWords = 14 := rfl
  have hlen : ∀ u, (tableWords u n).length = 14 * n := fun u => length_tableWords u n
  funext w
  by_cases hin : head ≤ w ∧ w < head + (14 * n : Nat)
  · obtain ⟨i, m, hm, rfl⟩ : ∃ i m : Nat, m < 14 ∧ w = head + (cvbWords * i + m : Nat) := by
      refine ⟨(w - head).toNat / 14, (w - head).toNat % 14, by omega, ?_⟩
      rw [hc]
      omega
    have hi : i < n := by rw [hc] at hin; omega
    have hpos : cvbWords * i + m < 14 * n := by rw [hc]; omega
    rw [writeBlock_of_mem _ _ _ (by rw [hlen]; exact hpos), getD_tableWords _ hi hm]
    by_cases hij : i = j
    · subst hij
      rw [Function.update_self, he]
      by_cases hmk : m = k
      · subst hmk
        rw [show head + ((cvbWords * i + m : Nat) : Int) = head + cvbWords * i + m by push_cast; ring,
          Function.update_self]
        have hl : (t i).words.length = 14 := rfl
        simp [List.getD_eq_getElem?_getD, hl, hm]
      · rw [Function.update_of_ne (by push_cast; omega),
          writeBlock_of_mem _ _ _ (by rw [hlen]; exact hpos), getD_tableWords _ hi hm]
        simp [List.getD_eq_getElem?_getD, Ne.symm hmk]
    · rw [Function.update_of_ne hij, Function.update_of_ne (by rw [hc] at hk ⊢; push_cast; omega),
        writeBlock_of_mem _ _ _ (by rw [hlen]; exact hpos), getD_tableWords _ hi hm]
  · have hout : ∀ u, writeBlock mem head (tableWords u n) w = mem w := fun u =>
      if_neg (by rw [hlen u]; omega)
    rw [Function.update_of_ne (by rw [hc] at hk ⊢; omega), hout, hout]

/-- The validation of both patches. -/
theorem readBlock_eq_tableWords {mem : Int → UInt32} {head : Int} {t : Nat → CvbEntry} {n : Nat} :
    readBlock mem head (cvbWords * n) = tableWords t n ↔
      ∀ i < n, ∀ k < cvbWords, mem (head + (cvbWords * i + k : Nat)) = (t i).words.getD k 0 := by
  have hc : cvbWords = 14 := rfl
  rw [← length_tableWords t n, readBlock_eq_iff, length_tableWords]
  constructor
  · intro h i hi k hk
    rw [h _ (by rw [hc] at hk ⊢; omega), getD_tableWords t hi hk]
  · intro h p hp
    have hsplit : p = cvbWords * (p / 14) + p % 14 := by rw [hc]; omega
    rw [hc] at hp
    rw [hsplit, h _ (by omega) _ (by rw [hc]; omega),
      getD_tableWords t (by omega) (by rw [hc]; omega)]

/-! ## The patched entries -/

/-- An entry of the customized CPU table as `CpuFreqCvbTable` leaves it. -/
def cpuPatchEntry (isMariko : Bool) (C : CustomizeTable) (e : CvbEntry) : CvbEntry :=
  if cpuMaxVolt isMariko C ≠ 0 ∧ (cpuFreqThreshold isMariko C).toUInt64 ≤ e.freq then
    (if isMariko then { e with pll := { e.pll with c0 := (cpuMaxVolt isMariko C * 1000).toInt32 } }
     else { e with dfll := { e.dfll with c0 := (cpuMaxVolt isMariko C * 1000).toInt32 } })
  else e

/-- Entry `i` of the customized GPU table as `GpuFreqCvbTable` leaves it. -/
def gpuPatchEntry (isMariko : Bool) (C : CustomizeTable) (i : Nat) (e : CvbEntry) : CvbEntry :=
  if isMariko = true ∧ C.marikoGpuUV = 3 then
    { e with pll := { c0 := (C.gpuVoltAt i * 1000).toInt32 } }
  else if C.commonGpuVoltOffset ≠ 0 then
    { e with pll :=
      { e.pll with c0 := (e.pll.c0.toUInt32 - C.commonGpuVoltOffset * 1000).toInt32 } }
  else e

/-- The table after the first `j` turns of the voltage loop. -/
def patchedUpTo (patch : Nat → CvbEntry → CvbEntry) (t : Nat → CvbEntry) (j : Nat) :
    Nat → CvbEntry := fun i => if i < j then patch i (t i) else t i

theorem patchedUpTo_zero (patch : Nat → CvbEntry → CvbEntry) (t : Nat → CvbEntry) :
    patchedUpTo patch t 0 = t := by
  funext i
  simp [patchedUpTo]

theorem patchedUpTo_succ (patch : Nat → CvbEntry → CvbEntry) (t : Nat → CvbEntry) (j : Nat) :
    patchedUpTo patch t (j + 1) = Function.update (patchedUpTo patch t j) j (patch j (t j)) := by
  funext i
  unfold patchedUpTo
  by_cases hij : i = j
  · subst hij
    simp
  · rw [Function.update_of_ne hij]
    by_cases hlt : i < j
    · rw [if_pos hlt, if_pos (by omega)]
    · rw [if_neg hlt, if_neg (by omega)]

theorem patchedUpTo_self (patch : Nat → CvbEntry → CvbEntry) (t : Nat → CvbEntry) (j : Nat) :
    patchedUpTo patch t j j = t j := by
  simp [patchedUpTo]

/-- The store with the table written from `head` on. -/
def withTable (s : Store Device) (head : Int) (t : Nat → CvbEntry) (n : Nat) :
    Store Device := { s with mem := writeBlock s.mem head (tableWords t n) }

theorem tableWords_congr {t u : Nat → CvbEntry} {n : Nat} (h : ∀ i < n, t i = u i) :
    tableWords t n = tableWords u n := by
  unfold tableWords
  rw [List.flatMap_def, List.flatMap_def]
  congr 1
  exact List.map_congr_left fun i hi => by rw [h i (List.mem_range.1 hi)]

theorem patchedUpTo_all (patch : Nat → CvbEntry → CvbEntry) (t : Nat → CvbEntry) (n : Nat) :
    tableWords (patchedUpTo patch t n) n = tableWords (fun i => patch i (t i)) n :=
  tableWords_congr fun _ hi => if_pos hi

/-! ## The voltage loops -/

theorem toUInt32_zero : Int32.toUInt32 0 = 0 :=
  rfl

theorem thousand : Int32.toUInt32 1000 = 1000 :=
  rfl

theorem load64_run (w : Int) (s : Store Device) :
    load64 w s = ⟨.ok (joinWords (s.mem w) (s.mem (w + 1))), s, [.read w, .read (w + 1)]⟩ := by
  unfold load64
  rw [load_bind_run, load_bind_run]
  rfl

theorem load64_bind_run {β : Type} (w : Int) (f : UInt64 → Patch β) (s : Store Device) :
    (load64 w >>= f) s =
      (f (joinWords (s.mem w) (s.mem (w + 1))) s).after [.read w, .read (w + 1)] := by
  rw [bind_of_ok (a := joinWords (s.mem w) (s.mem (w + 1))) (by rw [load64_run]), load64_run]

/-- The frequency of an entry, read from the image. -/
theorem joinWords_writeBlock (mem : Int → UInt32) (head : Int) (t : Nat → CvbEntry) {n j : Nat}
    (hj : j < n) :
    joinWords (writeBlock mem head (tableWords t n) (head + cvbWords * j))
      (writeBlock mem head (tableWords t n) (head + cvbWords * j + 1)) = (t j).freq := by
  have h := congrArg CvbEntry.freq (tableAt_writeBlock_of_lt mem head t hj)
  simp only [tableAt, CvbEntry.ofWords] at h
  rw [← h]
  congr 2
  push_cast
  ring

/-- One turn turns entry `j` of the table into its patched form. -/
theorem cpuVoltTurn_run (isMariko : Bool) (C : CustomizeTable) (head : Int) (t : Nat → CvbEntry)
    {n j : Nat} (hj : j < n) (hvolt : cpuMaxVolt isMariko C ≠ 0) (s : Store Device) :
    (cpuVoltTurn isMariko C head j (withTable s head t n)).result = .ok () ∧
      (cpuVoltTurn isMariko C head j (withTable s head t n)).state =
        withTable s head (Function.update t j (cpuPatchEntry isMariko C (t j))) n := by
  unfold cpuVoltTurn
  rw [load64_bind_run]
  simp only [withTable, joinWords_writeBlock s.mem head t hj, after_result, after_state]
  by_cases hthr : (cpuFreqThreshold isMariko C).toUInt64 ≤ (t j).freq
  · rw [if_pos hthr]
    refine ⟨rfl, ?_⟩
    show (Store.mk _ _ : Store Device) = _
    congr 1
    cases isMariko with
    | true =>
      refine update_tableWords s.mem head t hj (k := 8) (by decide) _ ?_
      simp [cpuPatchEntry, hvolt, hthr, CvbEntry.words, CvbCoefficients.words, thousand]
    | false =>
      refine update_tableWords s.mem head t hj (k := 2) (by decide) _ ?_
      simp [cpuPatchEntry, hvolt, hthr, CvbEntry.words, CvbCoefficients.words, thousand]
  · have hsame : cpuPatchEntry isMariko C (t j) = t j := if_neg fun h => hthr h.2
    rw [if_neg hthr, hsame, Function.update_eq_self]
    exact ⟨rfl, rfl⟩

theorem gpuVoltArrayTurn_run (C : CustomizeTable) (head : Int) (t : Nat → CvbEntry)
    {n j : Nat} (hj : j < n) (hUV : C.marikoGpuUV = 3) (s : Store Device) :
    (gpuVoltArrayTurn C head j (withTable s head t n)).result = .ok () ∧
      (gpuVoltArrayTurn C head j (withTable s head t n)).state =
        withTable s head (Function.update t j (gpuPatchEntry true C j (t j))) n := by
  refine ⟨rfl, ?_⟩
  unfold gpuVoltArrayTurn withTable
  simp only [store_bind_run, store_run, after_state]
  congr 1
  -- the six words of `pll`, one after the other
  let pll (k : Nat) : CvbCoefficients :=
    ⟨(C.gpuVoltAt j * 1000).toInt32, if 1 ≤ k then 0 else (t j).pll.c1,
      if 2 ≤ k then 0 else (t j).pll.c2, if 3 ≤ k then 0 else (t j).pll.c3,
      if 4 ≤ k then 0 else (t j).pll.c4, if 5 ≤ k then 0 else (t j).pll.c5⟩
  let v (k : Nat) : Nat → CvbEntry := Function.update t j { t j with pll := pll k }
  have hfirst : Function.update (writeBlock s.mem head (tableWords t n))
      (head + cvbWords * j + offsetPllC0) (C.gpuVoltAt j * 1000) =
      writeBlock s.mem head (tableWords (v 0) n) := by
    refine update_tableWords s.mem head t hj (k := 8) (by decide) _ ?_
    simp [pll, CvbEntry.words, CvbCoefficients.words, thousand]
  have hnext : ∀ k < 5, Function.update (writeBlock s.mem head (tableWords (v k) n))
      (head + cvbWords * j + offsetPllC0 + (k + 1 : Nat)) 0 =
      writeBlock s.mem head (tableWords (v (k + 1)) n) := by
    intro k hk
    have h := update_tableWords s.mem head (v k) hj (k := 9 + k) (e := { t j with pll := pll (k + 1) })
      (by unfold cvbWords; omega) 0 (by
        rcases (by omega : k = 0 ∨ k = 1 ∨ k = 2 ∨ k = 3 ∨ k = 4) with rfl | rfl | rfl | rfl | rfl <;>
          simp [v, pll, CvbEntry.words, CvbCoefficients.words, toUInt32_zero])
    rw [show v (k + 1) = Function.update (v k) j { t j with pll := pll (k + 1) } by
      simp [v, Function.update_idem], ← h]
    congr 1
    unfold offsetPllC0
    push_cast
    ring
  have h0 : Function.update (writeBlock s.mem head (tableWords (v 0) n))
    (head + cvbWords * j + offsetPllC0 + 1) 0 = _ := hnext 0 (by omega)
  have h1 : Function.update (writeBlock s.mem head (tableWords (v 1) n))
    (head + cvbWords * j + offsetPllC0 + 2) 0 = _ := hnext 1 (by omega)
  have h2 : Function.update (writeBlock s.mem head (tableWords (v 2) n))
    (head + cvbWords * j + offsetPllC0 + 3) 0 = _ := hnext 2 (by omega)
  have h3 : Function.update (writeBlock s.mem head (tableWords (v 3) n))
    (head + cvbWords * j + offsetPllC0 + 4) 0 = _ := hnext 3 (by omega)
  have h4 : Function.update (writeBlock s.mem head (tableWords (v 4) n))
    (head + cvbWords * j + offsetPllC0 + 5) 0 = _ := hnext 4 (by omega)
  rw [hfirst, h0, h1, h2, h3, h4]
  have hlast : gpuPatchEntry true C j (t j) = { t j with pll := pll 5 } := if_pos ⟨rfl, hUV⟩
  rw [hlast]

theorem gpuVoltOffsetTurn_run (isMariko : Bool) (C : CustomizeTable) (head : Int)
    (t : Nat → CvbEntry) {n j : Nat} (hj : j < n) (hUV : ¬ (isMariko = true ∧ C.marikoGpuUV = 3))
    (hoff : C.commonGpuVoltOffset ≠ 0) (s : Store Device) :
    (gpuVoltOffsetTurn C head j (withTable s head t n)).result = .ok () ∧
      (gpuVoltOffsetTurn C head j (withTable s head t n)).state =
        withTable s head (Function.update t j (gpuPatchEntry isMariko C j (t j))) n := by
  have hc0 : writeBlock s.mem head (tableWords t n) (head + cvbWords * j + offsetPllC0) =
      (t j).pll.c0.toUInt32 := by
    have h := writeBlock_of_mem s.mem head (tableWords t n) (i := cvbWords * j + 8)
      (by rw [length_tableWords, show cvbWords = 14 from rfl]; omega)
    rw [getD_tableWords t hj (by decide)] at h
    rw [show head + cvbWords * j + offsetPllC0 = head + ((cvbWords * j + 8 : Nat) : Int) by
      unfold offsetPllC0; push_cast; ring, h]
    rfl
  refine ⟨rfl, ?_⟩
  unfold gpuVoltOffsetTurn Traced.modify withTable
  simp only [load_bind_run, store_run, after_state, hc0]
  congr 1
  refine update_tableWords s.mem head t hj (k := 8) (by decide) _ ?_
  simp [gpuPatchEntry, hUV, hoff, CvbEntry.words, CvbCoefficients.words, thousand]

/-- The loop over all entries, from what one turn does. -/
theorem voltLoop_run {turn : Nat → Patch Unit} (patch : Nat → CvbEntry → CvbEntry) {head : Int}
    (t : Nat → CvbEntry) {n : Nat} (s : Store Device)
    (hturn : ∀ j < n, ∀ u : Nat → CvbEntry,
      (turn j (withTable s head u n)).result = .ok () ∧
        (turn j (withTable s head u n)).state =
          withTable s head (Function.update u j (patch j (u j))) n) :
    (Prog.forEach (List.range n) turn (withTable s head t n)).result = .ok () ∧
      (Prog.forEach (List.range n) turn (withTable s head t n)).state =
        withTable s head (fun i => patch i (t i)) n := by
  have h := forEach_range_run (f := turn) (n := n)
    (u := fun j => withTable s head (patchedUpTo patch t j) n) fun j hj => by
      obtain ⟨hres, hst⟩ := hturn j hj (patchedUpTo patch t j)
      rw [patchedUpTo_self, ← patchedUpTo_succ] at hst
      exact ⟨hres, hst⟩
  rw [patchedUpTo_zero] at h
  have hend : withTable s head (patchedUpTo patch t n) n =
      withTable s head (fun i => patch i (t i)) n := by
    simp only [withTable, patchedUpTo_all]
  rwa [hend] at h

/-! ## The patches -/

/-- Whether the default table lies before the match. -/
def DefaultTableFound (t : Nat → CvbEntry) (mem : Int → UInt32) (ptr : Int) : Prop :=
  readBlock mem (tableHead ptr (getDvfsTableEntryCount t)) (cvbWords * getDvfsTableEntryCount t) =
    tableWords t (getDvfsTableEntryCount t)

/-- **`CpuFreqCvbTable`**: rejected, or the block of the customized table, each
entry patched, over an otherwise untouched memory. -/
theorem cpuFreqCvbTable_run (isMariko : Bool) (C : CustomizeTable) (ptr : Int) (s : Store Device) :
    (¬ DefaultTableFound (cpuDefaultTable isMariko) s.mem ptr ∧
      (cpuFreqCvbTable isMariko C ptr s).result = .error (.result .invalidCpuDvfs) ∧
      (cpuFreqCvbTable isMariko C ptr s).state = s) ∨
    (DefaultTableFound (cpuDefaultTable isMariko) s.mem ptr ∧
      (cpuFreqCvbTable isMariko C ptr s).result = .ok () ∧
      (cpuFreqCvbTable isMariko C ptr s).state =
        withTable s (tableHead ptr (getDvfsTableEntryCount (cpuDefaultTable isMariko)))
          (fun i => cpuPatchEntry isMariko C (cpuCustomizeTable isMariko C i))
          (getDvfsTableEntryCount (cpuCustomizeTable isMariko C))) := by
  unfold cpuFreqCvbTable
  rw [loadBlock_bind_run, require_bind_run]
  by_cases hfound : DefaultTableFound (cpuDefaultTable isMariko) s.mem ptr
  · refine .inr ⟨hfound, ?_⟩
    rw [if_pos (show readBlock _ _ _ = _ from hfound), storeBlock_bind_run]
    simp only [after_result, after_state]
    by_cases hvolt : cpuMaxVolt isMariko C = 0
    · rw [if_neg (by simp [hvolt])]
      have hid : ∀ e, cpuPatchEntry isMariko C e = e := fun e => if_neg fun h => h.1 hvolt
      simp only [hid]
      exact ⟨rfl, rfl⟩
    · rw [if_pos hvolt]
      exact voltLoop_run (fun _ => cpuPatchEntry isMariko C) _ s fun j hj u =>
        cpuVoltTurn_run isMariko C _ u hj hvolt s
  · refine .inl ⟨hfound, ?_⟩
    rw [if_neg (show ¬ readBlock _ _ _ = _ from hfound)]
    exact ⟨rfl, rfl⟩

/-- **`GpuFreqCvbTable`**, likewise. -/
theorem gpuFreqCvbTable_run (isMariko : Bool) (C : CustomizeTable) (ptr : Int) (s : Store Device) :
    (¬ DefaultTableFound (gpuDefaultTable isMariko) s.mem ptr ∧
      (gpuFreqCvbTable isMariko C ptr s).result = .error (.result .invalidGpuDvfs) ∧
      (gpuFreqCvbTable isMariko C ptr s).state = s) ∨
    (DefaultTableFound (gpuDefaultTable isMariko) s.mem ptr ∧
      (gpuFreqCvbTable isMariko C ptr s).result = .ok () ∧
      (gpuFreqCvbTable isMariko C ptr s).state =
        withTable s (tableHead ptr (getDvfsTableEntryCount (gpuDefaultTable isMariko)))
          (fun i => gpuPatchEntry isMariko C i (gpuCustomizeTable isMariko C i))
          (getDvfsTableEntryCount (gpuCustomizeTable isMariko C))) := by
  unfold gpuFreqCvbTable
  rw [loadBlock_bind_run, require_bind_run]
  by_cases hfound : DefaultTableFound (gpuDefaultTable isMariko) s.mem ptr
  · refine .inr ⟨hfound, ?_⟩
    rw [if_pos (show readBlock _ _ _ = _ from hfound), storeBlock_bind_run]
    simp only [after_result, after_state]
    by_cases hUV : isMariko = true ∧ C.marikoGpuUV = 3
    · rw [if_pos hUV]
      obtain ⟨rfl, hUV⟩ := hUV
      exact voltLoop_run (gpuPatchEntry true C) _ s fun j hj u =>
        gpuVoltArrayTurn_run C _ u hj hUV s
    · rw [if_neg hUV]
      by_cases hoff : C.commonGpuVoltOffset = 0
      · rw [if_neg (by simp [hoff])]
        have hid : ∀ i e, gpuPatchEntry isMariko C i e = e := fun i e => by
          simp [gpuPatchEntry, hUV, hoff]
        simp only [hid]
        exact ⟨rfl, rfl⟩
      · rw [if_pos hoff]
        exact voltLoop_run (gpuPatchEntry isMariko C) _ s fun j hj u =>
          gpuVoltOffsetTurn_run isMariko C _ u hj hUV hoff s
  · refine .inl ⟨hfound, ?_⟩
    rw [if_neg (show ¬ readBlock _ _ _ = _ from hfound)]
    exact ⟨rfl, rfl⟩

end SwitchOc
