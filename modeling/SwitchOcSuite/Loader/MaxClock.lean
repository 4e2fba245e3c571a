import Mathlib.Tactic.Common
import Mathlib.Tactic.IntervalCases
import SwitchOcSuite.Loader.CvbTables

/-!
# The CVB tables against the maximum clocks

The maximum clock of the CPU rail (`cpuFreqVdd`) and of the GPU instructions
(`gpuFreqMaxAsm`) come from the last entry of the customized table, the end of the
table in the image from its zero entries.  They agree iff the customized table is
at least as long as the default one it is copied over, its last frequency fits in
32 bits, and no voltage patch turns one of its entries into a zero entry.

    count_withTable_iff          when the table in the image ends where the customized one does
    cvbTables_consistent_iff     both tables of both SoCs
-/

namespace SwitchOc

open Traced

/-! ## Algorithm -/

/-- The default table stands before the match, followed by zero entries up to the limit. -/
def DefaultTableThere (t : Nat → CvbEntry) (mem : Int → UInt32) (ptr : Int) : Prop :=
  ∀ i < dvfsTableEntryCount, tableAt mem (tableHead ptr (getDvfsTableEntryCount t)) i = t i

/-- The table now in the image, read from the head the patch copied to. -/
def tableAfter (t : Nat → CvbEntry) (ptr : Int) (o : Outcome Stop (Store Device) Access Unit) :
    Nat → CvbEntry := tableAt o.state.mem (tableHead ptr (getDvfsTableEntryCount t))

def gpuFreqMaxAsm (isMariko : Bool) (C : CustomizeTable) : Int → Patch Unit :=
  if isMariko then Mariko.gpuFreqMaxAsm C else Erista.gpuFreqMaxAsm C

/-- The immediate of a `MOV`/`MOVK`. -/
def asmGetImm16 (ins : UInt32) : UInt32 := (ins >>> 5) &&& 0xFFFF

/-- What `freq` the CPU rail gets wherever `cpuFreqVdd` succeeds (Mariko only). -/
def CpuMaxIs (isMariko : Bool) (C : CustomizeTable) (freq : Nat) : Prop :=
  isMariko = true → ∀ ptr s, (Mariko.cpuFreqVdd C ptr s).result = .ok () →
    ((Mariko.cpuFreqVdd C ptr s).state.mem ptr).toNat = freq

/-- What the two instructions load wherever `gpuFreqMaxAsm` succeeds. -/
def GpuMaxIs (isMariko : Bool) (C : CustomizeTable) (freq : Nat) : Prop :=
  ∀ ptr s, (gpuFreqMaxAsm isMariko C ptr s).result = .ok () →
    (asmGetImm16 ((gpuFreqMaxAsm isMariko C ptr s).state.mem ptr)).toNat +
      2 ^ 16 * (asmGetImm16 ((gpuFreqMaxAsm isMariko C ptr s).state.mem (ptr + 1))).toNat = freq

/-- `after` has the entries of the customized table `t`, and `maxIs` holds of its last frequency. -/
def Consistent (t after : Nat → CvbEntry) (maxIs : Nat → Prop) : Prop :=
  getDvfsTableEntryCount after = getDvfsTableEntryCount t ∧
    ∃ last, getDvfsTableLastEntry after = some last ∧ maxIs last.freq.toNat

/-- The last entry's frequency is not cut off by a `u32`. -/
def LastFreqFits (t : Nat → CvbEntry) : Prop :=
  ∀ last, getDvfsTableLastEntry t = some last → last.freq.toNat < 2 ^ 32

/-- Entry `i` of the GPU table loses its last non-zero word to the voltage patch. -/
def VoltPatchClears (isMariko : Bool) (C : CustomizeTable) (i : Nat) (e : CvbEntry) : Prop :=
  e.freq = 0 ∧ e.dfll = {} ∧
    if isMariko = true ∧ C.marikoGpuUV = 3 then C.gpuVoltAt i * 1000 = 0
    else C.commonGpuVoltOffset ≠ 0 ∧
      e.pll = { c0 := (C.commonGpuVoltOffset * 1000).toInt32 }

/-! ## Lemmas -/

theorem listView_isEmpty {l : List CvbEntry} {i : Nat} (h : l.length ≤ i) :
    (listView l i).IsEmpty := by
  unfold listView CvbEntry.IsEmpty
  exact List.getD_eq_default l {} h

theorem cpuDefaultTable_isEmpty (isMariko : Bool) {i : Nat}
    (h : getDvfsTableEntryCount (cpuDefaultTable isMariko) ≤ i) :
    (cpuDefaultTable isMariko i).IsEmpty := by
  cases isMariko with
  | true => exact listView_isEmpty (l := Mariko.cpuCvbTableDefault) (le_trans (by decide) h)
  | false => exact listView_isEmpty (l := Erista.cpuCvbTableDefault) (le_trans (by decide) h)

theorem gpuDefaultTable_isEmpty (isMariko : Bool) {i : Nat}
    (h : getDvfsTableEntryCount (gpuDefaultTable isMariko) ≤ i) :
    (gpuDefaultTable isMariko i).IsEmpty := by
  cases isMariko with
  | true => exact listView_isEmpty (l := Mariko.gpuCvbTableDefault) (le_trans (by decide) h)
  | false => exact listView_isEmpty (l := Erista.gpuCvbTableDefault) (le_trans (by decide) h)

theorem lowWord_joinWords (lo hi : UInt32) : lowWord (joinWords lo hi) = lo := by
  have hlo := lo.toNat_lt
  have hhi := hi.toNat_lt
  apply UInt32.toNat_inj.1
  simp only [joinWords, lowWord, UInt64.toNat_ofNat', UInt32.toNat_ofNat']
  omega

theorem highWord_joinWords (lo hi : UInt32) : highWord (joinWords lo hi) = hi := by
  have hlo := lo.toNat_lt
  have hhi := hi.toNat_lt
  apply UInt32.toNat_inj.1
  simp only [joinWords, highWord, UInt64.toNat_ofNat', UInt32.toNat_ofNat']
  omega

/-- The words of the entry read from memory are the words in memory. -/
theorem words_ofWords (w : Nat → UInt32) {k : Nat} (hk : k < cvbWords) :
    (CvbEntry.ofWords w).words.getD k 0 = w k := by
  have h : (CvbEntry.ofWords w).words = (List.range cvbWords).map w := by
    simp [CvbEntry.ofWords, CvbEntry.words, CvbCoefficients.ofWords, CvbCoefficients.words,
      lowWord_joinWords, highWord_joinWords, cvbWords, List.range_succ]
  rw [h]
  simp [List.getD_eq_getElem?_getD, hk]

theorem DefaultTableThere.found {t : Nat → CvbEntry} {mem : Int → UInt32} {ptr : Int}
    (h : DefaultTableThere t mem ptr) : DefaultTableFound t mem ptr := by
  have hle := getDvfsTableEntryCount_le t
  have hlim : dvfsTableEntryLimit < dvfsTableEntryCount := by decide
  refine readBlock_eq_tableWords.2 fun i hi k hk => ?_
  rw [← h i (by omega), tableAt, words_ofWords _ hk]

/-- Where a table `p` of `n` entries was written over a default table `t`, the table
in the image has `n` entries iff `p` has no zero entry and `t` is no longer. -/
theorem count_withTable_iff {t p : Nat → CvbEntry} {n : Nat} {ptr : Int} {s : Store Device}
    (ht : ∀ i, getDvfsTableEntryCount t ≤ i → (t i).IsEmpty)
    (hthere : DefaultTableThere t s.mem ptr) (hn : n ≤ dvfsTableEntryLimit) :
    getDvfsTableEntryCount (tableAt
        (withTable s (tableHead ptr (getDvfsTableEntryCount t)) p n).mem
        (tableHead ptr (getDvfsTableEntryCount t))) = n ↔
      (∀ i < n, ¬ (p i).IsEmpty) ∧ getDvfsTableEntryCount t ≤ n := by
  have hin : ∀ i < n, tableAt (withTable s (tableHead ptr (getDvfsTableEntryCount t)) p n).mem
      (tableHead ptr (getDvfsTableEntryCount t)) i = p i := fun i hi =>
    tableAt_writeBlock_of_lt s.mem _ p hi
  have hlim : dvfsTableEntryLimit < dvfsTableEntryCount := by decide
  have hout : n < dvfsTableEntryCount →
      tableAt (withTable s (tableHead ptr (getDvfsTableEntryCount t)) p n).mem
        (tableHead ptr (getDvfsTableEntryCount t)) n = t n := fun hlt =>
    (tableAt_writeBlock_of_le s.mem _ p le_rfl).trans (hthere n hlt)
  have hcount := getDvfsTableEntryCount_le t
  rw [getDvfsTableEntryCount_eq_iff]
  constructor
  · rintro ⟨-, hfull, hempty⟩
    refine ⟨fun i hi => ?_, ?_⟩
    · rw [← hin i hi]
      exact hfull i hi
    · by_contra hlt
      have hzero := hempty (by omega)
      rw [hout (by omega)] at hzero
      exact not_isEmpty_of_lt (by omega) hzero
  · rintro ⟨hfull, hle⟩
    refine ⟨hn, fun i hi => ?_, fun hlt => ?_⟩
    · rw [hin i hi]
      exact hfull i hi
    · rw [hout (by omega)]
      exact ht n hle

theorem cpuPatchEntry_freq (isMariko : Bool) (C : CustomizeTable) (e : CvbEntry) :
    (cpuPatchEntry isMariko C e).freq = e.freq := by
  unfold cpuPatchEntry
  split
  · cases isMariko <;> rfl
  · rfl

theorem gpuPatchEntry_freq (isMariko : Bool) (C : CustomizeTable) (i : Nat) (e : CvbEntry) :
    (gpuPatchEntry isMariko C i e).freq = e.freq := by
  unfold gpuPatchEntry
  split
  · rfl
  · split <;> rfl

/-- The CPU voltage patch only touches entries with a positive frequency. -/
theorem cpuPatchEntry_not_isEmpty {isMariko : Bool} {C : CustomizeTable} {e : CvbEntry}
    (h : ¬ e.IsEmpty) : ¬ (cpuPatchEntry isMariko C e).IsEmpty := by
  intro hempty
  have hfreq : e.freq = 0 := by
    have := congrArg CvbEntry.freq hempty
    rwa [cpuPatchEntry_freq] at this
  have hthr : 0 < (cpuFreqThreshold isMariko C).toUInt64 := by
    unfold cpuFreqThreshold
    cases isMariko with
    | true => by_cases hUV : C.marikoCpuUV = 0 <;> simp [hUV]
    | false => by_cases hv : cpuMaxVolt false C ≥ 1235 <;> simp [hv]
  have hsame : cpuPatchEntry isMariko C e = e := by
    refine if_neg fun hc => ?_
    rw [hfreq] at hc
    exact UInt64.not_lt.2 hc.2 hthr
  rw [hsame] at hempty
  exact h hempty

/-- The GPU voltage patch clears exactly the entries of `VoltPatchClears`. -/
theorem gpuPatchEntry_isEmpty_iff {isMariko : Bool} {C : CustomizeTable} {i : Nat} {e : CvbEntry}
    (h : ¬ e.IsEmpty) :
    (gpuPatchEntry isMariko C i e).IsEmpty ↔ VoltPatchClears isMariko C i e := by
  obtain ⟨f, d, p⟩ := e
  have hcast : ∀ x : UInt32, x.toInt32 = 0 ↔ x = 0 := by
    intro x
    constructor
    · intro hx
      have := congrArg Int32.toUInt32 hx
      rwa [UInt32.toUInt32_toInt32, toUInt32_zero] at this
    · rintro rfl
      rfl
  unfold gpuPatchEntry VoltPatchClears
  by_cases hUV : isMariko = true ∧ C.marikoGpuUV = 3
  · simp only [if_pos hUV, CvbEntry.IsEmpty, CvbEntry.mk.injEq, CvbCoefficients.mk.injEq, hcast,
      and_true]
  · simp only [if_neg hUV]
    by_cases hoff : C.commonGpuVoltOffset = 0
    · simp only [hoff, ne_eq, not_true_eq_false, if_false, false_and, and_false, iff_false]
      exact h
    · obtain ⟨c0, c1, c2, c3, c4, c5⟩ := p
      have hsub : (c0.toUInt32 - C.commonGpuVoltOffset * 1000).toInt32 = 0 ↔
          c0 = (C.commonGpuVoltOffset * 1000).toInt32 := by
        rw [hcast, UInt32.sub_eq_iff_eq_add, UInt32.zero_add]
        constructor
        · intro hx
          rw [← hx, Int32.toInt32_toUInt32]
        · rintro rfl
          rfl
      simp only [ne_eq, hoff, not_false_eq_true, if_true, CvbEntry.IsEmpty, CvbEntry.mk.injEq,
        CvbCoefficients.mk.injEq, hsub, true_and]

/-! ## The maximum clocks -/

/-- The CPU rail gets the last frequency, cut to 32 bits, and there is a rail to get it. -/
theorem cpuMaxIs_iff {C : CustomizeTable} {last : CvbEntry} {freq : Nat}
    (hlast : getDvfsTableLastEntry (cpuCustomizeTable true C) = some last) :
    CpuMaxIs true C freq ↔ (lowWord last.freq).toNat = freq := by
  have hfreq : lastFreq (if C.marikoCpuUV ≠ 0 then C.marikoCpuDvfsTableSLT
      else C.marikoCpuDvfsTable).view = (pure last.freq : Patch UInt64) := by
    unfold lastFreq
    rw [show (if C.marikoCpuUV ≠ 0 then C.marikoCpuDvfsTableSLT
      else C.marikoCpuDvfsTable).view = cpuCustomizeTable true C from rfl, hlast]
  have hstate : ∀ ptr s, (Mariko.cpuFreqVdd C ptr s).result = .ok () →
      (Mariko.cpuFreqVdd C ptr s).state.mem ptr = lowWord last.freq := by
    intro ptr s h
    unfold Mariko.cpuFreqVdd expectWord at h ⊢
    rw [hfreq] at h ⊢
    obtain ⟨-, e₁⟩ := expect_bind_of_ok h
    rw [e₁, after_result] at h
    obtain ⟨-, e₂⟩ := expect_bind_of_ok h
    rw [e₂, after_result] at h
    obtain ⟨-, e₃⟩ := expect_bind_of_ok h
    rw [e₃, after_result] at h
    obtain ⟨-, e₄⟩ := expect_bind_of_ok h
    rw [e₁, after_state, e₂, after_state, e₃, after_state, e₄, after_state, pure_bind_run, store_run]
    exact Function.update_self ptr _ _
  constructor
  · intro h
    have hok : (Mariko.cpuFreqVdd C 6 railImage).result = .ok () := by
      unfold Mariko.cpuFreqVdd expectWord
      rw [hfreq]
      simp only [expect_bind_run]
      simp [railImage]
    rw [← hstate 6 railImage hok]
    exact h rfl 6 railImage hok
  · intro h _ ptr s hok
    rw [hstate ptr s hok, h]

theorem asmGetImm16_patch0 (imm : UInt16) (rd : UInt8) :
    asmGetImm16 (asmSetRd (asmSetImm16 asmPattern0 imm) rd) = imm.toUInt32 := by
  apply UInt32.toBitVec_inj.1
  simp only [asmGetImm16, asmSetRd, asmSetImm16, asmPattern0, UInt32.toBitVec_and,
    UInt32.toBitVec_or, UInt32.toBitVec_shiftRight, UInt32.toBitVec_shiftLeft]
  apply BitVec.eq_of_getLsbD_eq
  intro i hi
  interval_cases i <;> simp

theorem asmGetImm16_patch1 (imm : UInt16) (rd : UInt8) :
    asmGetImm16 (asmSetRd (asmSetImm16 asmPattern1 imm) rd) = imm.toUInt32 := by
  apply UInt32.toBitVec_inj.1
  simp only [asmGetImm16, asmSetRd, asmSetImm16, asmPattern1, UInt32.toBitVec_and,
    UInt32.toBitVec_or, UInt32.toBitVec_shiftRight, UInt32.toBitVec_shiftLeft]
  apply BitVec.eq_of_getLsbD_eq
  intro i hi
  interval_cases i <;> simp

/-- A `MOV`/`MOVK` pair for the first words of the image. -/
def asmImage : Store Device where
  mem := fun w => if w = 0 then asmPattern0 else if w = 1 then asmPattern1 else 0
  dev := ⟨true, fun _ => 0, fun _ => 0⟩

/-- The two instructions load the last frequency, cut to 32 bits. -/
theorem gpuMaxIs_iff {isMariko : Bool} {C : CustomizeTable} {last : CvbEntry} {freq : Nat}
    (hlast : getDvfsTableLastEntry (gpuCustomizeTable isMariko C) = some last) :
    GpuMaxIs isMariko C freq ↔ (lowWord last.freq).toNat = freq := by
  have hfreq : lastFreq (gpuCustomizeTable isMariko C) = (pure last.freq : Patch UInt64) := by
    unfold lastFreq
    rw [hlast]
  have hfn : ∀ ptr, gpuFreqMaxAsm isMariko C ptr =
      gpuFreqMaxAsmOf (lastFreq (gpuCustomizeTable isMariko C)) ptr := by
    intro ptr
    cases isMariko <;> rfl
  have hsum : ∀ x : UInt32, (x.toUInt16.toUInt32).toNat +
      2 ^ 16 * ((x >>> 16).toUInt16.toUInt32).toNat = x.toNat := by
    intro x
    have hx := x.toNat_lt
    simp only [UInt16.toNat_toUInt32, UInt32.toNat_toUInt16, UInt32.toNat_shiftRight]
    rw [show (16 : UInt32).toNat % 32 = 16 from rfl, Nat.shiftRight_eq_div_pow]
    omega
  have hstate : ∀ ptr s, (gpuFreqMaxAsm isMariko C ptr s).result = .ok () →
      (asmGetImm16 ((gpuFreqMaxAsm isMariko C ptr s).state.mem ptr)).toNat +
        2 ^ 16 * (asmGetImm16 ((gpuFreqMaxAsm isMariko C ptr s).state.mem (ptr + 1))).toNat =
      (lowWord last.freq).toNat := by
    intro ptr s h
    rw [hfn, hfreq] at h ⊢
    unfold gpuFreqMaxAsmOf at h ⊢
    simp only [load_bind_run, after_result, after_state] at h ⊢
    obtain ⟨-, e₁⟩ := require_bind_of_ok h
    rw [e₁] at h ⊢
    obtain ⟨-, e₂⟩ := require_bind_of_ok h
    rw [e₂, pure_bind_run]
    simp only [store_bind_run, store_run, after_state]
    rw [Function.update_of_ne (by omega), Function.update_self, Function.update_self,
      asmGetImm16_patch0, asmGetImm16_patch1, hsum]
  constructor
  · intro h
    have hok : (gpuFreqMaxAsm isMariko C 0 asmImage).result = .ok () := by
      rw [hfn, hfreq]
      unfold gpuFreqMaxAsmOf
      simp only [load_bind_run, after_result]
      rw [require_bind_run, if_pos (by decide), require_bind_run, if_pos (by decide)]
      rfl
    rw [← hstate 0 asmImage hok]
    exact h 0 asmImage hok
  · intro h ptr s hok
    rw [hstate ptr s hok, h]

/-! ## Top theorems -/

/-- The customized tables that are copied have entries once `safetyCheck` accepts. -/
theorem customizeTables_pos {C : CustomizeTable} (h : safetyCheck C = .ok ()) (isMariko : Bool) :
    0 < getDvfsTableEntryCount (cpuCustomizeTable isMariko C) ∧
      0 < getDvfsTableEntryCount (gpuCustomizeTable isMariko C) := by
  obtain ⟨-, a, b, c, d, ha, hb, hc, hd, -⟩ := safetyCheck_ok_iff.1 h
  cases isMariko with
  | true =>
    exact ⟨Nat.pos_of_ne_zero (count_ne_zero_of_dvfsMaxFreq hb),
      Nat.pos_of_ne_zero (count_ne_zero_of_dvfsMaxFreq hd)⟩
  | false =>
    exact ⟨Nat.pos_of_ne_zero (count_ne_zero_of_dvfsMaxFreq ha),
      Nat.pos_of_ne_zero (count_ne_zero_of_dvfsMaxFreq hc)⟩

/-- The table `c`, entries patched to `p`, copied over the default table `t`. -/
theorem consistent_withTable_iff {t c p : Nat → CvbEntry} {ptr : Int} {s : Store Device}
    {maxIs : Nat → Prop} (ht : ∀ i, getDvfsTableEntryCount t ≤ i → (t i).IsEmpty)
    (hthere : DefaultTableThere t s.mem ptr) (hpos : 0 < getDvfsTableEntryCount c)
    (hfreq : ∀ i, (p i).freq = (c i).freq) :
    Consistent c (tableAt (withTable s (tableHead ptr (getDvfsTableEntryCount t)) p
        (getDvfsTableEntryCount c)).mem (tableHead ptr (getDvfsTableEntryCount t))) maxIs ↔
      (∀ i < getDvfsTableEntryCount c, ¬ (p i).IsEmpty) ∧
        getDvfsTableEntryCount t ≤ getDvfsTableEntryCount c ∧
        maxIs (c (getDvfsTableEntryCount c - 1)).freq.toNat := by
  have hcount := count_withTable_iff (p := p) ht hthere (getDvfsTableEntryCount_le c)
  have hlast : getDvfsTableEntryCount (tableAt (withTable s (tableHead ptr (getDvfsTableEntryCount t))
      p (getDvfsTableEntryCount c)).mem (tableHead ptr (getDvfsTableEntryCount t))) =
        getDvfsTableEntryCount c →
      getDvfsTableLastEntry (tableAt (withTable s (tableHead ptr (getDvfsTableEntryCount t)) p
        (getDvfsTableEntryCount c)).mem (tableHead ptr (getDvfsTableEntryCount t))) =
          some (p (getDvfsTableEntryCount c - 1)) := by
    intro h
    rw [getDvfsTableLastEntry_of_pos (by omega), h]
    exact congrArg some (tableAt_writeBlock_of_lt s.mem _ p (by omega))
  unfold Consistent
  constructor
  · rintro ⟨hn, last, hl, hmax⟩
    rw [hlast hn, Option.some.injEq] at hl
    subst hl
    rw [hfreq] at hmax
    exact ⟨(hcount.1 hn).1, (hcount.1 hn).2, hmax⟩
  · rintro ⟨hfull, hle, hmax⟩
    have hn := hcount.2 ⟨hfull, hle⟩
    refine ⟨hn, _, hlast hn, ?_⟩
    rwa [hfreq]

theorem lastFreqFits_iff {c : Nat → CvbEntry} (hpos : 0 < getDvfsTableEntryCount c) :
    LastFreqFits c ↔ (lowWord (c (getDvfsTableEntryCount c - 1)).freq).toNat =
      (c (getDvfsTableEntryCount c - 1)).freq.toNat := by
  unfold LastFreqFits
  rw [getDvfsTableLastEntry_of_pos hpos]
  simp only [Option.some.injEq, forall_eq', lowWord, UInt32.toNat_ofNat']
  omega

/-- The CPU table against the CPU rail. -/
theorem cpuTable_consistent_iff (isMariko : Bool) {C : CustomizeTable} {ptr : Int}
    {s : Store Device} (hpos : 0 < getDvfsTableEntryCount (cpuCustomizeTable isMariko C))
    (hthere : DefaultTableThere (cpuDefaultTable isMariko) s.mem ptr) :
    (cpuFreqCvbTable isMariko C ptr s).result = .ok () ∧
      (Consistent (cpuCustomizeTable isMariko C) (tableAfter (cpuDefaultTable isMariko) ptr
          (cpuFreqCvbTable isMariko C ptr s)) (CpuMaxIs isMariko C) ↔
        getDvfsTableEntryCount (cpuDefaultTable isMariko) ≤
            getDvfsTableEntryCount (cpuCustomizeTable isMariko C) ∧
          (isMariko = true → LastFreqFits (cpuCustomizeTable isMariko C))) := by
  rcases cpuFreqCvbTable_run isMariko C ptr s with ⟨hnot, -⟩ | ⟨-, hok, hst⟩
  · exact absurd hthere.found hnot
  refine ⟨hok, ?_⟩
  unfold tableAfter
  rw [hst, consistent_withTable_iff (fun _ => cpuDefaultTable_isEmpty isMariko) hthere hpos
    fun _ => cpuPatchEntry_freq isMariko C _]
  have hfull : ∀ i < getDvfsTableEntryCount (cpuCustomizeTable isMariko C),
      ¬ (cpuPatchEntry isMariko C (cpuCustomizeTable isMariko C i)).IsEmpty := fun i hi =>
    cpuPatchEntry_not_isEmpty (not_isEmpty_of_lt hi)
  have hmax : CpuMaxIs isMariko C (cpuCustomizeTable isMariko C
      (getDvfsTableEntryCount (cpuCustomizeTable isMariko C) - 1)).freq.toNat ↔
      (isMariko = true → LastFreqFits (cpuCustomizeTable isMariko C)) := by
    cases isMariko with
    | true =>
      rw [cpuMaxIs_iff (getDvfsTableLastEntry_of_pos hpos), lastFreqFits_iff hpos]
      simp
    | false => simp [CpuMaxIs]
  rw [hmax]
  exact ⟨fun h => h.2, fun h => ⟨hfull, h⟩⟩

/-- The GPU table against the GPU instructions. -/
theorem gpuTable_consistent_iff (isMariko : Bool) {C : CustomizeTable} {ptr : Int}
    {s : Store Device} (hpos : 0 < getDvfsTableEntryCount (gpuCustomizeTable isMariko C))
    (hthere : DefaultTableThere (gpuDefaultTable isMariko) s.mem ptr) :
    (gpuFreqCvbTable isMariko C ptr s).result = .ok () ∧
      (Consistent (gpuCustomizeTable isMariko C) (tableAfter (gpuDefaultTable isMariko) ptr
          (gpuFreqCvbTable isMariko C ptr s)) (GpuMaxIs isMariko C) ↔
        getDvfsTableEntryCount (gpuDefaultTable isMariko) ≤
            getDvfsTableEntryCount (gpuCustomizeTable isMariko C) ∧
          LastFreqFits (gpuCustomizeTable isMariko C) ∧
          ∀ i < getDvfsTableEntryCount (gpuCustomizeTable isMariko C),
            ¬ VoltPatchClears isMariko C i (gpuCustomizeTable isMariko C i)) := by
  rcases gpuFreqCvbTable_run isMariko C ptr s with ⟨hnot, -⟩ | ⟨-, hok, hst⟩
  · exact absurd hthere.found hnot
  refine ⟨hok, ?_⟩
  unfold tableAfter
  rw [hst, consistent_withTable_iff (fun _ => gpuDefaultTable_isEmpty isMariko) hthere hpos
      fun i => gpuPatchEntry_freq isMariko C i _,
    gpuMaxIs_iff (getDvfsTableLastEntry_of_pos hpos), ← lastFreqFits_iff hpos]
  have hfull : (∀ i < getDvfsTableEntryCount (gpuCustomizeTable isMariko C),
      ¬ (gpuPatchEntry isMariko C i (gpuCustomizeTable isMariko C i)).IsEmpty) ↔
      ∀ i < getDvfsTableEntryCount (gpuCustomizeTable isMariko C),
        ¬ VoltPatchClears isMariko C i (gpuCustomizeTable isMariko C i) :=
    forall₂_congr fun i hi => not_congr (gpuPatchEntry_isEmpty_iff (not_isEmpty_of_lt hi))
  rw [hfull]
  exact ⟨fun ⟨h₁, h₂, h₃⟩ => ⟨h₂, h₃, h₁⟩, fun ⟨h₁, h₂, h₃⟩ => ⟨h₃, h₁, h₂⟩⟩

/-- **The tables in the image and the maximum clocks agree** iff the customized table
is no shorter than the default one it replaces, its last frequency fits in a `u32`,
and the voltage patch clears none of its entries. -/
theorem cvbTables_consistent_iff (isMariko : Bool) (C : CustomizeTable) (ptr : Int)
    (s : Store Device) (hsafe : safetyCheck C = .ok ()) :
    (DefaultTableThere (cpuDefaultTable isMariko) s.mem ptr →
      (cpuFreqCvbTable isMariko C ptr s).result = .ok () ∧
      (Consistent (cpuCustomizeTable isMariko C) (tableAfter (cpuDefaultTable isMariko) ptr
          (cpuFreqCvbTable isMariko C ptr s)) (CpuMaxIs isMariko C) ↔
        getDvfsTableEntryCount (cpuDefaultTable isMariko) ≤
            getDvfsTableEntryCount (cpuCustomizeTable isMariko C) ∧
          (isMariko = true → LastFreqFits (cpuCustomizeTable isMariko C)))) ∧
    (DefaultTableThere (gpuDefaultTable isMariko) s.mem ptr →
      (gpuFreqCvbTable isMariko C ptr s).result = .ok () ∧
      (Consistent (gpuCustomizeTable isMariko C) (tableAfter (gpuDefaultTable isMariko) ptr
          (gpuFreqCvbTable isMariko C ptr s)) (GpuMaxIs isMariko C) ↔
        getDvfsTableEntryCount (gpuDefaultTable isMariko) ≤
            getDvfsTableEntryCount (gpuCustomizeTable isMariko C) ∧
          LastFreqFits (gpuCustomizeTable isMariko C) ∧
          ∀ i < getDvfsTableEntryCount (gpuCustomizeTable isMariko C),
            ¬ VoltPatchClears isMariko C i (gpuCustomizeTable isMariko C i))) :=
  ⟨cpuTable_consistent_iff isMariko (customizeTables_pos hsafe isMariko).1,
    gpuTable_consistent_iff isMariko (customizeTables_pos hsafe isMariko).2⟩

/-! ## A shorter table -/

/-- The shipped configuration with a Mariko CPU table that stops at the OS limit. -/
def shortCpuTable : CustomizeTable :=
  { customizeTable with marikoCpuDvfsTable := .ofList (marikoCpuDvfsTable.take 16) }

theorem safetyCheck_shortCpuTable : safetyCheck shortCpuTable = .ok () :=
  safetyCheck_ok_iff.2 ⟨rfl, 2091000, 1785000, 998400, 1267200,
    dvfsMaxFreq_ofList eristaCpuDvfsTable (by decide),
    dvfsMaxFreq_ofList (marikoCpuDvfsTable.take 16) (by decide),
    dvfsMaxFreq_ofList eristaGpuDvfsTable (by decide),
    dvfsMaxFreq_ofList marikoGpuDvfsTable (by decide), by decide⟩

/-- The default Mariko CPU table at the start of the image, zeros around it. -/
def defaultCpuImage : Store Device :=
  withTable ⟨fun _ => 0, ⟨true, fun _ => 0, fun _ => 0⟩⟩ 0 (cpuDefaultTable true) 18

/-- Where its last entry's frequency is. -/
def defaultCpuPtr : Int := 238

theorem defaultCpuImage_there :
    DefaultTableThere (cpuDefaultTable true) defaultCpuImage.mem defaultCpuPtr := by
  intro i hi
  have hhead : tableHead defaultCpuPtr (getDvfsTableEntryCount (cpuDefaultTable true)) = 0 := by
    decide
  rw [hhead]
  rcases Nat.lt_or_ge i 18 with hlt | hge
  · exact tableAt_writeBlock_of_lt _ 0 _ hlt
  · rw [show tableAt defaultCpuImage.mem 0 i = tableAt (fun _ => 0) 0 i from
      tableAt_writeBlock_of_le _ 0 _ hge]
    exact (listView_isEmpty (l := Mariko.cpuCvbTableDefault) (le_trans (by decide) hge)).symm

theorem cvbTables_consistent_iff_shortCpuTable :
    (cpuFreqCvbTable true shortCpuTable defaultCpuPtr defaultCpuImage).result = .ok () :=
  ((cvbTables_consistent_iff true shortCpuTable defaultCpuPtr defaultCpuImage
    safetyCheck_shortCpuTable).1 defaultCpuImage_there).1

/-- Sixteen entries go over a default table of eighteen; eighteen are left. -/
theorem shortCpuTable_not_consistent :
    ¬ ∀ (isMariko : Bool) (C : CustomizeTable) (ptr : Int) (s : Store Device),
      safetyCheck C = .ok () → DefaultTableThere (cpuDefaultTable isMariko) s.mem ptr →
      Consistent (cpuCustomizeTable isMariko C) (tableAfter (cpuDefaultTable isMariko) ptr
        (cpuFreqCvbTable isMariko C ptr s)) (CpuMaxIs isMariko C) := by
  intro h
  have hcount : getDvfsTableEntryCount (cpuCustomizeTable true shortCpuTable) = 16 :=
    (getDvfsTableEntryCount_ofList (marikoCpuDvfsTable.take 16)).trans (by decide)
  have hcons := h true shortCpuTable defaultCpuPtr defaultCpuImage safetyCheck_shortCpuTable
    defaultCpuImage_there
  have hle := ((cpuTable_consistent_iff true (by omega) defaultCpuImage_there).2.1 hcons).1
  rw [hcount] at hle
  exact absurd hle (by decide)

end SwitchOc
