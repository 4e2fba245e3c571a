import Mathlib.Tactic.Common
import SwitchOcSuite.Loader.CvbTables
import SwitchOcSuite.Loader.Lookback

/-!
# What one SoC's patches read of the other SoC's fields

Nothing on Erista.  On Mariko one thing: with `marikoGpuUV` 3, `GpuFreqCvbTable`
indexes `marikoGpuVoltArray` by the entry, and from entry 17 on that reads the
words of `eristaCpuDvfsTable`, which follows the array in the struct.

    patches_forErista       the Erista list is the one of the Erista view of the table
    gpuFreqCvbTable_congr   the Mariko GPU table, where the voltages read agree
    patch_isolated_iff      the patched image does not depend on the other SoC's fields
-/

namespace SwitchOc

open Traced

/-! ## Agreement of two tables -/

/-- `mtcConf`, `common*` and the RAM presets are alike. -/
structure CommonAgree (C C' : CustomizeTable) : Prop where
  mtcConf : C.mtcConf = C'.mtcConf
  commonCpuBoostClock : C.commonCpuBoostClock = C'.commonCpuBoostClock
  commonEmcMemVolt : C.commonEmcMemVolt = C'.commonEmcMemVolt
  commonGpuVoltOffset : C.commonGpuVoltOffset = C'.commonGpuVoltOffset
  ramTimingPresetOne : C.ramTimingPresetOne = C'.ramTimingPresetOne
  ramTimingPresetTwo : C.ramTimingPresetTwo = C'.ramTimingPresetTwo
  ramTimingPresetThree : C.ramTimingPresetThree = C'.ramTimingPresetThree
  ramTimingPresetFour : C.ramTimingPresetFour = C'.ramTimingPresetFour
  ramTimingPresetFive : C.ramTimingPresetFive = C'.ramTimingPresetFive
  ramTimingPresetSix : C.ramTimingPresetSix = C'.ramTimingPresetSix
  ramTimingPresetSeven : C.ramTimingPresetSeven = C'.ramTimingPresetSeven

structure EristaAgree (C C' : CustomizeTable) : Prop where
  eristaCpuMaxVolt : C.eristaCpuMaxVolt = C'.eristaCpuMaxVolt
  eristaEmcMaxClock : C.eristaEmcMaxClock = C'.eristaEmcMaxClock
  eristaCpuDvfsTable : C.eristaCpuDvfsTable = C'.eristaCpuDvfsTable
  eristaGpuDvfsTable : C.eristaGpuDvfsTable = C'.eristaGpuDvfsTable

structure MarikoAgree (C C' : CustomizeTable) : Prop where
  marikoCpuMaxVolt : C.marikoCpuMaxVolt = C'.marikoCpuMaxVolt
  marikoEmcMaxClock : C.marikoEmcMaxClock = C'.marikoEmcMaxClock
  marikoEmcVddqVolt : C.marikoEmcVddqVolt = C'.marikoEmcVddqVolt
  marikoCpuUV : C.marikoCpuUV = C'.marikoCpuUV
  marikoGpuUV : C.marikoGpuUV = C'.marikoGpuUV
  marikoEmcDvbShift : C.marikoEmcDvbShift = C'.marikoEmcDvbShift
  marikoGpuVoltArray : C.marikoGpuVoltArray = C'.marikoGpuVoltArray
  marikoCpuDvfsTable : C.marikoCpuDvfsTable = C'.marikoCpuDvfsTable
  marikoCpuDvfsTableSLT : C.marikoCpuDvfsTableSLT = C'.marikoCpuDvfsTableSLT
  marikoGpuDvfsTable : C.marikoGpuDvfsTable = C'.marikoGpuDvfsTable
  marikoGpuDvfsTableSLT : C.marikoGpuDvfsTableSLT = C'.marikoGpuDvfsTableSLT
  marikoGpuDvfsTableHiOPT : C.marikoGpuDvfsTableHiOPT = C'.marikoGpuDvfsTableHiOPT

/-- The fields of `soc` itself are alike. -/
def SocAgree : Soc → CustomizeTable → CustomizeTable → Prop
  | .erista => EristaAgree
  | .mariko => MarikoAgree

/-- The voltages read past the end of `marikoGpuVoltArray` are alike as they are written. -/
def GpuVoltsAgree (C C' : CustomizeTable) : Prop :=
  C.marikoGpuUV = 3 → ∀ i, 17 ≤ i → i < getDvfsTableEntryCount C.marikoGpuDvfsTable.view →
    C.gpuVoltAt i * 1000 = C'.gpuVoltAt i * 1000

/-- The same result, image and regulator, also where the runs abort: the regulator may have been
written by then. -/
def SameEffect (o o' : Outcome Stop (Store Device) Access Unit) : Prop :=
  o.result = o'.result ∧ o.state.mem = o'.state.mem ∧ o.state.dev.pmic = o'.state.dev.pmic

/-! ## Views -/

/-- The table with the fields of Mariko as shipped. -/
def CustomizeTable.forErista (C : CustomizeTable) : CustomizeTable :=
  { customizeTable with
    mtcConf := C.mtcConf
    commonCpuBoostClock := C.commonCpuBoostClock
    commonEmcMemVolt := C.commonEmcMemVolt
    commonGpuVoltOffset := C.commonGpuVoltOffset
    ramTimingPresetOne := C.ramTimingPresetOne
    ramTimingPresetTwo := C.ramTimingPresetTwo
    ramTimingPresetThree := C.ramTimingPresetThree
    ramTimingPresetFour := C.ramTimingPresetFour
    ramTimingPresetFive := C.ramTimingPresetFive
    ramTimingPresetSix := C.ramTimingPresetSix
    ramTimingPresetSeven := C.ramTimingPresetSeven
    eristaCpuMaxVolt := C.eristaCpuMaxVolt
    eristaEmcMaxClock := C.eristaEmcMaxClock
    eristaCpuDvfsTable := C.eristaCpuDvfsTable
    eristaGpuDvfsTable := C.eristaGpuDvfsTable }

/-- The table with the fields of Erista as shipped. -/
def CustomizeTable.forMariko (C : CustomizeTable) : CustomizeTable :=
  { C with
    cust := customizeTable.cust
    custRev := customizeTable.custRev
    eristaCpuMaxVolt := customizeTable.eristaCpuMaxVolt
    eristaEmcMaxClock := customizeTable.eristaEmcMaxClock
    eristaCpuDvfsTable := customizeTable.eristaCpuDvfsTable
    eristaGpuDvfsTable := customizeTable.eristaGpuDvfsTable }

variable {C C' : CustomizeTable}

theorem forErista_congr (hc : CommonAgree C C') (he : EristaAgree C C') :
    C.forErista = C'.forErista := by
  unfold CustomizeTable.forErista
  rw [hc.mtcConf, hc.commonCpuBoostClock, hc.commonEmcMemVolt, hc.commonGpuVoltOffset,
    hc.ramTimingPresetOne, hc.ramTimingPresetTwo, hc.ramTimingPresetThree,
    hc.ramTimingPresetFour, hc.ramTimingPresetFive, hc.ramTimingPresetSix,
    hc.ramTimingPresetSeven, he.eristaCpuMaxVolt, he.eristaEmcMaxClock, he.eristaCpuDvfsTable,
    he.eristaGpuDvfsTable]

theorem forMariko_congr (hc : CommonAgree C C') (hm : MarikoAgree C C') :
    C.forMariko = C'.forMariko := by
  unfold CustomizeTable.forMariko
  rw [hc.mtcConf, hc.commonCpuBoostClock, hc.commonEmcMemVolt, hc.commonGpuVoltOffset,
    hc.ramTimingPresetOne, hc.ramTimingPresetTwo, hc.ramTimingPresetThree,
    hc.ramTimingPresetFour, hc.ramTimingPresetFive, hc.ramTimingPresetSix,
    hc.ramTimingPresetSeven, hm.marikoCpuMaxVolt, hm.marikoEmcMaxClock, hm.marikoEmcVddqVolt,
    hm.marikoCpuUV, hm.marikoGpuUV, hm.marikoEmcDvbShift, hm.marikoGpuVoltArray,
    hm.marikoCpuDvfsTable, hm.marikoCpuDvfsTableSLT, hm.marikoGpuDvfsTable,
    hm.marikoGpuDvfsTableSLT, hm.marikoGpuDvfsTableHiOPT]

/-! ## Erista -/

theorem gpuFreqCvbTable_forErista (C : CustomizeTable) :
    gpuFreqCvbTable false C.forErista = gpuFreqCvbTable false C := by
  funext ptr
  unfold gpuFreqCvbTable
  simp only [Bool.false_eq_true, false_and, if_false]
  rfl

theorem patches_forErista (C : CustomizeTable) : Erista.patches C.forErista = Erista.patches C := by
  unfold Erista.patches
  rw [gpuFreqCvbTable_forErista]
  rfl

/-! ## Mariko -/

theorem gpuVoltAt_of_lt (hm : MarikoAgree C C') {i : Nat} (hi : i < 17) :
    C.gpuVoltAt i = C'.gpuVoltAt i := by
  unfold CustomizeTable.gpuVoltAt
  rw [dif_pos hi, dif_pos hi]
  simp only [hm.marikoGpuVoltArray]

/-- The voltage array is only read with `marikoGpuUV` 3, and then for the plain table. -/
theorem gpuFreqCvbTable_congr (hc : CommonAgree C C') (hm : MarikoAgree C C')
    (hv : GpuVoltsAgree C C') : gpuFreqCvbTable true C = gpuFreqCvbTable true C' := by
  have htable : gpuCustomizeTable true C = gpuCustomizeTable true C' := by
    simp only [gpuCustomizeTable, if_true, hm.marikoGpuUV, hm.marikoGpuDvfsTable,
      hm.marikoGpuDvfsTableSLT, hm.marikoGpuDvfsTableHiOPT]
  have harray : C.marikoGpuUV = 3 → ∀ head,
      Prog.forEach (List.range (getDvfsTableEntryCount (gpuCustomizeTable true C')))
        (gpuVoltArrayTurn C head) =
      Prog.forEach (List.range (getDvfsTableEntryCount (gpuCustomizeTable true C')))
        (gpuVoltArrayTurn C' head) := by
    intro hUV head
    refine forEach_congr fun i hi => ?_
    have hcount : i < getDvfsTableEntryCount C.marikoGpuDvfsTable.view := by
      rw [List.mem_range, ← htable] at hi
      simpa [gpuCustomizeTable, switchUV, hUV] using hi
    have hvolt : C.gpuVoltAt i * 1000 = C'.gpuVoltAt i * 1000 := by
      rcases Nat.lt_or_ge i 17 with hlt | hge
      · rw [gpuVoltAt_of_lt hm hlt]
      · exact hv hUV i hge hcount
    unfold gpuVoltArrayTurn
    rw [hvolt]
  funext ptr
  unfold gpuFreqCvbTable gpuVoltOffsetTurn
  simp only [htable, hm.marikoGpuUV, hc.commonGpuVoltOffset, true_and]
  by_cases hUV : C'.marikoGpuUV = 3
  · simp only [if_pos hUV, harray (hm.marikoGpuUV.trans hUV)]
  · simp only [if_neg hUV]

/-- What only reads the Mariko view is alike. -/
theorem of_forMariko {α : Type} (f : CustomizeTable → α) (hf : ∀ C, f C.forMariko = f C)
    (hc : CommonAgree C C') (hm : MarikoAgree C C') : f C = f C' := by
  rw [← hf C, ← hf C', forMariko_congr hc hm]

theorem mariko_patches_congr (hc : CommonAgree C C') (hm : MarikoAgree C C')
    (hv : GpuVoltsAgree C C') : Mariko.patches C = Mariko.patches C' := by
  unfold Mariko.patches
  rw [gpuFreqCvbTable_congr hc hm hv, of_forMariko Mariko.cpuFreqVdd (fun _ => rfl) hc hm,
    of_forMariko (cpuFreqCvbTable true) (fun _ => rfl) hc hm,
    of_forMariko Mariko.cpuVoltRange (fun _ => rfl) hc hm,
    of_forMariko Mariko.cpuVoltDfll (fun _ => rfl) hc hm,
    of_forMariko Mariko.gpuFreqMaxAsm (fun _ => rfl) hc hm,
    of_forMariko Mariko.memFreqMtcTable (fun _ => rfl) hc hm,
    of_forMariko Mariko.memFreqDvbTable (fun _ => rfl) hc hm,
    of_forMariko Mariko.memFreqMax (fun _ => rfl) hc hm,
    of_forMariko Mariko.emcVddqVolt (fun _ => rfl) hc hm,
    of_forMariko memVoltHandler (fun _ => rfl) hc hm]

/-- Where the lists are alike, so are the patches. -/
theorem patch_congr {soc : Soc} (h : patches soc C = patches soc C') (nsoSize : Nat) :
    patch soc C nsoSize = patch soc C' nsoSize := by
  unfold patch scan patchAt
  rw [h]

/-! ## What a scan does with entries that do not match -/

/-- The tests of a word by the entries for Mariko. -/
theorem Mariko.matches_patches (C : CustomizeTable) (word : UInt32) :
    (Mariko.patches C).map (·.matches word) =
      [cpuClkOSLimit == word, 1963500 == word, cpuVoltOfficial == word, 0x0000FFCF == word,
        1267200 == word, gpuMaxClockPatternFn word, emcClkOSLimit == word, emcClkOSLimit == word,
        emcClkOSLimit == word, emcClkPllmLimit == word, emcVddqDefault == word,
        memVdd2Default == word] := by
  simp only [Mariko.patches, List.map_cons, List.map_nil, PatcherEntry.matches,
    cvbDefaultMaxFreq_cpu, cvbDefaultMaxFreq_gpu]

theorem tryEntries_cons (ptr : Int) (i : Nat) (entry : PatcherEntry) (es : List PatcherEntry) :
    tryEntries ptr i (entry :: es) =
      Prog.attempt Stop.isResult (entry.searchAndApply i ptr) (tryEntries ptr (i + 1) es) :=
  rfl

/-- Entries that do not match are passed over. -/
theorem tryEntries_of_no_match {ptr : Int} {s : Store Device} (rest : List PatcherEntry) :
    ∀ (es : List PatcherEntry) (i : Nat), (∀ entry ∈ es, entry.matches (s.mem ptr) = false) →
      ∃ l, tryEntries ptr i (es ++ rest) s = (tryEntries ptr (i + es.length) rest s).after l := by
  intro es
  induction es with
  | nil => exact fun i _ => ⟨[], rfl⟩
  | cons entry es ih =>
    intro i h
    obtain ⟨l, hl⟩ := ih (i + 1) fun e he => h e (by simp [he])
    have hno : entry.searchAndApply i ptr s =
        ⟨.error (.result .unsuccessfulPatcher), s, [.read ptr]⟩ := by
      unfold PatcherEntry.searchAndApply
      rw [load_bind_run, if_neg (by simp [h entry (by simp)])]
      rfl
    refine ⟨.read ptr :: l, ?_⟩
    rw [List.cons_append, tryEntries_cons, List.length_cons,
      show i + (es.length + 1) = i + 1 + es.length by omega]
    unfold Prog.attempt
    simp only [hno, Stop.isResult, if_true, hl, Outcome.after, List.cons_append, List.nil_append]

theorem tryEntries_of_ok {entry : PatcherEntry} {i : Nat} {ptr : Int} {s : Store Device}
    (h : (entry.searchAndApply i ptr s).result = .ok ()) (es : List PatcherEntry) :
    tryEntries ptr i (entry :: es) s = entry.searchAndApply i ptr s := by
  rw [tryEntries_cons]
  unfold Prog.attempt
  simp only [h]

/-- An entry that matches and whose patch function succeeds. -/
theorem searchAndApply_of_ok {entry : PatcherEntry} {i : Nat} {ptr : Int} {s : Store Device}
    (hm : entry.matches (s.mem ptr) = true) (h : (entry.patcherFn ptr s).result = .ok ()) :
    (entry.searchAndApply i ptr s).result = .ok () ∧
      (entry.searchAndApply i ptr s).state =
        { (entry.patcherFn ptr s).state with dev := (entry.patcherFn ptr s).state.dev.count i } := by
  unfold PatcherEntry.searchAndApply PatcherEntry.apply
  rw [load_bind_run, if_pos hm, bind_of_ok h]
  exact ⟨rfl, rfl⟩

/-- A cursor at which no entry matches. -/
theorem patchAt_of_no_match {soc : Soc} {C : CustomizeTable} {ptr : Int} {s : Store Device}
    (h : ∀ entry ∈ patches soc C, entry.matches (s.mem ptr) = false) :
    (patchAt soc C ptr s).result = .ok () ∧ (patchAt soc C ptr s).state = s := by
  obtain ⟨l, hl⟩ := tryEntries_of_no_match [] (patches soc C) 0 h
  rw [List.append_nil] at hl
  unfold patchAt
  rw [hl]
  exact ⟨rfl, rfl⟩

/-- One success of an entry is never too many. -/
theorem checkResults_of_count_le {s : Store Device} (hcount : ∀ i, s.dev.patchedCount i ≤ 1) :
    ∀ (es : List PatcherEntry) (i : Nat),
      checkResults i es s = ⟨.ok (), s, []⟩ := by
  intro es
  induction es with
  | nil => exact fun _ => rfl
  | cons entry es ih =>
    intro i
    have hok : entry.checkResult (s.dev.patchedCount i) = .ok () := by
      unfold PatcherEntry.checkResult
      rw [if_neg]
      rintro ⟨hmax, hle⟩
      exact hle (Nat.le_trans (hcount i) (Nat.one_le_iff_ne_zero.2 hmax))
    unfold checkResults
    simp only [hok]
    exact ih (i + 1)

/-! ## The default GPU table alone -/

/-- The default GPU table of Mariko at the start of an image of zeros. -/
def gpuTableImage : Store Device where
  mem := writeBlock (fun _ => 0) 0 (tableWords (gpuDefaultTable true) 17)
  dev := ⟨true, fun _ => 0, fun _ => 0⟩

/-- The frequency of its last entry, the last position a cursor takes. -/
def gpuTablePtr : Nat := 224

def gpuTableSize : Nat := 4 * (gpuTablePtr + Mariko.mtcTableWords)

/-- No entry is tried before the last cursor. -/
theorem gpuTableImage_quiet (C : CustomizeTable) {ptr : Nat} (h : ptr < gpuTablePtr) :
    ∀ entry ∈ Mariko.patches C, entry.matches (gpuTableImage.mem ptr) = false := by
  have hquiet : (((tableWords (gpuDefaultTable true) 17).take gpuTablePtr).all fun word =>
      [cpuClkOSLimit == word, 1963500 == word, Mariko.cpuVoltOfficial == word, 0x0000FFCF == word,
        1267200 == word, gpuMaxClockPatternFn word, emcClkOSLimit == word, emcClkOSLimit == word,
        emcClkOSLimit == word, Mariko.emcClkPllmLimit == word, Mariko.emcVddqDefault == word,
        Mariko.memVdd2Default == word].all (!·)) = true := by decide +kernel
  have hlen : (tableWords (gpuDefaultTable true) 17).length = 238 := length_tableWords _ 17
  have hp : gpuTablePtr = 224 := rfl
  have hword : gpuTableImage.mem ptr = (tableWords (gpuDefaultTable true) 17).getD ptr 0 := by
    rw [← writeBlock_of_mem (fun _ => 0) 0 (tableWords (gpuDefaultTable true) 17) (by omega),
      Int.zero_add, gpuTableImage]
  have hmem : gpuTableImage.mem ptr ∈ (tableWords (gpuDefaultTable true) 17).take gpuTablePtr := by
    rw [hword, List.getD_eq_getElem?_getD, List.getElem?_eq_getElem (by omega)]
    exact List.mem_take_iff_getElem.2 ⟨ptr, by omega, rfl⟩
  intro entry hentry
  have hall := List.all_eq_true.1 hquiet _ hmem
  rw [← Mariko.matches_patches C] at hall
  simpa using List.all_eq_true.1 hall _ (List.mem_map_of_mem hentry)

theorem gpuTableImage_found :
    DefaultTableFound (gpuDefaultTable true) gpuTableImage.mem gpuTablePtr := by
  have hcount : getDvfsTableEntryCount (gpuDefaultTable true) = 17 := by decide +kernel
  unfold DefaultTableFound
  rw [hcount, show tableHead gpuTablePtr 17 = 0 from rfl,
    ← length_tableWords (gpuDefaultTable true), gpuTableImage]
  exact readBlock_writeBlock _ _ _

/-- The entry "GPU Freq Table" of Mariko. -/
def gpuTableEntry (C : CustomizeTable) : PatcherEntry :=
  { description := "GPU Freq Table", patcherFn := gpuFreqCvbTable true C, maximumPatchedCount := 1,
    valueSearch := cvbDefaultMaxFreq (gpuDefaultTable true) }

/-- The last cursor: the entry of the GPU table is the first to match. -/
theorem patchAt_gpuTableImage (C : CustomizeTable) :
    (patchAt .mariko C gpuTablePtr gpuTableImage).result = .ok () ∧
      (patchAt .mariko C gpuTablePtr gpuTableImage).state =
        { (gpuFreqCvbTable true C gpuTablePtr gpuTableImage).state with
          dev := (gpuFreqCvbTable true C gpuTablePtr gpuTableImage).state.dev.count 4 } := by
  have hword : gpuTableImage.mem gpuTablePtr = 1267200 := by decide +kernel
  have hsplit : patches .mariko C =
      (Mariko.patches C).take 4 ++ gpuTableEntry C :: (Mariko.patches C).drop 5 := rfl
  have hfirst : ∀ entry ∈ (Mariko.patches C).take 4,
      entry.matches (gpuTableImage.mem gpuTablePtr) = false := by
    intro entry hentry
    have hmem := List.mem_map_of_mem (f := (·.matches (gpuTableImage.mem gpuTablePtr))) hentry
    rw [List.map_take, Mariko.matches_patches, hword] at hmem
    have hnone : ∀ b ∈ [cpuClkOSLimit == 1267200, (1963500 : UInt32) == 1267200,
      Mariko.cpuVoltOfficial == 1267200, (0x0000FFCF : UInt32) == 1267200], b = false := by decide
    exact hword ▸ hnone _ hmem
  have hm : (gpuTableEntry C).matches (gpuTableImage.mem gpuTablePtr) = true := by
    rw [hword]
    exact beq_iff_eq.2 Mariko.cvbDefaultMaxFreq_gpu
  have hok : ((gpuTableEntry C).patcherFn gpuTablePtr gpuTableImage).result = .ok () := by
    obtain ⟨hno, -⟩ | ⟨-, hres, -⟩ := gpuFreqCvbTable_run true C gpuTablePtr gpuTableImage
    · exact absurd gpuTableImage_found hno
    · exact hres
  obtain ⟨l, hl⟩ := tryEntries_of_no_match (gpuTableEntry C :: (Mariko.patches C).drop 5)
    ((Mariko.patches C).take 4) 0 hfirst
  obtain ⟨hres, hst⟩ := searchAndApply_of_ok (i := 4) hm hok
  unfold patchAt
  rw [hsplit, hl, after_result, after_state,
    show 0 + ((Mariko.patches C).take 4).length = 4 from rfl, tryEntries_of_ok hres]
  exact ⟨hres, hst⟩

theorem patch_of_scan {soc : Soc} {C : CustomizeTable} {nsoSize : Nat} {s : Store Device}
    (hres : (scan soc C nsoSize s).result = .ok ())
    (hcount : ∀ i, (scan soc C nsoSize s).state.dev.patchedCount i ≤ 1) :
    (patch soc C nsoSize s).result = .ok () ∧
      (patch soc C nsoSize s).state = (scan soc C nsoSize s).state := by
  unfold patch
  rw [bind_of_ok hres, checkResults_of_count_le hcount]
  exact ⟨rfl, rfl⟩

/-- On this image the patches of Mariko succeed and rewrite the GPU table only. -/
theorem patch_gpuTableImage (C : CustomizeTable) :
    (patch .mariko C gpuTableSize gpuTableImage).result = .ok () ∧
      (patch .mariko C gpuTableSize gpuTableImage).state.mem =
        (withTable gpuTableImage 0 (fun i => gpuPatchEntry true C i (gpuCustomizeTable true C i))
          (getDvfsTableEntryCount (gpuCustomizeTable true C))).mem := by
  have htable : (gpuFreqCvbTable true C gpuTablePtr gpuTableImage).state =
      withTable gpuTableImage 0 (fun i => gpuPatchEntry true C i (gpuCustomizeTable true C i))
        (getDvfsTableEntryCount (gpuCustomizeTable true C)) := by
    obtain ⟨hno, -⟩ | ⟨-, -, hst⟩ := gpuFreqCvbTable_run true C gpuTablePtr gpuTableImage
    · exact absurd gpuTableImage_found hno
    · rwa [show getDvfsTableEntryCount (gpuDefaultTable true) = 17 by decide +kernel,
        show tableHead gpuTablePtr 17 = 0 from rfl] at hst
  obtain ⟨hres, hst⟩ := patchAt_gpuTableImage C
  have hrange : List.range (cursorCount .mariko gpuTableSize) =
      List.range gpuTablePtr ++ [gpuTablePtr] := List.range_succ
  have hscan : (scan .mariko C gpuTableSize gpuTableImage).result = .ok () ∧
      (scan .mariko C gpuTableSize gpuTableImage).state =
        (patchAt .mariko C gpuTablePtr gpuTableImage).state := by
    unfold scan
    rw [hrange]
    exact forEach_concat_of_kept (fun ptr hptr =>
      patchAt_of_no_match (gpuTableImage_quiet C (List.mem_range.1 hptr))) hres
  rw [hst, htable] at hscan
  have hcount : ∀ i, (scan .mariko C gpuTableSize gpuTableImage).state.dev.patchedCount i ≤ 1 := by
    intro i
    rw [hscan.2]
    show Function.update (fun _ => 0) 4 1 i ≤ 1
    by_cases hi : i = 4
    · rw [hi, Function.update_self]
    · rw [Function.update_of_ne hi]
      exact Nat.zero_le 1
  obtain ⟨hok, hstate⟩ := patch_of_scan hscan.1 hcount
  rw [hstate, hscan.2]
  exact ⟨hok, rfl⟩

/-- The word that holds the voltage of entry `i` afterwards. -/
theorem gpuVolt_written (hUV : C.marikoGpuUV = 3) {i : Nat}
    (hi : i < getDvfsTableEntryCount C.marikoGpuDvfsTable.view) :
    (patch .mariko C gpuTableSize gpuTableImage).state.mem (0 + (cvbWords * i + 8 : Nat)) =
      C.gpuVoltAt i * 1000 := by
  have htable : gpuCustomizeTable true C = C.marikoGpuDvfsTable.view := by
    simp [gpuCustomizeTable, switchUV, hUV]
  rw [(patch_gpuTableImage C).2, htable, withTable]
  show writeBlock _ _ _ _ = _
  rw [writeBlock_of_mem _ _ _ (by
    rw [length_tableWords]
    have hc : cvbWords = 14 := rfl
    rw [hc]
    omega), getD_tableWords _ hi (by decide), gpuPatchEntry, if_pos ⟨rfl, hUV⟩]
  simp [CvbEntry.words, CvbCoefficients.words, thousand]

/-- On one image two tables have the same effect only if the voltages agree. -/
theorem gpuVoltsAgree_of_sameEffect (hm : MarikoAgree C C')
    (h : SameEffect (patch .mariko C gpuTableSize gpuTableImage)
      (patch .mariko C' gpuTableSize gpuTableImage)) : GpuVoltsAgree C C' := by
  intro hUV i _ hi
  obtain ⟨-, hmem, -⟩ := h
  have hword := congrFun hmem (0 + (cvbWords * i + 8 : Nat))
  rwa [gpuVolt_written hUV hi, gpuVolt_written (hm.marikoGpuUV ▸ hUV)
    (hm.marikoGpuDvfsTable ▸ hi)] at hword

/-! ## Platform isolation -/

/-- **Two tables that agree on the common fields and on those of the SoC patch every image
alike iff, on Mariko, the voltages read past `marikoGpuVoltArray` agree.** -/
theorem patch_isolated_iff (soc : Soc) (C C' : CustomizeTable) (hc : CommonAgree C C')
    (hsoc : SocAgree soc C C') :
    (∀ (nsoSize : Nat) (s : Store Device),
      SameEffect (patch soc C nsoSize s) (patch soc C' nsoSize s)) ↔
      (soc = .mariko → GpuVoltsAgree C C') := by
  have hsame : patches soc C = patches soc C' → ∀ (nsoSize : Nat) (s : Store Device),
      SameEffect (patch soc C nsoSize s) (patch soc C' nsoSize s) := by
    intro h nsoSize s
    rw [patch_congr h]
    exact ⟨rfl, rfl, rfl⟩
  cases soc with
  | erista =>
    have he : patches .erista C = patches .erista C' := by
      show Erista.patches C = Erista.patches C'
      rw [← patches_forErista C, ← patches_forErista C', forErista_congr hc hsoc]
    constructor
    · intro _ h
      cases h
    · exact fun _ => hsame he
  | mariko =>
    constructor
    · intro h _
      exact gpuVoltsAgree_of_sameEffect hsoc (h gpuTableSize gpuTableImage)
    · intro hv
      exact hsame (mariko_patches_congr hc hsoc (hv rfl))

/-- With at most as many entries as the array has elements nothing is read past it. -/
theorem gpuVoltsAgree_of_le (h : getDvfsTableEntryCount C.marikoGpuDvfsTable.view ≤ 17) :
    GpuVoltsAgree C C' :=
  fun _ i hge hlt => absurd hlt (by omega)

/-- An 18th GPU entry, and the voltages from the array. -/
def longGpuTable : CustomizeTable :=
  { customizeTable with
    marikoGpuUV := 3
    marikoGpuDvfsTable := .ofList (marikoGpuDvfsTable ++ [cvb 1305600 [] [1374130]]) }

/-- The same with another first CPU frequency on Erista. -/
def longGpuTable' : CustomizeTable :=
  { longGpuTable with
    eristaCpuDvfsTable := .ofList (cvb 102000 [721094] [] :: eristaCpuDvfsTable.tail) }

theorem longGpuTable_commonAgree : CommonAgree longGpuTable longGpuTable' :=
  ⟨rfl, rfl, rfl, rfl, rfl, rfl, rfl, rfl, rfl, rfl, rfl⟩

theorem longGpuTable_marikoAgree : MarikoAgree longGpuTable longGpuTable' :=
  ⟨rfl, rfl, rfl, rfl, rfl, rfl, rfl, rfl, rfl, rfl, rfl, rfl⟩

/-- The shipped table, whose 17 GPU entries all have a voltage. -/
theorem patch_isolated_iff_customizeTable :
    SameEffect (patch .mariko customizeTable gpuTableSize gpuTableImage)
      (patch .mariko { customizeTable with eristaEmcMaxClock := 1600000 } gpuTableSize
        gpuTableImage) :=
  (patch_isolated_iff .mariko customizeTable { customizeTable with eristaEmcMaxClock := 1600000 }
    ⟨rfl, rfl, rfl, rfl, rfl, rfl, rfl, rfl, rfl, rfl, rfl⟩
    ⟨rfl, rfl, rfl, rfl, rfl, rfl, rfl, rfl, rfl, rfl, rfl, rfl⟩).2
    (fun _ => gpuVoltsAgree_of_le (by
      show getDvfsTableEntryCount (DvfsTable.ofList marikoGpuDvfsTable).view ≤ 17
      rw [getDvfsTableEntryCount_ofList]
      decide)) gpuTableSize gpuTableImage

/-- The voltage of the 18th entry is the first CPU frequency of Erista. -/
theorem longGpuTable_not_isolated :
    ¬ ∀ (soc : Soc) (C C' : CustomizeTable), CommonAgree C C' → SocAgree soc C C' →
      ∀ (nsoSize : Nat) (s : Store Device),
        SameEffect (patch soc C nsoSize s) (patch soc C' nsoSize s) := by
  intro h
  have hv := gpuVoltsAgree_of_sameEffect longGpuTable_marikoAgree
    (h .mariko longGpuTable longGpuTable' longGpuTable_commonAgree longGpuTable_marikoAgree
      gpuTableSize gpuTableImage)
  have hcount : getDvfsTableEntryCount longGpuTable.marikoGpuDvfsTable.view = 18 := by
    show getDvfsTableEntryCount (DvfsTable.ofList _).view = 18
    rw [getDvfsTableEntryCount_ofList]
    decide +kernel
  have hvolt := hv rfl 17 (by decide) (by rw [hcount]; decide)
  exact absurd hvolt (by decide +kernel)

end SwitchOc
