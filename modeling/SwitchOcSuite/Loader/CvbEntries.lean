import SwitchOcSuite.Loader.Isolation

/-!
# The voltages in the CVB tables

What the two table patches leave, as integers: each voltage is the product or the
difference it is meant to be wherever that fits into the `s32` of the entry.

    cvbTables_replaced        the entries, and nothing else
    voltIndexInRange_iff      when `marikoGpuVoltArray` is indexed inside its bounds
-/

namespace SwitchOc

open Traced

variable {C : CustomizeTable} {ptr : Int} {s : Store Device}

/-! ## Voltages -/

/-- The field holds `z`, reduced to 32 bits where it does not fit. -/
structure Stored (c : Int32) (z : ℤ) : Prop where
  wraps : c = Int32.ofInt z
  exact : -2 ^ 31 ≤ z → z < 2 ^ 31 → c.toInt = z

theorem stored_ofInt (z : ℤ) : Stored (Int32.ofInt z) z :=
  ⟨rfl, fun h₁ h₂ => Int32.toInt_ofInt_of_le h₁ h₂⟩

theorem toInt32_eq_ofInt (x : UInt32) : x.toInt32 = Int32.ofInt x.toNat := by
  rw [Int32.ofInt_eq_ofNat, ← UInt32.toInt32_ofNat', UInt32.ofNat_toNat]

theorem stored_mul (volt : UInt32) : Stored (volt * 1000).toInt32 (volt.toNat * 1000) := by
  have heq : (volt * 1000).toInt32 = Int32.ofInt (volt.toNat * 1000) := by
    rw [UInt32.toInt32_mul, toInt32_eq_ofInt volt, Int32.ofInt_mul]
    rfl
  rw [heq]
  exact stored_ofInt _

theorem stored_sub (c0 : Int32) (offset : UInt32) :
    Stored (c0.toUInt32 - offset * 1000).toInt32 (c0.toInt - offset.toNat * 1000) := by
  have heq : (c0.toUInt32 - offset * 1000).toInt32 =
      Int32.ofInt (c0.toInt - offset.toNat * 1000) := by
    rw [UInt32.toInt32_sub, UInt32.toInt32_mul, Int32.toInt32_toUInt32, toInt32_eq_ofInt offset,
      Int32.ofInt_sub, Int32.ofInt_mul, Int32.ofInt_toInt]
    rfl
  rw [heq]
  exact stored_ofInt _

/-! ## Entries -/

/-- `e'` is the CPU entry `e`, with the maximum voltage if its frequency calls for it. -/
def CpuEntryPatched (isMariko : Bool) (C : CustomizeTable) (e e' : CvbEntry) : Prop :=
  if cpuMaxVolt isMariko C ≠ 0 ∧ (cpuFreqThreshold isMariko C).toNat ≤ e.freq.toNat then
    ∃ c0, Stored c0 ((cpuMaxVolt isMariko C).toNat * 1000) ∧
      e' = if isMariko then { e with pll := { e.pll with c0 := c0 } }
        else { e with dfll := { e.dfll with c0 := c0 } }
  else e' = e

/-- `e'` is the GPU entry `e` of index `i`, with the voltage of the array or the offset. -/
def GpuEntryPatched (isMariko : Bool) (C : CustomizeTable) (i : Nat) (e e' : CvbEntry) : Prop :=
  if isMariko = true ∧ C.marikoGpuUV = 3 then
    ∃ volt ∈ C.marikoGpuVoltArray[i]?, ∃ c0, Stored c0 (volt.toNat * 1000) ∧
      e' = { e with pll := { c0 := c0, c1 := 0, c2 := 0, c3 := 0, c4 := 0, c5 := 0 } }
  else if C.commonGpuVoltOffset ≠ 0 then
    ∃ c0, Stored c0 (e.pll.c0.toInt - C.commonGpuVoltOffset.toNat * 1000) ∧
      e' = { e with pll := { e.pll with c0 := c0 } }
  else e' = e

theorem cpuEntryPatched (isMariko : Bool) (C : CustomizeTable) (e : CvbEntry) :
    CpuEntryPatched isMariko C e (cpuPatchEntry isMariko C e) := by
  have hfreq : (cpuFreqThreshold isMariko C).toUInt64 ≤ e.freq ↔
      (cpuFreqThreshold isMariko C).toNat ≤ e.freq.toNat := by
    rw [UInt64.le_iff_toNat_le, UInt32.toNat_toUInt64]
  unfold CpuEntryPatched cpuPatchEntry
  by_cases h : cpuMaxVolt isMariko C ≠ 0 ∧ (cpuFreqThreshold isMariko C).toNat ≤ e.freq.toNat
  · rw [if_pos h, if_pos ⟨h.1, hfreq.2 h.2⟩]
    exact ⟨_, stored_mul _, rfl⟩
  · rw [if_neg h, if_neg fun h' => h ⟨h'.1, hfreq.1 h'.2⟩]

theorem gpuVoltAt_mem {i : Nat} (hi : i < 17) :
    C.gpuVoltAt i ∈ C.marikoGpuVoltArray[i]? := by
  unfold CustomizeTable.gpuVoltAt
  rw [dif_pos hi]
  simp [hi]

theorem gpuEntryPatched (isMariko : Bool) (C : CustomizeTable) {i : Nat} (e : CvbEntry)
    (hi : isMariko = true ∧ C.marikoGpuUV = 3 → i < 17) :
    GpuEntryPatched isMariko C i e (gpuPatchEntry isMariko C i e) := by
  unfold GpuEntryPatched gpuPatchEntry
  by_cases hUV : isMariko = true ∧ C.marikoGpuUV = 3
  · rw [if_pos hUV, if_pos hUV]
    exact ⟨_, gpuVoltAt_mem (hi hUV), _, stored_mul _, rfl⟩
  · rw [if_neg hUV, if_neg hUV]
    by_cases hoff : C.commonGpuVoltOffset ≠ 0
    · rw [if_pos hoff, if_pos hoff]
      exact ⟨_, stored_sub _ _, rfl⟩
    · rw [if_neg hoff, if_neg hoff]

/-! ## Tables -/

/-- The entries of `t` lie at `head`, each as `R` has it; nothing else has changed. -/
structure TableReplaced (s s' : Store Device) (head : Int) (t : Nat → CvbEntry)
    (R : Nat → CvbEntry → CvbEntry → Prop) : Prop where
  entries : ∀ i < getDvfsTableEntryCount t, R i (t i) (tableAt s'.mem head i)
  outside : ∀ w, w < head ∨ head + (cvbWords * getDvfsTableEntryCount t : Nat) ≤ w →
    s'.mem w = s.mem w
  dev : s'.dev = s.dev

theorem tableReplaced_withTable (s : Store Device) (head : Int) {t u : Nat → CvbEntry}
    {R : Nat → CvbEntry → CvbEntry → Prop} (h : ∀ i < getDvfsTableEntryCount t, R i (t i) (u i)) :
    TableReplaced s (withTable s head u (getDvfsTableEntryCount t)) head t R := by
  refine ⟨fun i hi => ?_, fun w hw => ?_, rfl⟩
  · show R i (t i) (tableAt (writeBlock s.mem head _) head i)
    rw [tableAt_writeBlock_of_lt s.mem head u hi]
    exact h i hi
  · refine if_neg ?_
    rw [length_tableWords]
    omega

theorem cpuTable_replaced (isMariko : Bool)
    (h : (cpuFreqCvbTable isMariko C ptr s).result = .ok ()) :
    TableReplaced s (cpuFreqCvbTable isMariko C ptr s).state
      (tableHead ptr (getDvfsTableEntryCount (cpuDefaultTable isMariko)))
      (cpuCustomizeTable isMariko C) fun _ => CpuEntryPatched isMariko C := by
  obtain ⟨-, hres, -⟩ | ⟨-, -, hst⟩ := cpuFreqCvbTable_run isMariko C ptr s
  · rw [hres] at h
    cases h
  · rw [hst]
    exact tableReplaced_withTable s _ fun i _ => cpuEntryPatched isMariko C _

theorem gpuTable_replaced (isMariko : Bool)
    (h : (gpuFreqCvbTable isMariko C ptr s).result = .ok ())
    (hvolt : isMariko = true ∧ C.marikoGpuUV = 3 →
      getDvfsTableEntryCount (gpuCustomizeTable isMariko C) ≤ 17) :
    TableReplaced s (gpuFreqCvbTable isMariko C ptr s).state
      (tableHead ptr (getDvfsTableEntryCount (gpuDefaultTable isMariko)))
      (gpuCustomizeTable isMariko C) (GpuEntryPatched isMariko C) := by
  obtain ⟨-, hres, -⟩ | ⟨-, -, hst⟩ := gpuFreqCvbTable_run isMariko C ptr s
  · rw [hres] at h
    cases h
  · rw [hst]
    refine tableReplaced_withTable s _ fun i hi => gpuEntryPatched isMariko C _ fun hUV => ?_
    have hle := hvolt hUV
    omega

/-- **The customized entries with their voltages, and nothing else.** -/
theorem cvbTables_replaced (isMariko : Bool) (C : CustomizeTable) (ptr : Int) (s : Store Device) :
    ((cpuFreqCvbTable isMariko C ptr s).result = .ok () →
      TableReplaced s (cpuFreqCvbTable isMariko C ptr s).state
        (tableHead ptr (getDvfsTableEntryCount (cpuDefaultTable isMariko)))
        (cpuCustomizeTable isMariko C) fun _ => CpuEntryPatched isMariko C) ∧
    ((gpuFreqCvbTable isMariko C ptr s).result = .ok () →
      (isMariko = true ∧ C.marikoGpuUV = 3 →
        getDvfsTableEntryCount (gpuCustomizeTable isMariko C) ≤ 17) →
      TableReplaced s (gpuFreqCvbTable isMariko C ptr s).state
        (tableHead ptr (getDvfsTableEntryCount (gpuDefaultTable isMariko)))
        (gpuCustomizeTable isMariko C) (GpuEntryPatched isMariko C)) :=
  ⟨cpuTable_replaced isMariko, gpuTable_replaced isMariko⟩

theorem gpuTableImage_ok (C : CustomizeTable) :
    (gpuFreqCvbTable true C gpuTablePtr gpuTableImage).result = .ok () := by
  obtain ⟨hno, -⟩ | ⟨-, hres, -⟩ := gpuFreqCvbTable_run true C gpuTablePtr gpuTableImage
  · exact absurd gpuTableImage_found hno
  · exact hres

/-- The shipped configuration over the default GPU table. -/
theorem cvbTables_replaced_shipped :
    TableReplaced gpuTableImage
      (gpuFreqCvbTable true customizeTable gpuTablePtr gpuTableImage).state
      (tableHead gpuTablePtr (getDvfsTableEntryCount (gpuDefaultTable true)))
      (gpuCustomizeTable true customizeTable) (GpuEntryPatched true customizeTable) :=
  (cvbTables_replaced true customizeTable gpuTablePtr gpuTableImage).2 (gpuTableImage_ok _)
    fun h => absurd h (by decide)

/-- A GPU table whose first voltage is the least `s32`, to be lowered by 1 mV. -/
def lowestVoltTable : CustomizeTable :=
  { customizeTable with
    commonGpuVoltOffset := 1
    marikoGpuDvfsTable := .ofList [cvb 76800 [] [-2147483648], cvb 998400 [] [800000]] }

theorem lowestVoltTable_safe : safetyCheck lowestVoltTable = .ok () :=
  safetyCheck_ok_iff.2 ⟨rfl, 2091000, 2295000, 998400, 998400,
    dvfsMaxFreq_ofList eristaCpuDvfsTable (by decide),
    dvfsMaxFreq_ofList marikoCpuDvfsTable (by decide),
    dvfsMaxFreq_ofList eristaGpuDvfsTable (by decide),
    dvfsMaxFreq_ofList [cvb 76800 [] [-2147483648], cvb 998400 [] [800000]] (by decide),
    by decide⟩

/-- The difference wraps around to a positive one. -/
theorem gpuOffset_not_exact :
    ¬ ∀ (isMariko : Bool) (C : CustomizeTable) (ptr : Int) (s : Store Device),
      safetyCheck C = .ok () →
      C.commonGpuVoltOffset ≤ 100 → ¬ (isMariko = true ∧ C.marikoGpuUV = 3) →
      C.commonGpuVoltOffset ≠ 0 → (gpuFreqCvbTable isMariko C ptr s).result = .ok () →
      ∀ i < getDvfsTableEntryCount (gpuCustomizeTable isMariko C),
        (tableAt (gpuFreqCvbTable isMariko C ptr s).state.mem
          (tableHead ptr (getDvfsTableEntryCount (gpuDefaultTable isMariko))) i).pll.c0.toInt =
        (gpuCustomizeTable isMariko C i).pll.c0.toInt - C.commonGpuVoltOffset.toNat * 1000 := by
  intro hall
  have hcount : getDvfsTableEntryCount (gpuCustomizeTable true lowestVoltTable) = 2 :=
    (getDvfsTableEntryCount_ofList [cvb 76800 [] [-2147483648], cvb 998400 [] [800000]]).trans
      (by decide)
  have hfirst := hall true lowestVoltTable gpuTablePtr gpuTableImage lowestVoltTable_safe
    (by decide) (by decide) (by decide) (gpuTableImage_ok _) 0 (by rw [hcount]; decide)
  obtain ⟨hno, -⟩ | ⟨-, -, hst⟩ :=
    gpuFreqCvbTable_run true lowestVoltTable gpuTablePtr gpuTableImage
  · exact absurd gpuTableImage_found hno
  · rw [hst, withTable, hcount, tableAt_writeBlock_of_lt _ _ _ (by decide)] at hfirst
    exact absurd hfirst (by decide +kernel)

/-! ## The voltage array -/

/-- `GpuFreqCvbTable<true>` under `marikoGpuUV = 3`, over the access to the array. -/
def gpuFreqCvbTableOver (volt : Nat → Patch UInt32) (C : CustomizeTable) (ptr : Int) :
    Patch Unit := do
  let defaultEntryCount := getDvfsTableEntryCount (gpuDefaultTable true)
  let customizeEntryCount := getDvfsTableEntryCount (gpuCustomizeTable true C)
  let head := tableHead ptr defaultEntryCount
  let existing ← loadBlock head (cvbWords * defaultEntryCount)
  Prog.require (existing = tableWords (gpuDefaultTable true) defaultEntryCount)
    (.result .invalidGpuDvfs)
  storeBlock head (tableWords (gpuCustomizeTable true C) customizeEntryCount)
  Prog.forEach (List.range customizeEntryCount) fun i => do
    let c0 := head + cvbWords * i + offsetPllC0
    let v ← volt i
    store c0 (v * 1000)
    store (c0 + 1) 0
    store (c0 + 2) 0
    store (c0 + 3) 0
    store (c0 + 4) 0
    store (c0 + 5) 0

/-- The access with a check of the index. -/
def checkedVolt (C : CustomizeTable) (i : Nat) : Patch UInt32 :=
  if h : i < 17 then pure C.marikoGpuVoltArray[i] else Prog.fail (.crash "index out of bounds")

/-- The code makes the access without one. -/
theorem gpuFreqCvbTable_eq_over (hUV : C.marikoGpuUV = 3) (ptr : Int) :
    gpuFreqCvbTable true C ptr =
      gpuFreqCvbTableOver (fun i => pure (C.gpuVoltAt i)) C ptr := by
  unfold gpuFreqCvbTable gpuFreqCvbTableOver
  simp only [hUV, and_self, if_true, prog_pure_bind]
  rfl

/-- No run fails the check, and every voltage written is an element of the array. -/
structure VoltIndexInRange (C : CustomizeTable) : Prop where
  checked : ∀ ptr s, gpuFreqCvbTable true C ptr s = gpuFreqCvbTableOver (checkedVolt C) C ptr s
  fromArray : ∀ ptr s, (gpuFreqCvbTable true C ptr s).result = .ok () →
    ∀ i < getDvfsTableEntryCount C.marikoGpuDvfsTable.view, ∃ volt ∈ C.marikoGpuVoltArray.toList,
      (tableAt (gpuFreqCvbTable true C ptr s).state.mem
        (tableHead ptr (getDvfsTableEntryCount (gpuDefaultTable true))) i).pll.c0 =
          (volt * 1000).toInt32

theorem gpuCustomizeTable_voltArray (hUV : C.marikoGpuUV = 3) :
    gpuCustomizeTable true C = C.marikoGpuDvfsTable.view := by
  simp [gpuCustomizeTable, switchUV, hUV]

/-- Inside its bounds the check makes no difference. -/
theorem gpuFreqCvbTableOver_congr {volt volt' : Nat → Patch UInt32} (ptr : Int)
    (h : ∀ i < getDvfsTableEntryCount (gpuCustomizeTable true C), volt i = volt' i) :
    gpuFreqCvbTableOver volt C ptr = gpuFreqCvbTableOver volt' C ptr := by
  unfold gpuFreqCvbTableOver
  refine congrArg (Bind.bind _) (funext fun existing => ?_)
  refine congrArg (Bind.bind _) (funext fun _ => congrArg (Bind.bind _) (funext fun _ => ?_))
  refine forEach_congr fun i hi => ?_
  rw [h i (List.mem_range.1 hi)]

theorem checkedVolt_of_lt {i : Nat} (hi : i < 17) :
    checkedVolt C i = pure (C.gpuVoltAt i) := by
  unfold checkedVolt CustomizeTable.gpuVoltAt
  rw [dif_pos hi, dif_pos hi]

/-- A run of the checked table that succeeds has made every access. -/
theorem checkedVolt_of_ok {s : Store Device}
    (h : (gpuFreqCvbTableOver (checkedVolt C) C ptr s).result = .ok ()) {i : Nat}
    (hi : i < getDvfsTableEntryCount (gpuCustomizeTable true C)) : i < 17 := by
  unfold gpuFreqCvbTableOver at h
  obtain ⟨existing, -, h⟩ := bind_ok_iff.1 h
  obtain ⟨_, -, h⟩ := bind_ok_iff.1 h
  obtain ⟨_, -, h⟩ := bind_ok_iff.1 h
  obtain ⟨t, _, hturn⟩ := forEach_turn_ok h (List.mem_range.2 hi)
  obtain ⟨volt, hvolt, -⟩ := bind_ok_iff.1 hturn
  by_contra hge
  unfold checkedVolt at hvolt
  rw [dif_neg hge] at hvolt
  cases hvolt

/-- Over the image of the default table the code succeeds, so that every access is made. -/
theorem VoltIndexInRange.count_le (h : VoltIndexInRange C) (hUV : C.marikoGpuUV = 3) :
    getDvfsTableEntryCount C.marikoGpuDvfsTable.view ≤ 17 := by
  by_contra hlong
  have hok := gpuTableImage_ok C
  rw [h.checked] at hok
  have hlt := checkedVolt_of_ok hok (i := 17) (by
    rw [gpuCustomizeTable_voltArray hUV]
    omega)
  omega

/-- **`marikoGpuVoltArray` is indexed inside its bounds iff the table has no entry for
which it has no voltage.** -/
theorem voltIndexInRange_iff (C : CustomizeTable) (hUV : C.marikoGpuUV = 3) :
    VoltIndexInRange C ↔ getDvfsTableEntryCount C.marikoGpuDvfsTable.view ≤ 17 := by
  have htable := gpuCustomizeTable_voltArray hUV
  constructor
  · exact fun h => h.count_le hUV
  · intro hshort
    refine ⟨fun ptr s => ?_, fun ptr s hok i hi => ?_⟩
    · rw [gpuFreqCvbTable_eq_over hUV, gpuFreqCvbTableOver_congr ptr fun i hi => ?_]
      rw [htable] at hi
      exact (checkedVolt_of_lt (by omega)).symm
    · have hreplaced := gpuTable_replaced true hok fun _ => by rwa [htable]
      have hentry := hreplaced.entries i (by rwa [htable])
      unfold GpuEntryPatched at hentry
      rw [if_pos ⟨rfl, hUV⟩] at hentry
      obtain ⟨volt, hvolt, c0, hc0, he⟩ := hentry
      rw [he]
      refine ⟨volt, ?_, hc0.wraps.trans (stored_mul volt).wraps.symm⟩
      exact Vector.mem_toList_iff.2 (Vector.mem_of_getElem? hvolt)

/-- The shipped table with the voltages from the array has 17 entries. -/
theorem voltIndexInRange_iff_customizeTable :
    VoltIndexInRange { customizeTable with marikoGpuUV := 3 } :=
  (voltIndexInRange_iff { customizeTable with marikoGpuUV := 3 } rfl).2 (by
    show getDvfsTableEntryCount (DvfsTable.ofList marikoGpuDvfsTable).view ≤ 17
    rw [getDvfsTableEntryCount_ofList]
    decide)

theorem longGpuTable_safe : safetyCheck longGpuTable = .ok () :=
  safetyCheck_ok_iff.2 ⟨rfl, 2091000, 2295000, 998400, 1305600,
    dvfsMaxFreq_ofList eristaCpuDvfsTable (by decide),
    dvfsMaxFreq_ofList marikoCpuDvfsTable (by decide),
    dvfsMaxFreq_ofList eristaGpuDvfsTable (by decide),
    dvfsMaxFreq_ofList (marikoGpuDvfsTable ++ [cvb 1305600 [] [1374130]]) (by decide), by decide⟩

/-- An 18th entry is accepted, and its voltage is no element of the array. -/
theorem longGpuTable_not_inRange :
    ¬ ∀ C : CustomizeTable, safetyCheck C = .ok () → C.marikoGpuUV = 3 → VoltIndexInRange C := by
  intro h
  have hlong := (h longGpuTable longGpuTable_safe rfl).count_le rfl
  have hcount : getDvfsTableEntryCount longGpuTable.marikoGpuDvfsTable.view = 18 := by
    show getDvfsTableEntryCount (DvfsTable.ofList _).view = 18
    rw [getDvfsTableEntryCount_ofList]
    decide +kernel
  omega

end SwitchOc
