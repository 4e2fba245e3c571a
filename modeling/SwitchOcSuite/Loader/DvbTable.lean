import Mathlib.Data.List.GetD
import Mathlib.Tactic.Common
import Mathlib.Tactic.IntervalCases
import SwitchOcSuite.Loader.PcvMariko

/-!
# The DVB table of the memory (`MemFreqDvbTable`)

Behind the six default entries the patch writes a seventh, for the EMC clock.  Its
voltages follow from the band that the clock lies in; from the band at 2400000 on they
are raised by 25 mV a step of `marikoEmcDvbShift`.  No step of the configurator reaches
the caps of `DVB_VOLT`, so the bands stay in order.

    newVolt_mono                   over the bands and over the shift
    memFreqDvbTable_entry          what a successful patch leaves in the image
-/

namespace SwitchOc.Mariko

open Traced

/-! ## Bands -/

/-- The branch of `memFreqDvbTable` that the clock takes. -/
def dvbBand (emc : UInt32) : Nat :=
  if emc < 1862400 then 0
  else if emc < 2131200 then 1
  else if emc < 2400000 then 2
  else if emc < 2665600 then 3
  else if emc < 2931200 then 4
  else if emc < 3200000 then 5
  else 6

/-- The voltages of a band without a shift, by column. -/
def bandVolt (band column : Nat) : Int :=
  (match band with
    | 0 => [675, 650, 637]
    | 1 => [700, 675, 650]
    | 2 => [725, 700, 675]
    | 3 => [750, 725, 700]
    | 4 => [775, 750, 725]
    | 5 => [800, 775, 750]
    | _ => [800, 800, 775]).getD column 0

/-- The shift in millivolts, for the bands that have one. -/
def bandShift (band : Nat) (shift : UInt32) : Int := if 3 ≤ band then 25 * shift.toNat else 0

/-- The voltage of the new entry in a column. -/
def newVolt (C : CustomizeTable) (column : Nat) : Int :=
  bandVolt (dvbBand C.marikoEmcMaxClock) column +
    if column < 3 then bandShift (dvbBand C.marikoEmcMaxClock) C.marikoEmcDvbShift else 0

/-- The bounds of the bands. -/
theorem dvbBand_cases (emc : UInt32) :
    (dvbBand emc = 0 ∧ emc.toNat < 1862400) ∨
      (dvbBand emc = 1 ∧ 1862400 ≤ emc.toNat ∧ emc.toNat < 2131200) ∨
      (dvbBand emc = 2 ∧ 2131200 ≤ emc.toNat ∧ emc.toNat < 2400000) ∨
      (dvbBand emc = 3 ∧ 2400000 ≤ emc.toNat ∧ emc.toNat < 2665600) ∨
      (dvbBand emc = 4 ∧ 2665600 ≤ emc.toNat ∧ emc.toNat < 2931200) ∨
      (dvbBand emc = 5 ∧ 2931200 ≤ emc.toNat ∧ emc.toNat < 3200000) ∨
      (dvbBand emc = 6 ∧ 3200000 ≤ emc.toNat) := by
  unfold dvbBand
  simp only [UInt32.lt_iff_toNat_lt, UInt32.reduceToNat]
  split_ifs <;> omega

theorem dvbBand_le (emc : UInt32) : dvbBand emc ≤ 6 := by
  have hband := dvbBand_cases emc
  omega

theorem dvbBand_mono {emc emc' : UInt32} (h : emc ≤ emc') : dvbBand emc ≤ dvbBand emc' := by
  have hle : emc.toNat ≤ emc'.toNat := h
  have hband := dvbBand_cases emc
  have hband' := dvbBand_cases emc'
  omega

theorem bandVolt_mono {band band' : Nat} (h : band ≤ band') (h' : band' ≤ 6) :
    ∀ column < 4, bandVolt band column ≤ bandVolt band' column := by
  interval_cases band' <;> interval_cases band <;> decide

theorem bandShift_mono {band band' : Nat} {shift shift' : UInt32} (h : band ≤ band')
    (hshift : shift ≤ shift') : bandShift band shift ≤ bandShift band' shift' := by
  have hle : shift.toNat ≤ shift'.toNat := hshift
  unfold bandShift
  split_ifs <;> omega

/-- **A faster clock or a larger shift lowers no voltage.** -/
theorem newVolt_mono {C C' : CustomizeTable} (hemc : C.marikoEmcMaxClock ≤ C'.marikoEmcMaxClock)
    (hshift : C.marikoEmcDvbShift ≤ C'.marikoEmcDvbShift) :
    ∀ column < 4, newVolt C column ≤ newVolt C' column := by
  intro column hcolumn
  have hband := dvbBand_mono hemc
  have hvolt := bandVolt_mono hband (dvbBand_le _) column hcolumn
  have hadd := bandShift_mono hband hshift
  unfold newVolt
  split_ifs <;> omega

theorem bandVolt_bounds {band : Nat} (h : band ≤ 6) :
    bandVolt band 1 ≤ bandVolt band 0 ∧ bandVolt band 2 ≤ bandVolt band 1 ∧
      bandVolt band 0 ≤ 800 ∧ bandVolt band 1 ≤ 800 ∧ bandVolt band 2 ≤ 775 ∧
      675 ≤ bandVolt band 0 ∧ 650 ≤ bandVolt band 1 ∧ 637 ≤ bandVolt band 2 ∧
      bandVolt band 3 = 0 := by
  interval_cases band <;> decide

theorem bandShift_bounds (band : Nat) {shift : UInt32} (h : shift.toNat ≤ 9) :
    0 ≤ bandShift band shift ∧ bandShift band shift ≤ 225 := by
  unfold bandShift
  split_ifs <;> omega

/-- Within the range of the configurator the columns descend and the caps are kept. -/
theorem newVolt_bounds {C : CustomizeTable} (hshift : C.marikoEmcDvbShift.toNat ≤ 9) :
    newVolt C 1 ≤ newVolt C 0 ∧ newVolt C 2 ≤ newVolt C 1 ∧
      newVolt C 0 ≤ 1050 ∧ newVolt C 1 ≤ 1025 ∧ newVolt C 2 ≤ 1000 ∧
      675 ≤ newVolt C 0 ∧ 650 ≤ newVolt C 1 ∧ 637 ≤ newVolt C 2 ∧ newVolt C 3 = 0 := by
  have hvolt := bandVolt_bounds (dvbBand_le C.marikoEmcMaxClock)
  have hadd := bandShift_bounds (dvbBand C.marikoEmcMaxClock) hshift
  have hshifted : ∀ column < 3, newVolt C column =
      bandVolt (dvbBand C.marikoEmcMaxClock) column +
        bandShift (dvbBand C.marikoEmcMaxClock) C.marikoEmcDvbShift := by
    intro column hcolumn
    unfold newVolt
    rw [if_pos hcolumn]
  have hlast : newVolt C 3 = bandVolt (dvbBand C.marikoEmcMaxClock) 3 := by
    unfold newVolt
    rw [if_neg (by decide), Int.add_zero]
  rw [hshifted 0 (by decide), hshifted 1 (by decide), hshifted 2 (by decide), hlast]
  omega

/-! ## The new entry -/

/-- No shift of the configurator reaches a cap of `DVB_VOLT`. -/
theorem dvbVolt_eq {C : CustomizeTable} (hshift : C.marikoEmcDvbShift.toNat ≤ 9) :
    ∀ base ∈ [(750, 725, 700), (775, 750, 725), (800, 775, 750), (800, 800, 775)],
      dvbVolt C base.1 base.2.1 base.2.2 =
        [.ofInt (base.1.toInt + 25 * C.marikoEmcDvbShift.toNat),
          .ofInt (base.2.1.toInt + 25 * C.marikoEmcDvbShift.toNat),
          .ofInt (base.2.2.toInt + 25 * C.marikoEmcDvbShift.toNat)] := by
  obtain ⟨n, hn⟩ : ∃ n, C.marikoEmcDvbShift.toNat = n := ⟨_, rfl⟩
  have hs : C.marikoEmcDvbShift = .ofNat n := by
    rw [← hn, UInt32.ofNat_toNat]
  unfold dvbVolt
  rw [hs]
  simp only [List.forall_mem_cons, List.not_mem_nil, false_implies, implies_true, and_true]
  rw [hn] at hshift
  interval_cases n <;> decide

/-- The words of the voltages of the new entry. -/
def newVoltWords (C : CustomizeTable) : List UInt32 :=
  [(Int32.ofInt (newVolt C 0)).toUInt32, (Int32.ofInt (newVolt C 1)).toUInt32,
    (Int32.ofInt (newVolt C 2)).toUInt32, 0]

/-- Every branch writes the voltages of its band. -/
theorem dvbOcTable_volts {C : CustomizeTable} (hshift : C.marikoEmcDvbShift.toNat ≤ 9) :
    match dvbOcTable C with
    | none => newVoltWords C = (dvbEntry 1600000 [675, 650, 637]).drop 2
    | some ocTable => ∃ freq, ocTable = freq :: 0 :: newVoltWords C := by
  have hvolt := dvbVolt_eq hshift
  simp only [List.forall_mem_cons, List.not_mem_nil, false_implies, implies_true, and_true] at hvolt
  obtain ⟨h₃, h₄, h₅, h₆⟩ := hvolt
  have hwords : ∀ band, dvbBand C.marikoEmcMaxClock = band →
      newVoltWords C = [(Int32.ofInt (bandVolt band 0 + bandShift band C.marikoEmcDvbShift)).toUInt32,
        (Int32.ofInt (bandVolt band 1 + bandShift band C.marikoEmcDvbShift)).toUInt32,
        (Int32.ofInt (bandVolt band 2 + bandShift band C.marikoEmcDvbShift)).toUInt32, 0] := by
    rintro band rfl
    rfl
  unfold dvbOcTable
  dsimp only
  unfold dvbBand at hwords
  split_ifs with c₁ c₂ c₃ c₄ c₅ c₆
  · rw [hwords 0 (if_pos c₁)]
    rfl
  · have hw := hwords 1 (by rw [if_neg c₁, if_pos c₂])
    exact ⟨_, by rw [hw]; rfl⟩
  · have hw := hwords 2 (by rw [if_neg c₁, if_neg c₂, if_pos c₃])
    exact ⟨_, by rw [hw]; rfl⟩
  · have hw := hwords 3 (by rw [if_neg c₁, if_neg c₂, if_neg c₃, if_pos c₄])
    exact ⟨_, by rw [hw, h₃]; rfl⟩
  · have hw := hwords 4 (by rw [if_neg c₁, if_neg c₂, if_neg c₃, if_neg c₄, if_pos c₅])
    exact ⟨_, by rw [hw, h₄]; rfl⟩
  · have hw := hwords 5 (by
      rw [if_neg c₁, if_neg c₂, if_neg c₃, if_neg c₄, if_neg c₅, if_pos c₆])
    exact ⟨_, by rw [hw, h₅]; rfl⟩
  · have hw := hwords 6 (by
      rw [if_neg c₁, if_neg c₂, if_neg c₃, if_neg c₄, if_neg c₅, if_neg c₆])
    exact ⟨_, by rw [hw, h₆]; rfl⟩

def newEntry (C : CustomizeTable) : List UInt32 := C.marikoEmcMaxClock :: 0 :: newVoltWords C

/-- Two words over the first two of a block. -/
theorem update_writeBlock_head (mem : Int → UInt32) (w : Int) (f g x y : UInt32)
    (ws : List UInt32) :
    Function.update (Function.update (writeBlock mem w (f :: g :: ws)) w x) (w + 1) y =
      writeBlock mem w (x :: y :: ws) := by
  funext v
  by_cases h₁ : v = w + 1
  · rw [h₁, Function.update_self]
    exact (writeBlock_of_mem mem w (x :: y :: ws) (i := 1) (by simp)).symm
  · rw [Function.update_of_ne h₁]
    by_cases h₀ : v = w
    · rw [h₀, Function.update_self]
      have hhead := writeBlock_of_mem mem w (x :: y :: ws) (i := 0) (by simp)
      simpa using hhead.symm
    · rw [Function.update_of_ne h₀]
      unfold writeBlock
      simp only [List.length_cons]
      split_ifs with hin
      · obtain ⟨k, hk⟩ : ∃ k, (v - w).toNat = k + 2 := ⟨(v - w).toNat - 2, by omega⟩
        rw [hk]
        rfl
      · rfl

/-- A patch that succeeds has found the default table and writes the new entry behind it. -/
theorem memFreqDvbTable_state {C : CustomizeTable} {ptr : Int} {s : Store Device}
    (hemc : emcClkOSLimit < C.marikoEmcMaxClock) (hshift : C.marikoEmcDvbShift.toNat ≤ 9)
    (hok : (memFreqDvbTable C ptr s).result = .ok ()) :
    readBlock s.mem (ptr - 30) 36 = emcDvbTableDefault ∧
      (memFreqDvbTable C ptr s).state =
        { s with mem := writeBlock s.mem (ptr + 6) (newEntry C) } := by
  have hlen : emcDvbTableDefault.length = 36 := rfl
  have hhead : ptr + (dvbWords : Int) - (36 : Nat) = ptr - 30 := by
    unfold dvbWords
    omega
  have hstart : ptr + (dvbWords : Int) = ptr + 6 := rfl
  unfold memFreqDvbTable at hok ⊢
  dsimp only at hok ⊢
  rw [hlen, hhead, loadBlock_bind_run, after_result] at hok
  rw [hlen, hhead, loadBlock_bind_run, after_state]
  obtain ⟨hdefault, e⟩ := require_bind_of_ok hok
  rw [e, if_neg (UInt32.not_le.2 hemc), hstart]
  refine ⟨hdefault, ?_⟩
  have hvolts := dvbOcTable_volts hshift
  unfold writeDvbEntry
  unfold newEntry
  cases hoc : dvbOcTable C with
  | none =>
    rw [hoc] at hvolts
    dsimp only at hvolts ⊢
    -- the copied entry is the last default one
    have hlast : readBlock s.mem ptr dvbWords = 1600000 :: 0 :: newVoltWords C := by
      rw [hvolts]
      show readBlock s.mem ptr (dvbEntry 1600000 [675, 650, 637]).length =
        dvbEntry 1600000 [675, 650, 637]
      refine readBlock_eq_iff.2 fun i hi => ?_
      have hword := readBlock_eq_iff.1 hdefault (30 + i) (by rw [hlen]; exact Nat.add_lt_add_left hi 30)
      rw [show ptr - 30 + ((30 + i : Nat) : Int) = ptr + i by omega] at hword
      rw [hword]
      change i < 6 at hi
      interval_cases i <;> rfl
    simp only [prog_bind_assoc, loadBlock_bind_run, storeBlock_bind_run, store_bind_run, store_run, after_state]
    rw [hlast, update_writeBlock_head]
  | some ocTable =>
    rw [hoc] at hvolts
    obtain ⟨freq, rfl⟩ := hvolts
    dsimp only
    simp only [storeBlock_bind_run, store_bind_run, store_run, after_state]
    rw [update_writeBlock_head]

/-! ## The seven entries -/

/-- Frequency of entry `i` in the words of a table, and its voltage in a column. -/
def entryFreq (ws : List UInt32) (i : Nat) : UInt64 :=
  joinWords (ws.getD (6 * i) 0) (ws.getD (6 * i + 1) 0)

def entryVolt (ws : List UInt32) (i column : Nat) : Int :=
  (ws.getD (6 * i + 2 + column) 0).toInt32.toInt

/-- The six default entries and the slot behind them, with the last default one at `ptr`. -/
def sevenEntries (mem : Int → UInt32) (ptr : Int) : List UInt32 := readBlock mem (ptr - 30) 42

theorem entryVolt_newEntry {C : CustomizeTable} (hshift : C.marikoEmcDvbShift.toNat ≤ 9) :
    ∀ column < 4, entryVolt (emcDvbTableDefault ++ newEntry C) 6 column = newVolt C column := by
  have hword : ∀ v : Int, 0 ≤ v → v ≤ 1050 → (Int32.ofInt v).toUInt32.toInt32.toInt = v := by
    intro v h₀ h₁
    rw [Int32.toInt32_toUInt32, Int32.toInt_ofInt]
    have hsize : (Int32.size : Int) = 2 ^ 32 := rfl
    exact Int.bmod_eq_of_le (by omega) (by omega)
  obtain ⟨-, -, h₀, h₁, h₂, l₀, l₁, l₂, h₃⟩ := newVolt_bounds hshift
  intro column hcolumn
  interval_cases column
  · exact hword _ (by omega) h₀
  · exact hword _ (by omega) (by omega)
  · exact hword _ (by omega) (by omega)
  · rw [h₃]
    rfl

/-- What a successful patch leaves: the new entry in its slot, and the table in order. -/
structure NewDvbEntry (before after : Int → UInt32) (ptr : Int) : Prop where
  frame : ∀ w, ¬ (ptr + 6 ≤ w ∧ w < ptr + 12) → after w = before w
  freq_lt : ∀ i < 6, entryFreq (sevenEntries after ptr) i < entryFreq (sevenEntries after ptr) (i + 1)
  volt_le : ∀ i < 6, ∀ column < 4, entryVolt (sevenEntries after ptr) i column ≤
    entryVolt (sevenEntries after ptr) (i + 1) column
  descending : ∀ column < 2, entryVolt (sevenEntries after ptr) 6 (column + 1) ≤
    entryVolt (sevenEntries after ptr) 6 column
  caps : ∀ column < 3, entryVolt (sevenEntries after ptr) 6 column ≤ [1050, 1025, 1000].getD column 0

theorem sevenEntries_eq {C : CustomizeTable} {ptr : Int} {s : Store Device}
    (hdefault : readBlock s.mem (ptr - 30) 36 = emcDvbTableDefault) :
    sevenEntries (writeBlock s.mem (ptr + 6) (newEntry C)) ptr =
      emcDvbTableDefault ++ newEntry C := by
  have hlen : (emcDvbTableDefault ++ newEntry C).length = 42 := rfl
  show readBlock _ _ (emcDvbTableDefault ++ newEntry C).length = _
  refine readBlock_eq_iff.2 fun i hi => ?_
  rw [hlen] at hi
  by_cases hnew : i < 36
  · rw [List.getD_append _ _ _ _ hnew]
    have hword : ∀ j, j < emcDvbTableDefault.length →
      s.mem (ptr - 30 + j) = emcDvbTableDefault.getD j 0 := readBlock_eq_iff.1 hdefault
    rw [← hword i hnew]
    exact if_neg (by omega)
  · rw [List.getD_append_right _ _ _ _ (Nat.le_of_not_lt hnew)]
    have hword := writeBlock_of_mem s.mem (ptr + 6) (newEntry C) (i := i - 36) (show i - 36 < 6 by omega)
    rw [show ptr + 6 + ((i - 36 : Nat) : Int) = ptr - 30 + i by omega] at hword
    exact hword

/-- The default entries are the same with an entry behind them, and in order. -/
theorem default_sorted (entry : List UInt32) :
    (∀ i < 5, entryFreq (emcDvbTableDefault ++ entry) i <
        entryFreq (emcDvbTableDefault ++ entry) (i + 1)) ∧
      (∀ i < 5, ∀ column < 4, entryVolt (emcDvbTableDefault ++ entry) i column ≤
        entryVolt (emcDvbTableDefault ++ entry) (i + 1) column) ∧
      entryFreq (emcDvbTableDefault ++ entry) 5 = 1600000 ∧
      ∀ column < 4, entryVolt (emcDvbTableDefault ++ entry) 5 column = bandVolt 0 column := by
  have hlen : emcDvbTableDefault.length = 36 := rfl
  have hfreq : ∀ i < 6, entryFreq (emcDvbTableDefault ++ entry) i = entryFreq emcDvbTableDefault i := by
    intro i hi
    unfold entryFreq
    rw [List.getD_append _ _ _ _ (by omega), List.getD_append _ _ _ _ (by omega)]
  have hvolt : ∀ i < 6, ∀ column < 4, entryVolt (emcDvbTableDefault ++ entry) i column =
      entryVolt emcDvbTableDefault i column := by
    intro i hi column hcolumn
    unfold entryVolt
    rw [List.getD_append _ _ _ _ (by omega)]
  refine ⟨fun i hi => ?_, fun i hi column hcolumn => ?_, ?_, fun column hcolumn => ?_⟩
  · rw [hfreq i (by omega), hfreq (i + 1) (by omega)]
    interval_cases i <;> decide
  · rw [hvolt i (by omega) column hcolumn, hvolt (i + 1) (by omega) column hcolumn]
    interval_cases i <;> interval_cases column <;> decide
  · rw [hfreq 5 (by omega)]
    rfl
  · rw [hvolt 5 (by omega) column hcolumn]
    interval_cases column <;> decide

theorem newDvbEntry_of_ok {C : CustomizeTable} {ptr : Int} {s : Store Device}
    (hemc : emcClkOSLimit < C.marikoEmcMaxClock) (hshift : C.marikoEmcDvbShift.toNat ≤ 9)
    (hok : (memFreqDvbTable C ptr s).result = .ok ()) :
    NewDvbEntry s.mem (memFreqDvbTable C ptr s).state.mem ptr := by
  obtain ⟨hdefault, hstate⟩ := memFreqDvbTable_state hemc hshift hok
  rw [hstate]
  have hseven := sevenEntries_eq (C := C) hdefault
  have hvolt := entryVolt_newEntry hshift
  obtain ⟨hfreqs, hvolts, hfreq₅, hvolt₅⟩ := default_sorted (newEntry C)
  obtain ⟨hd₁, hd₂, hc₀, hc₁, hc₂, hl₀, hl₁, hl₂, hzero⟩ := newVolt_bounds hshift
  refine ⟨fun w hw => if_neg fun hin => hw ?_, ?_, ?_, ?_, ?_⟩
  · have hlen : (newEntry C).length = 6 := rfl
    omega
  · intro i hi
    rw [hseven]
    by_cases hlast : i = 5
    · rw [hlast, hfreq₅]
      show (1600000 : UInt64) < joinWords C.marikoEmcMaxClock 0
      have hlt : emcClkOSLimit.toNat < C.marikoEmcMaxClock.toNat := hemc
      have hclock := C.marikoEmcMaxClock.toNat_lt
      rw [UInt64.lt_iff_toNat_lt]
      unfold joinWords
      rw [UInt64.toNat_ofNat', show (0 : UInt32).toNat = 0 from rfl, Nat.mod_eq_of_lt (by omega)]
      exact hlt
    · exact hfreqs i (by omega)
  · intro i hi column hcolumn
    rw [hseven]
    by_cases hlast : i = 5
    · rw [hlast, hvolt₅ column hcolumn, hvolt column hcolumn]
      interval_cases column
      · exact hl₀
      · exact hl₁
      · exact hl₂
      · rw [hzero]
        rfl
    · exact hvolts i (by omega) column hcolumn
  · intro column hcolumn
    rw [hseven, hvolt column (by omega), hvolt (column + 1) (by omega)]
    interval_cases column
    · exact hd₁
    · exact hd₂
  · intro column hcolumn
    rw [hseven, hvolt column (by omega)]
    interval_cases column
    · exact hc₀
    · exact hc₁
    · exact hc₂

/-- **The new entry keeps the table in order, and its voltages grow with the clock and with the
shift.** -/
theorem memFreqDvbTable_entry {C : CustomizeTable} {ptr : Int} {s : Store Device}
    (hemc : emcClkOSLimit < C.marikoEmcMaxClock) (hshift : C.marikoEmcDvbShift.toNat ≤ 9)
    (hok : (memFreqDvbTable C ptr s).result = .ok ()) :
    NewDvbEntry s.mem (memFreqDvbTable C ptr s).state.mem ptr ∧
      ∀ (C' : CustomizeTable) (ptr' : Int) (s' : Store Device),
        C.marikoEmcMaxClock ≤ C'.marikoEmcMaxClock → C.marikoEmcDvbShift ≤ C'.marikoEmcDvbShift →
        C'.marikoEmcDvbShift.toNat ≤ 9 → (memFreqDvbTable C' ptr' s').result = .ok () →
        ∀ column < 4, entryVolt (sevenEntries (memFreqDvbTable C ptr s).state.mem ptr) 6 column ≤
          entryVolt (sevenEntries (memFreqDvbTable C' ptr' s').state.mem ptr') 6 column := by
  refine ⟨newDvbEntry_of_ok hemc hshift hok, fun C' ptr' s' hclock hle hshift' hok' => ?_⟩
  intro column hcolumn
  obtain ⟨hdefault, hstate⟩ := memFreqDvbTable_state hemc hshift hok
  obtain ⟨hdefault', hstate'⟩ :=
    memFreqDvbTable_state (UInt32.lt_of_lt_of_le hemc hclock) hshift' hok'
  rw [hstate, hstate', sevenEntries_eq hdefault, sevenEntries_eq hdefault',
    entryVolt_newEntry hshift column hcolumn, entryVolt_newEntry hshift' column hcolumn]
  exact newVolt_mono hclock hle column hcolumn

/-- An image of the default table, its last entry at word 30. -/
def dvbImage : Store Device where
  mem := fun w => emcDvbTableDefault.getD w.toNat 0
  dev := ⟨true, fun _ => 0, fun _ => 0⟩

/-- The shipped clock and shift are accepted there. -/
theorem memFreqDvbTable_entry_dvbImage :
    NewDvbEntry dvbImage.mem (memFreqDvbTable customizeTable 30 dvbImage).state.mem 30 :=
  (memFreqDvbTable_entry (C := customizeTable) (by decide) (by decide) (by
    unfold memFreqDvbTable
    dsimp only
    rw [loadBlock_bind_run, after_result, require_bind_run, if_pos (by decide), if_neg (by decide)]
    rfl)).1

end SwitchOc.Mariko
