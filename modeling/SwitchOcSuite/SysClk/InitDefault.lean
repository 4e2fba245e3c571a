import SwitchOcSuite.Lib.Table
import SwitchOcSuite.SysClk.FreqRange

/-!
# The end of a frequency table (`sysmodule/src/clocks.h`)

`InitDefault` takes at most 31 steps from the first entry, and steps back in front of a
zero.  A table of 31 entries has no zero of its own behind the last: the 32nd word read is
the first entry of the next table, and if that is not zero `last` and the caps point to it
(`initDefault_right_iff`).
-/

namespace SwitchOc.SysClk

open Table

namespace Clocks

/-- The length of the longest prefix of the table's 31 slots that are not zero. -/
def prefixLength (c : Clocks) (module : SysClkModule) : Nat :=
  runLength (fun f : UInt32 => f ≠ 0) c.freqTable (tableHead module) FREQ_TABLE_MAX_ENTRY_COUNT

/-- The final entry of the prefix. -/
def finalEntry (c : Clocks) (module : SysClkModule) : Nat :=
  tableHead module + (c.prefixLength module - 1)

/-- `last` and all caps are at the final entry, which is one of the module's slots. -/
def InitDefaultRight (c : Clocks) (module : SysClkModule) : Prop :=
  (c.initDefault module).last = c.finalEntry module ∧
    (∀ profile, (c.initDefault module).max profile = c.finalEntry module) ∧
    tableHead module ≤ (c.initDefault module).last ∧
    (c.initDefault module).last < tableHead module + FREQ_TABLE_MAX_ENTRY_COUNT

/-- All slots are in use, and so is the word behind them. -/
def RunsOver (c : Clocks) (module : SysClkModule) : Prop :=
  ∀ i, i ≤ FREQ_TABLE_MAX_ENTRY_COUNT → c.freqTable (tableHead module + i) ≠ 0

theorem prefixLength_spec {c : Clocks} {module : SysClkModule}
    (h : c.freqTable (tableHead module) ≠ 0) :
    1 ≤ c.prefixLength module ∧ c.prefixLength module ≤ FREQ_TABLE_MAX_ENTRY_COUNT ∧
      (∀ i, i < c.prefixLength module → c.freqTable (tableHead module + i) ≠ 0) ∧
      (c.prefixLength module < FREQ_TABLE_MAX_ENTRY_COUNT →
        c.freqTable (tableHead module + c.prefixLength module) = 0) := by
  obtain ⟨hle, hrun, hend⟩ := runLength_eq_iff.1 (rfl : c.prefixLength module = _)
  simp only [decide_eq_true_eq, not_not] at hrun hend
  refine ⟨?_, hle, hrun, hend⟩
  rcases Nat.eq_zero_or_pos (c.prefixLength module) with hzero | hpos
  · have hfirst := hend (hzero ▸ by decide)
    rw [hzero] at hfirst
    exact absurd hfirst h
  · exact hpos

/-- A scan that meets a zero ends at the final entry. -/
theorem last_of_not_runsOver {c : Clocks} {module : SysClkModule}
    (h : c.freqTable (tableHead module) ≠ 0) (hover : ¬c.RunsOver module) :
    (c.initDefault module).last = c.finalEntry module := by
  obtain ⟨hpos, hle, hrun, hend⟩ := prefixLength_spec h
  refine lastEntry_eq (fun i _ hi => hrun i (by omega)) (by omega) (.inr ?_)
  rw [show tableHead module + (c.prefixLength module - 1) + 1 =
    tableHead module + c.prefixLength module by omega]
  rcases Nat.lt_or_eq_of_le hle with hlt | heq
  · exact hend hlt
  · by_contra hne
    refine hover fun i hi => ?_
    rcases Nat.lt_or_eq_of_le hi with hlt | rfl
    · exact hrun i (heq ▸ hlt)
    · exact heq ▸ hne

/-- A scan that meets no zero ends at the first entry of the next table. -/
theorem last_of_runsOver {c : Clocks} {module : SysClkModule} (hover : c.RunsOver module) :
    (c.initDefault module).last = tableHead module + FREQ_TABLE_MAX_ENTRY_COUNT :=
  lastEntry_eq (fun i _ hi => hover i hi) (Nat.le_refl _) (.inl rfl)

/-- **`InitDefault` finds the end of the table** unless it is full and the next word is not
zero. -/
theorem initDefault_right_iff {c : Clocks} {module : SysClkModule}
    (h : c.freqTable (tableHead module) ≠ 0) :
    c.InitDefaultRight module ↔ ¬c.RunsOver module := by
  obtain ⟨hpos, hle, -, -⟩ := prefixLength_spec h
  constructor
  · intro hright hover
    have hlast := last_of_runsOver hover
    have := hright.2.2.2
    omega
  · intro hover
    have hlast := last_of_not_runsOver h hover
    refine ⟨hlast, fun _ => hlast, ?_, ?_⟩
    · rw [hlast]
      exact Nat.le_add_right _ _
    · rw [hlast]
      unfold finalEntry
      omega

/-- A GPU table of the given length, and memory clocks behind it. -/
def gpuTables (n : Nat) : Clocks where
  boostCpuFreq := 1785000000
  maxMemFreq := 1600000000
  freqTable p :=
    if p < tableHead .gpu then 0
    else if p < tableHead .gpu + n then UInt32.ofNat (76800000 * (p - tableHead .gpu + 1))
    else if p < tableHead .mem then 0
    else 665600000
  freqRange _ := ⟨0, 0, 0, fun _ => 0⟩
  allowUnsafe := false
  isMariko := true

theorem initDefault_right_short : (gpuTables 12).InitDefaultRight .gpu :=
  (initDefault_right_iff (by decide)).2 fun h => h 12 (by decide) (by decide)

/-- With 31 clocks of the GPU, its caps are the first clock of the memory. -/
theorem initDefault_runs_over :
    (¬∀ (c : Clocks) (module : SysClkModule), c.freqTable (tableHead module) ≠ 0 →
      c.InitDefaultRight module) ∧
      ((gpuTables 31).initDefault .gpu).last = tableHead .mem ∧
      (gpuTables 31).freqTable (((gpuTables 31).initDefault .gpu).max .docked) = 665600000 := by
  refine ⟨fun h => ?_, by decide, by decide⟩
  have hlast := (h (gpuTables 31) .gpu (by decide)).2.2.2
  exact absurd hlast (by decide)

end Clocks

end SwitchOc.SysClk
