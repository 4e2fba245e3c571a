import Mathlib.Tactic.Common
import SwitchOcSuite.Loader.PcvErista
import SwitchOcSuite.Loader.PcvMariko

/-!
# The patcher (`oc_common.hpp`) and the scan of the image

`searchAndApply` tries one entry at one word, `patchAt` the entries of the list
in order until one succeeds, `scan` every word from the start of the image up to
the last one with room for an MTC table after it, and `patch` also checks the
counts.  `patches` are the two lists.
-/

namespace SwitchOc

open Traced

/-! ## Entries -/

structure PatcherEntry where
  description : String
  patcherFn : Int → Patch Unit
  maximumPatchedCount : Nat
  /-- The pattern functions look at `*ptr` only. -/
  patternSearchFn : Option (UInt32 → Bool) := none
  valueSearch : UInt32 := 0

/-- `patched_count++` of the entry at index `i`. -/
def Device.count (d : Device) (i : Nat) : Device :=
  { d with patchedCount := Function.update d.patchedCount i (d.patchedCount i + 1) }

def PatcherEntry.matches (entry : PatcherEntry) (word : UInt32) : Bool :=
  match entry.patternSearchFn with
  | some f => f word
  | none => entry.valueSearch == word

/-- `Apply` of the entry at index `i`. -/
def PatcherEntry.apply (entry : PatcherEntry) (i : Nat) (ptr : Int) : Patch Unit := do
  entry.patcherFn ptr
  command fun d => d.count i

def PatcherEntry.searchAndApply (entry : PatcherEntry) (i : Nat) (ptr : Int) : Patch Unit := do
  let word ← load ptr
  if entry.matches word = true then entry.apply i ptr
  else throwResult .unsuccessfulPatcher

/-- `CheckResult`, as built for Stratosphere. -/
def PatcherEntry.checkResult (entry : PatcherEntry) (patchedCount : Nat) : Except LdrResult Unit :=
  if entry.maximumPatchedCount ≠ 0 ∧ ¬ patchedCount ≤ entry.maximumPatchedCount then
    .error .unsuccessfulPatcher
  else .ok ()

/-! ## The lists -/

inductive Soc where
  | erista
  | mariko
  deriving DecidableEq, Repr

/-- `static_cast<u32>(GetDvfsTableLastEntry(…CvbTableDefault)->freq)`. -/
def cvbDefaultMaxFreq (table : Nat → CvbEntry) : UInt32 :=
  match getDvfsTableLastEntry table with
  | some entry => lowWord entry.freq
  | none => 0

def Mariko.patches (C : CustomizeTable) : List PatcherEntry :=
  [{ description := "CPU Freq Vdd", patcherFn := cpuFreqVdd C, maximumPatchedCount := 1,
     valueSearch := cpuClkOSLimit },
   { description := "CPU Freq Table", patcherFn := cpuFreqCvbTable true C,
     maximumPatchedCount := 1, valueSearch := cvbDefaultMaxFreq (cpuDefaultTable true) },
   { description := "CPU Volt Limit", patcherFn := cpuVoltRange C, maximumPatchedCount := 13,
     valueSearch := cpuVoltOfficial },
   { description := "CPU Volt Dfll", patcherFn := cpuVoltDfll C, maximumPatchedCount := 1,
     valueSearch := 0x0000FFCF },
   { description := "GPU Freq Table", patcherFn := gpuFreqCvbTable true C,
     maximumPatchedCount := 1, valueSearch := cvbDefaultMaxFreq (gpuDefaultTable true) },
   { description := "GPU Freq Asm", patcherFn := gpuFreqMaxAsm C, maximumPatchedCount := 2,
     patternSearchFn := some gpuMaxClockPatternFn },
   { description := "MEM Freq Mtc", patcherFn := memFreqMtcTable C, maximumPatchedCount := 0,
     valueSearch := emcClkOSLimit },
   { description := "MEM Freq Dvb", patcherFn := memFreqDvbTable C, maximumPatchedCount := 1,
     valueSearch := emcClkOSLimit },
   { description := "MEM Freq Max", patcherFn := memFreqMax C, maximumPatchedCount := 0,
     valueSearch := emcClkOSLimit },
   { description := "MEM Freq PLLM", patcherFn := memFreqPllmLimit, maximumPatchedCount := 2,
     valueSearch := emcClkPllmLimit },
   { description := "MEM Vddq", patcherFn := emcVddqVolt C, maximumPatchedCount := 2,
     valueSearch := emcVddqDefault },
   { description := "MEM Vdd2", patcherFn := memVoltHandler C, maximumPatchedCount := 2,
     valueSearch := memVdd2Default }]

def Erista.patches (C : CustomizeTable) : List PatcherEntry :=
  [{ description := "CPU Freq Table", patcherFn := cpuFreqCvbTable false C,
     maximumPatchedCount := 1, valueSearch := cvbDefaultMaxFreq (cpuDefaultTable false) },
   { description := "CPU Volt Limit", patcherFn := cpuVoltRange C, maximumPatchedCount := 0,
     patternSearchFn := some cpuMaxVoltPatternFn },
   { description := "GPU Freq Table", patcherFn := gpuFreqCvbTable false C,
     maximumPatchedCount := 1, valueSearch := cvbDefaultMaxFreq (gpuDefaultTable false) },
   { description := "GPU Freq Asm", patcherFn := gpuFreqMaxAsm C, maximumPatchedCount := 2,
     patternSearchFn := some gpuMaxClockPatternFn },
   { description := "GPU Freq PLL", patcherFn := gpuFreqPllLimit, maximumPatchedCount := 1,
     valueSearch := gpuClkPllLimit },
   { description := "MEM Freq Mtc", patcherFn := memFreqMtcTable C, maximumPatchedCount := 0,
     valueSearch := emcClkOSLimit },
   { description := "MEM Freq Max", patcherFn := memFreqMax C, maximumPatchedCount := 0,
     valueSearch := emcClkOSLimit },
   { description := "MEM Freq PLLM", patcherFn := memFreqPllmLimit, maximumPatchedCount := 2,
     valueSearch := emcClkPllmLimit },
   { description := "MEM Volt", patcherFn := memVoltHandler C, maximumPatchedCount := 2,
     valueSearch := memVoltHOS }]

def patches : Soc → CustomizeTable → List PatcherEntry
  | .erista => Erista.patches
  | .mariko => Mariko.patches

def Soc.mtcTableWords : Soc → Nat
  | .erista => Erista.mtcTableWords
  | .mariko => Mariko.mtcTableWords

/-! ## The scan -/

/-- The entries in order, from index `i` on, until one succeeds. -/
def tryEntries (ptr : Int) (i : Nat) : List PatcherEntry → Patch Unit
  | [] => pure ()
  | entry :: entries =>
    Prog.attempt Stop.isResult (entry.searchAndApply i ptr) (tryEntries ptr (i + 1) entries)

def patchAt (soc : Soc) (C : CustomizeTable) (ptr : Int) : Patch Unit :=
  tryEntries ptr 0 (patches soc C)

/-- Number of words `ptr` takes in the scan of an image of `nsoSize` bytes: those
with `4 * ptr + sizeof(MtcTable) ≤ nsoSize`. -/
def cursorCount (soc : Soc) (nsoSize : Nat) : Nat :=
  if nsoSize < 4 * soc.mtcTableWords then 0 else (nsoSize - 4 * soc.mtcTableWords) / 4 + 1

def scan (soc : Soc) (C : CustomizeTable) (nsoSize : Nat) : Patch Unit :=
  Prog.forEach (List.range (cursorCount soc nsoSize)) fun ptr => patchAt soc C ptr

/-- `CRASH` at the first entry whose count is off. -/
def checkResults (i : Nat) : List PatcherEntry → Patch Unit
  | [] => pure ()
  | entry :: entries =>
    ⟨fun s =>
      match entry.checkResult (s.dev.patchedCount i) with
      | .ok () => checkResults (i + 1) entries s
      | .error _ => Prog.fail (.crash entry.description) s⟩

/-- `mariko::Patch` and `erista::Patch`. -/
def patch (soc : Soc) (C : CustomizeTable) (nsoSize : Nat) : Patch Unit := do
  scan soc C nsoSize
  checkResults 0 (patches soc C)

/-! ## Lemmas -/

/-- The cursor stays far enough from the end of the image for one MTC table. -/
theorem mem_cursors {soc : Soc} {nsoSize ptr : Nat} :
    ptr ∈ List.range (cursorCount soc nsoSize) ↔ 4 * (ptr + soc.mtcTableWords) ≤ nsoSize := by
  rw [List.mem_range]
  unfold cursorCount
  have hpos : 0 < soc.mtcTableWords := by cases soc <;> decide
  split <;> omega

end SwitchOc
