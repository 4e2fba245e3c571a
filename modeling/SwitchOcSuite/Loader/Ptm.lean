import Mathlib.Tactic.Common
import SwitchOcSuite.Loader.Patcher

/-!
# The performance table of `ptm` (`ptm.cpp`)

`confTable` is found by the value pattern of its first entry; its 16 entries are
then checked one after the other, each rewritten as soon as it has passed.  An
entry is 8 words: `conf_id`, the pairs of `cpu`, `gpu` and `emc` frequencies and
`padding`.  The two patch entries count from zero in every call.

    findConfTable       the scan for the first match
    patchEntry          one turn of the loop over the entries
    patch               `ptm::Patch`
-/

namespace SwitchOc.Ptm

open Traced

/-! ## Entries -/

def entryCnt : Nat := 16

def cpuPtmDefault : UInt32 := 1020000000
def cpuPtmDevOC : UInt32 := 1224000000
def cpuPtmBoostFreq : UInt32 := 1785000000

def memPtmLimit : UInt32 := 1600000000
def memPtmAlt : UInt32 := 1331200000
def memPtmClamp : UInt32 := 1065600000

/-- Words in a `perf_conf_entry`. -/
def perfConfEntryWords : Nat := 8

def cpuPtmBoost (C : CustomizeTable) (entry : Int) : Patch Unit :=
  if C.commonCpuBoostClock = 0 then pure ()
  else do
    let cpuPtmBoostNew := C.commonCpuBoostClock * 1000
    store (entry + 1) cpuPtmBoostNew
    store (entry + 2) cpuPtmBoostNew

def memPtm (entry : Int) : Patch Unit := do
  store (entry + 5) memPtmLimit
  store (entry + 6) memPtmLimit

/-- Whether two words are equal. -/
def sameWords (a b : Int) : Patch Bool := do
  let x ← load a
  let y ← load b
  pure (x == y)

/-- `a && b` over programs. -/
def andThen (a b : Patch Bool) : Patch Bool := do
  let x ← a
  if x = true then b else pure false

def ptmEntryIsValid (entry : Int) : Patch Bool :=
  andThen (sameWords (entry + 1) (entry + 2))
    (andThen (sameWords (entry + 3) (entry + 4)) (sameWords (entry + 5) (entry + 6)))

def ptmTablePatternFn (ptr : Int) : Patch Bool :=
  andThen (ptmEntryIsValid ptr) do
    let cpuFreq1 ← load (ptr + 1)
    pure (cpuFreq1 == cpuPtmDefault)

/-! ## `ptm::Patch` -/

/-- Number of words `ptr` takes: those with room for the whole table. -/
def cursorCount (nsoSize : Nat) : Nat :=
  if nsoSize < 4 * (perfConfEntryWords * entryCnt) then 0
  else (nsoSize - 4 * (perfConfEntryWords * entryCnt)) / 4 + 1

def findConfTable : List Nat → Patch (Option Nat)
  | [] => pure none
  | ptr :: ptrs => do
    let found ← ptmTablePatternFn ptr
    if found = true then pure (some ptr) else findConfTable ptrs

def cpuPtmBoostPatch (C : CustomizeTable) : PatcherEntry :=
  { description := "CPU Ptm Boost", patcherFn := cpuPtmBoost C, maximumPatchedCount := 2 }

def memPtmPatch : PatcherEntry :=
  { description := "MEM Ptm", patcherFn := memPtm, maximumPatchedCount := 16 }

/-- `switch (entry->cpu_freq_1)`. -/
def patchCpu (C : CustomizeTable) (entry : Int) : Patch Unit := do
  let cpuFreq1 ← load (entry + 1)
  if cpuFreq1 = cpuPtmBoostFreq then (cpuPtmBoostPatch C).apply 0 entry
  else if cpuFreq1 = cpuPtmDefault ∨ cpuFreq1 = cpuPtmDevOC then pure ()
  else Prog.fail (.crash "Unknown CPU Freq")

/-- `switch (entry->emc_freq_1)`. -/
def patchMem (soc : Soc) (entry : Int) : Patch Unit := do
  let emcFreq1 ← load (entry + 5)
  if emcFreq1 = memPtmLimit ∨ emcFreq1 = memPtmAlt ∨ emcFreq1 = memPtmClamp then
    (if soc = .mariko then memPtmPatch.apply 1 entry else pure ())
  else Prog.fail (.crash "Unknown MEM Freq")

def patchEntry (soc : Soc) (C : CustomizeTable) (entry : Int) : Patch Unit := do
  let valid ← ptmEntryIsValid entry
  Prog.require (valid = true) (.crash "Invalid ptm confTable entry")
  patchCpu C entry
  patchMem soc entry

/-- `confTable + i`. -/
def confEntry (confTable : Nat) (i : Nat) : Int := confTable + perfConfEntryWords * i

/-- The entries whose counts are looked at in the end. -/
def checkedEntries (soc : Soc) (C : CustomizeTable) : List PatcherEntry :=
  cpuPtmBoostPatch C :: if soc = .mariko then [memPtmPatch] else []

/-- The loop over the entries and the check of the counts. -/
def patchTable (soc : Soc) (C : CustomizeTable) (confTable : Nat) : Patch Unit := do
  command fun d => { d with patchedCount := fun _ => 0 }
  Prog.forEach (List.range entryCnt) fun i => patchEntry soc C (confEntry confTable i)
  checkResults 0 (checkedEntries soc C)

def patch (soc : Soc) (C : CustomizeTable) (nsoSize : Nat) : Patch Unit := do
  let found ← findConfTable (List.range (cursorCount nsoSize))
  match found with
  | none => Prog.fail (.crash "confTable not found!")
  | some confTable => patchTable soc C confTable

end SwitchOc.Ptm
