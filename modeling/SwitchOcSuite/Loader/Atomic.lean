import Mathlib.Tactic.Common
import SwitchOcSuite.Lib.Validated
import SwitchOcSuite.Loader.Patcher
import SwitchOcSuite.Loader.SafetyCheck

/-!
# A patch entry is all-or-nothing

Every patch function validates before it writes, so an entry that fails at a
position has written nothing: not the image, not the regulator, not its count.
The one way not to return is the null pointer of an empty DVFS table, met by
`cpuFreqVdd` and `gpuFreqMaxAsm` after their validation and before any write;
`safetyCheck` would have met it first.

    patcherFn_validated        each patch function of both lists
    searchAndApply_cases       what one attempt of one entry does
-/

namespace SwitchOc

open Traced

/-! ## Tables that are looked up -/

/-- The tables whose last entry the patches of `soc` look up have one. -/
def TablesPresent (soc : Soc) (C : CustomizeTable) : Prop :=
  match soc with
  | .erista => getDvfsTableEntryCount (gpuCustomizeTable false C) ≠ 0
  | .mariko => getDvfsTableEntryCount (cpuCustomizeTable true C) ≠ 0 ∧
      getDvfsTableEntryCount (gpuCustomizeTable true C) ≠ 0

theorem tablesPresent_of_safetyCheck {C : CustomizeTable} (h : safetyCheck C = .ok ())
    (soc : Soc) : TablesPresent soc C := by
  obtain ⟨-, a, b, c, d, -, hb, hc, hd, -⟩ := safetyCheck_ok_iff.1 h
  cases soc with
  | erista => exact count_ne_zero_of_dvfsMaxFreq hc
  | mariko => exact ⟨count_ne_zero_of_dvfsMaxFreq hb, count_ne_zero_of_dvfsMaxFreq hd⟩

/-! ## Checks that only read -/

theorem readOnly_expectWord (w : Int) (v : UInt32) (r : LdrResult) :
    ReadOnly Access.IsWrite (expectWord w v r) :=
  readOnly_expect w v _

theorem readOnly_load64 (w : Int) : ReadOnly Access.IsWrite (load64 w) :=
  readOnly_bind (readOnly_load w) fun _ => readOnly_bind (readOnly_load (w + 1)) fun _ =>
    readOnly_pure _

theorem readOnly_memVoltValidator (entry : Int) :
    ReadOnly Access.IsWrite (memVoltValidator entry) :=
  readOnly_bind (readOnly_load64 entry) fun _ => readOnly_ite (readOnly_holdsAll _) (readOnly_pure _)

/-! ## Patch functions -/

/-- What may stop a patch function: a result code, or the null pointer of an empty table. -/
def MayStop (soc : Soc) (C : CustomizeTable) : Stop → Prop
  | .result _ => True
  | .nullPointer => ¬ TablesPresent soc C
  | .crash _ => False

/-- All-or-nothing, with the counts of the list left alone. -/
abbrev PatchValidated (soc : Soc) (C : CustomizeTable) (x : Patch Unit) : Prop :=
  Validated Access.IsWrite (MayStop soc C) (fun s : Store Device => s.dev.patchedCount) x

abbrev PatchCommits (x : Patch Unit) : Prop :=
  Commits (fun s : Store Device => s.dev.patchedCount) x

section PatchFunctions

variable {soc : Soc} {C : CustomizeTable}

theorem mayStop_result (r : LdrResult) : MayStop soc C (.result r) :=
  trivial

theorem checks_expectWord (w : Int) (v : UInt32) (r : LdrResult) :
    Checks Access.IsWrite (MayStop soc C) (expectWord w v r) :=
  checks_expect w v (mayStop_result r)

theorem checks_load64 (w : Int) : Checks Access.IsWrite (MayStop soc C) (load64 w) :=
  checks_bind (checks_load w) fun _ => checks_bind (checks_load _) fun _ => checks_pure _

theorem commits_store_dev (w : Int) (v : UInt32) : PatchCommits (store w v) :=
  commits_store (k := Device.patchedCount) w v

theorem commits_modify_dev (w : Int) (f : UInt32 → UInt32) : PatchCommits (modify w f) :=
  commits_modify (k := Device.patchedCount) w f

theorem commits_load64 (w : Int) :
    Commits (fun s : Store Device => s.dev.patchedCount) (load64 w) :=
  commits_bind (commits_load (k := Device.patchedCount) w) fun _ =>
    commits_bind (commits_load (k := Device.patchedCount) _) fun _ => commits_pure _

/-- The one lookup that can follow a null pointer. -/
theorem checks_lastFreq {table : Nat → CvbEntry}
    (h : getDvfsTableEntryCount table = 0 → ¬ TablesPresent soc C) :
    Checks Access.IsWrite (MayStop soc C) (lastFreq table) := by
  unfold lastFreq
  cases he : getDvfsTableLastEntry table with
  | some entry => exact checks_pure _
  | none => exact checks_fail (h (getDvfsTableLastEntry_eq_none_iff.1 he))

theorem cpuFreqCvbTable_validated (isMariko : Bool) (ptr : Int) :
    PatchValidated soc C (cpuFreqCvbTable isMariko C ptr) := by
  unfold cpuFreqCvbTable
  refine validated_bind (checks_loadBlock _ _) fun _ => ?_
  refine validated_bind (checks_require _ (mayStop_result _)) fun _ => ?_
  refine Commits.validated (commits_bind (commits_storeBlock (k := Device.patchedCount) _ _)
    fun _ => ?_)
  refine commits_ite (commits_forEach (fun i => ?_) _) (commits_pure ())
  refine commits_bind (commits_load64 _) fun freq => ?_
  exact commits_ite (commits_store_dev _ _) (commits_pure ())

theorem gpuFreqCvbTable_validated (isMariko : Bool) (ptr : Int) :
    PatchValidated soc C (gpuFreqCvbTable isMariko C ptr) := by
  unfold gpuFreqCvbTable
  refine validated_bind (checks_loadBlock _ _) fun _ => ?_
  refine validated_bind (checks_require _ (mayStop_result _)) fun _ => ?_
  refine Commits.validated (commits_bind (commits_storeBlock (k := Device.patchedCount) _ _)
    fun _ => ?_)
  refine commits_ite (commits_forEach (fun i => ?_) _)
    (commits_ite (commits_forEach (fun i => commits_modify_dev _ _) _) (commits_pure ()))
  refine commits_bind (commits_store_dev _ _) fun _ => ?_
  refine commits_bind (commits_store_dev _ _) fun _ => ?_
  refine commits_bind (commits_store_dev _ _) fun _ => ?_
  refine commits_bind (commits_store_dev _ _) fun _ => ?_
  exact commits_bind (commits_store_dev _ _) fun _ => commits_store_dev _ _

theorem memFreqPllmLimit_validated (ptr : Int) : PatchValidated soc C (memFreqPllmLimit ptr) := by
  unfold memFreqPllmLimit
  refine validated_bind (checks_load _) fun _ => ?_
  refine validated_bind (checks_load _) fun _ => ?_
  refine validated_bind (checks_require _ (mayStop_result _)) fun _ => ?_
  exact Commits.validated (commits_bind (commits_store_dev _ _) fun _ => commits_store_dev _ _)

theorem checks_memVoltValidator (entry : Int) :
    Checks Access.IsWrite (MayStop soc C) (memVoltValidator entry) :=
  checks_bind (checks_load64 entry) fun _ => checks_ite (checks_holdsAll _) (checks_pure _)

theorem memVoltHandler_validated (ptr : Int) : PatchValidated soc C (memVoltHandler C ptr) := by
  unfold memVoltHandler
  refine validated_bind (checks_memVoltValidator _) fun _ => ?_
  refine validated_bind (checks_memVoltValidator _) fun _ => ?_
  refine validated_bind (checks_require _ (mayStop_result _)) fun _ => ?_
  exact Commits.validated (commits_ite (commits_pure ()) (commits_store_dev _ _))

theorem gpuFreqMaxAsmOf_validated {maxFreq : Patch UInt64}
    (h : Checks Access.IsWrite (MayStop soc C) maxFreq) (ptr : Int) :
    PatchValidated soc C (gpuFreqMaxAsmOf maxFreq ptr) := by
  unfold gpuFreqMaxAsmOf
  refine validated_bind (checks_load _) fun _ => ?_
  refine validated_bind (checks_load _) fun _ => ?_
  refine validated_bind (checks_require _ (mayStop_result _)) fun _ => ?_
  refine validated_bind (checks_require _ (mayStop_result _)) fun _ => ?_
  refine validated_bind h fun _ => ?_
  exact Commits.validated (commits_bind (commits_store_dev _ _) fun _ => commits_store_dev _ _)

theorem gpuFreqPllLimit_validated (ptr : Int) : PatchValidated soc C (gpuFreqPllLimit ptr) := by
  unfold gpuFreqPllLimit
  refine validated_bind (checks_forEach (fun _ => checks_expectWord _ _ _) _) fun _ => ?_
  refine validated_bind (checks_load _) fun _ => ?_
  exact Commits.validated (commits_store_dev _ _)

end PatchFunctions

namespace Erista

variable {C : CustomizeTable}

theorem cpuVoltRange_validated (ptr : Int) : PatchValidated .erista C (cpuVoltRange C ptr) := by
  unfold cpuVoltRange
  refine validated_bind (checks_load _) fun _ => ?_
  refine validated_ite ?_ (Checks.validated (checks_fail (mayStop_result _)))
  exact Commits.validated (commits_ite (commits_pure ()) (commits_store_dev _ _))

theorem gpuFreqMaxAsm_validated (ptr : Int) : PatchValidated .erista C (gpuFreqMaxAsm C ptr) := by
  refine gpuFreqMaxAsmOf_validated (checks_lastFreq fun h => ?_) ptr
  exact fun hp : TablesPresent .erista C => hp h

theorem commits_writeParamAllReg (table : Int) (r : Timing) (v : UInt32) :
    PatchCommits (writeParamAllReg table r v) :=
  commits_bind (commits_store_dev _ _) fun _ => commits_bind (commits_store_dev _ _) fun _ =>
    commits_bind (commits_store_dev _ _) fun _ => commits_store_dev _ _

theorem commits_memMtcTableAutoAdjust (table : Int) :
    PatchCommits (memMtcTableAutoAdjust C table) := by
  unfold memMtcTableAutoAdjust
  refine commits_ite (commits_pure ()) ?_
  refine commits_bind (commits_forEach (fun _ => commits_writeParamAllReg _ _ _) _) fun _ => ?_
  exact commits_forEach (fun _ => commits_store_dev _ _) _

theorem memFreqMtcTable_validated (ptr : Int) :
    PatchValidated .erista C (memFreqMtcTable C ptr) := by
  unfold memFreqMtcTable
  refine validated_bind (checks_forEach (fun _ => checks_bind (checks_expectWord _ _ _)
    fun _ => checks_expectWord _ _ _) _) fun _ => ?_
  refine Commits.validated (commits_ite (commits_pure ()) ?_)
  refine commits_bind (commits_forEach (fun i => ?_) _) fun _ => ?_
  · exact commits_bind (commits_loadBlock (k := Device.patchedCount) _ _) fun _ =>
      commits_storeBlock (k := Device.patchedCount) _ _
  · exact commits_bind (commits_memMtcTableAutoAdjust _) fun _ => commits_store_dev _ _

theorem memFreqMax_validated (ptr : Int) : PatchValidated .erista C (memFreqMax C ptr) :=
  Commits.validated (commits_ite (commits_pure ()) (commits_store_dev _ _))

end Erista

namespace Mariko

variable {C : CustomizeTable}

theorem cpuFreqVdd_validated (ptr : Int) : PatchValidated .mariko C (cpuFreqVdd C ptr) := by
  unfold cpuFreqVdd
  refine validated_bind (checks_expectWord _ _ _) fun _ => ?_
  refine validated_bind (checks_expectWord _ _ _) fun _ => ?_
  refine validated_bind (checks_expectWord _ _ _) fun _ => ?_
  refine validated_bind (checks_expectWord _ _ _) fun _ => ?_
  refine validated_bind (checks_lastFreq fun h => ?_) fun _ => ?_
  · exact fun hp : TablesPresent .mariko C => hp.1 h
  exact Commits.validated (commits_store_dev _ _)

theorem commits_patchVmin (w : Int) : PatchCommits (patchVmin w) :=
  commits_bind (commits_load (k := Device.patchedCount) w) fun _ =>
    commits_ite (commits_store_dev _ _) (commits_pure ())

theorem cpuVoltRange_validated (ptr : Int) : PatchValidated .mariko C (cpuVoltRange C ptr) := by
  unfold cpuVoltRange
  refine validated_bind (checks_load _) fun _ => ?_
  refine validated_ite ?_ (Checks.validated (checks_fail (mayStop_result _)))
  refine Commits.validated (commits_ite (commits_pure ()) ?_)
  refine commits_bind (commits_store_dev _ _) fun _ => commits_ite ?_ (commits_pure ())
  exact commits_bind (commits_patchVmin _) fun _ => commits_patchVmin _

theorem commits_patchTune0Low (ptr : Int) : PatchCommits (patchTune0Low C ptr) :=
  commits_ite (commits_store_dev _ _) (commits_ite (commits_store_dev _ _) (commits_pure ()))

theorem cpuVoltDfll_validated (ptr : Int) : PatchValidated .mariko C (cpuVoltDfll C ptr) := by
  unfold cpuVoltDfll
  refine validated_bind (checks_expectWord _ _ _) fun _ => ?_
  refine validated_bind (checks_expectWord _ _ _) fun _ => ?_
  refine validated_bind (checks_expectWord _ _ _) fun _ => ?_
  refine validated_bind (checks_expectWord _ _ _) fun _ => ?_
  refine Commits.validated (commits_ite ?_ (commits_pure ()))
  refine commits_bind (commits_patchTune0Low _) fun _ => ?_
  exact commits_bind (commits_store_dev _ _) fun _ => commits_bind (commits_store_dev _ _) fun _ =>
    commits_store_dev _ _

theorem gpuFreqMaxAsm_validated (ptr : Int) : PatchValidated .mariko C (gpuFreqMaxAsm C ptr) := by
  refine gpuFreqMaxAsmOf_validated (checks_lastFreq fun h => ?_) ptr
  exact fun hp : TablesPresent .mariko C => hp.2 h

theorem commits_writeParamAllReg (table : Int) (r : Timing) (v : UInt32) :
    PatchCommits (writeParamAllReg table r v) :=
  commits_bind (commits_store_dev _ _) fun _ => commits_bind (commits_store_dev _ _) fun _ =>
    commits_store_dev _ _

theorem commits_getReg (table : Int) (r : Reg) :
    Commits (fun s : Store Device => s.dev.patchedCount) (getReg table r) :=
  commits_load (k := Device.patchedCount) _

theorem commits_writeTurnsAndCovers (table : Int) : PatchCommits (writeTurnsAndCovers table) := by
  unfold writeTurnsAndCovers
  refine commits_bind (commits_getReg _ _) fun _ => commits_bind (commits_getReg _ _) fun _ => ?_
  refine commits_bind (commits_store_dev _ _) fun _ => ?_
  refine commits_bind (commits_getReg _ _) fun _ => commits_bind (commits_getReg _ _) fun _ => ?_
  refine commits_bind (commits_getReg _ _) fun _ => commits_bind (commits_getReg _ _) fun _ => ?_
  exact commits_bind (commits_getReg _ _) fun _ => commits_store_dev _ _

theorem commits_adjustDynSelfRef (table ref : Int) (field : Timing → Reg) :
    PatchCommits (adjustDynSelfRef C table ref field) :=
  commits_bind (commits_getReg _ _) fun _ => commits_bind (commits_getReg _ _) fun _ =>
    commits_store_dev _ _

theorem commits_memMtcTableAutoAdjust (table ref : Int) :
    PatchCommits (memMtcTableAutoAdjust C table ref) := by
  unfold memMtcTableAutoAdjust
  refine commits_ite (commits_pure ()) ?_
  refine commits_bind (commits_forEach (fun _ => commits_writeParamAllReg _ _ _) _) fun _ => ?_
  refine commits_bind (commits_forEach (fun _ => commits_adjustDynSelfRef _ _ _) _) fun _ => ?_
  refine commits_bind (commits_forEach (fun _ => commits_store_dev _ _) _) fun _ => ?_
  refine commits_bind (commits_getReg _ _) fun _ => commits_bind (commits_store_dev _ _) fun _ => ?_
  refine commits_bind (commits_forEach (fun _ => commits_store_dev _ _) _) fun _ => ?_
  refine commits_bind (commits_writeTurnsAndCovers _) fun _ => ?_
  refine commits_bind (commits_getReg _ _) fun _ => commits_bind (commits_modify_dev _ _) fun _ => ?_
  refine commits_bind (commits_forEach (fun _ => commits_modify_dev _ _) _) fun _ => ?_
  exact commits_forEach (fun _ => commits_store_dev _ _) _

theorem commits_memMtcTableCustomAdjust (table : Int) :
    PatchCommits (memMtcTableCustomAdjust C table) := by
  unfold memMtcTableCustomAdjust
  refine commits_ite (commits_pure ()) ?_
  refine commits_bind (commits_forEach (fun p => ?_) _) fun _ => commits_writeTurnsAndCovers _
  refine commits_ite ?_ (commits_pure ())
  exact commits_bind (commits_forEach (fun _ => commits_writeParamAllReg _ _ _) _) fun _ =>
    commits_forEach (fun _ => commits_store_dev _ _) _

theorem memFreqMtcTable_validated (ptr : Int) :
    PatchValidated .mariko C (memFreqMtcTable C ptr) := by
  unfold memFreqMtcTable
  refine validated_bind (checks_forEach (fun _ => checks_bind (checks_expectWord _ _ _)
    fun _ => checks_expectWord _ _ _) _) fun _ => ?_
  refine Commits.validated (commits_ite (commits_pure ()) ?_)
  refine commits_bind (commits_loadBlock (k := Device.patchedCount) _ _) fun _ => ?_
  refine commits_bind (commits_memMtcTableAutoAdjust _ _) fun _ => ?_
  refine commits_bind (commits_memMtcTableCustomAdjust _) fun _ => ?_
  refine commits_bind (commits_bind (commits_store_dev _ _) fun _ => commits_store_dev _ _)
    fun _ => ?_
  exact commits_bind (commits_storeBlock (k := Device.patchedCount) _ _) fun _ =>
    commits_store_dev _ _

theorem commits_writeDvbEntry (defaultEnd newStart : Int) :
    PatchCommits (writeDvbEntry C defaultEnd newStart) := by
  unfold writeDvbEntry
  cases dvbOcTable C with
  | none =>
    exact commits_bind (commits_loadBlock (k := Device.patchedCount) _ _) fun _ =>
      commits_storeBlock (k := Device.patchedCount) _ _
  | some ocTable => exact commits_storeBlock (k := Device.patchedCount) _ _

theorem memFreqDvbTable_validated (ptr : Int) :
    PatchValidated .mariko C (memFreqDvbTable C ptr) := by
  unfold memFreqDvbTable
  refine validated_bind (checks_loadBlock _ _) fun _ => ?_
  refine validated_bind (checks_require _ (mayStop_result _)) fun _ => ?_
  refine Commits.validated (commits_ite (commits_pure ()) ?_)
  refine commits_bind (commits_writeDvbEntry _ _) fun _ => ?_
  exact commits_bind (commits_store_dev _ _) fun _ => commits_store_dev _ _

theorem memFreqMax_validated (ptr : Int) : PatchValidated .mariko C (memFreqMax C ptr) :=
  Commits.validated (commits_ite (commits_pure ()) (commits_store_dev _ _))

theorem commits_i2cSetU8 (reg val : UInt8) : PatchCommits (i2cSetU8 reg val) := by
  refine commits_command (k := Device.patchedCount) fun d => ?_
  split <;> rfl

theorem emcVddqVolt_validated (ptr : Int) : PatchValidated .mariko C (emcVddqVolt C ptr) := by
  unfold emcVddqVolt
  refine validated_bind (checks_load64 _) fun _ => ?_
  refine validated_bind (checks_require _ (mayStop_result _)) fun _ => ?_
  refine validated_bind (checks_expectWord _ _ _) fun _ => ?_
  refine validated_bind (checks_expectWord _ _ _) fun _ => ?_
  refine validated_bind (checks_expectWord _ _ _) fun _ => ?_
  refine Commits.validated (commits_ite (commits_pure ()) ?_)
  exact commits_bind (commits_store_dev _ _) fun _ => commits_i2cSetU8 _ _

end Mariko

/-- **Every patch function validates before it writes.** -/
theorem patcherFn_validated (soc : Soc) (C : CustomizeTable) {entry : PatcherEntry}
    (h : entry ∈ patches soc C) (ptr : Int) : PatchValidated soc C (entry.patcherFn ptr) := by
  cases soc with
  | erista =>
    simp only [patches, Erista.patches, List.mem_cons, List.not_mem_nil, or_false] at h
    rcases h with rfl | rfl | rfl | rfl | rfl | rfl | rfl | rfl | rfl
    · exact cpuFreqCvbTable_validated false ptr
    · exact Erista.cpuVoltRange_validated ptr
    · exact gpuFreqCvbTable_validated false ptr
    · exact Erista.gpuFreqMaxAsm_validated ptr
    · exact gpuFreqPllLimit_validated ptr
    · exact Erista.memFreqMtcTable_validated ptr
    · exact Erista.memFreqMax_validated ptr
    · exact memFreqPllmLimit_validated ptr
    · exact memVoltHandler_validated ptr
  | mariko =>
    simp only [patches, Mariko.patches, List.mem_cons, List.not_mem_nil, or_false] at h
    rcases h with rfl | rfl | rfl | rfl | rfl | rfl | rfl | rfl | rfl | rfl | rfl | rfl
    · exact Mariko.cpuFreqVdd_validated ptr
    · exact cpuFreqCvbTable_validated true ptr
    · exact Mariko.cpuVoltRange_validated ptr
    · exact Mariko.cpuVoltDfll_validated ptr
    · exact gpuFreqCvbTable_validated true ptr
    · exact Mariko.gpuFreqMaxAsm_validated ptr
    · exact Mariko.memFreqMtcTable_validated ptr
    · exact Mariko.memFreqDvbTable_validated ptr
    · exact Mariko.memFreqMax_validated ptr
    · exact memFreqPllmLimit_validated ptr
    · exact Mariko.emcVddqVolt_validated ptr
    · exact memVoltHandler_validated ptr

/-! ## One attempt -/

/-- The patch function after a match: rejected with nothing written, or run and counted. -/
theorem apply_cases {soc : Soc} {C : CustomizeTable} {entry : PatcherEntry} {ptr : Int}
    (hv : PatchValidated soc C (entry.patcherFn ptr)) (i : Nat) (s : Store Device) :
    (∃ e, MayStop soc C e ∧ (entry.apply i ptr s).result = .error e ∧
      Untouched Access.IsWrite s (entry.apply i ptr s)) ∨
    ((entry.apply i ptr s).result = .ok () ∧
      (entry.apply i ptr s).state.dev.patchedCount =
        Function.update s.dev.patchedCount i (s.dev.patchedCount i + 1)) := by
  unfold PatcherEntry.apply
  cases h : (entry.patcherFn ptr s).result with
  | error e =>
    rw [bind_of_error h]
    exact .inl ⟨e, hv.failsOnly s e h, rfl, hv.atomic s e h⟩
  | ok a =>
    rw [bind_of_ok h]
    refine .inr ⟨rfl, ?_⟩
    have hkeep : (entry.patcherFn ptr s).state.dev.patchedCount = s.dev.patchedCount := hv.keeps s
    show Function.update _ _ _ = _
    rw [hkeep]

/-- An entry that matches fails as its patch function does. -/
theorem searchAndApply_error {entry : PatcherEntry} {i : Nat} {ptr : Int} {s : Store Device}
    {e : Stop} (hm : entry.matches (s.mem ptr) = true)
    (h : (entry.patcherFn ptr s).result = .error e) :
    (entry.searchAndApply i ptr s).result = .error e := by
  unfold PatcherEntry.searchAndApply PatcherEntry.apply
  rw [load_bind_run, if_pos hm, bind_of_error h]
  rfl

/-- **One attempt of one entry at one word.**  It is rejected with a result code and
nothing written, or it succeeds and counts one, or, with an empty table to look up,
it meets the null pointer with nothing written. -/
theorem searchAndApply_cases (soc : Soc) (C : CustomizeTable) (ptr : Int) (s : Store Device)
    (i : Fin (patches soc C).length) :
    (∃ r, ((patches soc C)[i].searchAndApply i ptr s).result = .error (.result r) ∧
      Untouched Access.IsWrite s ((patches soc C)[i].searchAndApply i ptr s)) ∨
    (((patches soc C)[i].searchAndApply i ptr s).result = .ok () ∧
      ((patches soc C)[i].searchAndApply i ptr s).state.dev.patchedCount =
        Function.update s.dev.patchedCount i (s.dev.patchedCount i + 1)) ∨
    (¬ TablesPresent soc C ∧
      ((patches soc C)[i].searchAndApply i ptr s).result = .error .nullPointer ∧
      Untouched Access.IsWrite s ((patches soc C)[i].searchAndApply i ptr s)) := by
  have hv := patcherFn_validated soc C (List.getElem_mem i.isLt) ptr
  have hread : ∀ l ∈ [Access.read ptr], ¬ l.IsWrite := by
    intro l hl
    rw [List.mem_singleton.1 hl]
    exact id
  generalize hentry : (patches soc C)[i] = entry
  rw [show (patches soc C)[(i : Nat)] = entry from hentry] at hv
  unfold PatcherEntry.searchAndApply
  rw [load_bind_run]
  by_cases hm : entry.matches (s.mem ptr) = true
  · rw [if_pos hm]
    rcases apply_cases hv i s with ⟨e, he, hres, hun⟩ | ⟨hres, hcount⟩
    · cases e with
      | result r => exact .inl ⟨r, hres, hun.after hread⟩
      | nullPointer => exact .inr (.inr ⟨he, hres, hun.after hread⟩)
      | crash msg => exact he.elim
    · exact .inr (.inl ⟨hres, hcount⟩)
  · rw [if_neg hm]
    refine .inl ⟨.unsuccessfulPatcher, rfl, Untouched.after ⟨rfl, fun l hl => ?_⟩ hread⟩
    cases hl

/-! ## The null pointer is met -/

/-- The shipped configuration with the Mariko CPU table left empty. -/
def emptyCpuTable : CustomizeTable := { customizeTable with marikoCpuDvfsTable := .ofList [] }

/-- An image whose first words are the CPU rail, its frequency at word 6. -/
def railImage : Store Device where
  mem := fun w =>
    if w = 0 then 1 else if w = 6 then 1785000 else if w = 16 then 250000
    else if w = 17 then 5000 else if w = 18 then 1525000 else 0
  dev := ⟨true, fun _ => 0, fun _ => 0⟩

/-- The rail entry matches and passes its validation, and then neither fails nor succeeds. -/
theorem searchAndApply_not_failure_or_success :
    ¬ ∀ (soc : Soc) (C : CustomizeTable) (ptr : Int) (s : Store Device)
      (i : Fin (patches soc C).length),
      (∃ r, ((patches soc C)[i].searchAndApply i ptr s).result = .error (.result r)) ∨
      ((patches soc C)[i].searchAndApply i ptr s).result = .ok () := by
  intro h
  have hnull : lastFreq emptyCpuTable.marikoCpuDvfsTable.view = Prog.fail .nullPointer := by
    have hnone : getDvfsTableLastEntry emptyCpuTable.marikoCpuDvfsTable.view = none := by
      rw [show emptyCpuTable.marikoCpuDvfsTable = .ofList [] from rfl,
        getDvfsTableLastEntry_ofList]
      rfl
    unfold lastFreq
    rw [hnone]
  have hrun : (Mariko.cpuFreqVdd emptyCpuTable 6 railImage).result = .error .nullPointer := by
    unfold Mariko.cpuFreqVdd expectWord
    simp only [expect_bind_run]
    rw [show emptyCpuTable.marikoCpuUV = 0 from rfl]
    simp [hnull, railImage]
  have hstop : ((patches .mariko emptyCpuTable)[0].searchAndApply 0 6 railImage).result =
      .error .nullPointer :=
    searchAndApply_error (by decide) hrun
  rcases h .mariko emptyCpuTable 6 railImage ⟨0, by decide⟩ with ⟨r, hr⟩ | hr
  · exact absurd (hstop.symm.trans hr) (by simp)
  · exact absurd (hstop.symm.trans hr) (by simp)

end SwitchOc
