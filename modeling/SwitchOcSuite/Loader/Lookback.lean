import Mathlib.Tactic.Common
import SwitchOcSuite.Loader.Bounds

/-!
# How far a cursor looks back

Nothing keeps room behind the cursor: a patch that matches near the start of the
image reads, and may write, words before it.  `lookback soc C mem ptr` is how many
words before `ptr` the entries tried at `ptr` look at.

    traces_patchAt_iff     a cursor stays inside the image iff that many lie before it
-/

namespace SwitchOc

open Traced

/-! ## Lookback -/

/-- Words before `ptr` that the Erista entries matching there look at. -/
def Erista.lookback (mem : Int → UInt32) (ptr : Int) : Int :=
  let word := mem ptr
  if word = cvbDefaultMaxFreq (cpuDefaultTable false) then 210
  else if cpuMaxVoltPatternFn word = true then 1
  else if word = cvbDefaultMaxFreq (gpuDefaultTable false) then 154
  else if word = emcClkOSLimit then mtcLookback mtcTableWords mtcTableRev mem ptr khzList.zipIdx
  else if word = memVoltHOS then 9
  else 0

/-- Words before `ptr` that the Mariko entries matching there look at. -/
def Mariko.lookback (C : CustomizeTable) (mem : Int → UInt32) (ptr : Int) : Int :=
  let word := mem ptr
  if word = cpuClkOSLimit then 6
  else if word = cvbDefaultMaxFreq (cpuDefaultTable true) then 238
  else if word = cpuVoltOfficial then
    if mem (ptr - 1) ∈ cpuMinVolts ∧ C.marikoCpuMaxVolt ≠ 0 ∧ C.marikoCpuUV ≠ 0 then 5 else 1
  else if word = cvbDefaultMaxFreq (gpuDefaultTable true) then 224
  else if word = emcClkOSLimit then
    max 30 (mtcLookback mtcTableWords mtcTableRev mem ptr khzList.zipIdx)
  else if word = emcVddqDefault then 11
  else if word = memVdd2Default then 9
  else 0

def lookback : Soc → CustomizeTable → (Int → UInt32) → Int → Int
  | .erista, _ => Erista.lookback
  | .mariko, C => Mariko.lookback C

/-! ## Erista patch functions -/

namespace Erista

variable {C : CustomizeTable} {ptr hi : Int} {s : Store Device}

theorem traces_cpuVoltRange (hroom : ptr + 448 ≤ hi) :
    Traces (Inside hi) (cpuVoltRange C ptr) s ↔ 1 ≤ ptr := by
  unfold cpuVoltRange
  rw [traces_load_bind]
  constructor
  · rintro ⟨⟨h, -⟩, -⟩
    have h' : 0 ≤ ptr - 1 := h
    omega
  · intro h
    refine ⟨inside_read (by omega) (by omega), ?_⟩
    refine (show Stays (Inside hi) _ from ?_) s
    refine stays_ite (stays_ite (stays_pure ()) (stays_store ?_)) fun s => traces_fail _ s
    exact inside_write (by omega) (by omega)

theorem stays_setReg {table : Int} (h : 0 ≤ table) (hroom : table + mtcTableWords ≤ hi) (r : Reg)
    (v : UInt32) : Stays (Inside hi) (setReg table r v) := by
  have hr := off_lt r
  exact stays_store (inside_write (by omega) (by omega))

theorem stays_memMtcTableAutoAdjust {table : Int} (h : 0 ≤ table)
    (hroom : table + mtcTableWords ≤ hi) :
    Stays (Inside hi) (memMtcTableAutoAdjust C table) := by
  unfold memMtcTableAutoAdjust writeParamAllReg
  have hset := stays_setReg h hroom
  refine stays_ite (stays_pure ()) (stays_bind (stays_forEach fun p _ => ?_) fun _ => ?_)
  · exact stays_bind (hset _ _) fun _ => stays_bind (hset _ _) fun _ =>
      stays_bind (hset _ _) fun _ => hset _ _
  · exact stays_forEach fun p _ => hset _ _

theorem traces_memFreqMtcTable (h : 0 ≤ ptr) (hroom : ptr + mtcTableWords ≤ hi) :
    Traces (Inside hi) (memFreqMtcTable C ptr) s ↔
      mtcLookback mtcTableWords mtcTableRev s.mem ptr khzList.zipIdx ≤ ptr := by
  have hW : mtcTableWords = 1232 := rfl
  unfold memFreqMtcTable tableList
  refine traces_mtcChain_bind mtcTableWords mtcTableRev h (by omega) _ s fun hok hback => ?_
  have hmem : ((40800 : UInt32), 9) ∈ khzList.zipIdx := by decide
  have htable : ∀ i : Nat, i ≤ 9 → 0 ≤ mtcTable mtcTableWords ptr i ∧
      mtcTable mtcTableWords ptr i + mtcTableWords ≤ hi :=
    fun i hle => mtcTable_inside hok hback hroom hmem hle
  obtain ⟨hmax, hmaxroom⟩ := htable 0 (by omega)
  refine stays_ite (stays_pure ()) (stays_bind (stays_forEach fun i hi' => ?_) fun _ => ?_)
  · have hi'' : i ≤ 9 := by
      simp only [List.mem_cons, List.not_mem_nil, or_false] at hi'
      omega
    exact stays_copyBlock (htable (i - 1) (by omega)) (htable i hi'')
  · refine stays_bind (stays_memMtcTableAutoAdjust hmax hmaxroom) fun _ => ?_
    exact stays_store (inside_write h (by omega))

theorem stays_memFreqMax (h : 0 ≤ ptr) (hroom : ptr + 448 ≤ hi) :
    Stays (Inside hi) (memFreqMax C ptr) :=
  stays_ite (stays_pure ()) (stays_store (inside_write h (by omega)))

end Erista

/-! ## Mariko patch functions -/

namespace Mariko

variable {C : CustomizeTable} {ptr hi : Int} {s : Store Device}

theorem traces_cpuFreqVdd (hroom : ptr + 448 ≤ hi) :
    Traces (Inside hi) (cpuFreqVdd C ptr) s ↔ 6 ≤ ptr := by
  unfold cpuFreqVdd expectWord
  constructor
  · intro h
    have h₀ : 0 ≤ ptr - 6 ∧ ptr - 6 < hi := (traces_expect_bind.1 h).1
    omega
  · intro h
    refine (show Stays (Inside hi) _ from ?_) s
    refine stays_bind (stays_expect (inside_read (by omega) (by omega))) fun _ => ?_
    refine stays_bind (stays_expect (inside_read (by omega) (by omega))) fun _ => ?_
    refine stays_bind (stays_expect (inside_read (by omega) (by omega))) fun _ => ?_
    refine stays_bind (stays_expect (inside_read (by omega) (by omega))) fun _ => ?_
    exact stays_bind (stays_lastFreq _) fun _ => stays_store (inside_write (by omega) (by omega))

theorem stays_patchVmin {w : Int} (h : 0 ≤ w) (hw : w < hi) : Stays (Inside hi) (patchVmin w) :=
  stays_bind (stays_load (inside_read h hw)) fun _ =>
    stays_ite (stays_store (inside_write h hw)) (stays_pure ())

theorem traces_patchVmin {w : Int} :
    Traces (Inside hi) (patchVmin w) s → 0 ≤ w ∧ w < hi :=
  fun h => (traces_load_bind.1 h).1

/-- The minimum of the entry before is looked at only when the voltages are patched for
undervolting. -/
theorem traces_cpuVoltRange (hroom : ptr + 448 ≤ hi) :
    Traces (Inside hi) (cpuVoltRange C ptr) s ↔
      (if s.mem (ptr - 1) ∈ cpuMinVolts ∧ C.marikoCpuMaxVolt ≠ 0 ∧ C.marikoCpuUV ≠ 0
        then (5 : Int) else 1) ≤ ptr := by
  unfold cpuVoltRange
  rw [traces_load_bind]
  by_cases hmin : s.mem (ptr - 1) ∈ cpuMinVolts
  · by_cases hmax : C.marikoCpuMaxVolt = 0
    · rw [if_pos hmin, if_pos hmax, if_neg (by simp [hmax])]
      exact ⟨fun h => by have h₀ : 0 ≤ ptr - 1 := h.1.1; omega,
        fun h => ⟨inside_read (by omega) (by omega), traces_pure () s⟩⟩
    · rw [if_pos hmin, if_neg hmax, traces_store_bind]
      by_cases huv : C.marikoCpuUV = 0
      · rw [if_neg (by simp [huv]), if_neg (by simp [huv])]
        exact ⟨fun h => by have h₀ : 0 ≤ ptr - 1 := h.1.1; omega,
          fun h => ⟨inside_read (by omega) (by omega), inside_write (by omega) (by omega),
            traces_pure () _⟩⟩
      · rw [if_pos huv, if_pos ⟨hmin, hmax, huv⟩]
        constructor
        · rintro ⟨-, -, h⟩
          have h₀ := traces_patchVmin (traces_bind.1 h).1
          omega
        · intro h
          refine ⟨inside_read (by omega) (by omega), inside_write (by omega) (by omega), ?_⟩
          exact stays_bind (stays_patchVmin (by omega) (by omega))
            (fun _ => stays_patchVmin (by omega) (by omega)) _
  · rw [if_neg hmin, if_neg fun h => hmin h.1]
    exact ⟨fun h => by have h₀ : 0 ≤ ptr - 1 := h.1.1; omega,
      fun h => ⟨inside_read (by omega) (by omega), traces_fail _ s⟩⟩

theorem stays_cpuVoltDfll (h : 0 ≤ ptr) (hroom : ptr + 448 ≤ hi) :
    Stays (Inside hi) (cpuVoltDfll C ptr) := by
  unfold cpuVoltDfll patchTune0Low expectWord
  have hw : ∀ k : Int, 0 ≤ k → k ≤ 3 → Inside hi (.write (ptr + k)) := fun k h₀ h₃ =>
    inside_write (by omega) (by omega)
  have hptr := hw 0 (by omega) (by omega)
  rw [Int.add_zero] at hptr
  refine stays_bind (stays_expect (inside_read (by omega) (by omega))) fun _ => ?_
  refine stays_bind (stays_expect (inside_read (by omega) (by omega))) fun _ => ?_
  refine stays_bind (stays_expect (inside_read (by omega) (by omega))) fun _ => ?_
  refine stays_bind (stays_expect (inside_read (by omega) (by omega))) fun _ => ?_
  refine stays_ite (stays_bind ?_ fun _ => ?_) (stays_pure ())
  · exact stays_ite (stays_store hptr) (stays_ite (stays_store hptr) (stays_pure ()))
  · refine stays_bind (stays_store (hw 1 (by omega) (by omega))) fun _ => ?_
    refine stays_bind (stays_store (hw 2 (by omega) (by omega))) fun _ => ?_
    exact stays_store (hw 3 (by omega) (by omega))

/-! ### MTC table -/

section Table

variable {table : Int}

theorem stays_setReg (h : 0 ≤ table) (hroom : table + mtcTableWords ≤ hi) (r : Reg) (v : UInt32) :
    Stays (Inside hi) (setReg table r v) := by
  have hr := off_lt r
  exact stays_store (inside_write (by omega) (by omega))

theorem stays_getReg (h : 0 ≤ table) (hroom : table + mtcTableWords ≤ hi) (r : Reg) :
    Stays (Inside hi) (getReg table r) := by
  have hr := off_lt r
  exact stays_load (inside_read (by omega) (by omega))

theorem stays_modifyReg (h : 0 ≤ table) (hroom : table + mtcTableWords ≤ hi) (r : Reg)
    (f : UInt32 → UInt32) : Stays (Inside hi) (modifyReg table r f) := by
  have hr := off_lt r
  exact stays_modify ⟨inside_read (by omega) (by omega), inside_write (by omega) (by omega)⟩

theorem stays_writeParamAllReg (h : 0 ≤ table) (hroom : table + mtcTableWords ≤ hi) (r : Timing)
    (v : UInt32) : Stays (Inside hi) (writeParamAllReg table r v) :=
  stays_bind (stays_setReg h hroom _ _) fun _ => stays_bind (stays_setReg h hroom _ _) fun _ =>
    stays_setReg h hroom _ _

theorem stays_writeTurnsAndCovers (h : 0 ≤ table) (hroom : table + mtcTableWords ≤ hi) :
    Stays (Inside hi) (writeTurnsAndCovers table) := by
  have hget := stays_getReg h hroom
  have hset := stays_setReg h hroom
  unfold writeTurnsAndCovers
  refine stays_bind (hget _) fun _ => stays_bind (hget _) fun _ => stays_bind (hset _ _) fun _ => ?_
  refine stays_bind (hget _) fun _ => stays_bind (hget _) fun _ => stays_bind (hget _) fun _ => ?_
  exact stays_bind (hget _) fun _ => stays_bind (hget _) fun _ => hset _ _

theorem stays_memMtcTableAutoAdjust {ref : Int} (h : 0 ≤ table)
    (hroom : table + mtcTableWords ≤ hi) (href : 0 ≤ ref) (hrefroom : ref + mtcTableWords ≤ hi) :
    Stays (Inside hi) (memMtcTableAutoAdjust C table ref) := by
  have hget := stays_getReg h hroom
  have hset := stays_setReg h hroom
  have hmod := stays_modifyReg h hroom
  unfold memMtcTableAutoAdjust
  refine stays_ite (stays_pure ()) ?_
  refine stays_bind (stays_forEach fun p _ => stays_writeParamAllReg h hroom _ _) fun _ => ?_
  refine stays_bind (stays_forEach fun field _ => ?_) fun _ => ?_
  · exact stays_bind (hget _) fun _ => stays_bind (stays_getReg href hrefroom _) fun _ => hset _ _
  refine stays_bind (stays_forEach fun p _ => hset _ _) fun _ => ?_
  refine stays_bind (hget _) fun _ => stays_bind (hset _ _) fun _ => ?_
  refine stays_bind (stays_forEach fun p _ => hset _ _) fun _ => ?_
  refine stays_bind (stays_writeTurnsAndCovers h hroom) fun _ => ?_
  refine stays_bind (hget _) fun _ => stays_bind (hmod _ _) fun _ => ?_
  refine stays_bind (stays_forEach fun p _ => hmod _ _) fun _ => ?_
  exact stays_forEach fun p _ => hset _ _

theorem stays_memMtcTableCustomAdjust (h : 0 ≤ table) (hroom : table + mtcTableWords ≤ hi) :
    Stays (Inside hi) (memMtcTableCustomAdjust C table) := by
  unfold memMtcTableCustomAdjust
  refine stays_ite (stays_pure ()) (stays_bind (stays_forEach fun p _ => ?_) fun _ => ?_)
  · refine stays_ite (stays_bind (stays_forEach fun q _ => ?_) fun _ => ?_) (stays_pure ())
    · exact stays_writeParamAllReg h hroom _ _
    · exact stays_forEach fun q _ => stays_setReg h hroom _ _
  · exact stays_writeTurnsAndCovers h hroom

end Table

theorem traces_memFreqMtcTable (h : 0 ≤ ptr) (hroom : ptr + mtcTableWords ≤ hi) :
    Traces (Inside hi) (memFreqMtcTable C ptr) s ↔
      mtcLookback mtcTableWords mtcTableRev s.mem ptr khzList.zipIdx ≤ ptr := by
  have hW : mtcTableWords = 1075 := rfl
  unfold memFreqMtcTable tableList
  refine traces_mtcChain_bind mtcTableWords mtcTableRev h (by omega) _ s fun hok hback s' => ?_
  have hmem : ((204000 : UInt32), 2) ∈ khzList.zipIdx := by decide
  obtain ⟨hmax, hmaxroom⟩ := mtcTable_inside hok hback hroom hmem (Nat.zero_le 2)
  have halt := mtcTable_inside hok hback hroom hmem (show 1 ≤ 2 by omega)
  by_cases hskip : C.marikoEmcMaxClock ≤ emcClkOSLimit
  · rw [if_pos hskip]
    exact traces_pure () _
  · rw [if_neg hskip, traces_bind]
    refine ⟨stays_loadBlock ⟨hmax, hmaxroom⟩ _, fun tmp htmp => ?_⟩
    refine stays_bind (stays_memMtcTableAutoAdjust hmax hmaxroom halt.1 halt.2) (fun _ => ?_) _
    refine stays_bind (stays_memMtcTableCustomAdjust hmax hmaxroom) fun _ => ?_
    refine stays_bind ?_ fun _ => ?_
    · exact stays_bind (stays_setReg hmax hmaxroom _ _) fun _ => stays_setReg hmax hmaxroom _ _
    refine stays_bind (stays_storeBlock (by rw [length_of_loadBlock htmp]; exact halt)) fun _ => ?_
    exact stays_store (inside_write h (by omega))

theorem stays_writeDvbEntry (h : 0 ≤ ptr) (hroom : ptr + 448 ≤ hi) :
    Stays (Inside hi) (writeDvbEntry C ptr (ptr + dvbWords)) := by
  have hwords : dvbWords = 6 := rfl
  unfold writeDvbEntry
  cases hoc : dvbOcTable C with
  | none => exact stays_copyBlock ⟨h, by omega⟩ ⟨by omega, by omega⟩
  | some ocTable =>
    have hlen : ocTable.length = 6 := by
      have hentry : ∀ freq volt, (dvbEntry freq volt).length = 6 := fun _ _ => rfl
      unfold dvbOcTable at hoc
      dsimp only at hoc
      split_ifs at hoc <;> cases hoc <;> exact hentry _ _
    exact stays_storeBlock ⟨by omega, by omega⟩

theorem traces_memFreqDvbTable (hroom : ptr + 448 ≤ hi) :
    Traces (Inside hi) (memFreqDvbTable C ptr) s ↔ 30 ≤ ptr := by
  have hwords : dvbWords = 6 := rfl
  have hlen : emcDvbTableDefault.length = 36 := rfl
  unfold memFreqDvbTable
  constructor
  · intro h
    have h₀ := traces_loadBlock.1 (traces_bind.1 h).1
    omega
  · intro h
    refine (show Stays (Inside hi) _ from ?_) s
    refine stays_bind (stays_loadBlock ⟨by omega, by omega⟩) fun _ => ?_
    refine stays_bind (stays_require _ _) fun _ => stays_ite (stays_pure ()) ?_
    refine stays_bind (stays_writeDvbEntry (by omega) hroom) fun _ => ?_
    refine stays_bind (stays_store (inside_write (by omega) (by omega))) fun _ => ?_
    exact stays_store (inside_write (by omega) (by omega))

theorem stays_memFreqMax (h : 0 ≤ ptr) (hroom : ptr + 448 ≤ hi) :
    Stays (Inside hi) (memFreqMax C ptr) :=
  stays_ite (stays_pure ()) (stays_store (inside_write h (by omega)))

theorem traces_emcVddqVolt (hroom : ptr + 448 ≤ hi) :
    Traces (Inside hi) (emcVddqVolt C ptr) s ↔ 11 ≤ ptr := by
  unfold emcVddqVolt expectWord
  constructor
  · intro h
    have h₀ := (traces_load64.1 (traces_bind.1 h).1).1
    omega
  · intro h
    refine (show Stays (Inside hi) _ from ?_) s
    refine stays_bind (stays_load64 ⟨by omega, by omega⟩) fun _ => ?_
    refine stays_bind (stays_require _ _) fun _ => ?_
    refine stays_bind (stays_expect (inside_read (by omega) (by omega))) fun _ => ?_
    refine stays_bind (stays_expect (inside_read (by omega) (by omega))) fun _ => ?_
    refine stays_bind (stays_expect (inside_read (by omega) (by omega))) fun _ => ?_
    refine stays_ite (stays_pure ()) ?_
    exact stays_bind (stays_store (inside_write (by omega) (by omega))) fun _ _ => traces_command

end Mariko

/-! ## One cursor -/

/-- The patch functions tried at a word that holds `word`, in order. -/
def matching (word : UInt32) (es : List PatcherEntry) : List (Int → Patch Unit) :=
  (es.filter (·.matches word)).map (·.patcherFn)

/-- The functions are tried in order until one succeeds. -/
def TriedInside (hi ptr : Int) (s : Store Device) : List (Int → Patch Unit) → Prop
  | [] => True
  | patcherFn :: fns => Traces (Inside hi) (patcherFn ptr) s ∧
      ((∃ e, (patcherFn ptr s).result = .error e) → TriedInside hi ptr s fns)

theorem triedInside_singleton {patcherFn : Int → Patch Unit} {hi ptr : Int} {s : Store Device} :
    TriedInside hi ptr s [patcherFn] ↔ Traces (Inside hi) (patcherFn ptr) s :=
  ⟨fun h => h.1, fun h => ⟨h, fun _ => trivial⟩⟩

theorem triedInside_of_stays {hi ptr : Int} {s : Store Device} {fns : List (Int → Patch Unit)}
    (h : ∀ patcherFn ∈ fns, Stays (Inside hi) (patcherFn ptr)) : TriedInside hi ptr s fns := by
  induction fns with
  | nil => exact trivial
  | cons patcherFn fns ih =>
    exact ⟨h patcherFn (by simp) s, fun _ => ih fun f hf => h f (by simp [hf])⟩

/-- The outcome of one entry where every table it may look up has a last entry. -/
theorem searchAndApply_state {soc : Soc} {C : CustomizeTable} {entry : PatcherEntry}
    (hentry : entry ∈ patches soc C) (ht : TablesPresent soc C) (ptr : Int) (i : Nat)
    (s : Store Device) : (∀ e, (entry.searchAndApply i ptr s).result = .error e →
      Stop.isResult e = true ∧ (entry.searchAndApply i ptr s).state = s) := by
  have hv := patcherFn_validated soc C hentry ptr
  unfold PatcherEntry.searchAndApply
  rw [load_bind_run]
  by_cases hm : entry.matches (s.mem ptr) = true
  · rw [if_pos hm]
    rcases apply_cases hv i s with ⟨e, he, hres, hun⟩ | ⟨hres, -⟩
    · intro e' he'
      obtain rfl : e = e' := Except.error.inj (hres.symm.trans he')
      refine ⟨?_, hun.1⟩
      cases e with
      | result r => rfl
      | nullPointer => exact absurd ht he
      | crash msg => exact he.elim
    · intro e' he'
      exact absurd (hres.symm.trans he') (by simp)
  · rw [if_neg hm]
    intro e' he'
    obtain rfl : Stop.result .unsuccessfulPatcher = e' := Except.error.inj he'
    exact ⟨rfl, rfl⟩

/-- An entry does not succeed iff it does not match or its patch function fails. -/
theorem searchAndApply_fails_iff (entry : PatcherEntry) (i : Nat) (ptr : Int) (s : Store Device) :
    (∃ e, (entry.searchAndApply i ptr s).result = .error e) ↔
      (entry.matches (s.mem ptr) = true → ∃ e, (entry.patcherFn ptr s).result = .error e) := by
  constructor
  · rintro ⟨e, he⟩ hm
    cases hp : (entry.patcherFn ptr s).result with
    | error e' => exact ⟨e', rfl⟩
    | ok u =>
      unfold PatcherEntry.searchAndApply PatcherEntry.apply at he
      rw [load_bind_run, if_pos hm, bind_of_ok hp] at he
      cases he
  · intro h
    by_cases hm : entry.matches (s.mem ptr) = true
    · obtain ⟨e, he⟩ := h hm
      exact ⟨e, searchAndApply_error hm he⟩
    · refine ⟨.result .unsuccessfulPatcher, ?_⟩
      unfold PatcherEntry.searchAndApply
      rw [load_bind_run, if_neg hm]
      rfl

theorem traces_searchAndApply {entry : PatcherEntry} {hi ptr : Int} {i : Nat} {s : Store Device}
    (h : 0 ≤ ptr) (hroom : ptr < hi) :
    Traces (Inside hi) (entry.searchAndApply i ptr) s ↔
      (entry.matches (s.mem ptr) = true → Traces (Inside hi) (entry.patcherFn ptr) s) := by
  unfold PatcherEntry.searchAndApply PatcherEntry.apply
  rw [traces_load_bind]
  by_cases hm : entry.matches (s.mem ptr) = true
  · rw [if_pos hm, traces_bind]
    simp only [hm, true_imp_iff, traces_command, implies_true, and_true, inside_read h hroom,
      true_and]
  · rw [if_neg hm]
    exact ⟨fun _ hm' => absurd hm' hm, fun _ => ⟨inside_read h hroom, traces_fail _ s⟩⟩

/-- **One cursor**: the entries that match are what matters. -/
theorem traces_tryEntries {soc : Soc} {C : CustomizeTable} {hi ptr : Int} {s : Store Device}
    (ht : TablesPresent soc C) (h : 0 ≤ ptr) (hroom : ptr < hi) :
    ∀ (es : List PatcherEntry) (i : Nat), (∀ entry ∈ es, entry ∈ patches soc C) →
      (Traces (Inside hi) (tryEntries ptr i es) s ↔
        TriedInside hi ptr s (matching (s.mem ptr) es)) := by
  intro es
  induction es with
  | nil => exact fun i _ => ⟨fun _ => trivial, fun _ => traces_pure () s⟩
  | cons entry es ih =>
    intro i hes
    have hrest := ih (i + 1) fun e he => hes e (by simp [he])
    have hstate := searchAndApply_state (hes entry (by simp)) ht ptr i s
    have hnext : (∀ e, (entry.searchAndApply i ptr s).result = .error e → Stop.isResult e = true →
        Traces (Inside hi) (tryEntries ptr (i + 1) es) (entry.searchAndApply i ptr s).state) ↔
        ((∃ e, (entry.searchAndApply i ptr s).result = .error e) →
          TriedInside hi ptr s (matching (s.mem ptr) es)) := by
      rw [← hrest]
      constructor
      · rintro hall ⟨e, he⟩
        have htraces := hall e he (hstate e he).1
        rwa [(hstate e he).2] at htraces
      · intro hall e he _
        rw [(hstate e he).2]
        exact hall ⟨e, he⟩
    unfold tryEntries matching
    rw [traces_attempt, traces_searchAndApply h hroom, hnext, searchAndApply_fails_iff]
    by_cases hm : entry.matches (s.mem ptr) = true
    · rw [List.filter_cons_of_pos (by simpa using hm), List.map_cons]
      simp only [hm, true_imp_iff]
      exact Iff.rfl
    · rw [List.filter_cons_of_neg (by simpa using hm)]
      exact ⟨fun hall => hall.2 fun hm' => absurd hm' hm,
        fun hall => ⟨fun hm' => absurd hm' hm, fun _ => hall⟩⟩

theorem traces_patchAt {soc : Soc} {C : CustomizeTable} {hi ptr : Int} {s : Store Device}
    {fns : List (Int → Patch Unit)} (ht : TablesPresent soc C) (h : 0 ≤ ptr) (hroom : ptr < hi)
    (hfns : matching (s.mem ptr) (patches soc C) = fns) :
    Traces (Inside hi) (patchAt soc C ptr) s ↔ TriedInside hi ptr s fns := by
  rw [← hfns]
  exact traces_tryEntries ht h hroom _ 0 fun entry he => he

namespace Erista

variable {C : CustomizeTable} {ptr hi : Int} {s : Store Device}

theorem cvbDefaultMaxFreq_cpu : cvbDefaultMaxFreq (cpuDefaultTable false) = 1785000 := by decide

theorem cvbDefaultMaxFreq_gpu : cvbDefaultMaxFreq (gpuDefaultTable false) = 921600 := by decide

theorem matching_cpu {word : UInt32} (h : word = 1785000) :
    matching word (patches C) = [cpuFreqCvbTable false C] := by
  rw [h]
  rfl

theorem matching_gpu {word : UInt32} (h : word = 921600) :
    matching word (patches C) = [gpuFreqCvbTable false C] := by
  rw [h]
  rfl

theorem matching_emc {word : UInt32} (h : word = emcClkOSLimit) :
    matching word (patches C) = [memFreqMtcTable C, memFreqMax C] := by
  rw [h]
  rfl

theorem matching_volt {word : UInt32} (h : word = memVoltHOS) :
    matching word (patches C) = [memVoltHandler C] := by
  rw [h]
  rfl

theorem matching_cpuVolt {word : UInt32} (h : cpuMaxVoltPatternFn word = true) :
    matching word (patches C) = [cpuVoltRange C] := by
  unfold cpuMaxVoltPatternFn at h
  simp only [Bool.or_eq_true, beq_iff_eq] at h
  rcases h with (rfl | rfl) | rfl <;> rfl

/-- The other entries look at the cursor and after it only. -/
theorem stays_of_matching (h : 0 ≤ ptr) (hroom : ptr + 448 ≤ hi) {word : UInt32}
    (hcpu : word ≠ 1785000) (hcpuVolt : ¬ cpuMaxVoltPatternFn word = true) (hgpu : word ≠ 921600)
    (hemc : word ≠ emcClkOSLimit) (hvolt : word ≠ memVoltHOS) :
    ∀ patcherFn ∈ matching word (patches C), Stays (Inside hi) (patcherFn ptr) := by
  intro patcherFn hf
  obtain ⟨entry, hentry, rfl⟩ := List.mem_map.1 hf
  obtain ⟨hmem, hm⟩ := List.mem_filter.1 hentry
  rw [← cvbDefaultMaxFreq_cpu] at hcpu
  rw [← cvbDefaultMaxFreq_gpu] at hgpu
  simp only [patches, List.mem_cons, List.not_mem_nil, or_false] at hmem
  rcases hmem with rfl | rfl | rfl | rfl | rfl | rfl | rfl | rfl | rfl
  · exact absurd (beq_iff_eq.1 hm).symm hcpu
  · exact absurd hm hcpuVolt
  · exact absurd (beq_iff_eq.1 hm).symm hgpu
  · exact stays_gpuFreqMaxAsmOf _ h hroom
  · exact stays_gpuFreqPllLimit h hroom
  · exact absurd (beq_iff_eq.1 hm).symm hemc
  · exact absurd (beq_iff_eq.1 hm).symm hemc
  · exact stays_memFreqPllmLimit h hroom
  · exact absurd (beq_iff_eq.1 hm).symm hvolt

theorem traces_patchAt_iff (ht : TablesPresent .erista C) (h : 0 ≤ ptr)
    (hroom : ptr + mtcTableWords ≤ hi) :
    Traces (Inside hi) (patchAt .erista C ptr) s ↔ lookback s.mem ptr ≤ ptr := by
  have hW : mtcTableWords = 1232 := rfl
  have hroom' : ptr + 448 ≤ hi := by omega
  have hlt : ptr < hi := by omega
  have hat := @traces_patchAt .erista C hi ptr s
  unfold lookback
  dsimp only
  rw [cvbDefaultMaxFreq_cpu, cvbDefaultMaxFreq_gpu]
  by_cases hcpu : s.mem ptr = 1785000
  · rw [if_pos hcpu, hat ht h hlt (matching_cpu hcpu), triedInside_singleton,
      traces_cpuFreqCvbTable false hroom']
    have hhead : tableHead ptr (getDvfsTableEntryCount (cpuDefaultTable false)) =
      ptr + 14 - 14 * 16 := rfl
    omega
  rw [if_neg hcpu]
  by_cases hcpuVolt : cpuMaxVoltPatternFn (s.mem ptr) = true
  · rw [if_pos hcpuVolt, hat ht h hlt (matching_cpuVolt hcpuVolt), triedInside_singleton,
      traces_cpuVoltRange hroom']
  rw [if_neg hcpuVolt]
  by_cases hgpu : s.mem ptr = 921600
  · rw [if_pos hgpu, hat ht h hlt (matching_gpu hgpu), triedInside_singleton,
      traces_gpuFreqCvbTable false hroom']
    have hhead : tableHead ptr (getDvfsTableEntryCount (gpuDefaultTable false)) =
      ptr + 14 - 14 * 12 := rfl
    omega
  rw [if_neg hgpu]
  by_cases hemc : s.mem ptr = emcClkOSLimit
  · rw [if_pos hemc, hat ht h hlt (matching_emc hemc), ← traces_memFreqMtcTable h hroom]
    exact ⟨fun hall => hall.1, fun hmtc => ⟨hmtc, fun _ => triedInside_singleton.2
      (stays_memFreqMax h hroom' s)⟩⟩
  rw [if_neg hemc]
  by_cases hvolt : s.mem ptr = memVoltHOS
  · rw [if_pos hvolt, hat ht h hlt (matching_volt hvolt), triedInside_singleton,
      traces_memVoltHandler hroom']
  rw [if_neg hvolt, hat ht h hlt rfl]
  exact ⟨fun _ => h, fun _ => triedInside_of_stays
    (stays_of_matching h hroom' hcpu hcpuVolt hgpu hemc hvolt)⟩

end Erista

namespace Mariko

variable {C : CustomizeTable} {ptr hi : Int} {s : Store Device}

theorem cvbDefaultMaxFreq_cpu : cvbDefaultMaxFreq (cpuDefaultTable true) = 1963500 := by decide

theorem cvbDefaultMaxFreq_gpu : cvbDefaultMaxFreq (gpuDefaultTable true) = 1267200 := by decide

theorem matching_rail {word : UInt32} (h : word = cpuClkOSLimit) :
    matching word (patches C) = [cpuFreqVdd C] := by
  rw [h]
  rfl

theorem matching_cpu {word : UInt32} (h : word = 1963500) :
    matching word (patches C) = [cpuFreqCvbTable true C] := by
  rw [h]
  rfl

theorem matching_cpuVolt {word : UInt32} (h : word = cpuVoltOfficial) :
    matching word (patches C) = [cpuVoltRange C] := by
  rw [h]
  rfl

theorem matching_gpu {word : UInt32} (h : word = 1267200) :
    matching word (patches C) = [gpuFreqCvbTable true C] := by
  rw [h]
  rfl

theorem matching_emc {word : UInt32} (h : word = emcClkOSLimit) :
    matching word (patches C) = [memFreqMtcTable C, memFreqDvbTable C, memFreqMax C] := by
  rw [h]
  rfl

theorem matching_vddq {word : UInt32} (h : word = emcVddqDefault) :
    matching word (patches C) = [emcVddqVolt C] := by
  rw [h]
  rfl

theorem matching_vdd2 {word : UInt32} (h : word = memVdd2Default) :
    matching word (patches C) = [memVoltHandler C] := by
  rw [h]
  rfl

/-- The other entries look at the cursor and after it only. -/
theorem stays_of_matching (h : 0 ≤ ptr) (hroom : ptr + 448 ≤ hi) {word : UInt32}
    (hrail : word ≠ cpuClkOSLimit) (hcpu : word ≠ 1963500) (hcpuVolt : word ≠ cpuVoltOfficial)
    (hgpu : word ≠ 1267200) (hemc : word ≠ emcClkOSLimit) (hvddq : word ≠ emcVddqDefault)
    (hvdd2 : word ≠ memVdd2Default) :
    ∀ patcherFn ∈ matching word (patches C), Stays (Inside hi) (patcherFn ptr) := by
  intro patcherFn hf
  obtain ⟨entry, hentry, rfl⟩ := List.mem_map.1 hf
  obtain ⟨hmem, hm⟩ := List.mem_filter.1 hentry
  rw [← cvbDefaultMaxFreq_cpu] at hcpu
  rw [← cvbDefaultMaxFreq_gpu] at hgpu
  simp only [patches, List.mem_cons, List.not_mem_nil, or_false] at hmem
  rcases hmem with rfl | rfl | rfl | rfl | rfl | rfl | rfl | rfl | rfl | rfl | rfl | rfl
  · exact absurd (beq_iff_eq.1 hm).symm hrail
  · exact absurd (beq_iff_eq.1 hm).symm hcpu
  · exact absurd (beq_iff_eq.1 hm).symm hcpuVolt
  · exact stays_cpuVoltDfll h hroom
  · exact absurd (beq_iff_eq.1 hm).symm hgpu
  · exact stays_gpuFreqMaxAsmOf _ h hroom
  · exact absurd (beq_iff_eq.1 hm).symm hemc
  · exact absurd (beq_iff_eq.1 hm).symm hemc
  · exact absurd (beq_iff_eq.1 hm).symm hemc
  · exact stays_memFreqPllmLimit h hroom
  · exact absurd (beq_iff_eq.1 hm).symm hvddq
  · exact absurd (beq_iff_eq.1 hm).symm hvdd2

/-- At the EMC clock the DVB table is tried where the MTC tables fail. -/
theorem triedInside_emc (h : 0 ≤ ptr) (hroom : ptr + mtcTableWords ≤ hi) :
    TriedInside hi ptr s [memFreqMtcTable C, memFreqDvbTable C, memFreqMax C] ↔
      max 30 (mtcLookback mtcTableWords mtcTableRev s.mem ptr khzList.zipIdx) ≤ ptr := by
  have hW : mtcTableWords = 1075 := rfl
  have hroom' : ptr + 448 ≤ hi := by omega
  have hmtc := traces_memFreqMtcTable (C := C) (s := s) h hroom
  have hdvb := traces_memFreqDvbTable (C := C) (s := s) hroom'
  rw [max_le_iff]
  constructor
  · rintro ⟨h₁, h₂⟩
    refine ⟨?_, hmtc.1 h₁⟩
    cases hres : (memFreqMtcTable C ptr s).result with
    | error e => exact hdvb.1 (h₂ ⟨e, hres⟩).1
    | ok u =>
      -- then the chain succeeded too, and it reaches back over two tables
      unfold memFreqMtcTable tableList at hres
      obtain ⟨(_ : Unit), hok, -⟩ := bind_ok_iff.1 hres
      have hvalid := (mtcChain_ok_iff mtcTableWords mtcTableRev ptr khzList.zipIdx s).1 hok
      have hmem : ((204000 : UInt32), 2) ∈ khzList.zipIdx := by decide
      have hlast := (le_mtcLookback mtcTableWords mtcTableRev hvalid _ hmem).trans (hmtc.1 h₁)
      rw [hW] at hlast
      push_cast at hlast
      omega
  · rintro ⟨h₁, h₂⟩
    exact ⟨hmtc.2 h₂, fun _ => ⟨hdvb.2 h₁, fun _ => triedInside_singleton.2
      (stays_memFreqMax h hroom' s)⟩⟩

theorem traces_patchAt_iff (ht : TablesPresent .mariko C) (h : 0 ≤ ptr)
    (hroom : ptr + mtcTableWords ≤ hi) :
    Traces (Inside hi) (patchAt .mariko C ptr) s ↔ lookback C s.mem ptr ≤ ptr := by
  have hW : mtcTableWords = 1075 := rfl
  have hroom' : ptr + 448 ≤ hi := by omega
  have hlt : ptr < hi := by omega
  have hat := @traces_patchAt .mariko C hi ptr s
  unfold lookback
  dsimp only
  rw [cvbDefaultMaxFreq_cpu, cvbDefaultMaxFreq_gpu]
  by_cases hrail : s.mem ptr = cpuClkOSLimit
  · rw [if_pos hrail, hat ht h hlt (matching_rail hrail), triedInside_singleton,
      traces_cpuFreqVdd hroom']
  rw [if_neg hrail]
  by_cases hcpu : s.mem ptr = 1963500
  · rw [if_pos hcpu, hat ht h hlt (matching_cpu hcpu), triedInside_singleton,
      traces_cpuFreqCvbTable true hroom']
    have hhead : tableHead ptr (getDvfsTableEntryCount (cpuDefaultTable true)) =
      ptr + 14 - 14 * 18 := rfl
    omega
  rw [if_neg hcpu]
  by_cases hcpuVolt : s.mem ptr = cpuVoltOfficial
  · rw [if_pos hcpuVolt, hat ht h hlt (matching_cpuVolt hcpuVolt), triedInside_singleton,
      traces_cpuVoltRange hroom']
  rw [if_neg hcpuVolt]
  by_cases hgpu : s.mem ptr = 1267200
  · rw [if_pos hgpu, hat ht h hlt (matching_gpu hgpu), triedInside_singleton,
      traces_gpuFreqCvbTable true hroom']
    have hhead : tableHead ptr (getDvfsTableEntryCount (gpuDefaultTable true)) =
      ptr + 14 - 14 * 17 := rfl
    omega
  rw [if_neg hgpu]
  by_cases hemc : s.mem ptr = emcClkOSLimit
  · rw [if_pos hemc, hat ht h hlt (matching_emc hemc), triedInside_emc h hroom]
  rw [if_neg hemc]
  by_cases hvddq : s.mem ptr = emcVddqDefault
  · rw [if_pos hvddq, hat ht h hlt (matching_vddq hvddq), triedInside_singleton,
      traces_emcVddqVolt hroom']
  rw [if_neg hvddq]
  by_cases hvdd2 : s.mem ptr = memVdd2Default
  · rw [if_pos hvdd2, hat ht h hlt (matching_vdd2 hvdd2), triedInside_singleton,
      traces_memVoltHandler hroom']
  rw [if_neg hvdd2, hat ht h hlt rfl]
  exact ⟨fun _ => h, fun _ => triedInside_of_stays
    (stays_of_matching h hroom' hrail hcpu hcpuVolt hgpu hemc hvddq hvdd2)⟩

end Mariko

/-- **One cursor stays inside the image iff as many words lie before it as its entries
look back.** -/
theorem traces_patchAt_iff {soc : Soc} {C : CustomizeTable} {ptr hi : Int} {s : Store Device}
    (ht : TablesPresent soc C) (h : 0 ≤ ptr) (hroom : ptr + soc.mtcTableWords ≤ hi) :
    Traces (Inside hi) (patchAt soc C ptr) s ↔ lookback soc C s.mem ptr ≤ ptr := by
  cases soc with
  | erista => exact Erista.traces_patchAt_iff ht h hroom
  | mariko => exact Mariko.traces_patchAt_iff ht h hroom

end SwitchOc
