import Mathlib.Tactic.Common
import SwitchOcSuite.Loader.Scan
import SwitchOcSuite.Loader.Ptm

/-!
# What `ptm::Patch` accepts and what it writes

The entries do not overlap, so an entry is still as in the given image when its
turn comes; the image after `n` turns is the given one with the first `n` entries
in their new form (`tableAfter`).

    patchEntry_cases    one turn
    patch_spec          the whole call
-/

namespace SwitchOc.Ptm

open Traced

/-! ## The table in the given image -/

/-- Both frequencies of each pair are alike. -/
def EntryValid (mem : Int → UInt32) (entry : Int) : Prop :=
  mem (entry + 1) = mem (entry + 2) ∧ mem (entry + 3) = mem (entry + 4) ∧
    mem (entry + 5) = mem (entry + 6)

/-- `PtmTablePatternFn`. -/
def TablePattern (mem : Int → UInt32) (ptr : Int) : Prop :=
  EntryValid mem ptr ∧ mem (ptr + 1) = cpuPtmDefault

instance (mem : Int → UInt32) (ptr : Int) : Decidable (TablePattern mem ptr) := by
  unfold TablePattern EntryValid
  infer_instance

/-- The table is at word `head`: the first match, with room for 16 entries. -/
structure IsConfTable (mem : Int → UInt32) (nsoSize : Nat) (head : Nat) : Prop where
  room : 4 * (head + perfConfEntryWords * entryCnt) ≤ nsoSize
  pattern : TablePattern mem head
  first : ∀ ptr : Nat, ptr < head → ¬ TablePattern mem ptr

structure EntryKnown (mem : Int → UInt32) (entry : Int) : Prop where
  valid : EntryValid mem entry
  cpu : mem (entry + 1) = cpuPtmBoostFreq ∨ mem (entry + 1) = cpuPtmDefault ∨
    mem (entry + 1) = cpuPtmDevOC
  emc : mem (entry + 5) = memPtmLimit ∨ mem (entry + 5) = memPtmAlt ∨
    mem (entry + 5) = memPtmClamp

/-- Number of boost entries among the first `n`. -/
def boostCount (mem : Int → UInt32) (head n : Nat) : Nat :=
  (List.range n).countP fun i => mem (confEntry head i + 1) == cpuPtmBoostFreq

structure TableAccepted (mem : Int → UInt32) (head : Nat) : Prop where
  known : ∀ i < entryCnt, EntryKnown mem (confEntry head i)
  boosts : boostCount mem head entryCnt ≤ 2

/-! ## The table afterwards -/

/-- Word `k` of the entry at `entry` in its new form. -/
def newField (soc : Soc) (C : CustomizeTable) (mem : Int → UInt32) (entry k : Int) : UInt32 :=
  if (k = 1 ∨ k = 2) ∧ mem (entry + 1) = cpuPtmBoostFreq then C.commonCpuBoostClock * 1000
  else if (k = 5 ∨ k = 6) ∧ soc = .mariko then memPtmLimit
  else mem (entry + k)

/-- The image with the first `n` entries in their new form. -/
def tableAfter (soc : Soc) (C : CustomizeTable) (mem : Int → UInt32) (head n : Nat) (w : Int) :
    UInt32 :=
  if head ≤ w ∧ w < head + 8 * n then
    newField soc C mem (head + 8 * ((w - head) / 8)) ((w - head) % 8)
  else mem w

section

variable {soc : Soc} {C : CustomizeTable} {s : Store Device}

/-! ## Checks -/

theorem yields_sameWords (a b : Int) : Yields (sameWords a b) s (s.mem a == s.mem b) :=
  (yields_load a s).bind ((yields_load b s).bind (yields_pure _ s))

theorem yields_andThen {a b : Patch Bool} {x y : Bool} (ha : Yields a s x) (hb : Yields b s y) :
    Yields (andThen a b) s (x && y) := by
  refine ha.bind ?_
  cases x with
  | true => exact hb
  | false => exact yields_pure _ s

theorem yields_ptmEntryIsValid (entry : Int) :
    ∃ b : Bool, (b = true ↔ EntryValid s.mem entry) ∧ Yields (ptmEntryIsValid entry) s b := by
  refine ⟨_, ?_, yields_andThen (yields_sameWords _ _)
    (yields_andThen (yields_sameWords _ _) (yields_sameWords _ _))⟩
  simp only [Bool.and_eq_true, beq_iff_eq]
  exact Iff.rfl

theorem yields_ptmTablePatternFn (ptr : Int) :
    Yields (ptmTablePatternFn ptr) s (decide (TablePattern s.mem ptr)) := by
  obtain ⟨b, hb, hy⟩ := yields_ptmEntryIsValid (s := s) ptr
  have h : Yields (ptmTablePatternFn ptr) s (b && s.mem (ptr + 1) == cpuPtmDefault) := by
    unfold ptmTablePatternFn
    exact yields_andThen hy ((yields_load (ptr + 1) s).bind (yields_pure _ s))
  have heq : (b && s.mem (ptr + 1) == cpuPtmDefault) = decide (TablePattern s.mem ptr) := by
    rw [Bool.eq_iff_iff]
    simp only [Bool.and_eq_true, beq_iff_eq, decide_eq_true_eq, hb]
    exact Iff.rfl
  exact heq ▸ h

theorem yields_findConfTable (ptrs : List Nat) :
    Yields (findConfTable ptrs) s (ptrs.find? fun ptr => decide (TablePattern s.mem ptr)) := by
  induction ptrs with
  | nil => exact yields_pure none s
  | cons ptr ptrs ih =>
    refine (yields_ptmTablePatternFn ptr).bind ?_
    rw [List.find?_cons]
    cases decide (TablePattern s.mem ptr) with
    | true => exact yields_pure _ s
    | false => exact ih

theorem mem_cursors {nsoSize ptr : Nat} :
    ptr < cursorCount nsoSize ↔ 4 * (ptr + perfConfEntryWords * entryCnt) ≤ nsoSize := by
  have hsize : perfConfEntryWords * entryCnt = 128 := rfl
  unfold cursorCount
  split <;> omega

/-! ## One entry -/

/-- The image with the entry at `entry` in its new form. -/
def entryAfter (soc : Soc) (C : CustomizeTable) (mem : Int → UInt32) (entry w : Int) : UInt32 :=
  if entry ≤ w ∧ w < entry + 8 then newField soc C mem entry (w - entry) else mem w

/-- The counts after an entry with this `cpu_freq_1`. -/
def countEntry (soc : Soc) (cpuFreq1 : UInt32) (d : Device) : Device :=
  let d := if cpuFreq1 = cpuPtmBoostFreq then d.count 0 else d
  if soc = .mariko then d.count 1 else d

/-- A patch function that succeeds is counted. -/
theorem apply_of_ok {entry : PatcherEntry} {i : Nat} {ptr : Int} {t : Store Device}
    (h : (entry.patcherFn ptr s).result = .ok () ∧ (entry.patcherFn ptr s).state = t) :
    (entry.apply i ptr s).result = .ok () ∧
      (entry.apply i ptr s).state = { t with dev := t.dev.count i } := by
  unfold PatcherEntry.apply
  rw [bind_of_ok h.1, h.2]
  exact ⟨rfl, rfl⟩

theorem cpuPtmBoost_run (hclock : C.commonCpuBoostClock ≠ 0) (entry : Int) :
    (cpuPtmBoost C entry s).result = .ok () ∧ (cpuPtmBoost C entry s).state =
      { s with mem := Function.update (Function.update s.mem (entry + 1)
          (C.commonCpuBoostClock * 1000)) (entry + 2) (C.commonCpuBoostClock * 1000) } := by
  unfold cpuPtmBoost
  rw [if_neg hclock]
  exact ⟨rfl, rfl⟩

theorem patchCpu_ok (hclock : C.commonCpuBoostClock ≠ 0) {entry : Int}
    (h : s.mem (entry + 1) = cpuPtmBoostFreq ∨ s.mem (entry + 1) = cpuPtmDefault ∨
      s.mem (entry + 1) = cpuPtmDevOC) :
    (patchCpu C entry s).result = .ok () ∧ (patchCpu C entry s).state =
      if s.mem (entry + 1) = cpuPtmBoostFreq then
        { mem := Function.update (Function.update s.mem (entry + 1) (C.commonCpuBoostClock * 1000))
            (entry + 2) (C.commonCpuBoostClock * 1000)
          dev := s.dev.count 0 }
      else s := by
  unfold patchCpu
  rw [load_bind_run]
  by_cases hb : s.mem (entry + 1) = cpuPtmBoostFreq
  · rw [if_pos hb, if_pos hb]
    have hrun : ((cpuPtmBoostPatch C).patcherFn entry s).result = .ok () ∧ _ :=
      cpuPtmBoost_run hclock entry
    exact apply_of_ok hrun
  · rw [if_neg hb, if_neg hb, if_pos (h.resolve_left hb)]
    exact ⟨rfl, rfl⟩

variable (soc) in
theorem patchMem_ok {entry : Int}
    (h : s.mem (entry + 5) = memPtmLimit ∨ s.mem (entry + 5) = memPtmAlt ∨
      s.mem (entry + 5) = memPtmClamp) :
    (patchMem soc entry s).result = .ok () ∧ (patchMem soc entry s).state =
      if soc = .mariko then
        { mem := Function.update (Function.update s.mem (entry + 5) memPtmLimit) (entry + 6)
            memPtmLimit
          dev := s.dev.count 1 }
      else s := by
  unfold patchMem
  rw [load_bind_run, if_pos h]
  cases soc with
  | erista => exact ⟨rfl, rfl⟩
  | mariko => exact ⟨rfl, rfl⟩

theorem patchCpu_error {entry : Int}
    (h : ¬ (s.mem (entry + 1) = cpuPtmBoostFreq ∨ s.mem (entry + 1) = cpuPtmDefault ∨
      s.mem (entry + 1) = cpuPtmDevOC)) :
    ∃ msg, (patchCpu C entry s).result = .error (.crash msg) := by
  rw [not_or] at h
  unfold patchCpu
  rw [load_bind_run, if_neg h.1, if_neg h.2]
  exact ⟨_, rfl⟩

variable (soc) in
theorem patchMem_error {entry : Int}
    (h : ¬ (s.mem (entry + 5) = memPtmLimit ∨ s.mem (entry + 5) = memPtmAlt ∨
      s.mem (entry + 5) = memPtmClamp)) :
    ∃ msg, (patchMem soc entry s).result = .error (.crash msg) := by
  unfold patchMem
  rw [load_bind_run, if_neg h]
  exact ⟨_, rfl⟩

/-- The four stores as one new entry. -/
theorem entryAfter_eq (mem : Int → UInt32) (entry : Int) :
    entryAfter soc C mem entry =
      let cpu := if mem (entry + 1) = cpuPtmBoostFreq then
        Function.update (Function.update mem (entry + 1) (C.commonCpuBoostClock * 1000))
          (entry + 2) (C.commonCpuBoostClock * 1000) else mem
      if soc = .mariko then
        Function.update (Function.update cpu (entry + 5) memPtmLimit) (entry + 6) memPtmLimit
      else cpu := by
  funext w
  unfold entryAfter newField
  by_cases hb : mem (entry + 1) = cpuPtmBoostFreq <;> by_cases hsoc : soc = .mariko <;>
    simp only [hb, hsoc, if_true, if_false, and_true, and_false, Function.update_apply] <;>
    grind

variable (soc) in
/-- **One turn**: an entry that is known gets its new form and is counted; any other
ends the process. -/
theorem patchEntry_cases (hclock : C.commonCpuBoostClock ≠ 0) (entry : Int) :
    (EntryKnown s.mem entry ∧ (patchEntry soc C entry s).result = .ok () ∧
      (patchEntry soc C entry s).state =
        { mem := entryAfter soc C s.mem entry, dev := countEntry soc (s.mem (entry + 1)) s.dev }) ∨
    (¬ EntryKnown s.mem entry ∧
      ∃ msg, (patchEntry soc C entry s).result = .error (.crash msg)) := by
  obtain ⟨b, hb, hvalid⟩ := yields_ptmEntryIsValid (s := s) entry
  unfold patchEntry
  rw [hvalid.bind_result, hvalid.bind_state, require_bind_run]
  by_cases hv : EntryValid s.mem entry
  · rw [if_pos (hb.2 hv)]
    by_cases hcpu : s.mem (entry + 1) = cpuPtmBoostFreq ∨ s.mem (entry + 1) = cpuPtmDefault ∨
        s.mem (entry + 1) = cpuPtmDevOC
    · obtain ⟨hres, hst⟩ := patchCpu_ok hclock hcpu
      have hemc : (patchCpu C entry s).state.mem (entry + 5) = s.mem (entry + 5) := by
        rw [hst]
        split
        · show Function.update _ _ _ _ = _
          rw [Function.update_of_ne (by omega), Function.update_of_ne (by omega)]
        · rfl
      rw [bind_of_ok hres, after_result, after_state]
      by_cases hknown : s.mem (entry + 5) = memPtmLimit ∨ s.mem (entry + 5) = memPtmAlt ∨
          s.mem (entry + 5) = memPtmClamp
      · obtain ⟨hres', hst'⟩ := patchMem_ok soc (hemc.symm ▸ hknown)
        refine .inl ⟨⟨hv, hcpu, hknown⟩, hres', ?_⟩
        rw [hst', hst, entryAfter_eq]
        unfold countEntry
        split <;> split <;> rfl
      · obtain ⟨msg, hmsg⟩ := patchMem_error soc (hemc.symm ▸ hknown)
        exact .inr ⟨fun h => hknown h.emc, msg, hmsg⟩
    · obtain ⟨msg, hmsg⟩ := patchCpu_error (C := C) hcpu
      rw [bind_of_error hmsg]
      exact .inr ⟨fun h => hcpu h.cpu, msg, rfl⟩
  · rw [if_neg fun h => hv (hb.1 h)]
    exact .inr ⟨fun h => hv h.valid, _, rfl⟩

/-! ## The loop -/

theorem confEntry_eq (head i : Nat) : confEntry head i = head + 8 * i :=
  rfl

/-- The entries from `n` on are as in the given image. -/
theorem tableAfter_of_le (mem : Int → UInt32) {head n : Nat} {w : Int} (h : head + 8 * n ≤ w) :
    tableAfter soc C mem head n w = mem w :=
  if_neg (by omega)

theorem entryKnown_tableAfter (mem : Int → UInt32) (head n : Nat) :
    EntryKnown (tableAfter soc C mem head n) (confEntry head n) ↔
      EntryKnown mem (confEntry head n) := by
  have hk : ∀ k : Int, 0 ≤ k → tableAfter soc C mem head n (confEntry head n + k) =
      mem (confEntry head n + k) := by
    intro k hk
    exact tableAfter_of_le mem (by rw [confEntry_eq]; omega)
  constructor
  · rintro ⟨hvalid, hcpu, hemc⟩
    unfold EntryValid at hvalid
    rw [hk 1 (by decide), hk 2 (by decide), hk 3 (by decide), hk 4 (by decide), hk 5 (by decide),
      hk 6 (by decide)] at hvalid
    rw [hk 1 (by decide)] at hcpu
    rw [hk 5 (by decide)] at hemc
    exact ⟨hvalid, hcpu, hemc⟩
  · rintro ⟨hvalid, hcpu, hemc⟩
    refine ⟨?_, ?_, ?_⟩
    · unfold EntryValid
      rw [hk 1 (by decide), hk 2 (by decide), hk 3 (by decide), hk 4 (by decide),
        hk 5 (by decide), hk 6 (by decide)]
      exact hvalid
    · rw [hk 1 (by decide)]
      exact hcpu
    · rw [hk 5 (by decide)]
      exact hemc

theorem entryAfter_tableAfter (mem : Int → UInt32) (head n : Nat) :
    entryAfter soc C (tableAfter soc C mem head n) (confEntry head n) =
      tableAfter soc C mem head (n + 1) := by
  funext w
  by_cases hin : confEntry head n ≤ w ∧ w < confEntry head n + 8
  · rw [confEntry_eq] at hin
    have hw : head ≤ w ∧ w < head + 8 * ((n + 1 : Nat) : Int) := by omega
    have hentry : (head : Int) + 8 * ((w - head) / 8) = head + 8 * n := by omega
    have hfield : (w - head) % 8 = w - (head + 8 * n) := by omega
    unfold entryAfter
    rw [confEntry_eq, if_pos hin, tableAfter, if_pos hw, hentry, hfield]
    unfold newField
    rw [tableAfter_of_le mem (by omega), tableAfter_of_le mem (by omega)]
  · unfold entryAfter
    rw [if_neg hin]
    rw [confEntry_eq] at hin
    unfold tableAfter
    by_cases hlt : (head : Int) ≤ w ∧ w < head + 8 * (n : Int)
    · rw [if_pos hlt, if_pos (by push_cast; omega)]
    · rw [if_neg hlt, if_neg (by push_cast; omega)]

/-- The counts after `n` entries. -/
def countsAfter (soc : Soc) (mem : Int → UInt32) (head n : Nat) : Nat → Nat := fun j =>
  if j = 0 then boostCount mem head n else if j = 1 ∧ soc = .mariko then n else 0

theorem boostCount_succ (mem : Int → UInt32) (head n : Nat) :
    boostCount mem head (n + 1) = boostCount mem head n +
      if mem (confEntry head n + 1) = cpuPtmBoostFreq then 1 else 0 := by
  unfold boostCount
  rw [List.range_succ, List.countP_append, List.countP_singleton]
  simp only [beq_iff_eq]

theorem countEntry_countsAfter (mem : Int → UInt32) (head n : Nat) (d : Device) :
    countEntry soc (mem (confEntry head n + 1))
        { d with patchedCount := countsAfter soc mem head n } =
      { d with patchedCount := countsAfter soc mem head (n + 1) } := by
  have hsucc := boostCount_succ mem head n
  unfold countEntry Device.count
  by_cases hb : mem (confEntry head n + 1) = cpuPtmBoostFreq <;> cases soc <;>
    simp only [hb, if_true, if_false, reduceCtorEq] at hsucc ⊢ <;> congr 1 <;> funext j <;>
    unfold countsAfter <;> rw [hsucc] <;> grind [Function.update_apply]

/-- The image and the counts after `n` turns. -/
def afterEntries (soc : Soc) (C : CustomizeTable) (s : Store Device) (head n : Nat) :
    Store Device where
  mem := tableAfter soc C s.mem head n
  dev := { s.dev with patchedCount := countsAfter soc s.mem head n }

theorem boostCount_zero (mem : Int → UInt32) (head : Nat) : boostCount mem head 0 = 0 :=
  rfl

/-- **The loop over the entries.** -/
theorem entries_cases (hclock : C.commonCpuBoostClock ≠ 0) (s : Store Device) (head n : Nat) :
    ((∀ i < n, EntryKnown s.mem (confEntry head i)) ∧
      (Prog.forEach (List.range n) (fun i => patchEntry soc C (confEntry head i))
        (afterEntries soc C s head 0)).result = .ok () ∧
      (Prog.forEach (List.range n) (fun i => patchEntry soc C (confEntry head i))
        (afterEntries soc C s head 0)).state = afterEntries soc C s head n) ∨
    (¬ (∀ i < n, EntryKnown s.mem (confEntry head i)) ∧
      ∃ e, (∃ msg, e = .crash msg) ∧
        (Prog.forEach (List.range n) (fun i => patchEntry soc C (confEntry head i))
          (afterEntries soc C s head 0)).result = .error e) := by
  refine forEach_range_cases (u := afterEntries soc C s head) (fun i _ hi => ?_) fun i _ hi => ?_
  · have hfirst : tableAfter soc C s.mem head i (confEntry head i + 1) =
        s.mem (confEntry head i + 1) := tableAfter_of_le s.mem (by rw [confEntry_eq]; omega)
    obtain ⟨-, hres, hst⟩ | ⟨hno, -⟩ := patchEntry_cases soc
      (s := afterEntries soc C s head i) hclock (confEntry head i)
    · refine ⟨hres, hst.trans ?_⟩
      show (⟨entryAfter soc C (tableAfter soc C s.mem head i) (confEntry head i),
        countEntry soc (tableAfter soc C s.mem head i (confEntry head i + 1)) _⟩ : Store Device) = _
      rw [entryAfter_tableAfter, hfirst]
      exact congrArg (Store.mk _) (countEntry_countsAfter s.mem head i s.dev)
    · exact absurd ((entryKnown_tableAfter s.mem head i).2 hi) hno
  · obtain ⟨hyes, -⟩ | ⟨-, msg, hmsg⟩ := patchEntry_cases soc
      (s := afterEntries soc C s head i) hclock (confEntry head i)
    · exact absurd ((entryKnown_tableAfter s.mem head i).1 hyes) hi
    · exact ⟨_, ⟨msg, rfl⟩, hmsg⟩

/-! ## The whole call -/

theorem afterEntries_zero (s : Store Device) (head : Nat) :
    afterEntries soc C s head 0 = { s with dev := { s.dev with patchedCount := fun _ => 0 } } := by
  have hmem : tableAfter soc C s.mem head 0 = s.mem :=
    funext fun w => if_neg (by omega)
  have hcounts : countsAfter soc s.mem head 0 = fun _ => 0 := by
    funext j
    unfold countsAfter
    rw [boostCount_zero, ite_self, ite_self]
  unfold afterEntries
  rw [hmem, hcounts]

variable (soc C) in
/-- The count of `MEM Ptm` never exceeds its maximum. -/
theorem checkResults_cases (s : Store Device) (head : Nat) :
    (boostCount s.mem head entryCnt ≤ 2 ∧
      Yields (checkResults 0 (checkedEntries soc C)) (afterEntries soc C s head entryCnt) ()) ∨
    (¬ boostCount s.mem head entryCnt ≤ 2 ∧
      ∃ msg, (checkResults 0 (checkedEntries soc C) (afterEntries soc C s head entryCnt)).result =
        .error (.crash msg)) := by
  have hcpu : (cpuPtmBoostPatch C).checkResult
      ((afterEntries soc C s head entryCnt).dev.patchedCount 0) =
      if boostCount s.mem head entryCnt ≤ 2 then .ok () else .error .unsuccessfulPatcher := by
    show (if (2 : Nat) ≠ 0 ∧ ¬ boostCount s.mem head entryCnt ≤ 2 then _ else _) = _
    by_cases hle : boostCount s.mem head entryCnt ≤ 2
    · rw [if_neg fun h => h.2 hle, if_pos hle]
    · rw [if_pos ⟨by decide, hle⟩, if_neg hle]
  unfold checkedEntries checkResults Yields
  dsimp only
  rw [hcpu]
  by_cases hle : boostCount s.mem head entryCnt ≤ 2
  · rw [if_pos hle]
    refine .inl ⟨hle, ?_⟩
    cases soc with
    | erista => exact ⟨rfl, rfl⟩
    | mariko => exact ⟨rfl, rfl⟩
  · rw [if_neg hle]
    exact .inr ⟨hle, _, rfl⟩

variable (soc) in
theorem patchTable_cases (hclock : C.commonCpuBoostClock ≠ 0) (s : Store Device) (head : Nat) :
    (TableAccepted s.mem head ∧ (patchTable soc C head s).result = .ok () ∧
      (patchTable soc C head s).state = afterEntries soc C s head entryCnt) ∨
    (¬ TableAccepted s.mem head ∧
      ∃ msg, (patchTable soc C head s).result = .error (.crash msg)) := by
  have hreset : patchTable soc C head s =
      (Prog.forEach (List.range entryCnt) (fun i => patchEntry soc C (confEntry head i)) >>=
        fun _ => checkResults 0 (checkedEntries soc C)) (afterEntries soc C s head 0) := by
    rw [afterEntries_zero]
    exact bind_of_run rfl
  rw [hreset]
  rcases entries_cases hclock s head entryCnt with ⟨hknown, hres, hst⟩ | ⟨hno, e, ⟨msg, rfl⟩, he⟩
  · rw [bind_of_ok hres, after_result, after_state, hst]
    rcases checkResults_cases soc C s head with ⟨hle, hok⟩ | ⟨hgt, hbad⟩
    · exact .inl ⟨⟨hknown, hle⟩, hok⟩
    · exact .inr ⟨fun h => hgt h.boosts, hbad⟩
  · rw [bind_of_error he]
    exact .inr ⟨fun h => hno h.known, msg, rfl⟩

theorem findConfTable_eq_some {mem : Int → UInt32} {nsoSize head : Nat}
    (h : IsConfTable mem nsoSize head) :
    ((List.range (cursorCount nsoSize)).find? fun ptr : Nat => decide (TablePattern mem ptr)) =
      some head := by
  rw [List.find?_range_eq_some]
  exact ⟨decide_eq_true h.pattern, List.mem_range.2 (mem_cursors.2 h.room),
    fun ptr hptr => by simpa using h.first ptr hptr⟩

/-- Where there is a match there is a first one. -/
theorem findConfTable_eq_none {mem : Int → UInt32} {nsoSize : Nat}
    (h : ∀ head, ¬ IsConfTable mem nsoSize head) :
    ((List.range (cursorCount nsoSize)).find? fun ptr : Nat => decide (TablePattern mem ptr)) = none := by
  cases hfind : (List.range (cursorCount nsoSize)).find? fun ptr : Nat => decide (TablePattern mem ptr) with
  | none => rfl
  | some head =>
    obtain ⟨hpat, hmem, hfirst⟩ := List.find?_range_eq_some.1 hfind
    exact absurd ⟨mem_cursors.1 (List.mem_range.1 hmem), of_decide_eq_true hpat,
      fun ptr hptr => by simpa using hfirst ptr hptr⟩ (h head)

variable (soc C) in
theorem patch_eq_of_some {s : Store Device} {nsoSize head : Nat} (h : IsConfTable s.mem nsoSize head) :
    (patch soc C nsoSize s).result = (patchTable soc C head s).result ∧
      (patch soc C nsoSize s).state = (patchTable soc C head s).state := by
  have hfind := yields_findConfTable (s := s) (List.range (cursorCount nsoSize))
  rw [findConfTable_eq_some h] at hfind
  exact ⟨hfind.bind_result _, hfind.bind_state _⟩

end

/-- **`ptm::Patch`.**  With a table in the image it returns iff all 16 entries are known and
at most two are boost entries, and then the table is in its new form and nothing else has
changed; else, and without a table, it aborts. -/
theorem patch_spec (soc : Soc) (C : CustomizeTable) (nsoSize : Nat) (s : Store Device)
    (hsafe : safetyCheck C = .ok ()) :
    (∀ head, IsConfTable s.mem nsoSize head →
      ((patch soc C nsoSize s).result = .ok () ↔ TableAccepted s.mem head) ∧
      (TableAccepted s.mem head → (patch soc C nsoSize s).state.mem =
        tableAfter soc C s.mem head entryCnt) ∧
      (¬ TableAccepted s.mem head → ∃ msg, (patch soc C nsoSize s).result = .error (.crash msg))) ∧
    ((∀ head, ¬ IsConfTable s.mem nsoSize head) →
      ∃ msg, (patch soc C nsoSize s).result = .error (.crash msg)) ∧
    (C.commonCpuBoostClock * 1000).toNat = C.commonCpuBoostClock.toNat * 1000 := by
  -- the boost clock passes the first validator
  have hclock : (1020000 : UInt32) ≤ C.commonCpuBoostClock ∧ C.commonCpuBoostClock ≤ 3000000 := by
    obtain ⟨a, b, c, d, hall⟩ := check_of_safetyCheck hsafe
    have hfirst := hall _ List.mem_cons_self
    rcases SValidator.range_of_check hfirst (show (1020000 : UInt32) ≠ 0 by decide)
        (show (3000000 : UInt32) ≠ 0 by decide) with ⟨hreq, -⟩ | hrange
    · cases hreq
    · exact hrange
  have hpos : C.commonCpuBoostClock ≠ 0 := by
    rintro h
    rw [h] at hclock
    exact absurd hclock.1 (by decide)
  refine ⟨fun head hhead => ?_, fun hnone => ?_, ?_⟩
  · obtain ⟨hres, hst⟩ := patch_eq_of_some soc C hhead
    rw [hres, hst]
    rcases patchTable_cases soc hpos s head with ⟨hacc, hok, hafter⟩ | ⟨hno, msg, hmsg⟩
    · rw [hok, hafter]
      exact ⟨⟨fun _ => hacc, fun _ => rfl⟩, fun _ => rfl, fun h => absurd hacc h⟩
    · rw [hmsg]
      exact ⟨⟨nofun, fun h => absurd h hno⟩, fun h => absurd h hno, fun _ => ⟨msg, rfl⟩⟩
  · have hfind := yields_findConfTable (s := s) (List.range (cursorCount nsoSize))
    rw [findConfTable_eq_none hnone] at hfind
    exact ⟨_, hfind.bind_result _⟩
  · have hle : C.commonCpuBoostClock.toNat ≤ 3000000 := UInt32.le_iff_toNat_le.1 hclock.2
    rw [UInt32.toNat_mul, show (1000 : UInt32).toNat = 1000 from rfl]
    exact Nat.mod_eq_of_lt (by omega)

/-- 16 default entries, the second one a boost entry. -/
def bootImage : Store Device :=
  { zeroImage with mem := fun w =>
      if w = 9 ∨ w = 10 then cpuPtmBoostFreq
      else if w % 8 = 1 ∨ w % 8 = 2 then cpuPtmDefault
      else if w % 8 = 5 ∨ w % 8 = 6 then memPtmAlt
      else 0 }

theorem bootImage_isConfTable : IsConfTable bootImage.mem 512 0 where
  room := by decide
  pattern := by decide
  first := fun _ h => absurd h (Nat.not_lt_zero _)

theorem bootImage_accepted : TableAccepted bootImage.mem 0 where
  known := by
    have hall : ∀ i < entryCnt, EntryValid bootImage.mem (confEntry 0 i) ∧
        (bootImage.mem (confEntry 0 i + 1) = cpuPtmBoostFreq ∨
          bootImage.mem (confEntry 0 i + 1) = cpuPtmDefault) ∧
        bootImage.mem (confEntry 0 i + 5) = memPtmAlt := by
      unfold EntryValid
      decide +kernel
    intro i hi
    obtain ⟨hvalid, hcpu, hemc⟩ := hall i hi
    exact ⟨hvalid, hcpu.imp_right .inl, .inr (.inl hemc)⟩
  boosts := by decide +kernel

theorem patch_spec_bootImage :
    (patch .mariko customizeTable 512 bootImage).result = .ok () ∧
      (patch .mariko customizeTable 512 bootImage).state.mem 9 = 1785000000 := by
  obtain ⟨hiff, hafter, -⟩ := (patch_spec .mariko customizeTable 512 bootImage
    safetyCheck_customizeTable).1 0 bootImage_isConfTable
  refine ⟨hiff.2 bootImage_accepted, ?_⟩
  rw [hafter bootImage_accepted]
  decide

end SwitchOc.Ptm
