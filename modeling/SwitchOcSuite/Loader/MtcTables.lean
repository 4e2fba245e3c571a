import SwitchOcSuite.Lib.BlockShift
import SwitchOcSuite.Loader.MtcConf

/-!
# The MTC tables around the new one (`MemFreqMtcTable`)

The tables lie below one another, the highest rate on top.  Erista moves all of them
down by one before the top one is adjusted; Mariko saves the top table, adjusts it
and stores the saved one over the second.

    memFreqMtcTable_moves     where the old tables are afterwards
-/

namespace SwitchOc

open Traced

variable {C : CustomizeTable} {ptr w : Int} {s : Store Device}

/-! ## Words of the tables -/

/-- The word is one of table `i`. -/
def InTable (soc : Soc) (ptr : Int) (i : Nat) (w : Int) : Prop :=
  mtcTable soc.mtcTableWords ptr i ≤ w ∧ w < mtcTable soc.mtcTableWords ptr i + soc.mtcTableWords

theorem mtcTable_succ (W : Nat) (ptr : Int) (i : Nat) :
    mtcTable W ptr (i + 1) + W = mtcTable W ptr i := by
  unfold mtcTable
  push_cast
  ring

theorem mtcTable_anti (W : Nat) (ptr : Int) {i j : Nat} (h : i ≤ j) :
    mtcTable W ptr j ≤ mtcTable W ptr i := by
  have hmul : i * W ≤ j * W := Nat.mul_le_mul_right W h
  unfold mtcTable
  have hmul' : (i : Int) * W ≤ j * W := by exact_mod_cast hmul
  omega

/-- The tables leave no gap. -/
theorem exists_inTable {soc : Soc} {n : Nat} (h₁ : mtcTable soc.mtcTableWords ptr n ≤ w)
    (h₂ : w < mtcTable soc.mtcTableWords ptr 0) : ∃ i ≤ n, InTable soc ptr i w := by
  induction n with
  | zero => exact absurd h₁ (by omega)
  | succ n ih =>
    have hn := mtcTable_succ soc.mtcTableWords ptr n
    by_cases hw : w < mtcTable soc.mtcTableWords ptr n
    · exact ⟨n + 1, Nat.le_refl _, h₁, by omega⟩
    · obtain ⟨i, hi, hin⟩ := ih (by omega)
      exact ⟨i, by omega, hin⟩

theorem inTable_rate (soc : Soc) (ptr : Int) : InTable soc ptr 0 ptr := by
  have hW : 16 < soc.mtcTableWords := by cases soc <;> decide
  unfold InTable mtcTable offsetRateKhz
  omega

namespace Erista

theorem inTable_reg (ptr : Int) (r : Reg) : InTable .erista ptr 0 (tableList ptr 0 + r.off) := by
  have hlt := off_lt r
  show tableList ptr 0 ≤ _ ∧ _ < tableList ptr 0 + mtcTableWords
  omega

theorem keepsWord_autoAdjust {table : Int} (hw : ∀ r : Reg, w ≠ table + r.off) :
    KeepsWord w (memMtcTableAutoAdjust C table) := by
  unfold memMtcTableAutoAdjust
  by_cases h : C.mtcConf = 0
  · rw [if_neg (by simp [h])]
    refine commits_bind (keepsWord_forEach fun p _ => ?_) fun _ =>
      keepsWord_forEach fun p _ => keepsWord_store (hw _) _
    exact commits_bind (keepsWord_store (hw _) _) fun _ =>
      commits_bind (keepsWord_store (hw _) _) fun _ =>
        commits_bind (keepsWord_store (hw _) _) fun _ => keepsWord_store (hw _) _
  · rw [if_pos h]
    exact commits_pure ()

/-- Once the tables have been moved down, only the top one is written. -/
theorem memFreqMtcTable_run (h : TablesValid .erista ptr s)
    (hclock : emcClkOSLimit < C.eristaEmcMaxClock) :
    (memFreqMtcTable C ptr s).result = .ok () ∧ (memFreqMtcTable C ptr s).state.mem ptr =
      C.eristaEmcMaxClock ∧ ∀ w, ¬ InTable .erista ptr 0 w →
        (memFreqMtcTable C ptr s).state.mem w =
          shifted s.mem (tableList ptr 9) (tableList ptr 0) mtcTableWords w := by
  obtain ⟨hres, hst⟩ := shiftDown_run (mtcTable_succ mtcTableWords ptr) 9 s
  let t : Store Device :=
    { s with mem := shifted s.mem (tableList ptr 9) (tableList ptr 0) mtcTableWords }
  have hrun : (memFreqMtcTable C ptr s).result =
      ((memMtcTableAutoAdjust C (tableList ptr 0) >>= fun _ =>
        store ptr C.eristaEmcMaxClock : Patch Unit) t).result ∧
      (memFreqMtcTable C ptr s).state = ((memMtcTableAutoAdjust C (tableList ptr 0) >>= fun _ =>
        store ptr C.eristaEmcMaxClock : Patch Unit) t).state := by
    have hchain := yields_check h
    have hmove : (Prog.forEach [9, 8, 7, 6, 5, 4, 3, 2, 1] fun i => do
        let src ← loadBlock (tableList ptr (i - 1)) mtcTableWords
        storeBlock (tableList ptr i) src : Patch Unit) =
        Prog.forEach (countdown 9) (copyDown (tableList ptr) mtcTableWords) := rfl
    unfold memFreqMtcTable
    rw [hchain.bind_result, hchain.bind_state, if_neg (UInt32.not_le.2 hclock), hmove,
      bind_of_ok hres, after_result, after_state, hst]
    exact ⟨rfl, rfl⟩
  have hnever := (commits_memMtcTableAutoAdjust (C := C) (tableList ptr 0)).neverFails
  rw [hrun.1, hrun.2]
  refine ⟨?_, ?_, fun w hw => ?_⟩
  · obtain ⟨u, hu⟩ := hnever t
    rw [bind_of_ok hu]
    rfl
  · rw [hnever.bind_state]
    exact Function.update_self _ _ _
  · refine (show KeepsWord w _ from ?_).keeps t
    exact commits_bind (keepsWord_autoAdjust fun r heq => hw (heq ▸ inTable_reg ptr r)) fun _ =>
      keepsWord_store (a := ptr) (fun heq => hw (by rw [heq]; exact inTable_rate .erista ptr)) _

end Erista

namespace Mariko

theorem inTable_reg (ptr : Int) (r : Reg) : InTable .mariko ptr 0 (tableList ptr 0 + r.off) := by
  have hlt := off_lt r
  show tableList ptr 0 ≤ _ ∧ _ < tableList ptr 0 + mtcTableWords
  omega

theorem keepsWord_customAdjust_of_ne {table : Int} (hw : ∀ r : Reg, w ≠ table + r.off) :
    KeepsWord w (memMtcTableCustomAdjust C table) := by
  by_cases h : C.mtcConf = 1
  · exact keepsWord_customAdjust h fun r _ => hw r
  · unfold memMtcTableCustomAdjust
    rw [if_pos h]
    exact commits_pure ()

/-- All that is done to the top table but its rate. -/
def adjustTop (C : CustomizeTable) (ptr : Int) : Patch Unit := do
  memMtcTableAutoAdjust C (tableList ptr 0) (tableList ptr 1)
  memMtcTableCustomAdjust C (tableList ptr 0)
  memMtcPllmbDivisor C (tableList ptr 0)

theorem keepsWord_adjustTop (hw : ¬ InTable .mariko ptr 0 w) : KeepsWord w (adjustTop C ptr) := by
  have hne : ∀ r : Reg, w ≠ tableList ptr 0 + r.off := fun r heq => hw (heq ▸ inTable_reg ptr r)
  exact commits_bind (keepsWord_autoAdjust hne) fun _ =>
    commits_bind (keepsWord_customAdjust_of_ne hne) fun _ =>
      commits_bind (keepsWord_setReg (hne _)) fun _ => keepsWord_setReg (hne _)

/-- The top table is written, and what it held goes to the second. -/
theorem memFreqMtcTable_run (h : TablesValid .mariko ptr s)
    (hclock : emcClkOSLimit < C.marikoEmcMaxClock) :
    (memFreqMtcTable C ptr s).result = .ok () ∧ (memFreqMtcTable C ptr s).state.mem ptr =
      C.marikoEmcMaxClock ∧
    (∀ k : Nat, k < mtcTableWords → (memFreqMtcTable C ptr s).state.mem (tableList ptr 1 + k) =
      s.mem (tableList ptr 0 + k)) ∧
    ∀ w, ¬ InTable .mariko ptr 0 w → ¬ InTable .mariko ptr 1 w →
      (memFreqMtcTable C ptr s).state.mem w = s.mem w := by
  have hW : mtcTableWords = 1075 := rfl
  have hsucc : tableList ptr 1 + mtcTableWords = tableList ptr 0 := mtcTable_succ _ _ _
  have hptr : tableList ptr 0 + 16 = ptr := by
    unfold tableList mtcTable offsetRateKhz
    omega
  have hlen : (readBlock s.mem (tableList ptr 0) mtcTableWords).length = mtcTableWords :=
    length_readBlock _ _ _
  have hbelow : ∀ k : Nat, k < mtcTableWords → ¬ InTable .mariko ptr 0 (tableList ptr 1 + k) := by
    intro k hk hin
    have hle : tableList ptr 0 ≤ tableList ptr 1 + k := hin.1
    omega
  have hnever : NeverFails (adjustTop C ptr) :=
    (keepsWord_adjustTop (hbelow 0 (by omega))).neverFails
  have hrun : (memFreqMtcTable C ptr s).result = ((adjustTop C ptr >>= fun _ =>
      storeBlock (tableList ptr 1) (readBlock s.mem (tableList ptr 0) mtcTableWords) >>= fun _ =>
        store ptr C.marikoEmcMaxClock : Patch Unit) s).result ∧
      (memFreqMtcTable C ptr s).state = ((adjustTop C ptr >>= fun _ =>
      storeBlock (tableList ptr 1) (readBlock s.mem (tableList ptr 0) mtcTableWords) >>= fun _ =>
        store ptr C.marikoEmcMaxClock : Patch Unit) s).state := by
    have hchain := yields_check h
    unfold memFreqMtcTable adjustTop
    rw [hchain.bind_result, hchain.bind_state, if_neg (UInt32.not_le.2 hclock), loadBlock_bind_run,
      after_result, after_state]
    simp only [prog_bind_assoc]
    exact ⟨trivial, trivial⟩
  rw [hrun.1, hrun.2]
  refine ⟨?_, ?_, fun k hk => ?_, fun w hw₀ hw₁ => ?_⟩
  · obtain ⟨u, hu⟩ := hnever s
    rw [bind_of_ok hu]
    rfl
  · rw [hnever.bind_state]
    exact Function.update_self _ _ _
  · have hvalue := getD_readBlock s.mem (tableList ptr 0) hk
    rw [← hvalue]
    refine Puts.state ((puts_bind (keepsWord_adjustTop (hbelow k hk)).puts fun _ =>
      puts_bind (puts_storeBlock (by rwa [hlen])) fun _ =>
        (keepsWord_store (a := ptr) (by omega) _).puts).mono fun _ => ?_) trivial s
    exact .inr (.inl trivial)
  · refine (show KeepsWord w _ from ?_).keeps s
    refine commits_bind (keepsWord_adjustTop hw₀) fun _ =>
      commits_bind (keepsWord_storeBlock ?_) fun _ =>
        keepsWord_store (a := ptr) (fun heq => hw₀ (by rw [heq]; exact inTable_rate .mariko ptr)) _
    have hout : ¬ (tableList ptr 1 ≤ w ∧ w < tableList ptr 1 + mtcTableWords) := hw₁
    omega

end Mariko

/-! ## Both -/

/-- The tables that hold an old one afterwards, and which. -/
def movedTables : Soc → List (Nat × Nat)
  | .erista => (List.range 9).map fun i => (i + 1, i)
  | .mariko => [(1, 0), (2, 2)]

/-- The old tables in their places under the new one. -/
structure TablesMoved (soc : Soc) (C : CustomizeTable) (ptr : Int) (mem mem' : Int → UInt32) :
    Prop where
  moved : ∀ p ∈ movedTables soc, ∀ k : Nat, k < soc.mtcTableWords →
    mem' (mtcTable soc.mtcTableWords ptr p.1 + k) = mem (mtcTable soc.mtcTableWords ptr p.2 + k)
  rate : mem' ptr = emcMaxClock soc C
  outside : ∀ w, (∀ i < (khzList soc).length, ¬ InTable soc ptr i w) → mem' w = mem w

theorem Erista.tablesMoved (h : TablesValid .erista ptr s)
    (hclock : emcClkOSLimit < C.eristaEmcMaxClock) :
    TablesMoved .erista C ptr s.mem (Erista.memFreqMtcTable C ptr s).state.mem := by
  obtain ⟨-, hrate, hmem⟩ := Erista.memFreqMtcTable_run h hclock
  refine ⟨fun p hp k hk => ?_, hrate, fun w hw => ?_⟩
  · obtain ⟨i, hi, rfl⟩ := List.mem_map.1 hp
    have hi' : i < 9 := List.mem_range.1 hi
    have hsucc := mtcTable_succ Soc.erista.mtcTableWords ptr i
    have hlo := mtcTable_anti Soc.erista.mtcTableWords ptr (show i + 1 ≤ 9 by omega)
    have hhi := mtcTable_anti Soc.erista.mtcTableWords ptr (Nat.zero_le i)
    have hbelow : ¬ InTable .erista ptr 0 (mtcTable Soc.erista.mtcTableWords ptr (i + 1) + k) :=
      fun hin => by
        have hle := hin.1
        omega
    rw [hmem _ hbelow]
    refine (shifted_of_mem s.mem (show mtcTable Soc.erista.mtcTableWords ptr 9 ≤ _ by omega)
      (show _ < mtcTable Soc.erista.mtcTableWords ptr 0 by omega)).trans (congrArg s.mem ?_)
    show mtcTable Soc.erista.mtcTableWords ptr (i + 1) + k + Soc.erista.mtcTableWords =
      mtcTable Soc.erista.mtcTableWords ptr i + k
    omega
  · rw [hmem w (hw 0 (by decide))]
    refine shifted_of_not_mem s.mem ?_
    by_contra hin
    have hlo : mtcTable Soc.erista.mtcTableWords ptr 9 ≤ w :=
      Int.not_lt.1 fun hlt => hin (.inl hlt)
    have hhi : w < mtcTable Soc.erista.mtcTableWords ptr 0 :=
      Int.not_le.1 fun hle => hin (.inr hle)
    obtain ⟨i, hi, hin'⟩ := exists_inTable hlo hhi
    exact hw i (show i < 10 by omega) hin'

theorem Mariko.tablesMoved (h : TablesValid .mariko ptr s)
    (hclock : emcClkOSLimit < C.marikoEmcMaxClock) :
    TablesMoved .mariko C ptr s.mem (Mariko.memFreqMtcTable C ptr s).state.mem := by
  obtain ⟨-, hrate, hsecond, hrest⟩ := Mariko.memFreqMtcTable_run h hclock
  refine ⟨fun p hp k hk => ?_, hrate, fun w hw => hrest w (hw 0 (by decide)) (hw 1 (by decide))⟩
  simp only [movedTables, List.mem_cons, List.not_mem_nil, or_false] at hp
  rcases hp with rfl | rfl
  · exact hsecond k hk
  · have h₀ := mtcTable_anti Soc.mariko.mtcTableWords ptr (show 0 ≤ 1 by omega)
    have h₁ : mtcTable Soc.mariko.mtcTableWords ptr 2 + Soc.mariko.mtcTableWords =
        mtcTable Soc.mariko.mtcTableWords ptr 1 := mtcTable_succ _ _ _
    refine hrest _ (fun hin => ?_) fun hin => ?_
    · have hle := hin.1
      dsimp only at hle
      omega
    · have hle := hin.1
      dsimp only at hle
      omega

/-- A clock that is not raised is skipped once the tables are checked. -/
theorem memFreqMtcTable_skip {soc : Soc} (h : TablesValid soc ptr s)
    (hclock : emcMaxClock soc C ≤ emcClkOSLimit) :
    (memFreqMtcTable soc C ptr s).result = .ok () ∧ (memFreqMtcTable soc C ptr s).state = s := by
  cases soc with
  | erista =>
    have hskip : C.eristaEmcMaxClock ≤ emcClkOSLimit := hclock
    show (Erista.memFreqMtcTable C ptr s).result = _ ∧ (Erista.memFreqMtcTable C ptr s).state = s
    have hchain := Erista.yields_check h
    unfold Erista.memFreqMtcTable
    rw [hchain.bind_result, hchain.bind_state, if_pos hskip]
    exact ⟨rfl, rfl⟩
  | mariko =>
    have hskip : C.marikoEmcMaxClock ≤ emcClkOSLimit := hclock
    show (Mariko.memFreqMtcTable C ptr s).result = _ ∧ (Mariko.memFreqMtcTable C ptr s).state = s
    have hchain := Mariko.yields_check h
    unfold Mariko.memFreqMtcTable
    rw [hchain.bind_result, hchain.bind_state, if_pos hskip]
    exact ⟨rfl, rfl⟩

theorem memFreqMtcTable_raised {soc : Soc} (h : TablesValid soc ptr s)
    (hclock : emcClkOSLimit < emcMaxClock soc C) :
    (memFreqMtcTable soc C ptr s).result = .ok () ∧
      TablesMoved soc C ptr s.mem (memFreqMtcTable soc C ptr s).state.mem := by
  cases soc with
  | erista => exact ⟨(Erista.memFreqMtcTable_run h hclock).1, Erista.tablesMoved h hclock⟩
  | mariko => exact ⟨(Mariko.memFreqMtcTable_run h hclock).1, Mariko.tablesMoved h hclock⟩

/-- **Where the old tables are afterwards, and that nothing else changes.** -/
theorem memFreqMtcTable_moves (soc : Soc) (C : CustomizeTable) (ptr : Int) (s : Store Device)
    (h : TablesValid soc ptr s) :
    (memFreqMtcTable soc C ptr s).result = .ok () ∧
    (emcMaxClock soc C ≤ emcClkOSLimit → (memFreqMtcTable soc C ptr s).state = s) ∧
    (emcClkOSLimit < emcMaxClock soc C →
      TablesMoved soc C ptr s.mem (memFreqMtcTable soc C ptr s).state.mem) := by
  refine ⟨?_, fun hclock => (memFreqMtcTable_skip h hclock).2,
    fun hclock => (memFreqMtcTable_raised h hclock).2⟩
  by_cases hclock : emcMaxClock soc C ≤ emcClkOSLimit
  · exact (memFreqMtcTable_skip h hclock).1
  · exact (memFreqMtcTable_raised h (UInt32.not_le.1 hclock)).1

/-- Valid Erista tables, and the shipped clock. -/
theorem memFreqMtcTable_moves_eristaImage :
    TablesMoved .erista customizeTable 11104 (eristaImage 11104 0).mem
      (memFreqMtcTable .erista customizeTable 11104 (eristaImage 11104 0)).state.mem :=
  (memFreqMtcTable_moves .erista customizeTable 11104 (eristaImage 11104 0)
    (tablesValid_eristaImage 11104 0)).2.2 (by decide)

end SwitchOc
