import SwitchOcSuite.Loader.Bounds
import SwitchOcSuite.Loader.CustomAdjust
import SwitchOcSuite.Loader.Scan

/-!
# `mtcConf` on both SoCs

With `CUSTOM_ADJ_ALL` Mariko runs its custom adjustment on the table of the highest
rate.  Erista has one as well, which nothing calls, so its table keeps the timings
of the image.  The rounding of the doubles (`Timing`) would change both sides alike.

    holdsCustom_iff     where the new table holds the custom timings
-/

namespace SwitchOc

open Traced

/-! ## Erista's custom adjustment -/

namespace Erista

def presetGroups : List (PresetGroup Timing McReg) :=
  [{ preset := (·.ramTimingPresetOne)
     timings := [.emc_rc, .emc_ras, .emc_rp, .emc_trpab, .emc_rd_rcd, .emc_wr_rcd, .emc_pdex2mrr]
     arbs := [.mc_emem_arb_timing_rcd, .mc_emem_arb_timing_rc, .mc_emem_arb_timing_rp,
       .mc_emem_arb_timing_ras] },
   { preset := (·.ramTimingPresetTwo)
     timings := [.emc_tfaw, .emc_rrd]
     arbs := [.mc_emem_arb_timing_faw, .mc_emem_arb_timing_rrd] },
   { preset := (·.ramTimingPresetThree)
     timings := [.emc_r2p, .emc_w2p, .emc_rw2pden]
     arbs := [.mc_emem_arb_timing_rap2pre, .mc_emem_arb_timing_wap2pre] },
   { preset := (·.ramTimingPresetFour)
     timings := [.emc_rfc, .emc_rfcpb, .emc_txsr, .emc_txsrdll]
     arbs := [.mc_emem_arb_timing_rfcpb] },
   { preset := (·.ramTimingPresetFive)
     timings := [.emc_w2r]
     arbs := [.mc_emem_arb_timing_w2r] },
   { preset := (·.ramTimingPresetSix)
     timings := [.emc_refresh, .emc_pre_refresh_req_cnt, .emc_trefbw]
     arbs := [] },
   { preset := (·.ramTimingPresetSeven)
     timings := [.emc_r2w, .emc_w2r, .emc_w2p, .emc_rw2pden]
     arbs := [.mc_emem_arb_timing_wap2pre, .mc_emem_arb_timing_r2w, .mc_emem_arb_timing_w2r] }]

/-- All four copies of a timing. -/
def allRegs (t : Timing) : List Reg :=
  [.burst_regs t, .shadow_regs_ca_train t, .shadow_regs_quse_train t, .shadow_regs_rdwr_train t]

def groupRegs (g : PresetGroup Timing McReg) : List Reg := g.regs allRegs .burst_mc_regs

/-- The registers of the groups whose preset is set. -/
def selectedRegs (C : CustomizeTable) : List Reg :=
  selectedOf allRegs .burst_mc_regs presetGroups C

section

variable (C : CustomizeTable)

def timingValue (t : Timing) : UInt32 :=
  (((customAdjustTiming C).flatMap (·.2.1)).lookup t).getD 0

def arbValue (m : McReg) : UInt32 := (((customAdjustTiming C).flatMap (·.2.2)).lookup m).getD 0

/-- The value that `MemMtcTableCustomAdjust` writes to a timing or an arbiter timing. -/
def customValue : Reg → UInt32
  | .burst_regs t | .shadow_regs_ca_train t | .shadow_regs_quse_train t
  | .shadow_regs_rdwr_train t => timingValue C t
  | .burst_mc_regs m => arbValue C m

/-- Where two groups share a register they write the same value. -/
theorem customAdjustTiming_eq :
    customAdjustTiming C = presetGroups.map fun g =>
      (g.preset C, g.timings.map (fun t => (t, timingValue C t)),
        g.arbs.map fun m => (m, arbValue C m)) :=
  rfl

end

variable {C : CustomizeTable} {table w : Int} {r r' : Reg} {y : UInt32}

theorem regWord_injective (table : Int) : Function.Injective fun r : Reg => table + (r.off : Int) :=
  fun r r' h => off_injective (by simpa using h)

theorem writeParamAllReg_customValue (t : Timing) :
    writeParamAllReg table t (timingValue C t) =
      Prog.forEach (allRegs t) fun r => setReg table r (customValue C r) := by
  unfold allRegs
  rw [forEach_cons, forEach_cons, forEach_cons, forEach_cons, forEach_nil, prog_bind_unit]
  rfl

/-- The custom adjustment writes the selected registers, then packs the arbiter timings. -/
theorem memMtcTableCustomAdjust_eq (h : C.mtcConf = 1) (table : Int) :
    memMtcTableCustomAdjust C table =
      Prog.forEach (selectedRegs C) (fun r => setReg table r (customValue C r)) >>= fun _ =>
        writeTurnsAndCovers table := by
  unfold memMtcTableCustomAdjust selectedRegs
  rw [if_neg (by simp [h]), customAdjustTiming_eq,
    ← forEach_groups (setReg table) writeParamAllReg_customValue]
  rfl

def daTurns : Reg := .burst_mc_regs .mc_emem_arb_da_turns

def daCovers : Reg := .burst_mc_regs .mc_emem_arb_da_covers

theorem groupRegs_ne_da : ∀ g ∈ presetGroups, ∀ r ∈ groupRegs g, r ≠ daTurns ∧ r ≠ daCovers := by
  decide +kernel

theorem keepsWord_writeTurnsAndCovers (hturns : w ≠ table + daTurns.off)
    (hcovers : w ≠ table + daCovers.off) : KeepsWord w (writeTurnsAndCovers table) := by
  unfold writeTurnsAndCovers
  refine commits_bind (keepsWord_load _) fun _ => commits_bind (keepsWord_load _) fun _ => ?_
  refine commits_bind (keepsWord_store hturns _) fun _ => ?_
  refine commits_bind (keepsWord_load _) fun _ => commits_bind (keepsWord_load _) fun _ => ?_
  refine commits_bind (keepsWord_load _) fun _ => commits_bind (keepsWord_load _) fun _ => ?_
  exact commits_bind (keepsWord_load _) fun _ => keepsWord_store hcovers _

theorem puts_customAdjust (h : C.mtcConf = 1) (hr : r ∈ selectedRegs C) :
    Puts (table + r.off) (customValue C r) True (memMtcTableCustomAdjust C table) := by
  obtain ⟨g, hg, -, hrg⟩ := mem_selectedOf.1 hr
  obtain ⟨hturns, hcovers⟩ := groupRegs_ne_da g hg r hrg
  have hda : KeepsWord (table + r.off) (writeTurnsAndCovers table) :=
    keepsWord_writeTurnsAndCovers ((regWord_injective table).ne hturns)
      ((regWord_injective table).ne hcovers)
  rw [memMtcTableCustomAdjust_eq h]
  exact (puts_bind (puts_storeEach (regWord_injective table)) fun _ => hda.puts).mono
    fun _ => .inl hr

end Erista

/-! ## The tables in the image -/

def emcMaxClock : Soc → CustomizeTable → UInt32
  | .erista, C => C.eristaEmcMaxClock
  | .mariko, C => C.marikoEmcMaxClock

def memFreqMtcTable : Soc → CustomizeTable → Int → Patch Unit
  | .erista => Erista.memFreqMtcTable
  | .mariko => Mariko.memFreqMtcTable

def memMtcTableCustomAdjust : Soc → CustomizeTable → Int → Patch Unit
  | .erista => Erista.memMtcTableCustomAdjust
  | .mariko => Mariko.memMtcTableCustomAdjust

/-- The table of the highest rate, whose `rate_khz` is at `ptr`. -/
def maxTable (soc : Soc) (ptr : Int) : Int := mtcTable soc.mtcTableWords ptr 0

def khzList : Soc → List UInt32
  | .erista => Erista.khzList
  | .mariko => Mariko.khzList

def mtcTableRev : Soc → UInt32
  | .erista => Erista.mtcTableRev
  | .mariko => Mariko.mtcTableRev

/-- Every table below `ptr` has its rate and the revision. -/
def TablesValid (soc : Soc) (ptr : Int) (s : Store Device) : Prop :=
  ∀ p ∈ (khzList soc).zipIdx,
    s.mem (mtcTable soc.mtcTableWords ptr p.2 + offsetRateKhz) = p.1 ∧
    s.mem (mtcTable soc.mtcTableWords ptr p.2 + offsetRev) = mtcTableRev soc

/-- Offsets of the registers whose preset is set. -/
def selectedOffsets : Soc → CustomizeTable → List Nat
  | .erista, C => (Erista.selectedRegs C).map Erista.Reg.off
  | .mariko, C => (Mariko.selectedRegs C).map Mariko.Reg.off

/-- The new table holds what the custom adjustment computes for it. -/
def HoldsCustom (soc : Soc) (C : CustomizeTable) (ptr : Int) (s : Store Device) : Prop :=
  ∀ off ∈ selectedOffsets soc C,
    (memFreqMtcTable soc C ptr s).state.mem (maxTable soc ptr + (off : Nat)) =
      (memMtcTableCustomAdjust soc C (maxTable soc ptr) s).state.mem (maxTable soc ptr + off)

section

variable {C : CustomizeTable} {ptr : Int} {s : Store Device}

theorem yields_mtcChain {soc : Soc} (h : TablesValid soc ptr s) :
    Yields (Prog.forEach (khzList soc).zipIdx fun p =>
      checkMtcTable (mtcTable soc.mtcTableWords ptr p.2) p.1 (mtcTableRev soc)) s () := by
  refine ⟨(mtcChain_ok_iff _ _ _ _ _).2 fun p hp => ?_,
    (readOnly_forEach (fun p => readOnly_checkMtcTable _ _ _) _ s).1⟩
  rw [← mtcTable_rate, ← mtcTable_rev]
  exact h p hp

theorem Erista.yields_check (h : TablesValid .erista ptr s) :
    Yields (Prog.forEach Erista.khzList.zipIdx fun p =>
      checkMtcTable (Erista.tableList ptr p.2) p.1 Erista.mtcTableRev) s () :=
  yields_mtcChain h

theorem Mariko.yields_check (h : TablesValid .mariko ptr s) :
    Yields (Prog.forEach Mariko.khzList.zipIdx fun p =>
      checkMtcTable (Mariko.tableList ptr p.2) p.1 Mariko.mtcTableRev) s () :=
  yields_mtcChain h

/-! ## What each SoC leaves -/

theorem Erista.lt_off (r : Erista.Reg) : 16 < r.off := by
  cases r <;> simp only [Erista.Reg.off] <;> omega

theorem Mariko.lt_off (r : Mariko.Reg) : 16 < r.off := by
  cases r <;> simp only [Mariko.Reg.off] <;> omega

/-- Erista keeps every register: the tables are copied downwards only. -/
theorem Erista.memFreqMtcTable_keeps (hconf : C.mtcConf = 1)
    (hclock : emcClkOSLimit < C.eristaEmcMaxClock) (htables : TablesValid .erista ptr s)
    (r : Erista.Reg) :
    (Erista.memFreqMtcTable C ptr s).state.mem (maxTable .erista ptr + r.off) =
      s.mem (maxTable .erista ptr + r.off) := by
  have hoff := Erista.lt_off r
  have hword : maxTable .erista ptr + r.off = ptr - 16 + r.off := by
    unfold maxTable mtcTable offsetRateKhz
    omega
  unfold Erista.memFreqMtcTable
  rw [(Erista.yields_check htables).bind_state, if_neg (UInt32.not_le.2 hclock)]
  refine (show KeepsWord (maxTable .erista ptr + r.off) _ from ?_).keeps s
  refine commits_bind (keepsWord_forEach fun i hi => keepsWord_copyBlock (.inr ?_)) fun _ => ?_
  · have hpos : (1 : Int) ≤ i := by
      simp only [List.mem_cons, List.not_mem_nil, or_false] at hi
      omega
    have hW : Erista.mtcTableWords = 1232 := rfl
    rw [hword]
    unfold Erista.tableList mtcTable offsetRateKhz
    rw [hW]
    omega
  · have hauto : Erista.memMtcTableAutoAdjust C (Erista.tableList ptr 0) = pure () :=
      if_pos (by simp [hconf])
    rw [hauto]
    exact commits_bind (commits_pure ()) fun _ => keepsWord_store (by omega) _

theorem groupRegs_ne_div : ∀ g ∈ Mariko.presetGroups, ∀ r ∈ Mariko.groupRegs g,
    r ≠ .pllmb_divm ∧ r ≠ .pllmb_divn := by
  decide +kernel

/-- Mariko puts the custom values. -/
theorem Mariko.memFreqMtcTable_puts (hconf : C.mtcConf = 1)
    (hclock : emcClkOSLimit < C.marikoEmcMaxClock) (htables : TablesValid .mariko ptr s)
    {r : Mariko.Reg} (hr : r ∈ Mariko.selectedRegs C) :
    (Mariko.memFreqMtcTable C ptr s).state.mem (maxTable .mariko ptr + r.off) =
      Mariko.autoValue C r := by
  have hoff := Mariko.lt_off r
  have hword : maxTable .mariko ptr + r.off = ptr - 16 + r.off := by
    unfold maxTable mtcTable offsetRateKhz
    omega
  have hW : Mariko.mtcTableWords = 1075 := rfl
  unfold Mariko.memFreqMtcTable
  rw [(Mariko.yields_check htables).bind_state, if_neg (UInt32.not_le.2 hclock), loadBlock_bind_run, after_state]
  have hauto : Mariko.memMtcTableAutoAdjust C (Mariko.tableList ptr 0) (Mariko.tableList ptr 1) =
      pure () := if_pos (by simp [hconf])
  have hdiv : KeepsWord (maxTable .mariko ptr + r.off)
      (Mariko.memMtcPllmbDivisor C (Mariko.tableList ptr 0)) := by
    obtain ⟨g, hg, -, hrg⟩ := mem_selectedOf.1 hr
    have hne := groupRegs_ne_div g hg r hrg
    exact commits_bind (Mariko.keepsWord_setReg (Mariko.word_ne hne.1)) fun _ =>
      Mariko.keepsWord_setReg (Mariko.word_ne hne.2)
  have hcopy : KeepsWord (maxTable .mariko ptr + r.off)
      (storeBlock (Mariko.tableList ptr 1)
        (readBlock s.mem (Mariko.tableList ptr 0) Mariko.mtcTableWords) : Patch Unit) := by
    refine keepsWord_storeBlock (.inr ?_)
    rw [length_readBlock, hword, hW]
    unfold Mariko.tableList mtcTable offsetRateKhz
    rw [hW]
    omega
  have hrate : KeepsWord (maxTable .mariko ptr + r.off) (store ptr C.marikoEmcMaxClock : Patch Unit) :=
    keepsWord_store (by omega) _
  rw [hauto]
  refine Puts.state ((puts_bind (puts_pure ()) fun _ =>
    puts_bind (Mariko.puts_customAdjust hconf hr) fun _ => puts_bind hdiv.puts fun _ =>
      puts_bind hcopy.puts fun _ => hrate.puts).mono fun _ => ?_) trivial s
  exact .inr (.inl trivial)

/-! ## Both SoCs -/

theorem holdsCustom_mariko (hconf : C.mtcConf = 1) (hclock : emcClkOSLimit < C.marikoEmcMaxClock)
    (htables : TablesValid .mariko ptr s) : HoldsCustom .mariko C ptr s := by
  intro off hoff
  obtain ⟨r, hr, rfl⟩ := List.mem_map.1 hoff
  exact (Mariko.memFreqMtcTable_puts hconf hclock htables hr).trans
    ((Mariko.puts_customAdjust hconf hr).state trivial s).symm

theorem holdsCustom_erista_iff (hconf : C.mtcConf = 1)
    (hclock : emcClkOSLimit < C.eristaEmcMaxClock) (htables : TablesValid .erista ptr s) :
    HoldsCustom .erista C ptr s ↔
      ∀ r ∈ Erista.selectedRegs C,
        s.mem (maxTable .erista ptr + r.off) = Erista.customValue C r := by
  unfold HoldsCustom selectedOffsets
  rw [List.forall_mem_map]
  refine forall_congr' fun r => forall_congr' fun hr => ?_
  have hcustom : (Erista.memMtcTableCustomAdjust C (maxTable .erista ptr) s).state.mem
      (maxTable .erista ptr + r.off) = Erista.customValue C r :=
    (Erista.puts_customAdjust hconf hr).state trivial s
  have hkept := Erista.memFreqMtcTable_keeps hconf hclock htables r
  show (Erista.memFreqMtcTable C ptr s).state.mem _ =
    (Erista.memMtcTableCustomAdjust C (maxTable .erista ptr) s).state.mem _ ↔ _
  rw [hcustom, hkept]

end

def presets (C : CustomizeTable) : List UInt32 :=
  [C.ramTimingPresetOne, C.ramTimingPresetTwo, C.ramTimingPresetThree, C.ramTimingPresetFour,
    C.ramTimingPresetFive, C.ramTimingPresetSix, C.ramTimingPresetSeven]

theorem presets_eq (C : CustomizeTable) : presets C = Erista.presetGroups.map (·.preset C) :=
  rfl

/-- An image with valid Erista tables, and `fill` in every word after the highest rate. -/
def eristaImage (ptr : Int) (fill : UInt32) : Store Device where
  mem := fun w =>
    if ptr < w then fill
    else if (ptr - w) % 1232 = 0 then Erista.khzList.getD ((ptr - w) / 1232).toNat 0
    else Erista.mtcTableRev
  dev := ⟨true, fun _ => 0, fun _ => 0⟩

theorem tablesValid_eristaImage (ptr : Int) (fill : UInt32) :
    TablesValid .erista ptr (eristaImage ptr fill) := by
  rintro ⟨khz, i⟩ hp
  have hget : Erista.khzList[i]? = some khz := List.mem_zipIdx_iff_getElem?.1 hp
  have hW : Soc.erista.mtcTableWords = 1232 := rfl
  rw [mtcTable_rate, mtcTable_rev, hW]
  constructor
  · show (if ptr < ptr - i * (1232 : Nat) then fill else _) = khz
    rw [if_neg (by omega), if_pos (by omega), show (ptr - (ptr - i * (1232 : Nat))) / 1232 = (i : Int)
      by omega, Int.toNat_natCast, List.getD_eq_getElem?_getD, hget]
    rfl
  · show (if ptr < ptr - 16 - i * (1232 : Nat) then fill else _) = Erista.mtcTableRev
    rw [if_neg (by omega), if_neg (by omega)]

/-- Every preset that is set covers a register. -/
theorem exists_selectedReg {C : CustomizeTable} {p : UInt32} (hp : p ∈ presets C) (h : p ≠ 0) :
    ∃ r, r ∈ Erista.selectedRegs C := by
  have hgroup : ∀ g ∈ Erista.presetGroups, ∃ t ∈ g.timings, Erista.Reg.burst_regs t ∈
      Erista.groupRegs g := by
    decide +kernel
  rw [presets_eq] at hp
  obtain ⟨g, hg, rfl⟩ := List.mem_map.1 hp
  obtain ⟨t, -, ht⟩ := hgroup g hg
  exact ⟨_, mem_selectedOf.2 ⟨g, hg, h, ht⟩⟩

/-- **The new table holds the custom timings on Mariko, and on Erista exactly where they
were there before**: on every image only if no preset is set. -/
theorem holdsCustom_iff (soc : Soc) (C : CustomizeTable) (ptr : Int) (hconf : C.mtcConf = 1)
    (hclock : emcClkOSLimit < emcMaxClock soc C) :
    (∀ s, TablesValid soc ptr s → (HoldsCustom soc C ptr s ↔
      (soc = .erista → ∀ r ∈ Erista.selectedRegs C,
        s.mem (maxTable .erista ptr + r.off) = Erista.customValue C r))) ∧
    ((∀ s, TablesValid soc ptr s → HoldsCustom soc C ptr s) ↔
      (soc = .erista → ∀ p ∈ presets C, p = 0)) := by
  cases soc with
  | mariko =>
    have hall : ∀ s, TablesValid .mariko ptr s → HoldsCustom .mariko C ptr s := fun s htables =>
      holdsCustom_mariko hconf hclock htables
    have hne : Soc.mariko ≠ .erista := by decide
    exact ⟨fun s htables => ⟨fun _ h => absurd h hne, fun _ => hall s htables⟩,
      fun _ h => absurd h hne, fun _ => hall⟩
  | erista =>
    have hiff : ∀ s, TablesValid .erista ptr s → (HoldsCustom .erista C ptr s ↔
        ∀ r ∈ Erista.selectedRegs C,
          s.mem (maxTable .erista ptr + r.off) = Erista.customValue C r) := fun s htables =>
      holdsCustom_erista_iff hconf hclock htables
    refine ⟨fun s htables => by rw [hiff s htables]; simp, fun h _ p hp => ?_, fun h s htables => ?_⟩
    · by_contra hne
      obtain ⟨r, hr⟩ := exists_selectedReg hp hne
      have hvalid := tablesValid_eristaImage ptr (Erista.customValue C r + 1)
      have hheld := (hiff _ hvalid).1 (h _ hvalid) r hr
      have hoff := Erista.lt_off r
      have hfill : (eristaImage ptr (Erista.customValue C r + 1)).mem
          (maxTable .erista ptr + r.off) = Erista.customValue C r + 1 := by
        refine if_pos ?_
        unfold maxTable mtcTable offsetRateKhz
        omega
      rw [hfill] at hheld
      exact absurd hheld (by simp)
    · rw [hiff s htables]
      intro r hr
      obtain ⟨g, hg, hset, -⟩ := mem_selectedOf.1 hr
      exact absurd (h rfl _ (presets_eq C ▸ List.mem_map_of_mem hg)) hset

/-! ## Erista's table is left alone -/

/-- The shipped configuration with the first preset, for the custom adjustment. -/
def presetOneTable : CustomizeTable :=
  { customizeTable with mtcConf := 1, ramTimingPresetOne := 1 }

theorem holdsCustom_iff_presetOneTable :
    (∀ s, TablesValid .erista 11104 s → (HoldsCustom .erista presetOneTable 11104 s ↔
      (Soc.erista = .erista → ∀ r ∈ Erista.selectedRegs presetOneTable,
        s.mem (maxTable .erista 11104 + r.off) = Erista.customValue presetOneTable r))) ∧
    ((∀ s, TablesValid .erista 11104 s → HoldsCustom .erista presetOneTable 11104 s) ↔
      (Soc.erista = .erista → ∀ p ∈ presets presetOneTable, p = 0)) :=
  holdsCustom_iff .erista presetOneTable 11104 rfl (by decide)

/-- `emc_rc` should be 112 cycles, and stays 0. -/
theorem customAdjust_missing :
    ¬ ∀ (soc : Soc) (C : CustomizeTable) (ptr : Int) (s : Store Device),
      safetyCheck C = .ok () → PresetsInRange C → C.mtcConf = 1 →
      emcClkOSLimit < emcMaxClock soc C → TablesValid soc ptr s → HoldsCustom soc C ptr s := by
  intro h
  have hsafe : safetyCheck presetOneTable = .ok () := safetyCheck_customizeTable
  have hpresets : PresetsInRange presetOneTable := by constructor <;> decide
  have hvalid := tablesValid_eristaImage 11104 0
  have hholds := h .erista presetOneTable 11104 (eristaImage 11104 0) hsafe
    hpresets rfl (by decide) hvalid
  have hrc : Erista.Reg.burst_regs .emc_rc ∈ Erista.selectedRegs presetOneTable := by decide +kernel
  have hheld := (holdsCustom_erista_iff rfl (by decide) hvalid).1 hholds _ hrc
  have hvalue : Erista.customValue presetOneTable (.burst_regs .emc_rc) = 112 := by decide +kernel
  rw [hvalue] at hheld
  exact absurd hheld (by decide)

end SwitchOc
