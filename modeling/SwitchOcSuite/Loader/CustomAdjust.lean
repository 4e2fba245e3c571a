import Mathlib.Tactic.Common
import SwitchOcSuite.Lib.Puts
import SwitchOcSuite.Loader.Atomic

/-!
# Custom timing adjustment (`MemMtcTableCustomAdjust`)

A preset covers a group of registers.  On Mariko what the custom adjustment writes
is the list of the automatic one, cut down to the groups whose preset is set
(`customAdjustTiming_eq`); where groups three, five and seven share a register
they write the same value.  The same cycle counts stand on both sides, so the rounding
of the doubles (`Timing`) makes no difference here.

    customAdjust_restricts_autoAdjust     the table after both adjustments
-/

namespace SwitchOc

open Traced

/-- What a RAM preset covers: timings, in every copy, and arbiter timings. -/
structure PresetGroup (Timing McReg : Type) where
  preset : CustomizeTable → UInt32
  timings : List Timing
  arbs : List McReg

/-! ## One preset after the other -/

section

variable {Timing McReg Reg : Type} (copies : Timing → List Reg) (arb : McReg → Reg)

def PresetGroup.regs (g : PresetGroup Timing McReg) : List Reg :=
  g.timings.flatMap copies ++ g.arbs.map arb

/-- The registers of the groups whose preset is set. -/
def selectedOf (groups : List (PresetGroup Timing McReg)) (C : CustomizeTable) : List Reg :=
  (groups.filter fun g => g.preset C ≠ 0).flatMap (PresetGroup.regs copies arb)

variable {copies arb} {groups : List (PresetGroup Timing McReg)} {C : CustomizeTable} {r : Reg}

theorem mem_selectedOf :
    r ∈ selectedOf copies arb groups C ↔
      ∃ g ∈ groups, g.preset C ≠ 0 ∧ r ∈ g.regs copies arb := by
  unfold selectedOf
  simp [and_assoc]

/-- Writing the groups that are set is writing their registers, one by one. -/
theorem forEach_groups (set : Reg → UInt32 → Patch Unit) {write : Timing → UInt32 → Patch Unit}
    {timing : Timing → UInt32} {value : Reg → UInt32}
    (hwrite : ∀ t, write t (timing t) = Prog.forEach (copies t) fun r => set r (value r)) :
    (Prog.forEach (groups.map fun g => (g.preset C, g.timings.map (fun t => (t, timing t)),
        g.arbs.map fun m => (m, value (arb m)))) fun p =>
      if p.1 ≠ 0 then do
        Prog.forEach p.2.1 fun q => write q.1 q.2
        Prog.forEach p.2.2 fun q => set (arb q.1) q.2
      else pure ()) =
      Prog.forEach (selectedOf copies arb groups C) fun r => set r (value r) := by
  unfold selectedOf PresetGroup.regs
  rw [forEach_map, forEach_flatMap, forEach_filter]
  refine forEach_congr fun g _ => ?_
  rw [forEach_append, forEach_map, forEach_map, forEach_map, forEach_flatMap]
  simp only [hwrite]

end

namespace Mariko

/-! ## Groups of registers -/

def presetGroups : List (PresetGroup Timing McReg) :=
  [{ preset := (·.ramTimingPresetOne)
     timings := [.emc_rc, .emc_ras, .emc_rp, .emc_trpab, .emc_rd_rcd, .emc_wr_rcd, .emc_pdex2mrr]
     arbs := [.mc_emem_arb_timing_rcd, .mc_emem_arb_timing_rc, .mc_emem_arb_timing_rp,
       .mc_emem_arb_timing_ras] },
   { preset := (·.ramTimingPresetTwo)
     timings := [.emc_tfaw, .emc_rrd]
     arbs := [.mc_emem_arb_timing_faw, .mc_emem_arb_timing_rrd] },
   { preset := (·.ramTimingPresetThree)
     timings := [.emc_r2p, .emc_w2p, .emc_tratm, .emc_twatm, .emc_rw2pden]
     arbs := [.mc_emem_arb_timing_rap2pre, .mc_emem_arb_timing_wap2pre] },
   { preset := (·.ramTimingPresetFour)
     timings := [.emc_rfc, .emc_rfcpb, .emc_txsr, .emc_txsrdll]
     arbs := [.mc_emem_arb_timing_rfcpb] },
   { preset := (·.ramTimingPresetFive)
     timings := [.emc_w2r]
     arbs := [.mc_emem_arb_timing_w2r] },
   { preset := (·.ramTimingPresetSix)
     timings := [.emc_refresh, .emc_pre_refresh_req_cnt, .emc_trefbw]
     arbs := [] },
   { preset := (·.ramTimingPresetSeven)
     timings := [.emc_r2w, .emc_w2r, .emc_w2p, .emc_trtm, .emc_twtm, .emc_tratm, .emc_twatm,
       .emc_rw2pden]
     arbs := [.mc_emem_arb_timing_wap2pre, .mc_emem_arb_timing_r2w, .mc_emem_arb_timing_w2r] }]

/-- `burst_regs` and both shadow copies of a timing. -/
def allRegs (t : Timing) : List Reg :=
  [.burst_regs t, .shadow_regs_ca_train t, .shadow_regs_rdwr_train t]

def groupRegs (g : PresetGroup Timing McReg) : List Reg := g.regs allRegs .burst_mc_regs

/-- The registers of the groups whose preset is set. -/
def selectedRegs (C : CustomizeTable) : List Reg :=
  selectedOf allRegs .burst_mc_regs presetGroups C

/-! ## What the automatic adjustment writes -/

section

variable (C : CustomizeTable)

def timingValue (t : Timing) : UInt32 := ((autoAdjustTiming C).lookup t).getD 0

def arbValue (m : McReg) : UInt32 :=
  ((autoAdjustArb C ++ autoAdjustArbTurn C).lookup m).getD 0

/-- The value that `MemMtcTableAutoAdjust` writes to a timing or an arbiter timing. -/
def autoValue : Reg → UInt32
  | .burst_regs t | .shadow_regs_ca_train t | .shadow_regs_rdwr_train t => timingValue C t
  | .burst_mc_regs m => arbValue C m
  | _ => 0

/-- **The custom list is the automatic one, group by group.** -/
theorem customAdjustTiming_eq :
    customAdjustTiming C = presetGroups.map fun g =>
      (g.preset C, g.timings.map (fun t => (t, timingValue C t)),
        g.arbs.map fun m => (m, arbValue C m)) :=
  rfl

/-- The arbiter timings, in the order they are written in. -/
def arbRegs : List McReg :=
  [.mc_emem_arb_cfg, .mc_emem_arb_timing_rcd, .mc_emem_arb_timing_rp, .mc_emem_arb_timing_rc,
    .mc_emem_arb_timing_ras, .mc_emem_arb_timing_faw, .mc_emem_arb_timing_rrd,
    .mc_emem_arb_timing_rap2pre, .mc_emem_arb_timing_wap2pre]

/-- Those after `mc_emem_arb_timing_r2r`. -/
def arbTurnRegs : List McReg :=
  [.mc_emem_arb_timing_r2w, .mc_emem_arb_timing_w2r, .mc_emem_arb_timing_rfcpb]

theorem autoAdjustArb_eq : autoAdjustArb C = arbRegs.map fun m => (m, arbValue C m) :=
  rfl

theorem autoAdjustArbTurn_eq :
    autoAdjustArbTurn C = arbTurnRegs.map fun m => (m, arbValue C m) :=
  rfl

theorem autoAdjustTiming_eq :
    autoAdjustTiming C = Timing.all.dropLast.map fun t => (t, timingValue C t) :=
  rfl

end

/-! ## Words of a table -/

section

variable {C : CustomizeTable} {table w : Int} {r r' : Reg} {y : UInt32}

theorem regWord_injective (table : Int) : Function.Injective fun r : Reg => table + (r.off : Int) :=
  fun r r' h => off_injective (by simpa using h)

theorem word_ne (h : r ≠ r') : table + r.off ≠ table + (r'.off : Int) :=
  (regWord_injective table).ne h

theorem keepsWord_getReg : KeepsWord w (getReg table r) :=
  keepsWord_load _

theorem keepsWord_setReg (h : w ≠ table + r.off) : KeepsWord w (setReg table r y) :=
  keepsWord_store h y

theorem keepsWord_modifyReg (h : w ≠ table + r.off) (f : UInt32 → UInt32) :
    KeepsWord w (modifyReg table r f) :=
  keepsWord_modify h f

theorem writeParamAllReg_eq (t : Timing) :
    writeParamAllReg table t y = Prog.forEach (allRegs t) fun r => setReg table r y := by
  unfold allRegs
  rw [forEach_cons, forEach_cons, forEach_cons, forEach_nil, prog_bind_unit]
  rfl

/-- A timing goes to every copy of it. -/
theorem writeParamAllReg_autoValue (t : Timing) :
    writeParamAllReg table t (timingValue C t) =
      Prog.forEach (allRegs t) fun r => setReg table r (autoValue C r) := by
  rw [writeParamAllReg_eq]
  refine forEach_congr fun r hr => ?_
  simp only [allRegs, List.mem_cons, List.not_mem_nil, or_false] at hr
  rcases hr with rfl | rfl | rfl <;> rfl

theorem puts_setRegs (rs : List Reg) :
    Puts (table + r.off) (autoValue C r) (r ∈ rs)
      (Prog.forEach rs fun r => setReg table r (autoValue C r)) :=
  puts_storeEach (regWord_injective table)

theorem puts_timings (ts : List Timing) :
    Puts (table + r.off) (autoValue C r) (r ∈ ts.flatMap allRegs)
      (Prog.forEach (ts.map fun t => (t, timingValue C t)) fun p =>
        writeParamAllReg table p.1 p.2) := by
  rw [forEach_map]
  simp only [writeParamAllReg_autoValue]
  rw [← forEach_flatMap]
  exact puts_setRegs _

theorem puts_arbs (ms : List McReg) :
    Puts (table + r.off) (autoValue C r) (r ∈ ms.map Reg.burst_mc_regs)
      (Prog.forEach (ms.map fun m => (m, arbValue C m)) fun p =>
        setReg table (.burst_mc_regs p.1) p.2) := by
  have h : Puts (table + r.off) (autoValue C r) (r ∈ ms.map Reg.burst_mc_regs)
      (Prog.forEach (ms.map .burst_mc_regs) fun r => setReg table r (autoValue C r)) :=
    puts_setRegs _
  rw [forEach_map] at h ⊢
  exact h

/-- The registers of `DA_TURNS` and `DA_COVERS`. -/
def daTurns : Reg := .burst_mc_regs .mc_emem_arb_da_turns

def daCovers : Reg := .burst_mc_regs .mc_emem_arb_da_covers

theorem keepsWord_writeTurnsAndCovers (hturns : w ≠ table + daTurns.off)
    (hcovers : w ≠ table + daCovers.off) : KeepsWord w (writeTurnsAndCovers table) := by
  unfold writeTurnsAndCovers
  refine commits_bind keepsWord_getReg fun _ => commits_bind keepsWord_getReg fun _ => ?_
  refine commits_bind (keepsWord_setReg hturns) fun _ => ?_
  refine commits_bind keepsWord_getReg fun _ => commits_bind keepsWord_getReg fun _ => ?_
  refine commits_bind keepsWord_getReg fun _ => commits_bind keepsWord_getReg fun _ => ?_
  exact commits_bind keepsWord_getReg fun _ => keepsWord_setReg hcovers

/-! ## Parts of the automatic adjustment -/

/-- Timings and arbiter timings. -/
def adjustBurst (C : CustomizeTable) (table ref : Int) : Patch Unit := do
  Prog.forEach (autoAdjustTiming C) fun p => writeParamAllReg table p.1 p.2
  Prog.forEach [Reg.burst_regs, .shadow_regs_ca_train, .shadow_regs_rdwr_train]
    (adjustDynSelfRef C table ref)
  Prog.forEach (autoAdjustArb C) fun p => setReg table (.burst_mc_regs p.1) p.2
  let rext ← getReg table (.burst_regs .emc_rext)
  setReg table (.burst_mc_regs .mc_emem_arb_timing_r2r) (arb rext (-1 + dbl mcArbSfa))
  Prog.forEach (autoAdjustArbTurn C) fun p => setReg table (.burst_mc_regs p.1) p.2
  writeTurnsAndCovers table

def misc0Reg : Reg := .burst_mc_regs .mc_emem_arb_misc0

def adjustMisc0 (C : CustomizeTable) (table : Int) : Patch Unit := do
  let rc ← getReg table (.burst_mc_regs .mc_emem_arb_timing_rc)
  modifyReg table misc0Reg (misc0 C rc)

def adjustScale (C : CustomizeTable) (table : Int) : Patch Unit :=
  Prog.forEach (laScaleUpdates C) fun p => modifyReg table (.la_scale_regs p.1) p.2

/-- Spread spectrum, DRAM timings and `emc_cfg_2`. -/
def adjustRest (C : CustomizeTable) (table : Int) : Patch Unit :=
  Prog.forEach [(Reg.pllm_ss_ctrl1, 0x0b55fe01), (.pllm_ss_ctrl2, 0x10170b55),
    (.pllmb_ss_ctrl1, 0x0b55fe01), (.pllmb_ss_ctrl2, 0x10170b55),
    (.dram_timings_t_rp, tRPpb C), (.dram_timings_t_rfc, tRFCab C),
    (.emc_cfg_2, 0x0011083d)] fun p => setReg table p.1 p.2

theorem memMtcTableAutoAdjust_eq (h : C.mtcConf = 0) (table ref : Int) :
    memMtcTableAutoAdjust C table ref =
      adjustBurst C table ref >>= fun _ => adjustMisc0 C table >>= fun _ =>
        adjustScale C table >>= fun _ => adjustRest C table := by
  unfold memMtcTableAutoAdjust adjustBurst adjustMisc0
  rw [if_neg (by simp [h])]
  simp only [prog_bind_assoc]
  rfl

/-- What the first part writes. -/
def burstRegs : List Reg :=
  Timing.all.flatMap allRegs ++ (McReg.all.filter (· ≠ .mc_emem_arb_misc0)).map .burst_mc_regs

/-- What the last part writes. -/
def restRegs : List Reg :=
  [.pllm_ss_ctrl1, .pllm_ss_ctrl2, .pllmb_ss_ctrl1, .pllmb_ss_ctrl2, .dram_timings_t_rp,
    .dram_timings_t_rfc, .emc_cfg_2]

theorem keepsWord_writeParamAllReg {t : Timing} (hw : ∀ r ∈ allRegs t, w ≠ table + r.off) :
    KeepsWord w (writeParamAllReg table t y) := by
  rw [writeParamAllReg_eq]
  exact keepsWord_forEach fun r hr => keepsWord_setReg (hw r hr)

theorem keepsWord_adjustDynSelfRef {ref : Int} {field : Timing → Reg}
    (hw : w ≠ table + (field .emc_dyn_self_ref_control).off) :
    KeepsWord w (adjustDynSelfRef C table ref field) :=
  commits_bind keepsWord_getReg fun _ => commits_bind keepsWord_getReg fun _ => keepsWord_setReg hw

theorem keepsWord_adjustBurst {ref : Int} (hw : ∀ r ∈ burstRegs, w ≠ table + r.off) :
    KeepsWord w (adjustBurst C table ref) := by
  have htiming : ∀ t, ∀ r ∈ allRegs t, w ≠ table + r.off := fun t r hr =>
    hw r (List.mem_append_left _ (List.mem_flatMap.2 ⟨t, Timing.mem_all t, hr⟩))
  have harb : ∀ m, m ≠ .mc_emem_arb_misc0 → w ≠ table + (Reg.burst_mc_regs m).off := fun m hm =>
    hw _ (List.mem_append_right _ (List.mem_map_of_mem
      (List.mem_filter.2 ⟨McReg.mem_all m, decide_eq_true hm⟩)))
  have hmarb : ∀ m ∈ arbRegs ++ arbTurnRegs, m ≠ .mc_emem_arb_misc0 := by decide
  unfold adjustBurst
  rw [autoAdjustArb_eq, autoAdjustArbTurn_eq, forEach_map, forEach_map]
  refine commits_bind (keepsWord_forEach fun p _ => keepsWord_writeParamAllReg (htiming p.1))
    fun _ => commits_bind (keepsWord_forEach fun field hfield => ?_) fun _ => ?_
  · simp only [List.mem_cons, List.not_mem_nil, or_false] at hfield
    refine keepsWord_adjustDynSelfRef (htiming .emc_dyn_self_ref_control _ ?_)
    rcases hfield with rfl | rfl | rfl <;> simp [allRegs]
  · refine commits_bind (keepsWord_forEach fun m hm => keepsWord_setReg (harb m ?_)) fun _ => ?_
    · exact hmarb m (List.mem_append_left _ hm)
    refine commits_bind keepsWord_getReg fun _ =>
      commits_bind (keepsWord_setReg (harb _ (by decide))) fun _ => ?_
    refine commits_bind (keepsWord_forEach fun m hm => keepsWord_setReg (harb m ?_)) fun _ => ?_
    · exact hmarb m (List.mem_append_right _ hm)
    exact keepsWord_writeTurnsAndCovers (harb _ (by decide)) (harb _ (by decide))

theorem keepsWord_adjustMisc0 (hw : w ≠ table + misc0Reg.off) :
    KeepsWord w (adjustMisc0 C table) :=
  commits_bind keepsWord_getReg fun _ => keepsWord_modifyReg hw _

theorem keepsWord_adjustScale (hw : ∀ r, w ≠ table + (Reg.la_scale_regs r).off) :
    KeepsWord w (adjustScale C table) :=
  keepsWord_forEach fun p _ => keepsWord_modifyReg (hw p.1) p.2

theorem keepsWord_adjustRest (hw : ∀ r ∈ restRegs, w ≠ table + r.off) :
    KeepsWord w (adjustRest C table) := by
  refine keepsWord_forEach fun p hp => keepsWord_setReg (hw p.1 ?_)
  have hkey := List.mem_map_of_mem (f := Prod.fst) hp
  exact hkey

/-- Every word that is no register of the table is kept. -/
theorem keepsWord_autoAdjust {ref : Int} (hw : ∀ r : Reg, w ≠ table + r.off) :
    KeepsWord w (memMtcTableAutoAdjust C table ref) := by
  by_cases h : C.mtcConf = 0
  · rw [memMtcTableAutoAdjust_eq h]
    exact commits_bind (keepsWord_adjustBurst fun r _ => hw r) fun _ =>
      commits_bind (keepsWord_adjustMisc0 (hw _)) fun _ =>
        commits_bind (keepsWord_adjustScale fun r => hw _) fun _ =>
          keepsWord_adjustRest fun r _ => hw r
  · unfold memMtcTableAutoAdjust
    rw [if_pos h]
    exact commits_pure ()

/-! ## The two adjustments -/

/-- What the automatic adjustment writes beside timings and arbiter timings. -/
def otherRegs : List Reg :=
  [.burst_regs .emc_dyn_self_ref_control, .shadow_regs_ca_train .emc_dyn_self_ref_control,
    .shadow_regs_rdwr_train .emc_dyn_self_ref_control, .burst_mc_regs .mc_emem_arb_timing_r2r,
    daTurns, daCovers, .burst_mc_regs .mc_emem_arb_misc0] ++
  LaReg.all.map .la_scale_regs ++
  [.pllm_ss_ctrl1, .pllm_ss_ctrl2, .pllmb_ss_ctrl1, .pllmb_ss_ctrl2, .dram_timings_t_rp,
    .dram_timings_t_rfc, .emc_cfg_2]

theorem groupRegs_not_other : ∀ g ∈ presetGroups, ∀ r ∈ groupRegs g, r ∉ otherRegs := by
  decide +kernel

theorem groupRegs_subset_auto : ∀ g ∈ presetGroups, ∀ r ∈ groupRegs g,
    r ∈ Timing.all.dropLast.flatMap allRegs ∨ r ∈ arbRegs.map Reg.burst_mc_regs ∨
      r ∈ arbTurnRegs.map Reg.burst_mc_regs := by
  decide +kernel

theorem ne_otherRegs {g : PresetGroup Timing McReg} (hg : g ∈ presetGroups) (hr : r ∈ groupRegs g)
    (hr' : r' ∈ otherRegs) : table + r.off ≠ table + (r'.off : Int) :=
  word_ne fun h => groupRegs_not_other g hg r hr (h ▸ hr')

/-- The custom adjustment writes the selected registers, then packs the arbiter timings. -/
theorem memMtcTableCustomAdjust_eq (h : C.mtcConf = 1) (table : Int) :
    memMtcTableCustomAdjust C table =
      Prog.forEach (selectedRegs C) (fun r => setReg table r (autoValue C r)) >>= fun _ =>
        writeTurnsAndCovers table := by
  unfold memMtcTableCustomAdjust selectedRegs
  rw [if_neg (by simp [h]), customAdjustTiming_eq,
    ← forEach_groups (setReg table) writeParamAllReg_autoValue]
  rfl

/-- **Custom**: the selected registers get the values of the automatic adjustment. -/
theorem puts_customAdjust (h : C.mtcConf = 1) (hr : r ∈ selectedRegs C) :
    Puts (table + r.off) (autoValue C r) True (memMtcTableCustomAdjust C table) := by
  obtain ⟨g, hg, -, hrg⟩ := mem_selectedOf.1 hr
  have hda : KeepsWord (table + r.off) (writeTurnsAndCovers table) :=
    keepsWord_writeTurnsAndCovers (ne_otherRegs hg hrg (by decide)) (ne_otherRegs hg hrg (by decide))
  rw [memMtcTableCustomAdjust_eq h]
  exact (puts_bind (puts_setRegs _) fun _ => hda.puts).mono fun _ => .inl hr

/-- **Custom**: all other words are kept. -/
theorem keepsWord_customAdjust (h : C.mtcConf = 1)
    (hw : ∀ r ∈ selectedRegs C ++ [daTurns, daCovers], w ≠ table + r.off) :
    KeepsWord w (memMtcTableCustomAdjust C table) := by
  rw [memMtcTableCustomAdjust_eq h]
  refine commits_bind (keepsWord_storeEach fun r hr => hw r (List.mem_append_left _ hr)) fun _ => ?_
  exact keepsWord_writeTurnsAndCovers (hw _ (by simp)) (hw _ (by simp))

/-- The first part gives every register of a group its value, whatever was there before. -/
theorem puts_adjustBurst {ref : Int} {g : PresetGroup Timing McReg} (hg : g ∈ presetGroups)
    (hr : r ∈ groupRegs g) :
    Puts (table + r.off) (autoValue C r) True (adjustBurst C table ref) := by
  have hne : ∀ r' ∈ otherRegs, table + r.off ≠ table + (r'.off : Int) := fun r' hr' =>
    ne_otherRegs hg hr hr'
  unfold adjustBurst
  rw [autoAdjustTiming_eq, autoAdjustArb_eq, autoAdjustArbTurn_eq]
  have hdyn : KeepsWord (table + r.off) (Prog.forEach [Reg.burst_regs, .shadow_regs_ca_train,
      .shadow_regs_rdwr_train] (adjustDynSelfRef C table ref)) := by
    refine keepsWord_forEach fun field hfield => keepsWord_adjustDynSelfRef (hne _ ?_)
    simp only [List.mem_cons, List.not_mem_nil, or_false] at hfield
    rcases hfield with rfl | rfl | rfl <;> decide
  refine (puts_bind (puts_timings _) fun _ => puts_bind hdyn.puts fun _ =>
    puts_bind (puts_arbs _) fun _ => puts_bind keepsWord_getReg.puts fun _ =>
      puts_bind (keepsWord_setReg (hne _ (by decide))).puts fun _ =>
        puts_bind (puts_arbs _) fun _ =>
          (keepsWord_writeTurnsAndCovers (hne _ (by decide)) (hne _ (by decide))).puts).mono
    fun _ => ?_
  rcases groupRegs_subset_auto g hg r hr with ht | ha | hturn
  · exact .inl ht
  · exact .inr (.inr (.inl ha))
  · exact .inr (.inr (.inr (.inr (.inr (.inl hturn)))))

/-- **Automatic**: the later parts leave the registers of the groups alone. -/
theorem puts_autoAdjust {ref : Int} (h : C.mtcConf = 0) {g : PresetGroup Timing McReg}
    (hg : g ∈ presetGroups) (hr : r ∈ groupRegs g) :
    Puts (table + r.off) (autoValue C r) True (memMtcTableAutoAdjust C table ref) := by
  have hne : ∀ r' ∈ otherRegs, table + r.off ≠ table + (r'.off : Int) := fun r' hr' =>
    ne_otherRegs hg hr hr'
  have hscale : ∀ l, table + r.off ≠ table + ((Reg.la_scale_regs l).off : Int) := fun l =>
    hne _ (by
      unfold otherRegs
      simp [LaReg.mem_all])
  rw [memMtcTableAutoAdjust_eq h]
  exact (puts_bind (puts_adjustBurst hg hr) fun _ =>
    puts_bind (keepsWord_adjustMisc0 (hne _ (by decide))).puts fun _ =>
      puts_bind (keepsWord_adjustScale hscale).puts fun _ =>
        (keepsWord_adjustRest fun r' hr' => hne r' (List.mem_append_right _ hr')).puts).mono .inl

/-! ## `DA_TURNS` and `DA_COVERS` -/

/-- Four bytes as a word, the first one lowest. -/
def packBytes (b₀ b₁ b₂ b₃ : Nat) : Nat := b₀ + 2 ^ 8 * b₁ + 2 ^ 16 * b₂ + 2 ^ 24 * b₃

/-- The low byte of half a timing. -/
def halfByte (x : UInt32) : Nat := x.toNat / 2 % 256

theorem toNat_u8_half (x : UInt32) : (u8 (x / 2)).toNat = halfByte x := by
  unfold u8 halfByte
  simp

theorem halfByte_lt (x : UInt32) : halfByte x < 256 := Nat.mod_lt _ (by decide)

/-- Disjoint bytes. -/
theorem or_shift {a b n : Nat} (ha : a < 2 ^ n) : (a ||| b * 2 ^ n) = a + 2 ^ n * b := by
  rw [Nat.or_comm, Nat.mul_comm, ← Nat.two_pow_add_eq_or_of_lt ha, Nat.add_comm]

theorem turns_packed (r2w w2r : UInt32) :
    (u8 (r2w / 2) <<< 16 ||| u8 (w2r / 2) <<< 24).toNat =
      packBytes 0 0 (halfByte r2w) (halfByte w2r) := by
  have h₁ := halfByte_lt r2w
  have h₂ := halfByte_lt w2r
  rw [UInt32.toNat_or, UInt32.toNat_shiftLeft, UInt32.toNat_shiftLeft, toNat_u8_half,
    toNat_u8_half, show (16 : UInt32).toNat % 32 = 16 from rfl,
    show (24 : UInt32).toNat % 32 = 24 from rfl, Nat.shiftLeft_eq, Nat.shiftLeft_eq,
    Nat.mod_eq_of_lt (by omega), Nat.mod_eq_of_lt (by omega), or_shift (by omega)]
  unfold packBytes
  omega

theorem covers_packed (rc r w : UInt32) :
    (u8 (rc / 2) ||| u8 (r / 2) <<< 8 ||| u8 (w / 2) <<< 16).toNat =
      packBytes (halfByte rc) (halfByte r) (halfByte w) 0 := by
  have h₁ := halfByte_lt rc
  have h₂ := halfByte_lt r
  have h₃ := halfByte_lt w
  rw [UInt32.toNat_or, UInt32.toNat_or, UInt32.toNat_shiftLeft, UInt32.toNat_shiftLeft,
    toNat_u8_half, toNat_u8_half, toNat_u8_half, show (8 : UInt32).toNat % 32 = 8 from rfl,
    show (16 : UInt32).toNat % 32 = 16 from rfl, Nat.shiftLeft_eq, Nat.shiftLeft_eq,
    Nat.mod_eq_of_lt (by omega), Nat.mod_eq_of_lt (by omega),
    or_shift (a := halfByte rc) (n := 8) (by omega), or_shift (n := 16) (by omega)]
  unfold packBytes
  omega

/-- The two words pack the arbiter timings of the table. -/
structure DaPacked (mem : Int → UInt32) (table : Int) : Prop where
  turns : (mem (table + daTurns.off)).toNat =
    packBytes 0 0 (halfByte (mem (table + (Reg.burst_mc_regs .mc_emem_arb_timing_r2w).off)))
      (halfByte (mem (table + (Reg.burst_mc_regs .mc_emem_arb_timing_w2r).off)))
  covers : (mem (table + daCovers.off)).toNat =
    packBytes (halfByte (mem (table + (Reg.burst_mc_regs .mc_emem_arb_timing_rc).off)))
      (halfByte (mem (table + (Reg.burst_mc_regs .mc_emem_arb_timing_rap2pre).off) +
        mem (table + (Reg.burst_mc_regs .mc_emem_arb_timing_rp).off) +
        mem (table + (Reg.burst_mc_regs .mc_emem_arb_timing_rcd).off)))
      (halfByte (mem (table + (Reg.burst_mc_regs .mc_emem_arb_timing_wap2pre).off) +
        mem (table + (Reg.burst_mc_regs .mc_emem_arb_timing_rp).off) +
        mem (table + (Reg.burst_mc_regs .mc_emem_arb_timing_rcd).off))) 0

theorem writeTurnsAndCovers_packed (table : Int) (s : Store Device) :
    DaPacked (writeTurnsAndCovers table s).state.mem table := by
  let arb m := s.mem (table + (Reg.burst_mc_regs m).off)
  let m₁ := Function.update s.mem (table + daTurns.off)
    (u8 (arb .mc_emem_arb_timing_r2w / 2) <<< 16 ||| u8 (arb .mc_emem_arb_timing_w2r / 2) <<< 24)
  let arb₁ m := m₁ (table + (Reg.burst_mc_regs m).off)
  let m₂ := Function.update m₁ (table + daCovers.off)
    (u8 (arb₁ .mc_emem_arb_timing_rc / 2) |||
      u8 ((arb₁ .mc_emem_arb_timing_rap2pre + arb₁ .mc_emem_arb_timing_rp +
        arb₁ .mc_emem_arb_timing_rcd) / 2) <<< 8 |||
      u8 ((arb₁ .mc_emem_arb_timing_wap2pre + arb₁ .mc_emem_arb_timing_rp +
        arb₁ .mc_emem_arb_timing_rcd) / 2) <<< 16)
  have hrun : (writeTurnsAndCovers table s).state.mem = m₂ := rfl
  -- neither word is one of the timings that are packed
  have hkept : ∀ m, Reg.burst_mc_regs m ≠ daTurns → Reg.burst_mc_regs m ≠ daCovers →
      m₂ (table + (Reg.burst_mc_regs m).off) = arb₁ m ∧ arb₁ m = arb m := fun m hturns hcovers =>
    ⟨Function.update_of_ne (word_ne hcovers) _ _, Function.update_of_ne (word_ne hturns) _ _⟩
  rw [hrun]
  refine ⟨?_, ?_⟩
  · have hturns : m₂ (table + daTurns.off) = m₁ (table + daTurns.off) :=
      Function.update_of_ne (word_ne (by decide)) _ _
    obtain ⟨h₁, h₂⟩ := hkept .mc_emem_arb_timing_r2w (by decide) (by decide)
    obtain ⟨h₃, h₄⟩ := hkept .mc_emem_arb_timing_w2r (by decide) (by decide)
    rw [hturns, h₁, h₂, h₃, h₄, ← turns_packed]
    exact congrArg UInt32.toNat (Function.update_self _ _ _)
  · rw [(hkept .mc_emem_arb_timing_rc (by decide) (by decide)).1,
      (hkept .mc_emem_arb_timing_rap2pre (by decide) (by decide)).1,
      (hkept .mc_emem_arb_timing_wap2pre (by decide) (by decide)).1,
      (hkept .mc_emem_arb_timing_rp (by decide) (by decide)).1,
      (hkept .mc_emem_arb_timing_rcd (by decide) (by decide)).1, ← covers_packed]
    exact congrArg UInt32.toNat (Function.update_self _ _ _)

end

/-- **Mariko's custom adjustment is the automatic one, restricted to the groups whose preset
is set.** -/
theorem customAdjust_restricts_autoAdjust (C : CustomizeTable) (table : Int) (s : Store Device) :
    (memMtcTableCustomAdjust { C with mtcConf := 1 } table s).result = .ok () ∧
    (∀ r ∈ selectedRegs C, ∀ (ref : Int) (s' : Store Device),
      (memMtcTableCustomAdjust { C with mtcConf := 1 } table s).state.mem (table + r.off) =
        (memMtcTableAutoAdjust { C with mtcConf := 0 } table ref s').state.mem (table + r.off)) ∧
    (∀ w, (∀ r ∈ selectedRegs C ++ [daTurns, daCovers], w ≠ table + r.off) →
      (memMtcTableCustomAdjust { C with mtcConf := 1 } table s).state.mem w = s.mem w) ∧
    DaPacked (memMtcTableCustomAdjust { C with mtcConf := 1 } table s).state.mem table := by
  let C₁ : CustomizeTable := { C with mtcConf := 1 }
  have hsel : selectedRegs C₁ = selectedRegs C := rfl
  refine ⟨?_, fun r hr ref s' => ?_, fun w hw => ?_, ?_⟩
  · obtain ⟨u, hu⟩ := (commits_memMtcTableCustomAdjust (C := C₁) table).neverFails s
    exact hu
  · obtain ⟨g, hg, -, hrg⟩ := mem_selectedOf.1 hr
    rw [(puts_customAdjust (C := C₁) rfl (hsel ▸ hr)).state trivial s,
      (puts_autoAdjust (C := { C with mtcConf := 0 }) rfl hg hrg).state trivial s']
    rfl
  · exact (keepsWord_customAdjust (C := C₁) rfl (hsel ▸ hw)).keeps s
  · rw [memMtcTableCustomAdjust_eq (C := C₁) rfl]
    have hnever : NeverFails (Prog.forEach (selectedRegs C₁) fun r =>
        setReg table r (autoValue C₁ r)) := neverFails_forEach (fun r => neverFails_store _ _) _
    obtain ⟨u, hu⟩ := hnever s
    rw [bind_of_ok hu, after_state]
    exact writeTurnsAndCovers_packed table _

end Mariko

end SwitchOc
