import SwitchOcSuite.Loader.Atomic
import SwitchOcSuite.SysClk.CustParser

/-!
# DRAM voltage, in the loader and in the sysmodule

The loader writes the microvolts of the customize table, on a step of the regulator.
The sysmodule goes through millivolts: what is lost of a millivolt takes the voltage
one step down, so both agree if the steps of the table are whole millivolts.

    programmedUv_eq_iff    one regulator
    voltagesAgree_iff      both
-/

namespace SwitchOc.SysClk

open Traced BuckConverterDomain

/-! ## Through millivolts -/

namespace BuckConverterDomain

/-- The µV that `SetMvOut` programs for `uv`, given to it in mV. -/
def programmedUv (domain : BuckConverterDomain) (uv : UInt32) : UInt32 :=
  domain.multiplierToUv (domain.mvOutToMultiplier (uv / 1000))

variable {domain : BuckConverterDomain} {uv : UInt32}

/-- Steps that fit into a byte, from a whole millivolt on. -/
structure ByteSteps (domain : BuckConverterDomain) : Prop where
  fits : (domain.uv_max.toNat - domain.uv_min.toNat) / domain.uv_step.toNat < 256
  whole_mv : domain.uv_min.toNat % 1000 = 0

theorem mvOutToMultiplier_toNat (h : domain.ByteSteps) (hmin : domain.uv_min ≤ uv)
    (hmax : uv ≤ domain.uv_max) :
    (domain.mvOutToMultiplier (uv / 1000)).toNat =
      (uv.toNat / 1000 * 1000 - domain.uv_min.toNat) / domain.uv_step.toNat := by
  have hlo : domain.uv_min.toNat ≤ uv.toNat := hmin
  have hhi : uv.toNat ≤ domain.uv_max.toNat := hmax
  have hwhole := h.whole_mv
  have hlt := uv.toNat_lt
  have huvolt : (uv / 1000 * 1000).toNat = uv.toNat / 1000 * 1000 := by
    rw [UInt32.toNat_mul, UInt32.toNat_div]
    show uv.toNat / 1000 * 1000 % 2 ^ 32 = _
    omega
  -- neither bound is met
  have hge : ¬ uv / 1000 * 1000 < domain.uv_min := by
    rw [UInt32.lt_iff_toNat_lt, huvolt]
    omega
  have hle : ¬ domain.uv_max < uv / 1000 * 1000 := by
    rw [UInt32.lt_iff_toNat_lt, huvolt]
    omega
  have hsub : domain.uv_min ≤ uv / 1000 * 1000 := UInt32.not_lt.1 hge
  have hquot : (uv.toNat / 1000 * 1000 - domain.uv_min.toNat) / domain.uv_step.toNat < 256 :=
    lt_of_le_of_lt (Nat.div_le_div_right (by omega)) h.fits
  unfold mvOutToMultiplier
  dsimp only
  rw [if_neg hge, if_neg hle, UInt32.toNat_toUInt8, UInt32.toNat_div,
    UInt32.toNat_sub_of_le _ _ hsub, huvolt]
  exact Nat.mod_eq_of_lt hquot

/-- A number of whole steps, cut to whole units, is met again iff it was whole units. -/
theorem step_eq_iff {x min step unit : Nat} (hmin : min ≤ x / unit * unit)
    (hx : (x - min) % step = 0) :
    min + (x / unit * unit - min) / step * step = x ↔ x % unit = 0 := by
  have hdiv := Nat.div_add_mod' x unit
  have hle := Nat.div_mul_le_self (x / unit * unit - min) step
  constructor
  · intro h
    omega
  · intro h
    rw [show x / unit * unit = x by omega, Nat.div_mul_cancel (Nat.dvd_of_mod_eq_zero hx)]
    omega

/-- **What is programmed is what was asked for iff that is a whole number of millivolts.** -/
theorem programmedUv_eq_iff (h : domain.ByteSteps) (hmin : domain.uv_min ≤ uv)
    (hmax : uv ≤ domain.uv_max) (hstep : (uv.toNat - domain.uv_min.toNat) % domain.uv_step.toNat = 0) :
    domain.programmedUv uv = uv ↔ uv.toNat % 1000 = 0 := by
  have hlo : domain.uv_min.toNat ≤ uv.toNat := hmin
  have hwhole := h.whole_mv
  have hlt := uv.toNat_lt
  have hmult := mvOutToMultiplier_toNat h hmin hmax
  have hle := Nat.div_mul_le_self (uv.toNat / 1000 * 1000 - domain.uv_min.toNat)
    domain.uv_step.toNat
  have hvalue : (domain.programmedUv uv).toNat = domain.uv_min.toNat +
      (uv.toNat / 1000 * 1000 - domain.uv_min.toNat) / domain.uv_step.toNat *
        domain.uv_step.toNat := by
    unfold programmedUv multiplierToUv
    rw [UInt32.toNat_add, UInt32.toNat_mul, UInt8.toNat_toUInt32, hmult,
      Nat.mod_eq_of_lt (by omega), Nat.mod_eq_of_lt (by omega)]
  rw [← UInt32.toNat_inj, hvalue]
  exact step_eq_iff (by omega) hstep

theorem byteSteps_vdd2 : marikoDramVdd2.ByteSteps := by
  constructor <;> decide

theorem byteSteps_vddq : marikoDramVddq.ByteSteps := by
  constructor <;> decide

end BuckConverterDomain

/-! ## The registers -/

theorem voltBits_eq (mask val m : UInt8) :
    ((val &&& ~~~mask) ||| (m &&& mask)) &&& mask = m &&& mask := by
  refine UInt8.toBitVec_inj.1 (BitVec.eq_of_getLsbD_eq fun i hi => ?_)
  simp only [UInt8.toBitVec_and, UInt8.toBitVec_or, UInt8.toBitVec_not, BitVec.getLsbD_and,
    BitVec.getLsbD_or, BitVec.getLsbD_not]
  cases (mask.toBitVec).getLsbD i <;> simp

theorem and_mask_of_lt {m : UInt8} {k : Nat} {mask : UInt8} (hmask : mask.toNat = 2 ^ k - 1)
    (h : m.toNat < 2 ^ k) : m &&& mask = m := by
  refine UInt8.toNat_inj.1 ?_
  rw [UInt8.toNat_and, hmask, Nat.and_two_pow_sub_one_eq_mod, Nat.mod_eq_of_lt h]

theorem setMvOut_opens (domain : BuckConverterDomain) (mvolt : UInt32) (bus : I2cBus) :
    (domain.setMvOut mvolt bus).opens = bus.opens := by
  unfold setMvOut
  split <;> rfl

/-- The voltage bits of the register are the multiplier. -/
theorem setMvOut_regs {domain : BuckConverterDomain} {mvolt : UInt32} {bus : I2cBus}
    (hopens : bus.opens = true) :
    (domain.setMvOut mvolt bus).regs domain.device domain.reg &&& domain.volt_mask =
      domain.mvOutToMultiplier mvolt &&& domain.volt_mask := by
  unfold setMvOut
  rw [if_pos hopens]
  dsimp only
  rw [Function.update_self, Function.update_self]
  exact voltBits_eq _ _ _

theorem setMvOut_regs_of_ne {domain : BuckConverterDomain} {mvolt : UInt32} {bus : I2cBus}
    {device : I2cDevice} (h : device ≠ domain.device) :
    (domain.setMvOut mvolt bus).regs device = bus.regs device := by
  unfold setMvOut
  split
  · exact Function.update_of_ne h _ _
  · rfl

/-- On an open bus `CustParser` leaves both voltages in their registers. -/
theorem setDramVolts_regs {t : CustTable} {bus : I2cBus} (hopens : bus.opens = true)
    (hvdd2 : 1100000 ≤ t.commonEmcMemVolt ∧ t.commonEmcMemVolt ≤ 1250000)
    (hvddq : 550000 ≤ t.marikoEmcVddqVolt ∧ t.marikoEmcVddqVolt ≤ 650000) :
    marikoDramVdd2.multiplierToUv ((setDramVolts t bus).regs .max77620Pmic 0x17 &&& 0x7F) =
      marikoDramVdd2.programmedUv t.commonEmcMemVolt ∧
    marikoDramVddq.multiplierToUv ((setDramVolts t bus).regs .max77812_2 0x25 &&& 0xFF) =
      marikoDramVddq.programmedUv t.marikoEmcVddqVolt := by
  have hset : t.commonEmcMemVolt ≠ 0 := fun h0 => absurd (h0 ▸ hvdd2.1) (by decide)
  have hsetq : t.marikoEmcVddqVolt ≠ 0 := fun h0 => absurd (h0 ▸ hvddq.1) (by decide)
  have hhi : t.commonEmcMemVolt.toNat ≤ 1250000 := hvdd2.2
  have hmult : (marikoDramVdd2.mvOutToMultiplier (t.commonEmcMemVolt / 1000)).toNat < 2 ^ 7 := by
    rw [mvOutToMultiplier_toNat byteSteps_vdd2 (UInt32.le_trans (by decide) hvdd2.1) hvdd2.2]
    show (t.commonEmcMemVolt.toNat / 1000 * 1000 - 600000) / 12500 < 2 ^ 7
    omega
  unfold setDramVolts
  rw [if_pos ⟨hset, hvdd2⟩, if_pos ⟨hsetq, hvddq⟩]
  constructor
  · refine congrArg marikoDramVdd2.multiplierToUv (setMvOut_regs ?_ |>.trans ?_)
    · rw [setMvOut_opens, hopens]
    · exact and_mask_of_lt (k := 7) rfl hmult
  · refine congrArg marikoDramVddq.multiplierToUv ?_
    rw [setMvOut_regs_of_ne (by decide)]
    exact (setMvOut_regs hopens).trans (and_mask_of_lt (k := 8) rfl (UInt8.toNat_lt _))

/-! ## What the loader writes -/

section

variable {C : CustomizeTable} {ptr : Int} {s : Store Device}

/-- A voltage that is set and on a step is written as it is. -/
theorem memVoltHandler_writes (hset : C.commonEmcMemVolt ≠ 0)
    (hstep : C.commonEmcMemVolt % 12500 = 0) (hok : (memVoltHandler C ptr s).result = .ok ()) :
    (memVoltHandler C ptr s).state.mem ptr = C.commonEmcMemVolt := by
  unfold memVoltHandler at hok ⊢
  obtain ⟨_, _, hok, hst⟩ := (readOnly_memVoltValidator _).bind_ok hok
  rw [hst]
  obtain ⟨_, _, hok, hst⟩ := (readOnly_memVoltValidator _).bind_ok hok
  rw [hst]
  obtain ⟨_, _, _, hst⟩ := (readOnly_require (w := Access.IsWrite) _ _).bind_ok hok
  rw [hst, if_neg hset]
  dsimp only
  rw [if_neg (by simpa using hstep)]
  exact Function.update_self _ _ _

theorem emcVddqVolt_writes (hset : C.marikoEmcVddqVolt ≠ 0)
    (hstep : C.marikoEmcVddqVolt % 5000 = 0) (hok : (Mariko.emcVddqVolt C ptr s).result = .ok ()) :
    (Mariko.emcVddqVolt C ptr s).state.mem ptr = C.marikoEmcVddqVolt := by
  unfold Mariko.emcVddqVolt at hok ⊢
  obtain ⟨_, _, hok, hst⟩ := (readOnly_load64 _).bind_ok hok
  rw [hst]
  obtain ⟨_, _, hok, hst⟩ := (readOnly_require (w := Access.IsWrite) _ _).bind_ok hok
  rw [hst]
  obtain ⟨_, _, hok, hst⟩ := (readOnly_expectWord _ _ _).bind_ok hok
  rw [hst]
  obtain ⟨_, _, hok, hst⟩ := (readOnly_expectWord _ _ _).bind_ok hok
  rw [hst]
  obtain ⟨_, _, _, hst⟩ := (readOnly_expectWord _ _ _).bind_ok hok
  rw [hst, if_neg hset]
  dsimp only
  rw [if_neg (by simpa using hstep)]
  exact Function.update_self _ _ _

end

/-! ## Both -/

/-- The voltages that the loader writes are those the sysmodule programs.  A voltage of 0
is neither written nor programmed. -/
structure VoltagesAgree (C : CustomizeTable) : Prop where
  vdd2 : ∀ ptr s, C.commonEmcMemVolt ≠ 0 → (memVoltHandler C ptr s).result = .ok () →
    marikoDramVdd2.programmedUv C.commonEmcMemVolt = (memVoltHandler C ptr s).state.mem ptr
  vddq : ∀ ptr s, C.marikoEmcVddqVolt ≠ 0 → (Mariko.emcVddqVolt C ptr s).result = .ok () →
    marikoDramVddq.programmedUv C.marikoEmcVddqVolt = (Mariko.emcVddqVolt C ptr s).state.mem ptr

/-- The ranges of `safetyCheck`. -/
theorem volt_ranges {C : CustomizeTable} (h : safetyCheck C = .ok ()) :
    (C.commonEmcMemVolt = 0 ∨ 1100000 ≤ C.commonEmcMemVolt ∧ C.commonEmcMemVolt ≤ 1250000) ∧
    (C.marikoEmcVddqVolt = 0 ∨ 550000 ≤ C.marikoEmcVddqVolt ∧ C.marikoEmcVddqVolt ≤ 650000) := by
  obtain ⟨a, b, c, d, hall⟩ := check_of_safetyCheck h
  have hmem := hall { value := C.commonEmcMemVolt, min := 1100000, max := 1250000 }
    (by simp [safetyValidators])
  have hvddq := hall { value := C.marikoEmcVddqVolt, min := 550000, max := 650000 }
    (by simp [safetyValidators])
  exact ⟨(SValidator.range_of_check hmem (show (1100000 : UInt32) ≠ 0 by decide)
      (show (1250000 : UInt32) ≠ 0 by decide)).imp And.right id,
    (SValidator.range_of_check hvddq (show (550000 : UInt32) ≠ 0 by decide)
      (show (650000 : UInt32) ≠ 0 by decide)).imp And.right id⟩

/-- An image with a regulator whose `default_uv` is at word 8. -/
def regulatorImage : Store Device where
  mem := fun w =>
    if w = 0 then 1 else if w = 4 then 1 else if w = 5 then 0x17 else if w = 6 then 12500
    else if w = 7 then 600000 else 0
  dev := ⟨true, fun _ => 0, fun _ => 0⟩

theorem memVoltHandler_regulatorImage (C : CustomizeTable) :
    (memVoltHandler C 8 regulatorImage).result = .ok () := by
  have hfirst : Yields (memVoltValidator (8 - 8)) regulatorImage true :=
    ⟨by decide +kernel, (readOnly_memVoltValidator _ _).1⟩
  have hsecond : Yields (memVoltValidator (8 - 9)) regulatorImage false :=
    ⟨by decide +kernel, (readOnly_memVoltValidator _ _).1⟩
  unfold memVoltHandler
  rw [hfirst.bind_result, hsecond.bind_result, require_bind_run, if_pos (by decide)]
  dsimp only
  by_cases hset : C.commonEmcMemVolt = 0
  · rw [if_pos hset]
    rfl
  · rw [if_neg hset]
    rfl

theorem toNat_mod_eq_zero {x k : UInt32} (h : x % k = 0) : x.toNat % k.toNat = 0 := by
  rw [← UInt32.toNat_mod, h]
  rfl

/-- VDD2 on a step and in its range. -/
theorem programmedUv_vdd2_iff {uv : UInt32} (hmin : 1100000 ≤ uv) (hmax : uv ≤ 1250000)
    (hstep : uv % 12500 = 0) : marikoDramVdd2.programmedUv uv = uv ↔ uv.toNat % 1000 = 0 := by
  have hlo : 1100000 ≤ uv.toNat := hmin
  have hstep' : uv.toNat % 12500 = 0 := toNat_mod_eq_zero hstep
  refine programmedUv_eq_iff byteSteps_vdd2 ?_ hmax ?_
  · show 600000 ≤ uv.toNat
    omega
  · show (uv.toNat - 600000) % 12500 = 0
    omega

/-- **They agree iff the voltage is a multiple of two steps**, which is a whole number of
millivolts; the steps of VDDQ all are. -/
theorem voltagesAgree_iff (C : CustomizeTable) (hsafe : safetyCheck C = .ok ())
    (hvdd2 : C.commonEmcMemVolt % 12500 = 0) (hvddq : C.marikoEmcVddqVolt % 5000 = 0) :
    VoltagesAgree C ↔ C.commonEmcMemVolt % 25000 = 0 := by
  obtain ⟨hrange, hrangeq⟩ := volt_ranges hsafe
  constructor
  · intro h
    rcases hrange with h0 | ⟨hmin, hmax⟩
    · rw [h0]
      rfl
    · have hset : C.commonEmcMemVolt ≠ 0 := fun h0 => absurd (h0 ▸ hmin) (by decide)
      have hok := memVoltHandler_regulatorImage C
      have hagree := h.vdd2 8 regulatorImage hset hok
      rw [memVoltHandler_writes hset hvdd2 hok, programmedUv_vdd2_iff hmin hmax hvdd2] at hagree
      have hstep : C.commonEmcMemVolt.toNat % 12500 = 0 := toNat_mod_eq_zero hvdd2
      refine UInt32.toNat_inj.1 ?_
      rw [UInt32.toNat_mod]
      show C.commonEmcMemVolt.toNat % 25000 = 0
      omega
  · intro h
    refine ⟨fun ptr s hset hok => ?_, fun ptr s hset hok => ?_⟩
    · obtain ⟨hmin, hmax⟩ := hrange.resolve_left hset
      have hmod : C.commonEmcMemVolt.toNat % 25000 = 0 := toNat_mod_eq_zero h
      rw [memVoltHandler_writes hset hvdd2 hok, programmedUv_vdd2_iff hmin hmax hvdd2]
      omega
    · obtain ⟨hmin, hmax⟩ := hrangeq.resolve_left hset
      have hlo : 550000 ≤ C.marikoEmcVddqVolt.toNat := hmin
      have hmod : C.marikoEmcVddqVolt.toNat % 5000 = 0 := toNat_mod_eq_zero hvddq
      rw [emcVddqVolt_writes hset hvddq hok]
      refine (programmedUv_eq_iff byteSteps_vddq ?_ hmax ?_).2 (by omega)
      · show 250000 ≤ C.marikoEmcVddqVolt.toNat
        omega
      · show (C.marikoEmcVddqVolt.toNat - 250000) % 5000 = 0
        omega

/-! ## One step lost -/

/-- The shipped configuration with the first voltage above the lowest one. -/
def oddVoltTable : CustomizeTable := { customizeTable with commonEmcMemVolt := 1112500 }

theorem safetyCheck_oddVoltTable : safetyCheck oddVoltTable = .ok () :=
  safetyCheck_ok_iff.2 ⟨rfl, 2091000, 2295000, 998400, 1267200,
    dvfsMaxFreq_ofList eristaCpuDvfsTable (by decide),
    dvfsMaxFreq_ofList marikoCpuDvfsTable (by decide),
    dvfsMaxFreq_ofList eristaGpuDvfsTable (by decide),
    dvfsMaxFreq_ofList marikoGpuDvfsTable (by decide), by decide⟩

theorem voltagesAgree_iff_oddVoltTable :
    VoltagesAgree oddVoltTable ↔ oddVoltTable.commonEmcMemVolt % 25000 = 0 :=
  voltagesAgree_iff oddVoltTable safetyCheck_oddVoltTable (by decide) (by decide)

/-- The sysmodule programs 1100000 µV where the loader writes 1112500 µV. -/
theorem voltages_differ :
    ¬ ∀ C : CustomizeTable, safetyCheck C = .ok () → C.commonEmcMemVolt % 12500 = 0 →
      C.marikoEmcVddqVolt % 5000 = 0 → VoltagesAgree C := by
  intro h
  have hagree := (h oddVoltTable safetyCheck_oddVoltTable (by decide) (by decide)).vdd2 8
    regulatorImage (by decide) (memVoltHandler_regulatorImage _)
  rw [memVoltHandler_writes (by decide) (by decide) (memVoltHandler_regulatorImage _)] at hagree
  exact absurd hagree (by decide)

end SwitchOc.SysClk
