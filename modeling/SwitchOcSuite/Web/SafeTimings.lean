import Mathlib.Tactic.Common
import SwitchOcSuite.Loader.ExactTimings
import SwitchOcSuite.Loader.Scan
import SwitchOcSuite.Web.RoundTrip

/-!
# What the configurator can save is safe in the loader

A configuration that the configurator accepts passes the loader's safety check, its
RAM presets stay inside the timing arrays, and with the EMC clock raised no timing
or arbiter value wraps.

    configured_safe      every form that can be saved, with the shipped DVFS tables
-/

namespace SwitchOc

/-! ## Forms that can be saved -/

section Form

open Web

variable {form : Form} (h : FormValid form)

include h

/-- The word of a valid form's entry is in the entry's range, or an allowed zero. -/
theorem word_range {i : CustEntry} (hi : i ∈ allEntries) :
    (i.zeroable = true ∧ (form i.id).toUint32.toNat = 0) ∨
      (i.min ≤ (form i.id).toUint32.toNat ∧ (form i.id).toUint32.toNat ≤ i.max) := by
  obtain ⟨n, hn, hrange⟩ := exists_of_validate (allEntries_bounds i hi).1 (h i hi)
  have hexact := h.exact i hi
  have heq : (form i.id).toUint32.toNat = n := JsNumber.ofNat_inj (hexact.symm.trans hn)
  rw [heq]
  exact hrange

theorem word_range_get (k : Nat) (hk : k < allEntries.length) :
    (allEntries[k].zeroable = true ∧ (form allEntries[k].id).toUint32.toNat = 0) ∨
      (allEntries[k].min ≤ (form allEntries[k].id).toUint32.toNat ∧
        (form allEntries[k].id).toUint32.toNat ≤ allEntries[k].max) :=
  word_range h (List.getElem_mem hk)

theorem presetsInRange (C : CustomizeTable) : PresetsInRange (configure C form) where
  one := (word_range_get h 12 (by decide)).elim (fun hz => hz.2.le.trans (by decide)) And.right
  two := (word_range_get h 13 (by decide)).elim (fun hz => hz.2.le.trans (by decide)) And.right
  three := (word_range_get h 14 (by decide)).elim (fun hz => hz.2.le.trans (by decide)) And.right
  four := (word_range_get h 15 (by decide)).elim (fun hz => hz.2.le.trans (by decide)) And.right
  five := (word_range_get h 16 (by decide)).elim (fun hz => hz.2.le.trans (by decide)) And.right
  six := (word_range_get h 17 (by decide)).elim (fun hz => hz.2.le.trans (by decide)) And.right
  seven := (word_range_get h 18 (by decide)).elim (fun hz => hz.2.le.trans (by decide)) And.right

end Form

/-- A value within its limits, or a zero that stands for none. -/
theorem check_ok {value min max : UInt32} {req : Bool} (lo hi : Nat) (hlo : min.toNat ≤ lo)
    (hhi : hi ≤ max.toNat)
    (h : (req = false ∧ value.toNat = 0) ∨ (lo ≤ value.toNat ∧ value.toNat ≤ hi)) :
    (SValidator.mk value min max req).check = .ok () := by
  unfold SValidator.check
  dsimp only
  by_cases hzero : (!req && value == 0) = true
  · rw [if_pos hzero]
  rw [if_neg hzero]
  rcases h with ⟨hreq, hval⟩ | ⟨hmin, hmax⟩
  · have hv : value = 0 := UInt32.toNat_inj.1 hval
    exact absurd (by rw [hreq, hv]; rfl) hzero
  · have hlow : ¬ (min ≠ 0 ∧ value < min) := fun hbad =>
      absurd (UInt32.lt_iff_toNat_lt.1 hbad.2) (by omega)
    have hhigh : ¬ (max ≠ 0 ∧ value > max) := fun hbad =>
      absurd (UInt32.lt_iff_toNat_lt.1 hbad.2) (by omega)
    rw [if_neg hlow, if_neg hhigh]

theorem checkAll_ok {vs : List SValidator} (h : ∀ v ∈ vs, v.check = .ok ()) :
    checkAll vs = .ok () := by
  induction vs with
  | nil => rfl
  | cons v vs ih =>
    unfold checkAll
    rw [h v (by simp)]
    exact ih fun u hu => h u (by simp [hu])

/-- The DVFS tables of `customize.cpp`. -/
structure ShippedTables (C : CustomizeTable) : Prop where
  eristaCpu : C.eristaCpuDvfsTable = .ofList eristaCpuDvfsTable
  marikoCpu : C.marikoCpuDvfsTable = .ofList marikoCpuDvfsTable
  marikoCpuSLT : C.marikoCpuDvfsTableSLT = .ofList marikoCpuDvfsTableSLT
  eristaGpu : C.eristaGpuDvfsTable = .ofList eristaGpuDvfsTable
  marikoGpu : C.marikoGpuDvfsTable = .ofList marikoGpuDvfsTable
  marikoGpuSLT : C.marikoGpuDvfsTableSLT = .ofList marikoGpuDvfsTableSLT
  marikoGpuHiOPT : C.marikoGpuDvfsTableHiOPT = .ofList marikoGpuDvfsTableHiOPT

/-- A value is zero, or within its limits. -/
def ZeroOr (lo hi : Nat) (x : UInt32) : Prop := x.toNat = 0 ∨ (lo ≤ x.toNat ∧ x.toNat ≤ hi)

/-- Clocks and voltages within the limits of the configurator. -/
structure LimitsKept (C : CustomizeTable) : Prop where
  boost : 1020000 ≤ C.commonCpuBoostClock.toNat ∧ C.commonCpuBoostClock.toNat ≤ 3000000
  memVolt : ZeroOr 1100000 1250000 C.commonEmcMemVolt
  eristaCpuVolt : ZeroOr 1120 1300 C.eristaCpuMaxVolt
  eristaEmc : ZeroOr 1600000 2131200 C.eristaEmcMaxClock
  marikoCpuVolt : ZeroOr 1120 1300 C.marikoCpuMaxVolt
  marikoEmc : ZeroOr 1600000 2502400 C.marikoEmcMaxClock
  vddq : ZeroOr 550000 650000 C.marikoEmcVddqVolt

theorem cpuTable_maxFreq {C : CustomizeTable} (ht : ShippedTables C) :
    ∃ b : UInt32, dvfsMaxFreq (if C.marikoCpuUV ≠ 0 then C.marikoCpuDvfsTableSLT
      else C.marikoCpuDvfsTable) = .ok b ∧ 1785000 ≤ b.toNat ∧ b.toNat ≤ 3000000 := by
  by_cases huv : C.marikoCpuUV ≠ 0
  · rw [if_pos huv, ht.marikoCpuSLT]
    exact ⟨2397000, dvfsMaxFreq_ofList _ (by decide), by decide, by decide⟩
  · rw [if_neg huv, ht.marikoCpu]
    exact ⟨2295000, dvfsMaxFreq_ofList _ (by decide), by decide, by decide⟩

theorem gpuTable_maxFreq {C : CustomizeTable} (ht : ShippedTables C) :
    dvfsMaxFreq (switchUV C.marikoGpuUV C.marikoGpuDvfsTable C.marikoGpuDvfsTableSLT
      C.marikoGpuDvfsTableHiOPT C.marikoGpuDvfsTable) = .ok 1267200 := by
  rw [ht.marikoGpu, ht.marikoGpuSLT, ht.marikoGpuHiOPT]
  unfold switchUV
  split_ifs
  · exact dvfsMaxFreq_ofList _ (by decide)
  · exact dvfsMaxFreq_ofList _ (by decide)
  · exact dvfsMaxFreq_ofList _ (by decide)
  · exact dvfsMaxFreq_ofList _ (by decide)

/-- The shipped tables and values within the limits pass the safety check. -/
theorem safetyCheck_of_limits {C : CustomizeTable} (hrev : C.custRev = custRevision)
    (ht : ShippedTables C) (hl : LimitsKept C) : safetyCheck C = .ok () := by
  obtain ⟨b, hb, hb₁, hb₂⟩ := cpuTable_maxFreq ht
  have heristaCpu : dvfsMaxFreq C.eristaCpuDvfsTable = .ok 2091000 := by
    rw [ht.eristaCpu]
    exact dvfsMaxFreq_ofList _ (by decide)
  have heristaGpu : dvfsMaxFreq C.eristaGpuDvfsTable = .ok 998400 := by
    rw [ht.eristaGpu]
    exact dvfsMaxFreq_ofList _ (by decide)
  refine safetyCheck_ok_iff.2 ⟨hrev, 2091000, b, 998400, 1267200, heristaCpu, hb, heristaGpu,
    gpuTable_maxFreq ht, checkAll_ok fun v hv => ?_⟩
  have hopt : ∀ {lo hi : Nat} {x : UInt32}, ZeroOr lo hi x →
      ((false = false ∧ x.toNat = 0) ∨ (lo ≤ x.toNat ∧ x.toNat ≤ hi)) :=
    fun h => h.imp_left fun h₀ => ⟨rfl, h₀⟩
  simp only [safetyValidators, List.mem_cons, List.not_mem_nil, or_false] at hv
  rcases hv with rfl | rfl | rfl | rfl | rfl | rfl | rfl | rfl | rfl | rfl | rfl
  · exact check_ok 1020000 3000000 (by decide) (by decide) (.inr hl.boost)
  · exact check_ok _ _ (by decide) (by decide) (hopt hl.memVolt)
  · exact check_ok _ _ (by decide) (by decide) (hopt hl.eristaCpuVolt)
  · exact check_ok _ _ (by decide) (by decide) (hopt hl.eristaEmc)
  · exact check_ok _ _ (by decide) (by decide) (hopt hl.marikoCpuVolt)
  · exact check_ok _ _ (by decide) (by decide) (hopt hl.marikoEmc)
  · exact check_ok _ _ (by decide) (by decide) (hopt hl.vddq)
  · exact check_ok 2091000 2091000 (by decide) (by decide) (.inr (by decide))
  · exact check_ok 1785000 3000000 (by decide) (by decide) (.inr ⟨hb₁, hb₂⟩)
  · exact check_ok 998400 998400 (by decide) (by decide) (.inr (by decide))
  · exact check_ok 1267200 1267200 (by decide) (by decide) (.inr (by decide))

/-! ## Top theorem -/

section Configured

open Web

variable {form : Form} (h : FormValid form)

include h

theorem limitsKept_configure (C : CustomizeTable) : LimitsKept (configure C form) where
  boost := (word_range_get h 1 (by decide)).elim (fun hz => absurd hz.1 (by decide)) id
  memVolt := (word_range_get h 2 (by decide)).imp_left And.right
  eristaCpuVolt := (word_range_get h 3 (by decide)).imp_left And.right
  eristaEmc := (word_range_get h 4 (by decide)).imp_left And.right
  marikoCpuVolt := (word_range_get h 5 (by decide)).imp_left And.right
  marikoEmc := (word_range_get h 6 (by decide)).imp_left And.right
  vddq := (word_range_get h 7 (by decide)).imp_left And.right

/-- **Every configuration that can be saved is safe in the loader**: the safety check
passes, the presets stay inside their arrays, and on a SoC whose EMC clock is raised
the timings and the arbiter values hold their exact values. -/
theorem configured_safe :
    safetyCheck (configure customizeTable form) = .ok () ∧
    (∀ l ∈ presetLookups (configure customizeTable form), l.2 ≠ 0 → l.2.toNat - 1 < l.1) ∧
    TimingsFound (configure customizeTable form) ∧
    (1600000 < (configure customizeTable form).eristaEmcMaxClock.toNat →
      Erista.TimingsExact (configure customizeTable form) ∧
      List.Forall₂ (fun m e => m.1 = e.1 ∧ Exact m.2 e.2)
        (Erista.autoAdjustArb (configure customizeTable form))
        (Erista.exactAutoAdjustArb (configure customizeTable form))) ∧
    (1600000 < (configure customizeTable form).marikoEmcMaxClock.toNat →
      Mariko.TimingsExact (configure customizeTable form) ∧
      List.Forall₂ (fun m e => m.1 = e.1 ∧ Exact m.2 e.2)
        (Mariko.autoAdjustArb (configure customizeTable form))
        (Mariko.exactAutoAdjustArb (configure customizeTable form)) ∧
      List.Forall₂ (fun m e => m.1 = e.1 ∧ Exact m.2 e.2)
        (Mariko.autoAdjustArbTurn (configure customizeTable form))
        (Mariko.exactAutoAdjustArbTurn (configure customizeTable form)) ∧
      ∀ rext, Exact (arb rext (-1 + dbl mcArbSfa)) (exactArb rext.toNat (-1 + 2))) := by
  have hp := presetsInRange h customizeTable
  have hl := limitsKept_configure h customizeTable
  have ht : ShippedTables (configure customizeTable form) := ⟨rfl, rfl, rfl, rfl, rfl, rfl, rfl⟩
  have hlookups := lookups_of_presets hp
  refine ⟨safetyCheck_of_limits rfl ht hl, hlookups, timingsFound_iff.2 hlookups, fun hgt => ?_,
    fun hgt => ?_⟩
  · have hemc : Raised (configure customizeTable form).eristaEmcMaxClock := by
      rcases hl.eristaEmc with h₀ | ⟨-, hle⟩
      · omega
      · exact ⟨hgt, by omega⟩
    exact ⟨Erista.timingsExact hp hemc, Erista.autoAdjustArb_exact hp hemc⟩
  · have hemc : Raised (configure customizeTable form).marikoEmcMaxClock := by
      rcases hl.marikoEmc with h₀ | ⟨-, hle⟩
      · omega
      · exact ⟨hgt, hle⟩
    exact ⟨Mariko.timingsExact hp hemc, Mariko.autoAdjustArb_exact hp hemc,
      Mariko.autoAdjustArbTurn_exact hp hemc, exact_arb_r2r⟩

end Configured

open Web in
theorem configured_safe_defaultForm :
    safetyCheck (configure customizeTable defaultForm) = .ok () ∧
      Erista.TimingsExact (configure customizeTable defaultForm) ∧
      Mariko.TimingsExact (configure customizeTable defaultForm) := by
  have hsafe := configured_safe formValid_defaultForm
  exact ⟨hsafe.1, (hsafe.2.2.2.1 (by decide +kernel)).1, (hsafe.2.2.2.2 (by decide +kernel)).1⟩

end SwitchOc
