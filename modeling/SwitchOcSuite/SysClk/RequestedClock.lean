import Mathlib.Tactic.Common
import SwitchOcSuite.SysClk.ClockManager
import SwitchOcSuite.SysClk.FreqRange

/-!
# The clock that `GetHz` computes

Four sources are asked in turn: the override, the profile of the title, the global
profile, and the ReverseNX mode.  A profile is configured in MHz, and the product with
1000000 is one of 32 bits: from 4295 MHz on it is another clock.  The clock that is
asked for is then looked up in the range of the real profile.

    requestedHz_exact_iff     when the clock that is asked for is the configured one
    getHz_right_iff           when the target is the nearest clock of the range
-/

namespace SwitchOc.SysClk

open Function Search

/-! ## Profiles -/

namespace Config

/-- The charger's own profile, the one of any charger, and handheld. -/
def fallback : SysClkProfile → List SysClkProfile
  | .handheld => [.handheld]
  | .handheldCharging
  | .handheldChargingUSB => [.handheldChargingUSB, .handheldCharging, .handheld]
  | .handheldChargingOfficial => [.handheldChargingOfficial, .handheldCharging, .handheld]
  | .docked => [.docked]

def firstSet : List UInt32 → UInt32
  | [] => 0
  | mhz :: rest => if mhz ≠ 0 then mhz else firstSet rest

/-- The MHz that a title has for a profile, or 0. -/
def autoClockMhz (c : Config) (tid : UInt64) (module : SysClkModule) (profile : SysClkProfile) :
    UInt32 :=
  firstSet ((fallback profile).map (c.findClockMhz tid module))

theorem findClockHzFromProfiles_eq (c : Config) (tid : UInt64) (module : SysClkModule)
    (profiles : List SysClkProfile) :
    c.findClockHzFromProfiles tid module profiles =
      firstSet (profiles.map (c.findClockMhz tid module)) * 1000000 := by
  induction profiles with
  | nil => exact UInt32.zero_mul.symm
  | cons profile profiles ih =>
    simp only [findClockHzFromProfiles, List.map_cons, firstSet]
    split
    · rfl
    · exact ih

theorem getAutoClockHz_eq (c : Config) (tid : UInt64) (module : SysClkModule)
    (profile : SysClkProfile) :
    c.getAutoClockHz tid module profile = c.autoClockMhz tid module profile * 1000000 := by
  cases profile <;> exact findClockHzFromProfiles_eq c tid module _

end Config

/-! ## The clock that is asked for -/

/-- Up to 4294 MHz the product fits into 32 bits. -/
theorem toNat_mhz_mul {mhz : UInt32} (h : mhz.toNat ≤ 4294) :
    (mhz * 1000000).toNat = mhz.toNat * 1000000 := by
  rw [UInt32.toNat_mul, show (1000000 : UInt32).toNat = 1000000 from rfl,
    Nat.mod_eq_of_lt (by omega)]

namespace ClockManager

variable {H : Type} {s : ClockManager H} {module : SysClkModule}

/-- The MHz of the title, else those of the global profile. -/
def profileMhz (s : ClockManager H) (module : SysClkModule) : UInt32 :=
  Config.firstSet
    [s.config.autoClockMhz s.context.applicationId module s.context.profile,
      s.config.autoClockMhz SYSCLK_GLOBAL_PROFILE_TID module s.context.profile]

/-- The configured MHz that decide the clock; 0 if an override does. -/
def configuredMhz (s : ClockManager H) (module : SysClkModule) : UInt32 :=
  if s.context.overrideFreqs module ≠ 0 then 0 else s.profileMhz module

/-- The clock that is asked for, in Hz: the first source that is not 0. -/
def wantedHz (s : ClockManager H) (module : SysClkModule) : Nat :=
  if s.context.overrideFreqs module ≠ 0 then (s.context.overrideFreqs module).toNat
  else if s.profileMhz module ≠ 0 then (s.profileMhz module).toNat * 1000000
  else if s.rnxSync.getMode ≠ .notFound then (s.presetHz module).toNat
  else 0

/-- The clock of a configured value, or none: 2 ^ 32 is past every 32-bit clock. -/
theorem mhz_mul_cases (mhz : UInt32) :
    (mhz.toNat ≤ 4294 ∧ (mhz * 1000000).toNat = mhz.toNat * 1000000) ∨
      (4294 < mhz.toNat ∧ 2 ^ 32 ≤ mhz.toNat * 1000000) := by
  rcases Nat.lt_or_ge 4294 mhz.toNat with hlt | hle
  · exact .inr ⟨hlt, by omega⟩
  · exact .inl ⟨hle, toNat_mhz_mul hle⟩

theorem requestedHz_exact_iff :
    (s.requestedHz module).toNat = s.wantedHz module ↔ (s.configuredMhz module).toNat ≤ 4294 := by
  have hlt := (s.requestedHz module).toNat_lt
  unfold requestedHz at hlt ⊢
  unfold wantedHz configuredMhz profileMhz Config.firstSet Config.firstSet Config.firstSet
  rw [Config.getAutoClockHz_eq, Config.getAutoClockHz_eq] at hlt ⊢
  generalize s.config.autoClockMhz s.context.applicationId module s.context.profile = title at *
  generalize s.config.autoClockMhz SYSCLK_GLOBAL_PROFILE_TID module s.context.profile = global at *
  generalize s.context.overrideFreqs module = override at *
  dsimp only at hlt ⊢
  have hzero : ∀ mhz : UInt32, mhz ≠ 0 → mhz.toNat ≤ 4294 → mhz * 1000000 ≠ 0 := by
    intro mhz hne hle hmul
    have hnat := toNat_mhz_mul hle
    rw [hmul] at hnat
    have hpos : mhz.toNat ≠ 0 := fun h => hne (UInt32.toNat_inj.1 h)
    have : (0 : UInt32).toNat = 0 := rfl
    omega
  by_cases ho : override = 0
  · subst ho
    by_cases ht : title = 0
    · subst ht
      by_cases hg : global = 0
      · -- nothing is configured
        subst hg
        simp only [UInt32.zero_mul, ne_eq, not_true_eq_false, if_true, if_false, true_and]
        split
        · exact iff_of_true rfl (by decide)
        · exact iff_of_true rfl (by decide)
      · simp only [UInt32.zero_mul, ne_eq, not_true_eq_false, if_true, if_false, hg,
          not_false_eq_true] at hlt ⊢
        rcases mhz_mul_cases global with ⟨hle, hmul⟩ | ⟨hgt, hlarge⟩
        · rw [if_neg fun h => hzero global hg hle h.1]
          exact iff_of_true hmul hle
        · exact iff_of_false (by omega) (by omega)
    · simp only [ne_eq, not_true_eq_false, if_true, if_false, ht, not_false_eq_true] at hlt ⊢
      rcases mhz_mul_cases title with ⟨hle, hmul⟩ | ⟨hgt, hlarge⟩
      · have hne := hzero title ht hle
        simp only [hne, false_and, if_false]
        exact iff_of_true hmul hle
      · exact iff_of_false (by omega) (by omega)
  · simp only [ne_eq, ho, not_false_eq_true, if_true, if_false, false_and]
    exact iff_of_true trivial (by decide)

/-! ## The target -/

/-- The words of the range of the real profile. -/
def rangeMin (s : ClockManager H) (module : SysClkModule) : Nat := (s.clocks.freqRange module).min

def rangeMax (s : ClockManager H) (module : SysClkModule) : Nat :=
  (s.clocks.freqRange module).max s.oc.realProfile

/-- The sources ask for the configured clock, and the target is the nearest one of the range. -/
structure GetHzRight (s : ClockManager H) (module : SysClkModule) : Prop where
  exact : (s.requestedHz module).toNat = s.wantedHz module
  nearest : s.wantedHz module ≠ 0 → ∃ hz, s.getHz module = .ok hz ∧
    Nearest s.clocks.hz (s.rangeMin module) (s.rangeMax module) (s.wantedHz module) hz.toNat

/-- The order that the search relies on, and a CPU range with a clock in it. -/
structure RangeUsable (s : ClockManager H) (module : SysClkModule) : Prop where
  ordered : OrderedFor s.clocks.hz (s.rangeMin module) (s.rangeMax module) (s.wantedHz module)
  cpu : module = .cpu →
    ∃ p, s.rangeMin module ≤ p ∧ p ≤ s.rangeMax module ∧ s.clocks.freqTable p ≠ 0

theorem lastEntry_ne_zero {freqTable : Nat → UInt32} (n : Nat) :
    ∀ p i, p < i → i ≤ lastEntry freqTable p n → freqTable i ≠ 0 := by
  induction n with
  | zero =>
    intro p i hlo hhi
    unfold lastEntry at hhi
    omega
  | succ n ih =>
    intro p i hlo hhi
    unfold lastEntry at hhi
    split at hhi
    · omega
    · rename_i hne
      rcases Nat.lt_or_eq_of_le (show p + 1 ≤ i from hlo) with hlt | rfl
      · exact ih (p + 1) i hlt hhi
      · exact hne

/-- Behind the first word of the CPU range there are no zeros. -/
theorem cpuRange_ne_zero (hrange : s.clocks.UpToDate) {p : Nat} (hlo : s.rangeMin .cpu < p)
    (hhi : p ≤ s.rangeMax .cpu) : s.clocks.freqTable p ≠ 0 := by
  unfold rangeMin rangeMax at *
  rw [show s.clocks.freqRange = s.clocks.updateFreqRange.freqRange from hrange] at hlo hhi
  have hle := (Clocks.cpuMax_first s.clocks s.oc.realProfile).le_hi
  exact lastEntry_ne_zero _ _ p hlo (Nat.le_trans hhi hle)

/-- Without a boost the target is the clock found in the range, unless the CPU finds none. -/
theorem getHz_found (hrange : s.clocks.UpToDate) (hboost : s.oc.systemCoreBoostCPU = false)
    (hreq : s.requestedHz module ≠ 0) :
    ∃ p, FirstAtLeast s.clocks.hz (s.rangeMin module) (s.rangeMax module)
        (s.requestedHz module).toNat p ∧
      s.getHz module = .ok (if module = .cpu ∧ s.clocks.freqTable p = 0 then 1020000000
        else s.clocks.freqTable p) := by
  obtain ⟨hle, -⟩ := Clocks.range_bounds hrange module s.oc.realProfile
  refine ⟨_, getNearestHzPtr_first s.clocks (s.requestedHz module) hle, ?_⟩
  unfold getHz Clocks.getNearestHz
  rw [Clocks.getRange_ok hrange module s.oc.realProfile]
  dsimp only
  rw [if_pos hreq]
  unfold boostedHz
  rw [hboost]
  simp only [Bool.false_and, Bool.false_eq_true, if_false]
  congr 1
  by_cases hcpu : module = .cpu
  · simp only [hcpu, if_true, true_and]
    rfl
  · simp only [hcpu, if_false, false_and]
    rfl

theorem nearest_iff_usable (hrange : s.clocks.UpToDate)
    (hboost : s.oc.systemCoreBoostCPU = false)
    (hexact : (s.requestedHz module).toNat = s.wantedHz module) (hwanted : s.wantedHz module ≠ 0) :
    (∃ hz, s.getHz module = .ok hz ∧ Nearest s.clocks.hz (s.rangeMin module) (s.rangeMax module)
      (s.wantedHz module) hz.toNat) ↔ RangeUsable s module := by
  have hreq : s.requestedHz module ≠ 0 := by
    intro hzero
    rw [hzero] at hexact
    exact hwanted hexact.symm
  obtain ⟨p, hp, hget⟩ := getHz_found hrange hboost hreq
  rw [hexact] at hp
  by_cases hnone : module = .cpu ∧ s.clocks.freqTable p = 0
  · -- the CPU range is one word, and that is 0
    obtain ⟨rfl, hzero⟩ := hnone
    have hmin : p = s.rangeMin .cpu := by
      rcases Nat.lt_or_eq_of_le hp.lo_le with hlt | heq
      · exact absurd hzero (cpuRange_ne_zero hrange hlt hp.le_hi)
      · exact heq.symm
    have hhz : s.clocks.hz p = 0 := congrArg UInt32.toNat hzero
    have hmax : p = s.rangeMax .cpu := by
      rcases Nat.lt_or_eq_of_le hp.le_hi with hlt | heq
      · have hat := hp.atLeast hlt
        omega
      · exact heq
    have hall : ∀ i, s.rangeMin .cpu ≤ i → i ≤ s.rangeMax .cpu → s.clocks.freqTable i = 0 := by
      intro i hlo hhi
      rw [show i = p by omega]
      exact hzero
    refine iff_of_false ?_ fun h => ?_
    · rintro ⟨hz, hok, hnear⟩
      rw [hget, if_pos ⟨rfl, hzero⟩] at hok
      obtain rfl := Except.ok.inj hok
      obtain ⟨i, hlo, hhi, hi⟩ := hnear.mem
      have hzero' : s.clocks.hz i = 0 := congrArg UInt32.toNat (hall i hlo hhi)
      rw [hzero'] at hi
      exact absurd hi (by decide)
    · obtain ⟨i, hlo, hhi, hne⟩ := h.cpu rfl
      exact hne (hall i hlo hhi)
  · rw [if_neg hnone] at hget
    constructor
    · rintro ⟨hz, hok, hnear⟩
      obtain rfl := Except.ok.inj (hget.symm.trans hok)
      refine ⟨hp.nearest_iff.1 hnear, fun hcpu => ⟨p, hp.lo_le, hp.le_hi, fun hzero => ?_⟩⟩
      exact hnone ⟨hcpu, hzero⟩
    · intro h
      exact ⟨_, hget, hp.nearest_iff.2 h.ordered⟩

/-- A request for more is answered with no less. -/
theorem GetHzRight.mono {s' : ClockManager H} (h : GetHzRight s module)
    (h' : GetHzRight s' module) (hclocks : s'.clocks = s.clocks)
    (hprofile : s'.oc.realProfile = s.oc.realProfile) (hwanted : s.wantedHz module ≠ 0)
    (hle : s.wantedHz module ≤ s'.wantedHz module) {hz hz' : UInt32}
    (hget : s.getHz module = .ok hz) (hget' : s'.getHz module = .ok hz') : hz ≤ hz' := by
  obtain ⟨v, hv, hnear⟩ := h.nearest hwanted
  obtain ⟨v', hv', hnear'⟩ := h'.nearest (by omega)
  obtain rfl := Except.ok.inj (hv.symm.trans hget)
  obtain rfl := Except.ok.inj (hv'.symm.trans hget')
  unfold rangeMin rangeMax at *
  rw [hclocks, hprofile] at hnear'
  exact hnear.mono hnear' hle

/-- **The target is the nearest clock to the configured one up to 4294 MHz**, where the search
can rely on the order of the range; and then more MHz never give a lower clock. -/
theorem getHz_right_iff (hrange : s.clocks.UpToDate) (hboost : s.oc.systemCoreBoostCPU = false) :
    (GetHzRight s module ↔
      (s.configuredMhz module).toNat ≤ 4294 ∧ (s.wantedHz module ≠ 0 → RangeUsable s module)) ∧
    ∀ s' : ClockManager H, s'.clocks = s.clocks → s'.oc.realProfile = s.oc.realProfile →
      GetHzRight s module → GetHzRight s' module → s.wantedHz module ≠ 0 →
      s.wantedHz module ≤ s'.wantedHz module → ∀ hz hz', s.getHz module = .ok hz →
      s'.getHz module = .ok hz' → hz ≤ hz' := by
  refine ⟨⟨fun h => ⟨requestedHz_exact_iff.1 h.exact, fun hwanted => ?_⟩, ?_⟩, ?_⟩
  · exact (nearest_iff_usable hrange hboost h.exact hwanted).1 (h.nearest hwanted)
  · rintro ⟨hmhz, husable⟩
    have hexact := requestedHz_exact_iff.2 hmhz
    exact ⟨hexact, fun hwanted =>
      (nearest_iff_usable hrange hboost hexact hwanted).2 (husable hwanted)⟩
  · intro s' hclocks hprofile h h' hwanted hle hz hz' hget hget'
    exact h.mono h' hclocks hprofile hwanted hle hget hget'

/-- The manager of a Mariko after a start, with one handheld CPU profile for all titles. -/
def profiledManager (mhz : UInt32) : ClockManager Unit :=
  let s : ClockManager Unit := new Clocks.marikoClocks false false ()
  { s with config := { s.config with
      loaded := true
      profileMhzMap := fun key =>
        if key = (SYSCLK_GLOBAL_PROFILE_TID, .handheld, .cpu) then some mhz else none } }

theorem profiledManager_usable (mhz : UInt32) : RangeUsable (profiledManager mhz) .cpu where
  ordered := Ascending.orderedFor fun i j hi hij hj =>
    (Clocks.marikoClocks_holds .cpu).ascending i j hi hij
      (Nat.le_trans hj (Clocks.cpuMax_first Clocks.marikoClocks .handheld).le_hi)
  cpu _ := by
    refine ⟨0, Nat.le_refl _, Nat.zero_le _, ?_⟩
    show (1020000000 : UInt32) ≠ 0
    decide

theorem getHz_right_1100 : GetHzRight (profiledManager 1100) .cpu :=
  (@getHz_right_iff Unit (profiledManager 1100) .cpu (Clocks.upToDate_updateFreqRange _) rfl).1.2
    ⟨by decide, fun _ => profiledManager_usable 1100⟩

example : (profiledManager 4294).getHz .cpu = .ok 1963500000 ∧
    (profiledManager 4295).getHz .cpu = .ok 1020000000 := by
  constructor <;> rfl

/-- 4295 MHz are a request for 32704 Hz. -/
theorem getHz_not_right :
    ¬ ∀ (s : ClockManager Unit) (module : SysClkModule), s.clocks.UpToDate →
      s.oc.systemCoreBoostCPU = false → GetHzRight s module := by
  intro hall
  have hexact := (hall (profiledManager 4295) .cpu (Clocks.upToDate_updateFreqRange _) rfl).exact
  exact absurd hexact (by decide)

end ClockManager

end SwitchOc.SysClk
