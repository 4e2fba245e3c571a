import Mathlib.Algebra.Group.Nat.Defs
import Mathlib.Tactic.Common
import SwitchOcSuite.SysClk.Clocks

/-!
# The load of a core (`sysmodule/src/oc_extra.cpp`)

`CpuCoreUtil::Get` divides the idle ticks between two reads of the idle counter by the
ticks between two reads of the system tick, each made in front of the other.  If the
second read of the idle counter is late, there are more idle ticks than ticks, and the
subtraction from `UTIL_MAX` wraps (`coreUtil_le_iff`).
-/

namespace SwitchOc.SysClk

/-- The idle counter of a core at each system tick: it never goes back, and never faster
than the time. -/
structure IdleCounter where
  idleTickCount : UInt64 → UInt64
  mono : ∀ s t, s ≤ t → idleTickCount s ≤ idleTickCount t
  slope : ∀ s t, s ≤ t → idleTickCount t - idleTickCount s ≤ t - s

namespace CpuCoreUtil

def UTIL_MAX : UInt32 := 1000

/-- `_ctx`. -/
structure Ctx where
  systick : UInt64
  idletick : UInt64

/-- The system tick is read first, the idle counter later. -/
def read (idle : IdleCounter) (tick idleTick : UInt64) : Ctx := ⟨tick, idle.idleTickCount idleTick⟩

/-- What `Get` returns of the two contexts. -/
def util (begin_ end_ : Ctx) : UInt32 :=
  let diff_idletick := end_.idletick - begin_.idletick
  let diff_systick := end_.systick - begin_.systick
  (UTIL_MAX.toUInt64 - diff_idletick * 10 * 100 / diff_systick).toUInt32

/-- `Get` with the reads at `t₀` to `t₃`. -/
def get (idle : IdleCounter) (t₀ t₁ t₂ t₃ : UInt64) : UInt32 :=
  util (read idle t₀ t₁) (read idle t₂ t₃)

/-! ## The subtraction -/

/-- The idle ticks in thousandths, as a 64-bit product. -/
theorem toNat_thousandths (d : UInt64) : (d * 10 * 100).toNat = d.toNat * 1000 % 2 ^ 64 := by
  rw [UInt64.toNat_mul, UInt64.toNat_mul]
  show d.toNat * 10 % 2 ^ 64 * 100 % 2 ^ 64 = _
  omega

theorem util_le_iff_quotient (begin_ end_ : Ctx) :
    (util begin_ end_).toNat ≤ 1000 ↔
      (end_.idletick - begin_.idletick).toNat * 1000 % 2 ^ 64 /
        (end_.systick - begin_.systick).toNat % 2 ^ 32 ≤ 1000 := by
  have hq := ((end_.idletick - begin_.idletick) * 10 * 100 /
    (end_.systick - begin_.systick)).toNat_lt
  unfold util
  dsimp only
  rw [← toNat_thousandths, ← UInt64.toNat_div, UInt64.toNat_toUInt32, UInt64.toNat_sub]
  show (2 ^ 64 - _ + 1000) % 2 ^ 64 % 2 ^ 32 ≤ 1000 ↔ _
  omega

/-- A quotient modulo `2 ^ 32` is small if the dividend is little above a multiple. -/
theorem quotient_le_iff {x e : Nat} (he : 0 < e) :
    x / e % 2 ^ 32 ≤ 1000 ↔ x % (2 ^ 32 * e) < 1001 * e := by
  rw [Nat.mul_comm (2 ^ 32) e, ← Nat.mod_mul_right_div_self, ← Nat.lt_succ_iff,
    Nat.div_lt_iff_lt_mul he]

/-! ## The readings -/

/-- The idle ticks between the two reads of the counter. -/
def idleTicks (idle : IdleCounter) (t₁ t₃ : UInt64) : Nat :=
  (idle.idleTickCount t₃).toNat - (idle.idleTickCount t₁).toNat

theorem toNat_diff_idletick (idle : IdleCounter) {t₁ t₃ : UInt64} (h : t₁ ≤ t₃) :
    (idle.idleTickCount t₃ - idle.idleTickCount t₁).toNat = idleTicks idle t₁ t₃ :=
  UInt64.toNat_sub_of_le _ _ (idle.mono t₁ t₃ h)

theorem idleTicks_le (idle : IdleCounter) {t₁ t₃ : UInt64} (h : t₁ ≤ t₃) :
    idleTicks idle t₁ t₃ ≤ t₃.toNat - t₁.toNat := by
  rw [← toNat_diff_idletick idle h, ← UInt64.toNat_sub_of_le _ _ h]
  exact UInt64.le_iff_toNat_le.1 (idle.slope t₁ t₃ h)

/-- **The load is at most `UTIL_MAX`** exactly if the idle ticks, in thousandths and as far as
64 and 32 bits hold them, are less than 1.001 times the ticks. -/
theorem coreUtil_le_iff (idle : IdleCounter) {t₀ t₁ t₂ t₃ : UInt64} (h₀ : t₀ ≤ t₁) (h₁ : t₁ < t₂)
    (h₂ : t₂ ≤ t₃) :
    (get idle t₀ t₁ t₂ t₃ ≤ UTIL_MAX ↔
      idleTicks idle t₁ t₃ * 1000 % 2 ^ 64 % (2 ^ 32 * (t₂.toNat - t₀.toNat)) <
        1001 * (t₂.toNat - t₀.toNat)) ∧
      (idleTicks idle t₁ t₃ * 1000 < 2 ^ 64 →
        idleTicks idle t₁ t₃ * 1000 < 2 ^ 32 * (t₂.toNat - t₀.toNat) →
        (get idle t₀ t₁ t₂ t₃ ≤ UTIL_MAX ↔
          idleTicks idle t₁ t₃ * 1000 < 1001 * (t₂.toNat - t₀.toNat))) ∧
      (t₃.toNat - t₁.toNat ≤ t₂.toNat - t₀.toNat → get idle t₀ t₁ t₂ t₃ ≤ UTIL_MAX) := by
  have h₀' := UInt64.le_iff_toNat_le.1 h₀
  have h₁' := UInt64.lt_iff_toNat_lt.1 h₁
  have h₁₃ : t₁ ≤ t₃ := UInt64.le_trans (UInt64.le_of_lt h₁) h₂
  have h₀₂ : t₀ ≤ t₂ := UInt64.le_trans h₀ (UInt64.le_of_lt h₁)
  have hticks : 0 < t₂.toNat - t₀.toNat := by omega
  have hiff : get idle t₀ t₁ t₂ t₃ ≤ UTIL_MAX ↔
      idleTicks idle t₁ t₃ * 1000 % 2 ^ 64 % (2 ^ 32 * (t₂.toNat - t₀.toNat)) <
        1001 * (t₂.toNat - t₀.toNat) := by
    have hutil := util_le_iff_quotient (read idle t₀ t₁) (read idle t₂ t₃)
    unfold read at hutil
    dsimp only at hutil
    rw [toNat_diff_idletick idle h₁₃, UInt64.toNat_sub_of_le _ _ h₀₂, quotient_le_iff hticks]
      at hutil
    rw [UInt32.le_iff_toNat_le]
    exact hutil
  refine ⟨hiff, fun hproduct hquotient => ?_, fun hlate => ?_⟩
  · rw [hiff, Nat.mod_eq_of_lt hproduct, Nat.mod_eq_of_lt hquotient]
  · rw [hiff]
    have hidle := idleTicks_le idle h₁₃
    have hmod := Nat.mod_le (idleTicks idle t₁ t₃ * 1000) (2 ^ 64)
    have hmod' := Nat.mod_le (idleTicks idle t₁ t₃ * 1000 % 2 ^ 64)
      (2 ^ 32 * (t₂.toNat - t₀.toNat))
    omega

/-- A core that does nothing. -/
def idleCore : IdleCounter := ⟨fun t => t, fun _ _ h => h, fun _ _ _ => UInt64.le_refl _⟩

/-- The second read is as late as the first. -/
theorem coreUtil_le_idle : get idleCore 0 7 96000 96007 ≤ UTIL_MAX :=
  (coreUtil_le_iff idleCore (by decide) (by decide) (by decide)).2.2 (by decide)

/-- The second read of the idle counter is 100 ticks late: the idle core has a load above
`BOOST_THRESHOLD`. -/
theorem coreUtil_wraps :
    (¬∀ (idle : IdleCounter) (t₀ t₁ t₂ t₃ : UInt64), t₀ ≤ t₁ → t₁ < t₂ → t₂ ≤ t₃ →
      get idle t₀ t₁ t₂ t₃ ≤ UTIL_MAX) ∧
      get idleCore 0 0 96000 96100 = 4294967295 ∧
      BOOST_THRESHOLD ≤ get idleCore 0 0 96000 96100 := by
  refine ⟨fun h => ?_, by decide, by decide⟩
  exact absurd (h idleCore 0 0 96000 96100 (by decide) (by decide) (by decide)) (by decide)

end CpuCoreUtil

end SwitchOc.SysClk
