import Mathlib.Algebra.Group.Nat.Defs
import Mathlib.Tactic.Common

/-!
# The charge current of the BQ24193 (`common/src/i2c.c`)

The register has steps of 64 mA from 512 mA on, and a bit for a fifth of that.  The
conversion takes the fifth for requests up to 448 mA, rounds to 100 mA and subtracts
448 mA.  Requests above 448 and below 500 mA are rounded to 400 mA, the subtraction wraps,
and the largest current is programmed (`programmed_right_iff`).  The only caller passes a
validated multiple of 100 mA, so that no request of today is wrapped.
-/

namespace SwitchOc.SysClk

namespace Bq24193

def MA_RANGE_MIN : UInt32 := 512
def MA_RANGE_MAX : UInt32 := 4544

/-- The current in front of the shift. -/
def adjusted (ma : UInt32) (pct20 : Bool) : UInt32 :=
  let ma := if pct20 then ma * 5 else ma
  let ma := ma - ma % 100
  ma - (MA_RANGE_MIN - 64)

/-- `I2c_Bq24193_Convert_mA_Raw`. -/
def convert_mA_Raw (ma : UInt32) : UInt8 :=
  let ma := if MA_RANGE_MAX < ma then MA_RANGE_MAX else ma
  let pct20 : Bool := ma ≤ MA_RANGE_MIN - 64
  let raw : UInt8 := if pct20 then 0x1 else 0
  raw ||| (adjusted ma pct20 >>> 6 <<< 2).toUInt8

/-- `I2c_Bq24193_Convert_Raw_mA`. -/
def convert_Raw_mA (raw : UInt8) : UInt32 :=
  let ma := (raw >>> 2).toUInt32 <<< 6 + MA_RANGE_MIN
  let pct20 : Bool := raw &&& 1 ≠ 0
  if pct20 then ma * 20 / 100 else ma

/-- The charge current control register, and whether a session opens. -/
structure Device where
  opens : Bool
  chargeCurrentControl : UInt8

def setFastChargeCurrentLimit (ma : UInt32) (d : Device) : Option Device :=
  if d.opens then some { d with chargeCurrentControl := convert_mA_Raw ma } else none

def getFastChargeCurrentLimit (d : Device) : Option UInt32 :=
  if d.opens then some (convert_Raw_mA d.chargeCurrentControl) else none

/-- The current that the device has after the request. -/
def programmed (ma : UInt32) : UInt32 := convert_Raw_mA (convert_mA_Raw ma)

theorem get_after_set {d d' : Device} {ma : UInt32} (h : setFastChargeCurrentLimit ma d = some d') :
    getFastChargeCurrentLimit d' = some (programmed ma) := by
  unfold setFastChargeCurrentLimit at h
  split at h
  · rename_i hopens
    obtain rfl := Option.some.inj h
    exact if_pos hopens
  · exact absurd h (by simp)

/-! ## The register -/

theorem toNat_convert_Raw_mA (raw : UInt8) :
    (convert_Raw_mA raw).toNat =
      if raw.toNat % 2 = 1 then (raw.toNat / 4 * 64 + 512) / 5 else raw.toNat / 4 * 64 + 512 := by
  have hraw := raw.toNat_lt
  have hma : ((raw >>> 2).toUInt32 <<< 6 + MA_RANGE_MIN).toNat = raw.toNat / 4 * 64 + 512 := by
    rw [UInt32.toNat_add, UInt32.toNat_shiftLeft, UInt8.toNat_toUInt32, UInt8.toNat_shiftRight]
    show ((raw.toNat >>> 2) <<< 6 % 2 ^ 32 + 512) % 2 ^ 32 = _
    rw [Nat.shiftRight_eq_div_pow, Nat.shiftLeft_eq]
    omega
  have hbit : (raw &&& 1 ≠ 0) ↔ raw.toNat % 2 = 1 := by
    rw [ne_eq, ← UInt8.toNat_inj, UInt8.toNat_and]
    show ¬raw.toNat &&& 1 = 0 ↔ _
    rw [Nat.and_one_is_mod]
    omega
  unfold convert_Raw_mA
  dsimp only
  by_cases h : raw.toNat % 2 = 1
  · rw [if_pos (decide_eq_true (hbit.2 h)), if_pos h, UInt32.toNat_div, UInt32.toNat_mul, hma]
    show (raw.toNat / 4 * 64 + 512) * 20 % 2 ^ 32 / 100 = _
    omega
  · rw [if_neg (by simpa using mt hbit.1 h), if_neg h, hma]

theorem toNat_field (x : UInt32) : (x >>> 6 <<< 2).toUInt8.toNat = x.toNat / 64 % 64 * 4 := by
  rw [UInt32.toNat_toUInt8, UInt32.toNat_shiftLeft, UInt32.toNat_shiftRight]
  show (x.toNat >>> 6) <<< 2 % 2 ^ 32 % 2 ^ 8 = _
  rw [Nat.shiftRight_eq_div_pow, Nat.shiftLeft_eq]
  omega

/-- The field of the steps and the bit of the fifth. -/
theorem toNat_raw (x : UInt32) (pct20 : Bool) :
    ((if pct20 then (0x1 : UInt8) else 0) ||| (x >>> 6 <<< 2).toUInt8).toNat =
      x.toNat / 64 % 64 * 4 + pct20.toNat := by
  rw [UInt8.toNat_or, toNat_field]
  cases pct20 with
  | false =>
    show 0 ||| x.toNat / 64 % 64 * 4 = x.toNat / 64 % 64 * 4 + 0
    rw [Nat.zero_or, Nat.add_zero]
  | true =>
    show 1 ||| x.toNat / 64 % 64 * 4 = x.toNat / 64 % 64 * 4 + 1
    rw [Nat.or_comm, show x.toNat / 64 % 64 * 4 = (x.toNat / 64 % 64) <<< 2 from
      (Nat.shiftLeft_eq (x.toNat / 64 % 64) 2).symm, ← Nat.shiftLeft_add_eq_or_of_lt (by decide)]

/-- The request after the cap. -/
def capped (ma : UInt32) : UInt32 := if MA_RANGE_MAX < ma then MA_RANGE_MAX else ma

theorem toNat_capped (ma : UInt32) : (capped ma).toNat = min ma.toNat 4544 := by
  unfold capped
  split
  · rename_i h
    have hlt : 4544 < ma.toNat := UInt32.lt_iff_toNat_lt.1 h
    show 4544 = _
    omega
  · rename_i h
    have hle : ma.toNat ≤ 4544 := UInt32.le_iff_toNat_le.1 (UInt32.not_lt.1 h)
    omega

/-- Requests up to 448 mA are programmed as a fifth. -/
def IsPct20 (ma : UInt32) : Bool := capped ma ≤ MA_RANGE_MIN - 64

theorem isPct20_iff (ma : UInt32) : IsPct20 ma = true ↔ ma.toNat ≤ 448 := by
  unfold IsPct20
  rw [decide_eq_true_eq, UInt32.le_iff_toNat_le, toNat_capped]
  show min ma.toNat 4544 ≤ 448 ↔ _
  omega

/-- The current programmed, by the current in front of the shift. -/
theorem toNat_programmed (ma : UInt32) :
    (programmed ma).toNat =
      if IsPct20 ma = true then
        ((adjusted (capped ma) (IsPct20 ma)).toNat / 64 % 64 * 64 + 512) / 5
      else (adjusted (capped ma) (IsPct20 ma)).toNat / 64 % 64 * 64 + 512 := by
  have hraw : (convert_mA_Raw ma).toNat =
      (adjusted (capped ma) (IsPct20 ma)).toNat / 64 % 64 * 4 + (IsPct20 ma).toNat :=
    toNat_raw (adjusted (capped ma) (IsPct20 ma)) (IsPct20 ma)
  unfold programmed
  rw [toNat_convert_Raw_mA, hraw]
  cases IsPct20 ma with
  | false =>
    rw [if_neg (by simp; omega), if_neg Bool.false_ne_true]
    simp
  | true =>
    rw [if_pos (by simp; omega), if_pos rfl]
    simp
    omega

/-- The subtraction does not wrap from 448 mA on, rounded. -/
theorem toNat_adjusted (ma : UInt32) (pct20 : Bool)
    (hlow : ma.toNat * 5 < 2 ^ 32) :
    (adjusted ma pct20).toNat =
      (2 ^ 32 - 448 + ((if pct20 then ma.toNat * 5 else ma.toNat) -
        (if pct20 then ma.toNat * 5 else ma.toNat) % 100)) % 2 ^ 32 := by
  have hsub : ∀ m : UInt32, (m - m % 100 - (MA_RANGE_MIN - 64)).toNat =
      (2 ^ 32 - 448 + (m.toNat - m.toNat % 100)) % 2 ^ 32 := by
    intro m
    have hround : (m - m % 100).toNat = m.toNat - m.toNat % 100 :=
      UInt32.toNat_sub_of_le _ _ (UInt32.le_iff_toNat_le.2 (by
        rw [UInt32.toNat_mod]
        exact Nat.mod_le _ _))
    rw [UInt32.toNat_sub, hround]
    rfl
  unfold adjusted
  dsimp only
  rw [hsub]
  cases pct20 with
  | false => rfl
  | true =>
    have hmul : (ma * 5).toNat = ma.toNat * 5 := by
      rw [UInt32.toNat_mul]
      exact Nat.mod_eq_of_lt hlow
    simp [hmul]

/-! ## The current programmed -/

/-- Rounded requests from 448 mA on leave room for the subtraction. -/
theorem field_of_le {r : Nat} (h : 448 ≤ r) (hr : r < 4544) :
    (2 ^ 32 - 448 + r) % 2 ^ 32 / 64 % 64 = (r - 448) / 64 := by
  omega

theorem programmed_low {ma : UInt32} (h₀ : 100 ≤ ma.toNat) (h : ma.toNat ≤ 448) :
    (programmed ma).toNat = ((ma.toNat * 5 - ma.toNat * 5 % 100 - 448) / 64 * 64 + 512) / 5 := by
  have hcap : (capped ma).toNat = ma.toNat := by rw [toNat_capped]; omega
  rw [toNat_programmed, if_pos ((isPct20_iff ma).2 h), (isPct20_iff ma).2 h,
    toNat_adjusted _ _ (by omega), hcap, if_pos rfl, field_of_le (by omega) (by omega)]

theorem isPct20_of_lt {ma : UInt32} (h : 448 < ma.toNat) : IsPct20 ma = false := by
  rw [← Bool.not_eq_true, isPct20_iff]
  omega

theorem programmed_high {ma : UInt32} (h : 500 ≤ ma.toNat) :
    (programmed ma).toNat =
      (min ma.toNat 4544 - min ma.toNat 4544 % 100 - 448) / 64 * 64 + 512 := by
  have hcap := toNat_capped ma
  rw [toNat_programmed, isPct20_of_lt (by omega), if_neg Bool.false_ne_true,
    toNat_adjusted _ _ (by omega), hcap, if_neg Bool.false_ne_true,
    field_of_le (by omega) (by omega)]

/-- The subtraction wraps. -/
theorem programmed_wrapped {ma : UInt32} (h₀ : 449 ≤ ma.toNat) (h : ma.toNat ≤ 499) :
    (programmed ma).toNat = 4544 := by
  have hcap : (capped ma).toNat = ma.toNat := by rw [toNat_capped]; omega
  have hround : ma.toNat - ma.toNat % 100 = 400 := by omega
  have hfield : (programmed ma).toNat =
      (2 ^ 32 - 448 + 400) % 2 ^ 32 / 64 % 64 * 64 + 512 := by
    rw [toNat_programmed, isPct20_of_lt (by omega), if_neg Bool.false_ne_true,
      toNat_adjusted _ _ (by omega), hcap, if_neg Bool.false_ne_true, hround]
  omega

/-- The current programmed is at most the request, as far as the range goes, and one step. -/
def Bounded (ma : UInt32) : Prop := (programmed ma).toNat ≤ min ma.toNat 4544 + 64

theorem bounded_iff {ma : UInt32} (h : 100 ≤ ma.toNat) :
    Bounded ma ↔ ¬(449 ≤ ma.toNat ∧ ma.toNat ≤ 499) := by
  unfold Bounded
  rcases Nat.lt_or_ge 448 ma.toNat with hlt | hle
  · rcases Nat.lt_or_ge 499 ma.toNat with hhigh | hwrap
    · rw [programmed_high hhigh]
      omega
    · rw [programmed_wrapped hlt hwrap]
      omega
  · rw [programmed_low h hle]
    omega

/-- Requests that are not wrapped are programmed in their order. -/
theorem programmed_mono {a b : UInt32} (h : 100 ≤ a.toNat) (hab : a.toNat ≤ b.toNat)
    (ha : ¬(449 ≤ a.toNat ∧ a.toNat ≤ 499)) (hb : ¬(449 ≤ b.toNat ∧ b.toNat ≤ 499)) :
    (programmed a).toNat ≤ (programmed b).toNat := by
  have hlow : ∀ x y : Nat, x ≤ y → x - x % 100 ≤ y - y % 100 := by
    intro x y hxy
    omega
  rcases Nat.lt_or_ge 448 b.toNat with hbhigh | hblow
  · rw [programmed_high (by omega : 500 ≤ b.toNat)]
    rcases Nat.lt_or_ge 448 a.toNat with hahigh | halow
    · rw [programmed_high (by omega : 500 ≤ a.toNat)]
      have := hlow (min a.toNat 4544) (min b.toNat 4544) (by omega)
      omega
    · rw [programmed_low h halow]
      have := hlow (a.toNat * 5) 2240 (by omega)
      omega
  · rw [programmed_low h (Nat.le_trans hab hblow), programmed_low (Nat.le_trans h hab) hblow]
    have := hlow (a.toNat * 5) (b.toNat * 5) (by omega)
    omega

/-- **The charge current is bounded and in order** exactly if neither request lies between
449 and 499 mA. -/
theorem programmed_right_iff {a b : UInt32} (h : 100 ≤ a) (hab : a ≤ b) :
    (Bounded a ∧ Bounded b ∧ programmed a ≤ programmed b) ↔
      ¬(449 ≤ a ∧ a ≤ 499) ∧ ¬(449 ≤ b ∧ b ≤ 499) := by
  have h' : 100 ≤ a.toNat := UInt32.le_iff_toNat_le.1 h
  have hab' := UInt32.le_iff_toNat_le.1 hab
  have hrange : ∀ m : UInt32, (449 ≤ m ∧ m ≤ 499) ↔ (449 ≤ m.toNat ∧ m.toNat ≤ 499) := fun m =>
    and_congr UInt32.le_iff_toNat_le UInt32.le_iff_toNat_le
  rw [bounded_iff h', bounded_iff (Nat.le_trans h' hab'), hrange, hrange, UInt32.le_iff_toNat_le]
  constructor
  · exact fun hall => ⟨hall.1, hall.2.1⟩
  · exact fun hall => ⟨hall.1, hall.2, programmed_mono h' hab' hall.1 hall.2⟩

theorem programmed_right_stock : Bounded 448 ∧ Bounded 2000 ∧ programmed 448 ≤ programmed 2000 :=
  (programmed_right_iff (by decide) (by decide)).2 (by decide)

/-- A request of 450 mA programs 4544 mA. -/
theorem programmed_wraps :
    (¬∀ ma : UInt32, 100 ≤ ma → Bounded ma) ∧
      (¬∀ a b : UInt32, 100 ≤ a → a ≤ b → programmed a ≤ programmed b) ∧
      programmed 450 = 4544 ∧ programmed 500 = 512 := by
  refine ⟨fun h => ?_, fun h => ?_, by decide, by decide⟩
  · exact absurd (h 450 (by decide)) (by unfold Bounded; decide)
  · exact absurd (h 450 500 (by decide) (by decide)) (by decide)

end Bq24193

end SwitchOc.SysClk
