import Mathlib.Data.List.GetD
import Mathlib.Data.Nat.Basic
import Mathlib.Tactic.Common
import SwitchOcSuite.Lib.Search
import SwitchOcSuite.Lib.Table
import SwitchOcSuite.SysClk.ClockManager
import SwitchOcSuite.SysClk.FreqRange

/-!
# The frequency that a governor selects (`sysmodule/src/oc_extra.cpp`)

`ApplyNewFreqFromNormUtil` scales the maximum with the load, and looks the result up in
the frequency table unless it is at one of the limits.

    newHz_bounds_iff   when the frequency is within the limits
    newHz_mono_iff     when more load does not lower it, and nothing wraps

The maximum may be a stock clock that is no entry of the table; the search then rounds up
beyond it.
-/

namespace SwitchOc.SysClk

open Search

def UTIL_MAX : UInt32 := 1000

/-- `m_hz_list` is the memory from the first entry of the table on. -/
structure BaseGovernor where
  m_module : SysClkModule
  m_hz_list : List UInt32
  m_target_hz : UInt32
  min_hz : UInt32
  max_hz : UInt32

/-- `FindHzInTable`, with the word in front of `p`; `none` for a read out of bounds. -/
def findHzInTable (hz : UInt32) : Option UInt32 → List UInt32 → Option UInt32
  | _, [] => none
  | before, f :: p =>
    if f = 0 then before else if hz ≤ f then some f else findHzInTable hz (some f) p

/-- `next_freq`: the maximum times the load in thousandths, and half of it added. -/
def nextFreq (max_hz normUtil : UInt32) : UInt32 :=
  let next_freq := max_hz / UTIL_MAX * normUtil
  next_freq + next_freq >>> 1

namespace BaseGovernor

/-- `new_hz` for the scaled load. -/
def selectHz (g : BaseGovernor) (next_freq : UInt32) : Option UInt32 :=
  if g.max_hz ≤ next_freq then some g.max_hz
  else if next_freq ≤ g.min_hz then some g.min_hz
  else findHzInTable next_freq none g.m_hz_list

def newHz (g : BaseGovernor) (normUtil : UInt32) : Option UInt32 :=
  g.selectHz (nextFreq g.max_hz normUtil)

/-- `ApplyTargetFreq`, with the call of `Clocks::SetHz`. -/
def applyTargetFreq (hz : UInt32) (g : BaseGovernor) :
    BaseGovernor × Option (SysClkModule × UInt32) :=
  if hz = 0 then (g, none) else ({ g with m_target_hz := hz }, some (g.m_module, hz))

def applyNewFreqFromNormUtil (normUtil : UInt32) (g : BaseGovernor) :
    Option (BaseGovernor × Option (SysClkModule × UInt32)) :=
  match g.newHz normUtil with
  | none => none
  | some new_hz =>
    if new_hz ≠ g.m_target_hz then some (g.applyTargetFreq new_hz) else some (g, none)

/-- The frequency selected is the target afterwards, unless it is zero. -/
theorem applyNewFreqFromNormUtil_target {normUtil : UInt32} {g : BaseGovernor} {hz : UInt32}
    (h : g.newHz normUtil = some hz) (hne : hz ≠ 0) :
    ∃ call, g.applyNewFreqFromNormUtil normUtil = some ({ g with m_target_hz := hz }, call) := by
  unfold applyNewFreqFromNormUtil
  rw [h]
  dsimp only
  by_cases hcurr : hz = g.m_target_hz
  · rw [if_neg (not_not.2 hcurr), hcurr]
    exact ⟨none, rfl⟩
  · rw [if_pos hcurr]
    unfold applyTargetFreq
    rw [if_neg hne]
    exact ⟨_, rfl⟩

end BaseGovernor

/-- The governor of the GPU with the limits that `SetMaxHz` has stored. -/
def Governor.gpu (g : Governor) (words : List UInt32) (target_hz : UInt32) : BaseGovernor where
  m_module := .gpu
  m_hz_list := words
  m_target_hz := target_hz
  min_hz := g.gpuMinHz
  max_hz := g.gpuMaxHz

/-- The governor of the CPU with the limits that `SetMinHz` and `SetMaxHz` have stored. -/
def Governor.cpu (g : Governor) (words : List UInt32) (target_hz : UInt32) : BaseGovernor where
  m_module := .cpu
  m_hz_list := words
  m_target_hz := target_hz
  min_hz := g.cpuMinHz
  max_hz := g.cpuMaxHz

/-! ## The table -/

/-- The words are the entries in ascending order and a zero behind them. -/
structure HoldsList (words l : List UInt32) : Prop where
  ne_nil : l ≠ []
  positive : ∀ f ∈ l, f ≠ 0
  increasing : l.Pairwise (· < ·)
  terminated : ∃ rest, words = l ++ 0 :: rest

namespace HoldsList

variable {words l : List UInt32}

/-- The entry at an index, in Hz. -/
def hzAt (l : List UInt32) (i : Nat) : Nat := (l.getD i 0).toNat

theorem findHzInTable_cons (hz : UInt32) (rest l : List UInt32) :
    ∀ (f : UInt32) (before : Option UInt32), (∀ x ∈ f :: l, x ≠ 0) →
      ∃ p, findHzInTable hz before (f :: l ++ 0 :: rest) = some ((f :: l).getD p 0) ∧
        FirstAtLeast (hzAt (f :: l)) 0 l.length hz.toNat p := by
  induction l with
  | nil =>
    intro f before hpos
    refine ⟨0, ?_, Nat.le_refl 0, Nat.le_refl 0, fun i _ hi => absurd hi (Nat.not_lt_zero i),
      fun hlt => absurd hlt (Nat.lt_irrefl 0)⟩
    show (if f = 0 then before
      else if hz ≤ f then some f else findHzInTable hz (some f) (0 :: rest)) = some f
    rw [if_neg (hpos f List.mem_cons_self)]
    split
    · rfl
    · exact if_pos rfl
  | cons f' l ih =>
    intro f before hpos
    have hf := hpos f List.mem_cons_self
    obtain ⟨p, hfind, hp⟩ := ih f' (some f) fun x hx => hpos x (List.mem_cons_of_mem f hx)
    have hunfold : findHzInTable hz before (f :: f' :: l ++ 0 :: rest) =
        if hz ≤ f then some f else findHzInTable hz (some f) (f' :: l ++ 0 :: rest) := by
      show (if f = 0 then before else _) = _
      rw [if_neg hf]
      rfl
    by_cases hle : hz ≤ f
    · refine ⟨0, ?_, Nat.le_refl 0, Nat.zero_le _, fun i _ hi => absurd hi (Nat.not_lt_zero i),
        fun _ => UInt32.le_iff_toNat_le.1 hle⟩
      rw [hunfold, if_pos hle]
      rfl
    · refine ⟨p + 1, ?_, Nat.zero_le _, Nat.succ_le_succ hp.le_hi, fun i _ hi => ?_, fun hlt => ?_⟩
      · rw [hunfold, if_neg hle, hfind]
        rfl
      · cases i with
        | zero => exact UInt32.lt_iff_toNat_lt.1 (UInt32.not_le.1 hle)
        | succ i => exact hp.before i (Nat.zero_le i) (Nat.lt_of_succ_lt_succ hi)
      · exact hp.atLeast (Nat.lt_of_succ_lt_succ hlt)

/-- **`FindHzInTable` finds the first entry at or above `hz`**, and the last if there is none. -/
theorem findHzInTable_first (h : HoldsList words l) (hz : UInt32) :
    ∃ p, findHzInTable hz none words = some (l.getD p 0) ∧
      FirstAtLeast (hzAt l) 0 (l.length - 1) hz.toNat p := by
  obtain ⟨rest, rfl⟩ := h.terminated
  cases l with
  | nil => exact absurd rfl h.ne_nil
  | cons f l => exact findHzInTable_cons hz rest l f none h.positive

theorem hzAt_of_lt {i : Nat} (h : i < l.length) : hzAt l i = l[i].toNat := by
  unfold hzAt
  rw [List.getD_eq_getElem _ _ h]

theorem ascending (h : HoldsList words l) : Ascending (hzAt l) 0 (l.length - 1) := by
  intro i j _ hij hj
  have hpos := List.length_pos_iff.2 h.ne_nil
  rw [hzAt_of_lt (by omega), hzAt_of_lt (by omega)]
  rcases Nat.lt_or_eq_of_le hij with hlt | rfl
  · exact Nat.le_of_lt (UInt32.lt_iff_toNat_lt.1
      (List.pairwise_iff_getElem.1 h.increasing i j (by omega) (by omega) hlt))
  · exact Nat.le_refl _

theorem mem_iff (h : HoldsList words l) {f : UInt32} :
    f ∈ l ↔ ∃ i, i ≤ l.length - 1 ∧ hzAt l i = f.toNat := by
  have hpos := List.length_pos_iff.2 h.ne_nil
  constructor
  · intro hf
    obtain ⟨i, hi, rfl⟩ := List.mem_iff_getElem.1 hf
    exact ⟨i, by omega, hzAt_of_lt hi⟩
  · rintro ⟨i, hi, hf⟩
    rw [hzAt_of_lt (by omega)] at hf
    rw [← UInt32.toNat_inj.1 hf]
    exact List.getElem_mem _

/-- The table of a module in the memory of `Clocks`. -/
theorem of_holdsTable {c : Clocks} {module : SysClkModule} {n : Nat} (h : c.HoldsTable module l)
    (hn : l.length < n) : HoldsList (Table.entries c.freqTable (tableHead module) n) l := by
  refine ⟨h.ne_nil, h.positive, h.increasing,
    Table.entries c.freqTable (tableHead module + l.length + 1) (n - l.length - 1), ?_⟩
  apply List.ext_getElem
  · simp
    omega
  · intro i hi hi'
    rw [Table.getElem_entries]
    rcases Nat.lt_trichotomy i l.length with hlt | rfl | hgt
    · rw [List.getElem_append_left hlt, h.entry i hlt, List.getD_eq_getElem _ _ hlt]
    · simp [h.zero]
    · rw [List.getElem_append_right (by omega), List.getElem_cons, dif_neg (by omega),
        Table.getElem_entries]
      congr 1
      omega

/-- Whether what is found stays below a bound. -/
theorem found_le_iff (h : HoldsList words l) {hz bound : UInt32} {p : Nat}
    (hp : FirstAtLeast (hzAt l) 0 (l.length - 1) hz.toNat p) :
    l.getD p 0 ≤ bound ↔ (∃ f ∈ l, hz ≤ f ∧ f ≤ bound) ∨ ∀ f ∈ l, f ≤ bound := by
  have hlen := List.length_pos_iff.2 h.ne_nil
  have hiff := hp.value_le_bound_iff (y := bound.toNat) h.ascending
  rw [UInt32.le_iff_toNat_le]
  refine hiff.trans (or_congr ?_ ?_)
  · constructor
    · rintro ⟨i, -, hi, hle, hbound⟩
      rw [hzAt_of_lt (by omega)] at hle hbound
      exact ⟨_, List.getElem_mem _, UInt32.le_iff_toNat_le.2 hle, UInt32.le_iff_toNat_le.2 hbound⟩
    · rintro ⟨f, hf, hle, hbound⟩
      obtain ⟨i, hi, heq⟩ := h.mem_iff.1 hf
      exact ⟨i, Nat.zero_le i, hi, heq ▸ UInt32.le_iff_toNat_le.1 hle,
        heq ▸ UInt32.le_iff_toNat_le.1 hbound⟩
  · constructor
    · intro hlast f hf
      obtain ⟨i, hi, heq⟩ := h.mem_iff.1 hf
      rw [UInt32.le_iff_toNat_le, ← heq]
      exact (h.ascending i _ (Nat.zero_le i) hi (Nat.le_refl _)).trans hlast
    · intro hall
      rw [hzAt_of_lt (by omega)]
      exact UInt32.le_iff_toNat_le.1 (hall _ (List.getElem_mem _))

/-- What is found is not below a bound that the searched clock exceeds. -/
theorem le_found (h : HoldsList words l) {hz bound : UInt32} {p : Nat}
    (hp : FirstAtLeast (hzAt l) 0 (l.length - 1) hz.toNat p) (hbound : bound < hz)
    (hentry : ∃ f ∈ l, bound ≤ f) : bound ≤ l.getD p 0 := by
  rw [UInt32.le_iff_toNat_le]
  rw [UInt32.lt_iff_toNat_lt] at hbound
  rcases Nat.lt_or_eq_of_le hp.le_hi with hlt | rfl
  · exact (Nat.le_of_lt hbound).trans (hp.atLeast hlt)
  · obtain ⟨f, hf, hle⟩ := hentry
    obtain ⟨i, hi, heq⟩ := h.mem_iff.1 hf
    rw [UInt32.le_iff_toNat_le, ← heq] at hle
    exact hle.trans (h.ascending i _ (Nat.zero_le i) hi (Nat.le_refl _))

end HoldsList

/-! ## The limits -/

namespace BaseGovernor

variable {g : BaseGovernor} {l : List UInt32}

/-- **The frequency selected is within the limits** unless the scaled load lies between them
and the next entry of the table is above the maximum. -/
theorem newHz_bounds_iff (h : HoldsList g.m_hz_list l) (hlimits : g.min_hz ≤ g.max_hz)
    (hmin : ∃ f ∈ l, g.min_hz ≤ f) (normUtil : UInt32) :
    ∃ hz, g.newHz normUtil = some hz ∧
      ((g.min_hz ≤ hz ∧ hz ≤ g.max_hz) ↔
        nextFreq g.max_hz normUtil ≤ g.min_hz ∨ g.max_hz ≤ nextFreq g.max_hz normUtil ∨
          (∃ f ∈ l, nextFreq g.max_hz normUtil ≤ f ∧ f ≤ g.max_hz) ∨ ∀ f ∈ l, f ≤ g.max_hz) := by
  unfold newHz selectHz
  by_cases hmax : g.max_hz ≤ nextFreq g.max_hz normUtil
  · rw [if_pos hmax]
    exact ⟨_, rfl, iff_of_true ⟨hlimits, UInt32.le_refl _⟩ (.inr (.inl hmax))⟩
  by_cases hlow : nextFreq g.max_hz normUtil ≤ g.min_hz
  · rw [if_neg hmax, if_pos hlow]
    exact ⟨_, rfl, iff_of_true ⟨UInt32.le_refl _, hlimits⟩ (.inl hlow)⟩
  obtain ⟨p, hfind, hp⟩ := h.findHzInTable_first (nextFreq g.max_hz normUtil)
  rw [if_neg hmax, if_neg hlow, hfind]
  refine ⟨_, rfl, ?_⟩
  have hle := h.le_found hp (UInt32.not_le.1 hlow) hmin
  rw [h.found_le_iff hp]
  constructor
  · exact fun hbounds => .inr (.inr hbounds.2)
  · rintro (hlow' | hmax' | hbounds)
    · exact absurd hlow' hlow
    · exact absurd hmax' hmax
    · exact ⟨hle, hbounds⟩

/-- `SetMinHz` and `SetMaxHz` store any limits of the CPU. -/
theorem cpu_limits (isMariko : Bool) (g : Governor) (words : List UInt32)
    (target_hz min_hz : UInt32) {max_hz : UInt32} (h : max_hz ≠ 0) :
    ∃ g', (g.setMinHz min_hz .cpu).setMaxHz isMariko max_hz .cpu = .ok g' ∧
      g'.cpu words target_hz = ⟨.cpu, words, target_hz, min_hz, max_hz⟩ :=
  ⟨_, if_pos h, rfl⟩

/-- The clocks of a GPU. -/
def gpuList : List UInt32 :=
  [76800000, 153600000, 230400000, 307200000, 384000000, 460800000, 537600000, 614400000]

/-- The maximum of 768 MHz is in the table. -/
theorem newHz_bounds_marikoClocks : ∃ hz,
    (BaseGovernor.mk .gpu (Table.entries Clocks.marikoClocks.freqTable (tableHead .gpu) 31)
      76800000 153600000 768000000).newHz 300 = some hz ∧
      153600000 ≤ hz ∧ hz ≤ 768000000 := by
  have h := HoldsList.of_holdsTable (n := 31) (Clocks.marikoClocks_holds .gpu) (by decide)
  obtain ⟨hz, hrun, hiff⟩ := newHz_bounds_iff
    (g := BaseGovernor.mk .gpu (Table.entries Clocks.marikoClocks.freqTable (tableHead .gpu) 31)
      76800000 153600000 768000000) h (by decide) ⟨768000000, by decide, by decide⟩ 300
  exact ⟨hz, hrun, hiff.2 (.inr (.inr (.inl ⟨768000000, by decide, by decide, by decide⟩)))⟩

/-- With the stock clock of 307.0 MHz the GPU gets 307.2 MHz at a load of 520. -/
theorem newHz_above_max :
    (¬∀ (g : BaseGovernor) (l : List UInt32), HoldsList g.m_hz_list l → l.length ≤ 30 →
      g.min_hz ≤ g.max_hz → (∃ f ∈ l, g.min_hz ≤ f) → ∀ normUtil hz,
        g.newHz normUtil = some hz → g.min_hz ≤ hz ∧ hz ≤ g.max_hz) ∧
      ∀ (isMariko : Bool) (g : Governor), ∃ apm g',
        getEmbeddedApmConfig 0x00020003 = .ok apm ∧
          { g with apmConf := some apm }.setMaxHz isMariko 0 .gpu = .ok g' ∧
          (g'.gpu (gpuList ++ [0]) 76800000).min_hz = 153600000 ∧
          (g'.gpu (gpuList ++ [0]) 76800000).max_hz = 307000000 ∧
          (g'.gpu (gpuList ++ [0]) 76800000).newHz 520 = some 307200000 := by
  constructor
  · intro h
    have hbounds := h (BaseGovernor.mk .gpu (gpuList ++ [0]) 76800000 153600000 307000000) gpuList
      ⟨by decide, by simp [gpuList], by decide, [], rfl⟩ (by decide) (by decide)
      ⟨153600000, by decide, by decide⟩ 520 307200000 (by decide)
    exact absurd hbounds.2 (by decide)
  · intro isMariko g
    refine ⟨⟨0x00020003, 1020000000, 307000000, 1331200000⟩, _, rfl, rfl, rfl, rfl, ?_⟩
    show (BaseGovernor.mk .gpu (gpuList ++ [0]) 76800000 153600000 307000000).newHz 520 =
      some 307200000
    decide

/-! ## More load -/

/-- A higher scaled load selects no lower frequency, if the maximum is in the table. -/
theorem selectHz_mono (h : HoldsList g.m_hz_list l) (hlimits : g.min_hz ≤ g.max_hz)
    (hentry : g.max_hz ∈ l) {s t : UInt32} (hst : s ≤ t) :
    ∃ a b, g.selectHz s = some a ∧ g.selectHz t = some b ∧ a ≤ b := by
  obtain ⟨p, hfind, hp⟩ := h.findHzInTable_first s
  obtain ⟨q, hfind', hq⟩ := h.findHzInTable_first t
  unfold selectHz
  by_cases hmaxt : g.max_hz ≤ t
  · rw [if_pos hmaxt]
    by_cases hmaxs : g.max_hz ≤ s
    · rw [if_pos hmaxs]
      exact ⟨_, _, rfl, rfl, UInt32.le_refl _⟩
    rw [if_neg hmaxs]
    by_cases hlow : s ≤ g.min_hz
    · rw [if_pos hlow]
      exact ⟨_, _, rfl, rfl, hlimits⟩
    · rw [if_neg hlow, hfind]
      have hsmax := UInt32.le_of_lt (UInt32.not_le.1 hmaxs)
      exact ⟨_, _, rfl, rfl, (h.found_le_iff hp).2 (.inl ⟨_, hentry, hsmax, UInt32.le_refl _⟩)⟩
  have hmaxs : ¬g.max_hz ≤ s := fun hmaxs => hmaxt (UInt32.le_trans hmaxs hst)
  rw [if_neg hmaxt, if_neg hmaxs]
  by_cases hlowt : t ≤ g.min_hz
  · rw [if_pos hlowt, if_pos (UInt32.le_trans hst hlowt)]
    exact ⟨_, _, rfl, rfl, UInt32.le_refl _⟩
  rw [if_neg hlowt, hfind']
  by_cases hlow : s ≤ g.min_hz
  · rw [if_pos hlow]
    exact ⟨_, _, rfl, rfl, h.le_found hq (UInt32.not_le.1 hlowt) ⟨_, hentry, hlimits⟩⟩
  · rw [if_neg hlow, hfind]
    have hpq := hp.mono hq (UInt32.le_iff_toNat_le.1 hst)
    exact ⟨_, _, rfl, rfl,
      UInt32.le_iff_toNat_le.2 (h.ascending p q (Nat.zero_le p) hpq hq.le_hi)⟩

/-- The maximum in thousandths, times the load. -/
def loadHz (max_hz normUtil : UInt32) : Nat := max_hz.toNat / 1000 * normUtil.toNat

/-- The product and the sum of `next_freq` fit into 32 bits. -/
def NoWrap (max_hz normUtil : UInt32) : Prop :=
  loadHz max_hz normUtil < 2 ^ 32 ∧ loadHz max_hz normUtil + loadHz max_hz normUtil / 2 < 2 ^ 32

theorem toNat_nextFreq {max_hz normUtil : UInt32} (h : NoWrap max_hz normUtil) :
    (nextFreq max_hz normUtil).toNat =
      loadHz max_hz normUtil + loadHz max_hz normUtil / 2 := by
  obtain ⟨hmul, hadd⟩ := h
  have hload : (max_hz / UTIL_MAX * normUtil).toNat = loadHz max_hz normUtil := by
    rw [UInt32.toNat_mul, UInt32.toNat_div]
    exact Nat.mod_eq_of_lt hmul
  unfold nextFreq
  dsimp only
  rw [UInt32.toNat_add, UInt32.toNat_shiftRight, hload]
  exact Nat.mod_eq_of_lt hadd

theorem noWrap_iff (max_hz normUtil : UInt32) :
    NoWrap max_hz normUtil ↔ loadHz max_hz normUtil ≤ 2863311530 := by
  unfold NoWrap
  omega

/-- No load up to 1001 is too much below 2860.452 MHz. -/
theorem forall_loadHz_le_iff (max_hz : UInt32) :
    (∀ v : UInt32, v ≤ 1001 → loadHz max_hz v ≤ 2863311530) ↔ max_hz.toNat < 2860452000 := by
  constructor
  · intro h
    have hfull : max_hz.toNat / 1000 * 1001 ≤ 2863311530 := h 1001 (by decide)
    omega
  · intro h v hv
    have hle : loadHz max_hz v ≤ max_hz.toNat / 1000 * 1001 :=
      Nat.mul_le_mul_left _ (UInt32.le_iff_toNat_le.1 hv)
    omega

/-- **More load never lowers the clock** exactly as long as the load scaled by 1.5 fits into
32 bits. -/
theorem newHz_mono_iff (h : HoldsList g.m_hz_list l) (hlimits : g.min_hz ≤ g.max_hz)
    (hentry : g.max_hz ∈ l) {u v : UInt32} (huv : u ≤ v) :
    ∃ a b, g.newHz u = some a ∧ g.newHz v = some b ∧
      ((a ≤ b ∧ NoWrap g.max_hz u ∧ NoWrap g.max_hz v) ↔
        g.max_hz.toNat / 1000 * v.toNat ≤ 2863311530) := by
  by_cases hload : loadHz g.max_hz v ≤ 2863311530
  · have hle : loadHz g.max_hz u ≤ loadHz g.max_hz v :=
      Nat.mul_le_mul_left _ (UInt32.le_iff_toNat_le.1 huv)
    have hwrapu := (noWrap_iff g.max_hz u).2 (hle.trans hload)
    have hwrapv := (noWrap_iff g.max_hz v).2 hload
    have hnext : nextFreq g.max_hz u ≤ nextFreq g.max_hz v := by
      rw [UInt32.le_iff_toNat_le, toNat_nextFreq hwrapu, toNat_nextFreq hwrapv]
      omega
    obtain ⟨a, b, ha, hb, hab⟩ := selectHz_mono h hlimits hentry hnext
    exact ⟨a, b, ha, hb, iff_of_true ⟨hab, hwrapu, hwrapv⟩ hload⟩
  · obtain ⟨a, -, ha, -⟩ := selectHz_mono h hlimits hentry (UInt32.le_refl (nextFreq g.max_hz u))
    obtain ⟨b, -, hb, -⟩ := selectHz_mono h hlimits hentry (UInt32.le_refl (nextFreq g.max_hz v))
    refine ⟨a, b, ha, hb, iff_of_false (fun hall => ?_) hload⟩
    exact hload ((noWrap_iff g.max_hz v).1 hall.2.2)

/-- A table that ends at 3000 MHz. -/
def highList : List UInt32 := [612000000, 1020000000, 1785000000, 2397000000, 3000000000]

theorem holdsList_highList : HoldsList (highList ++ [0]) highList :=
  ⟨by decide, by simp [highList], by decide, [], rfl⟩

theorem newHz_mono_high : ∃ a b,
    (BaseGovernor.mk .cpu (highList ++ [0]) 0 612000000 3000000000).newHz 300 = some a ∧
      (BaseGovernor.mk .cpu (highList ++ [0]) 0 612000000 3000000000).newHz 600 = some b ∧
      a ≤ b := by
  obtain ⟨a, b, ha, hb, hiff⟩ := newHz_mono_iff
    (g := BaseGovernor.mk .cpu (highList ++ [0]) 0 612000000 3000000000) holdsList_highList
    (by decide) (by decide) (by decide : (300 : UInt32) ≤ 600)
  exact ⟨a, b, ha, hb, (hiff.2 (by decide)).1⟩

/-- At 3000 MHz a load of 900 selects the maximum and a full one the minimum. -/
theorem newHz_wraps :
    (¬∀ (g : BaseGovernor) (l : List UInt32), HoldsList g.m_hz_list l → g.min_hz ≤ g.max_hz →
      g.max_hz ≤ 3000000000 → g.max_hz ∈ l → ∀ u v a b, u ≤ v → v ≤ 1001 →
        g.newHz u = some a → g.newHz v = some b →
        a ≤ b ∧ NoWrap g.max_hz u ∧ NoWrap g.max_hz v) ∧
      (BaseGovernor.mk .cpu (highList ++ [0]) 0 612000000 3000000000).newHz 900 =
        some 3000000000 ∧
      (BaseGovernor.mk .cpu (highList ++ [0]) 0 612000000 3000000000).newHz 1000 =
        some 612000000 := by
  refine ⟨fun h => ?_, by decide, by decide⟩
  have hall := h (BaseGovernor.mk .cpu (highList ++ [0]) 0 612000000 3000000000) highList
    holdsList_highList (by decide) (by decide) (by decide) 900 1000 3000000000 612000000
    (by decide) (by decide) (by decide) (by decide)
  exact absurd hall.1 (by decide)

end BaseGovernor

end SwitchOc.SysClk
