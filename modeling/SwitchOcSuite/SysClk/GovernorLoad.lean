import SwitchOcSuite.SysClk.GovernorFreq
import SwitchOcSuite.SysClk.SlidingWindow

/-!
# The load averages of the governors (`sysmodule/src/oc_extra.h`)

`PeltUtil` and `MaxWindow` add each load to what is left of the sum of the loads before.
`UTIL_ACC_MAX` is meant for the limit of the sum under full load, but the sums go beyond
it: they stay below for loads up to 998 on the CPU and up to 985 on the GPU, and for no
higher bound (`accumulators_iff`).
-/

namespace SwitchOc.SysClk

/-! ## The two averages -/

/-- `util_acc * DECAY_DIVIDENT / DECAY_DIVISOR + util`. -/
def decayed (DECAY_DIVIDENT DECAY_DIVISOR util_acc util : UInt32) : UInt32 :=
  util_acc * DECAY_DIVIDENT / DECAY_DIVISOR + util

structure PeltUtil where
  util_acc : UInt32

namespace PeltUtil

def DECAY_DIVIDENT : UInt32 := 4129
def DECAY_DIVISOR : UInt32 := 8192
def UTIL_ACC_MAX : UInt32 := 2012

def new : PeltUtil := ⟨0⟩

def get (p : PeltUtil) : UInt32 := p.util_acc * UTIL_MAX / UTIL_ACC_MAX

def update (p : PeltUtil) (util : UInt32) : PeltUtil :=
  ⟨decayed DECAY_DIVIDENT DECAY_DIVISOR p.util_acc util⟩

def updateAll (utils : List UInt32) : PeltUtil := utils.foldl update new

end PeltUtil

structure MaxWindow where
  window : SWindowMax UInt32 32
  util_acc : UInt32

namespace MaxWindow

def DECAY_DIVIDENT : UInt32 := 6880
def DECAY_DIVISOR : UInt32 := 8192
def UTIL_ACC_MAX : UInt32 := 6145

def new : MaxWindow := ⟨.new, 0⟩

def get (m : MaxWindow) : UInt32 := (m.util_acc * UTIL_MAX / UTIL_ACC_MAX + m.window.get) / 2

/-- `none` is a fault of the window. -/
def update (m : MaxWindow) (util : UInt32) : Option MaxWindow :=
  match m.window.add util with
  | none => none
  | some window => some ⟨window, decayed DECAY_DIVIDENT DECAY_DIVISOR m.util_acc util⟩

def updateAll (utils : List UInt32) : Option MaxWindow := utils.foldlM update new

end MaxWindow

/-! ## The sums -/

/-- The sum after the loads, with the divisor of both averages. -/
def accumulated (DECAY_DIVIDENT : UInt32) (utils : List UInt32) : UInt32 :=
  utils.foldl (decayed DECAY_DIVIDENT 8192) 0

theorem PeltUtil.updateAll_acc (utils : List UInt32) :
    (updateAll utils).util_acc = accumulated DECAY_DIVIDENT utils := by
  have hrun : ∀ (utils : List UInt32) (p : PeltUtil),
      (utils.foldl update p).util_acc = utils.foldl (decayed DECAY_DIVIDENT 8192) p.util_acc := by
    intro utils
    induction utils with
    | nil => exact fun p => rfl
    | cons util utils ih => exact fun p => ih (p.update util)
  exact hrun utils new

/-- The step does not overflow. -/
def Fits (DECAY_DIVIDENT util_acc util : UInt32) : Prop :=
  util_acc.toNat * DECAY_DIVIDENT.toNat < 2 ^ 32 ∧
    util_acc.toNat * DECAY_DIVIDENT.toNat / 8192 + util.toNat < 2 ^ 32

theorem toNat_decayed {d util_acc util : UInt32} (h : Fits d util_acc util) :
    (decayed d 8192 util_acc util).toNat = util_acc.toNat * d.toNat / 8192 + util.toNat := by
  obtain ⟨hmul, hadd⟩ := h
  unfold decayed
  rw [UInt32.toNat_add, UInt32.toNat_div, UInt32.toNat_mul, Nat.mod_eq_of_lt hmul]
  exact Nat.mod_eq_of_lt hadd

/-- A bound that one step with the highest load keeps is kept by all. -/
theorem fits_and_decayed_le {d util_acc util : UInt32} {bound top : Nat}
    (hfix : bound * d.toNat / 8192 + top ≤ bound) (hfit : bound * d.toNat < 2 ^ 32)
    (hbound : bound < 2 ^ 32) (hacc : util_acc.toNat ≤ bound) (hutil : util.toNat ≤ top) :
    Fits d util_acc util ∧ (decayed d 8192 util_acc util).toNat ≤ bound := by
  have hmul : util_acc.toNat * d.toNat ≤ bound * d.toNat := Nat.mul_le_mul_right _ hacc
  have hdiv : util_acc.toNat * d.toNat / 8192 ≤ bound * d.toNat / 8192 :=
    Nat.div_le_div_right hmul
  have hfits : Fits d util_acc util := ⟨by omega, by omega⟩
  refine ⟨hfits, ?_⟩
  rw [toNat_decayed hfits]
  omega

theorem accumulated_le {d : UInt32} (bound top : Nat)
    (hfix : bound * d.toNat / 8192 + top ≤ bound) (hfit : bound * d.toNat < 2 ^ 32)
    (hbound : bound < 2 ^ 32) {utils : List UInt32} (hutils : ∀ u ∈ utils, u.toNat ≤ top) :
    (accumulated d utils).toNat ≤ bound := by
  have hrun : ∀ (utils : List UInt32) (util_acc : UInt32), (∀ u ∈ utils, u.toNat ≤ top) →
      util_acc.toNat ≤ bound → (utils.foldl (decayed d 8192) util_acc).toNat ≤ bound := by
    intro utils
    induction utils with
    | nil => exact fun util_acc _ hacc => hacc
    | cons util utils ih =>
      intro util_acc hutils hacc
      refine ih _ (fun u hu => hutils u (List.mem_cons_of_mem util hu)) ?_
      exact (fits_and_decayed_le hfix hfit hbound hacc (hutils util List.mem_cons_self)).2
  exact hrun utils 0 hutils (Nat.zero_le bound)

/-- The highest load with which the sum stays below the maximum in all runs: the next one
exceeds it in some run. -/
theorem forall_accumulated_le_iff {d limit top : UInt32} (max k : Nat)
    (hfix : max * d.toNat / 8192 + limit.toNat ≤ max) (hfit : max * d.toNat < 2 ^ 32)
    (hmax : max < 2 ^ 32) (hnext : (limit + 1).toNat = limit.toNat + 1)
    (hexceeds : max < (accumulated d (List.replicate k (limit + 1))).toNat) :
    (∀ utils : List UInt32, (∀ u ∈ utils, u ≤ top) → (accumulated d utils).toNat ≤ max) ↔
      top ≤ limit := by
  constructor
  · intro h
    by_contra hlt
    rw [UInt32.le_iff_toNat_le] at hlt
    refine absurd (h (List.replicate k (limit + 1)) fun u hu => ?_) (Nat.not_le.2 hexceeds)
    rw [List.eq_of_mem_replicate hu, UInt32.le_iff_toNat_le, hnext]
    exact Nat.not_le.1 hlt
  · intro h utils hutils
    refine accumulated_le max limit.toNat hfix hfit hmax fun u hu => ?_
    exact UInt32.le_iff_toNat_le.1 (UInt32.le_trans (hutils u hu) h)

/-- **The sum stays below the maximum in a whole run** exactly if each step has room. -/
theorem accumulated_le_iff {d : UInt32} (bound top max : Nat)
    (hfix : bound * d.toNat / 8192 + top ≤ bound) (hfit : bound * d.toNat < 2 ^ 32)
    (hbound : bound < 2 ^ 32) {utils : List UInt32} (hutils : ∀ u ∈ utils, u.toNat ≤ top)
    (htop : top ≤ max) :
    (∀ begun, begun <+: utils → (accumulated d begun).toNat ≤ max) ↔
      ∀ begun util, begun ++ [util] <+: utils →
        (accumulated d begun).toNat * d.toNat < 8192 * (max + 1 - util.toNat) := by
  have hstep : ∀ begun util, begun ++ [util] <+: utils →
      ((accumulated d (begun ++ [util])).toNat ≤ max ↔
        (accumulated d begun).toNat * d.toNat < 8192 * (max + 1 - util.toNat)) := by
    intro begun util hbegun
    have hutil := hutils util (hbegun.subset (by simp))
    have hacc : (accumulated d begun).toNat ≤ bound :=
      accumulated_le bound top hfix hfit hbound fun u hu =>
        hutils u (hbegun.subset (List.mem_append_left _ hu))
    have hfits := (fits_and_decayed_le hfix hfit hbound hacc hutil).1
    have hnext : (accumulated d (begun ++ [util])).toNat =
        (accumulated d begun).toNat * d.toNat / 8192 + util.toNat := by
      rw [← toNat_decayed hfits]
      unfold accumulated
      rw [List.foldl_append]
      rfl
    rw [hnext]
    omega
  constructor
  · exact fun h begun util hbegun => (hstep begun util hbegun).1 (h _ hbegun)
  · intro h begun hbegun
    rcases List.eq_nil_or_concat begun with rfl | ⟨before, util, rfl⟩
    · exact Nat.zero_le max
    · rw [List.concat_eq_append] at hbegun ⊢
      exact (hstep before util hbegun).2 (h before util hbegun)

/-! ## The averages within their maxima -/

/-- The sum and `Get` are within their maxima, and neither `Get` nor the next `Update`
overflows. -/
structure PeltUtil.Sound (p : PeltUtil) : Prop where
  acc_le : p.util_acc ≤ PeltUtil.UTIL_ACC_MAX
  get_le : p.get ≤ UTIL_MAX
  get_fits : p.util_acc.toNat * UTIL_MAX.toNat < 2 ^ 32
  update_fits : ∀ util, util ≤ UTIL_MAX → Fits PeltUtil.DECAY_DIVIDENT p.util_acc util

structure MaxWindow.Sound (m : MaxWindow) : Prop where
  acc_le : m.util_acc ≤ MaxWindow.UTIL_ACC_MAX
  get_le : m.get ≤ UTIL_MAX
  get_fits : m.util_acc.toNat * UTIL_MAX.toNat < 2 ^ 32 ∧
    m.util_acc.toNat * UTIL_MAX.toNat / MaxWindow.UTIL_ACC_MAX.toNat + m.window.get.toNat < 2 ^ 32
  update_fits : ∀ util, util ≤ UTIL_MAX → Fits MaxWindow.DECAY_DIVIDENT m.util_acc util

theorem PeltUtil.sound_iff (p : PeltUtil) : p.Sound ↔ p.util_acc.toNat ≤ 2012 := by
  constructor
  · exact fun h => UInt32.le_iff_toNat_le.1 h.acc_le
  · intro hacc
    have hfits : p.util_acc.toNat * UTIL_MAX.toNat < 2 ^ 32 := by
      show p.util_acc.toNat * 1000 < 2 ^ 32
      omega
    refine ⟨UInt32.le_iff_toNat_le.2 hacc, ?_, hfits, fun util hutil => ?_⟩
    · rw [UInt32.le_iff_toNat_le, get, UInt32.toNat_div, UInt32.toNat_mul, Nat.mod_eq_of_lt hfits]
      show p.util_acc.toNat * 1000 / 2012 ≤ 1000
      omega
    · have hle : util.toNat ≤ 1000 := UInt32.le_iff_toNat_le.1 hutil
      show p.util_acc.toNat * 4129 < 2 ^ 32 ∧ p.util_acc.toNat * 4129 / 8192 + util.toNat < 2 ^ 32
      omega

theorem MaxWindow.sound_iff {m : MaxWindow} (h : m.window.get ≤ UTIL_MAX) :
    m.Sound ↔ m.util_acc.toNat ≤ 6145 := by
  have hwindow : m.window.get.toNat ≤ 1000 := UInt32.le_iff_toNat_le.1 h
  constructor
  · exact fun h => UInt32.le_iff_toNat_le.1 h.acc_le
  · intro hacc
    have hfits : m.util_acc.toNat * UTIL_MAX.toNat < 2 ^ 32 := by
      show m.util_acc.toNat * 1000 < 2 ^ 32
      omega
    have hsum : m.util_acc.toNat * UTIL_MAX.toNat / UTIL_ACC_MAX.toNat + m.window.get.toNat <
        2 ^ 32 := by
      show m.util_acc.toNat * 1000 / 6145 + m.window.get.toNat < 2 ^ 32
      omega
    refine ⟨UInt32.le_iff_toNat_le.2 hacc, ?_, ⟨hfits, hsum⟩, fun util hutil => ?_⟩
    · rw [UInt32.le_iff_toNat_le, get, UInt32.toNat_div, UInt32.toNat_add, UInt32.toNat_div,
        UInt32.toNat_mul, Nat.mod_eq_of_lt hfits, Nat.mod_eq_of_lt hsum]
      show (m.util_acc.toNat * 1000 / 6145 + m.window.get.toNat) / 2 ≤ 1000
      omega
    · have hle : util.toNat ≤ 1000 := UInt32.le_iff_toNat_le.1 hutil
      show m.util_acc.toNat * 6880 < 2 ^ 32 ∧ m.util_acc.toNat * 6880 / 8192 + util.toNat < 2 ^ 32
      omega

/-- The window of `MaxWindow` has no faults, and holds none but the loads. -/
theorem MaxWindow.updateAll_eq {utils : List UInt32} (hutils : ∀ u ∈ utils, u ≤ UTIL_MAX) :
    ∃ m, updateAll utils = some m ∧ m.util_acc = accumulated DECAY_DIVIDENT utils ∧
      m.window.get ≤ UTIL_MAX := by
  obtain ⟨w, hadd, hget⟩ := SWindowMax.get_mem (by decide : 1 ≤ 32) utils
  have hrun : ∀ (utils : List UInt32) (m : MaxWindow), m.window.addAll utils = some w →
      utils.foldlM update m = some ⟨w, utils.foldl (decayed DECAY_DIVIDENT 8192) m.util_acc⟩ := by
    intro utils
    induction utils with
    | nil =>
      intro m h
      obtain rfl := Option.some.inj h
      rfl
    | cons util utils ih =>
      intro m h
      unfold SWindowMax.addAll at h
      rw [List.foldlM_cons] at h
      obtain ⟨window, hwindow, hrest⟩ := Option.bind_eq_some_iff.1 h
      have hupdate : m.update util =
          some ⟨window, decayed DECAY_DIVIDENT DECAY_DIVISOR m.util_acc util⟩ := by
        unfold update
        rw [hwindow]
      rw [List.foldlM_cons, hupdate]
      exact ih ⟨window, _⟩ hrest
  refine ⟨_, hrun utils new hadd, rfl, ?_⟩
  rcases hget with hzero | hmem
  · show w.get ≤ UTIL_MAX
    rw [hzero]
    decide
  · exact hutils _ hmem

/-! ## Runs -/

theorem toNat_le_top {utils : List UInt32} {top : UInt32} (h : ∀ u ∈ utils, u ≤ top) :
    ∀ u ∈ utils, u.toNat ≤ top.toNat := fun u hu => UInt32.le_iff_toNat_le.1 (h u hu)

theorem PeltUtil.sound_run_iff {utils : List UInt32} (hutils : ∀ u ∈ utils, u ≤ UTIL_MAX) :
    (∀ begun, begun <+: utils → (updateAll begun).Sound) ↔
      ∀ begun util, begun ++ [util] <+: utils →
        (updateAll begun).util_acc.toNat * 4129 < 8192 * (2013 - util.toNat) := by
  simp only [sound_iff, updateAll_acc]
  exact accumulated_le_iff 2015 1000 2012 (by decide) (by decide) (by decide)
    (toNat_le_top hutils) (by decide)

/-- A property of the state after a run is one of the sum. -/
theorem MaxWindow.exists_updateAll_iff {utils : List UInt32} (hutils : ∀ u ∈ utils, u ≤ UTIL_MAX)
    {P : MaxWindow → Prop} {Q : UInt32 → Prop}
    (hPQ : ∀ m : MaxWindow, m.window.get ≤ UTIL_MAX → (P m ↔ Q m.util_acc)) :
    (∃ m, updateAll utils = some m ∧ P m) ↔ Q (accumulated DECAY_DIVIDENT utils) := by
  obtain ⟨m, hrun, hacc, hget⟩ := updateAll_eq hutils
  rw [← hacc, ← hPQ m hget]
  constructor
  · rintro ⟨m', hrun', hP⟩
    obtain rfl := Option.some.inj (hrun.symm.trans hrun')
    exact hP
  · exact fun hP => ⟨m, hrun, hP⟩

theorem MaxWindow.sound_run_iff {utils : List UInt32} (hutils : ∀ u ∈ utils, u ≤ UTIL_MAX) :
    (∀ begun, begun <+: utils → ∃ m, updateAll begun = some m ∧ m.Sound) ↔
      ∀ begun util, begun ++ [util] <+: utils → ∃ m, updateAll begun = some m ∧
        m.util_acc.toNat * 6880 < 8192 * (6146 - util.toNat) := by
  have hbegun : ∀ begun, begun <+: utils → ∀ u ∈ begun, u ≤ UTIL_MAX :=
    fun begun h u hu => hutils u (h.subset hu)
  have hiff := accumulated_le_iff (d := DECAY_DIVIDENT) 6238 1000 6145 (by decide) (by decide)
    (by decide) (toNat_le_top hutils) (by decide)
  have hsound : ∀ begun, begun <+: utils → ((∃ m, updateAll begun = some m ∧ m.Sound) ↔
      (accumulated DECAY_DIVIDENT begun).toNat ≤ 6145) := fun begun h =>
    exists_updateAll_iff (Q := fun acc => acc.toNat ≤ 6145) (hbegun begun h)
      fun m hget => sound_iff hget
  have hroom : ∀ begun util, begun ++ [util] <+: utils →
      ((∃ m, updateAll begun = some m ∧ m.util_acc.toNat * 6880 < 8192 * (6146 - util.toNat)) ↔
        (accumulated DECAY_DIVIDENT begun).toNat * 6880 < 8192 * (6146 - util.toNat)) :=
    fun begun util h =>
      exists_updateAll_iff (Q := fun acc => acc.toNat * 6880 < 8192 * (6146 - util.toNat))
        (hbegun begun ((List.prefix_append begun [util]).trans h)) fun m _ => Iff.rfl
  constructor
  · intro h begun util hp
    exact (hroom begun util hp).2 (hiff.1 (fun b hb => (hsound b hb).1 (h b hb)) begun util hp)
  · intro h begun hp
    exact (hsound begun hp).2
      (hiff.2 (fun b util hb => (hroom b util hb).1 (h b util hb)) begun hp)

/-- **Loads up to 998 keep the CPU average sound**, and no higher bound does. -/
theorem PeltUtil.sound_bound_iff (top : UInt32) :
    (∀ utils : List UInt32, (∀ u ∈ utils, u ≤ top) → (updateAll utils).Sound) ↔ top ≤ 998 := by
  simp only [sound_iff, updateAll_acc]
  exact forall_accumulated_le_iff 2012 20 (by decide) (by decide) (by decide) (by decide)
    (by decide +kernel)

/-- **Loads up to 985 keep the GPU average sound**, and no higher bound of loads up to
`UTIL_MAX` does. -/
theorem MaxWindow.sound_bound_iff {top : UInt32} (htop : top ≤ UTIL_MAX) :
    (∀ utils : List UInt32, (∀ u ∈ utils, u ≤ top) → ∃ m, updateAll utils = some m ∧ m.Sound) ↔
      top ≤ 985 := by
  have hsound : ∀ utils : List UInt32, (∀ u ∈ utils, u ≤ top) →
      ((∃ m, updateAll utils = some m ∧ m.Sound) ↔
        (accumulated DECAY_DIVIDENT utils).toNat ≤ 6145) := fun utils hutils =>
    exists_updateAll_iff (Q := fun acc => acc.toNat ≤ 6145)
      (fun u hu => UInt32.le_trans (hutils u hu) htop) fun m hget => sound_iff hget
  rw [forall_congr' fun utils => forall_congr' (hsound utils)]
  exact forall_accumulated_le_iff 6145 60 (by decide) (by decide) (by decide) (by decide)
    (by decide +kernel)

/-- **The averages stay within their maxima** in all runs of loads up to a bound exactly if
that is at most 998 for the CPU and 985 for the GPU, and in a single run exactly if each
step has room. -/
theorem accumulators_iff {top : UInt32} (htop : top ≤ UTIL_MAX) :
    ((∀ utils : List UInt32, (∀ u ∈ utils, u ≤ top) → (PeltUtil.updateAll utils).Sound) ↔
      top ≤ 998) ∧
      ((∀ utils : List UInt32, (∀ u ∈ utils, u ≤ top) →
        ∃ m, MaxWindow.updateAll utils = some m ∧ m.Sound) ↔ top ≤ 985) ∧
      ∀ utils : List UInt32, (∀ u ∈ utils, u ≤ UTIL_MAX) →
        ((∀ begun, begun <+: utils → (PeltUtil.updateAll begun).Sound) ↔
          ∀ begun util, begun ++ [util] <+: utils →
            (PeltUtil.updateAll begun).util_acc.toNat * 4129 < 8192 * (2013 - util.toNat)) ∧
        ((∀ begun, begun <+: utils → ∃ m, MaxWindow.updateAll begun = some m ∧ m.Sound) ↔
          ∀ begun util, begun ++ [util] <+: utils → ∃ m, MaxWindow.updateAll begun = some m ∧
            m.util_acc.toNat * 6880 < 8192 * (6146 - util.toNat)) := by
  refine ⟨PeltUtil.sound_bound_iff top, MaxWindow.sound_bound_iff htop, fun utils hutils => ?_⟩
  exact ⟨PeltUtil.sound_run_iff hutils, MaxWindow.sound_run_iff hutils⟩

/-- Forty loads of 900 keep both averages sound. -/
theorem accumulators_sound :
    (PeltUtil.updateAll (List.replicate 40 900)).Sound ∧
      ∃ m, MaxWindow.updateAll (List.replicate 40 900) = some m ∧ m.Sound := by
  have htop : (900 : UInt32) ≤ UTIL_MAX := by decide
  obtain ⟨hcpu, hgpu, -⟩ := accumulators_iff htop
  have hloads : ∀ u ∈ List.replicate 40 900, u ≤ (900 : UInt32) :=
    fun u hu => UInt32.le_of_eq (List.eq_of_mem_replicate hu)
  exact ⟨hcpu.2 (by decide) _ hloads, hgpu.2 (by decide) _ hloads⟩

/-- Under full load both sums exceed their maxima, and both averages `UTIL_MAX`. -/
theorem accumulators_exceed :
    (¬∀ utils : List UInt32, (∀ u ∈ utils, u ≤ UTIL_MAX) → (PeltUtil.updateAll utils).Sound) ∧
      (¬∀ utils : List UInt32, (∀ u ∈ utils, u ≤ UTIL_MAX) →
        ∃ m, MaxWindow.updateAll utils = some m ∧ m.Sound) ∧
      (PeltUtil.updateAll (List.replicate 12 1000)).util_acc = 2015 ∧
      (PeltUtil.updateAll (List.replicate 12 1000)).get = 1001 ∧
      (MaxWindow.updateAll (List.replicate 65 1000)).map (fun m => (m.util_acc, m.get)) =
        some (6238, 1007) := by
  have hloads : ∀ k, ∀ u ∈ List.replicate k (1000 : UInt32), u ≤ UTIL_MAX :=
    fun k u hu => UInt32.le_of_eq (List.eq_of_mem_replicate hu)
  refine ⟨fun h => ?_, fun h => ?_, by decide +kernel, by decide +kernel, by decide +kernel⟩
  · exact absurd (h _ (hloads 12)).get_le (by decide +kernel)
  · obtain ⟨m, hrun, hsound⟩ := h _ (hloads 65)
    have hget : (MaxWindow.updateAll (List.replicate 65 1000)).map MaxWindow.get = some 1007 := by
      decide +kernel
    rw [hrun] at hget
    have hle := hsound.get_le
    rw [Option.some.inj hget] at hle
    exact absurd hle (by decide)

end SwitchOc.SysClk
