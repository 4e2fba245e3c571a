import Mathlib.Data.List.GetD
import Mathlib.Tactic.Common
import SwitchOcSuite.SysClk.Clocks

/-!
# The ranges of `UpdateFreqRange`

A table is a list of clocks in ascending order and a zero behind it.  The caps are found
with the search for requested clocks, which rounds up: a cap that is no entry of the
table lets the next entry through.

    safeCaps_iff              when the safe caps are upper bounds
    ranges_ordered            the pointers of the ranges, and the order of the caps
-/

namespace SwitchOc.SysClk

open Function Search

/-! ## Tables -/

/-- The table of the module is `l` in ascending order, with a zero behind it. -/
structure Clocks.HoldsTable (c : Clocks) (module : SysClkModule) (l : List UInt32) : Prop where
  ne_nil : l ≠ []
  length_le : l.length ≤ FREQ_TABLE_MAX_ENTRY_COUNT
  entry : ∀ i, i < l.length → c.freqTable (tableHead module + i) = l.getD i 0
  zero : c.freqTable (tableHead module + l.length) = 0
  positive : ∀ f ∈ l, f ≠ 0
  increasing : l.Pairwise (· < ·)

/-- The steps of `InitDefault` end in front of the zero, or when there have been `n`. -/
theorem lastEntry_eq {freqTable : Nat → UInt32} {k : Nat} :
    ∀ {n p : Nat}, (∀ i, 0 < i → i ≤ k → freqTable (p + i) ≠ 0) → k ≤ n →
      k = n ∨ freqTable (p + k + 1) = 0 → lastEntry freqTable p n = p + k := by
  induction k with
  | zero =>
    intro n p _ _ hend
    cases n with
    | zero => rfl
    | succ n =>
      unfold lastEntry
      rw [if_pos (hend.resolve_left (by omega))]
      rfl
  | succ k ih =>
    intro n p hne hn hend
    obtain ⟨n, rfl⟩ : ∃ m, n = m + 1 := ⟨n - 1, by omega⟩
    unfold lastEntry
    rw [if_neg (hne 1 (by omega) (by omega)), ih (p := p + 1)]
    · omega
    · intro i hi hik
      rw [show p + 1 + i = p + (i + 1) by omega]
      exact hne (i + 1) (by omega) (by omega)
    · omega
    · rw [show p + 1 + k + 1 = p + (k + 1) + 1 by omega]
      exact hend.imp (by omega) id

namespace Clocks

variable {c : Clocks} {module : SysClkModule} {l : List UInt32}

theorem HoldsTable.last (h : c.HoldsTable module l) :
    (c.initDefault module).last = tableHead module + (l.length - 1) := by
  have hpos := List.length_pos_iff.2 h.ne_nil
  have hle := h.length_le
  refine lastEntry_eq (fun i hi hik => ?_) (by omega) (.inr ?_)
  · rw [h.entry i (by omega), List.getD_eq_getElem _ _ (by omega)]
    exact h.positive _ (List.getElem_mem _)
  · rw [show tableHead module + (l.length - 1) + 1 = tableHead module + l.length by omega]
    exact h.zero

/-- From the first to the last entry the clocks ascend. -/
theorem HoldsTable.lt_of_lt (h : c.HoldsTable module l) {i j : Nat} (hi : tableHead module ≤ i)
    (hij : i < j) (hj : j ≤ (c.initDefault module).last) : c.hz i < c.hz j := by
  have hpos := List.length_pos_iff.2 h.ne_nil
  rw [h.last] at hj
  obtain ⟨i, rfl⟩ := Nat.exists_eq_add_of_le hi
  obtain ⟨j, rfl⟩ := Nat.exists_eq_add_of_le (Nat.le_trans hi (Nat.le_of_lt hij))
  unfold hz
  rw [h.entry i (by omega), h.entry j (by omega), List.getD_eq_getElem _ _ (by omega),
    List.getD_eq_getElem _ _ (by omega)]
  exact List.pairwise_iff_getElem.1 h.increasing i j (by omega) (by omega) (by omega)

theorem HoldsTable.ascending (h : c.HoldsTable module l) :
    Ascending c.hz (tableHead module) (c.initDefault module).last := by
  intro i j hi hij hj
  rcases Nat.lt_or_eq_of_le hij with hlt | rfl
  · exact Nat.le_of_lt (h.lt_of_lt hi hlt hj)
  · exact Nat.le_refl _

/-- The entries of the table are the clocks between the two pointers. -/
theorem HoldsTable.mem_iff (h : c.HoldsTable module l) {f : UInt32} :
    f ∈ l ↔ ∃ p, tableHead module ≤ p ∧ p ≤ (c.initDefault module).last ∧ c.freqTable p = f := by
  have hpos := List.length_pos_iff.2 h.ne_nil
  rw [h.last]
  constructor
  · intro hf
    obtain ⟨i, hi, rfl⟩ := List.mem_iff_getElem.1 hf
    refine ⟨tableHead module + i, by omega, by omega, ?_⟩
    rw [h.entry i hi, List.getD_eq_getElem _ _ hi]
  · rintro ⟨p, hlo, hhi, rfl⟩
    obtain ⟨i, rfl⟩ := Nat.exists_eq_add_of_le hlo
    rw [h.entry i (by omega), List.getD_eq_getElem _ _ (by omega)]
    exact List.getElem_mem _

theorem HoldsTable.head_le_last (h : c.HoldsTable module l) :
    tableHead module ≤ (c.initDefault module).last := by
  rw [h.last]
  omega

/-! ## Caps -/

/-- What `UpdateFreqRange` searches the CPU cap of a profile for. -/
def cpuTarget (c : Clocks) (profile : SysClkProfile) : UInt32 :=
  if c.allowUnsafe then c.cpuUnsafeMax (c.initDefault .cpu).last profile else c.cpuSafeMax

def gpuTarget (c : Clocks) (profile : SysClkProfile) : UInt32 :=
  if c.allowUnsafe then c.gpuUnsafeMax (c.initDefault .gpu).last profile else c.gpuSafeMax profile

/-- A cap is what the search in the whole table finds. -/
theorem min_findFreq_first (c : Clocks) (module : SysClkModule) (freq : UInt32)
    (profile : SysClkProfile) :
    FirstAtLeast c.hz (tableHead module) (c.initDefault module).last freq.toNat
      (min (c.initDefault module).last (c.findFreq (c.initDefault module) freq profile)) := by
  have hfound := findFreq_first c module freq profile
  rw [Nat.min_eq_right hfound.le_hi]
  exact hfound

theorem cpuMax_first (c : Clocks) (profile : SysClkProfile) :
    FirstAtLeast c.hz (tableHead .cpu) (c.initDefault .cpu).last (c.cpuTarget profile).toNat
      ((c.updateFreqRange.freqRange .cpu).max profile) :=
  min_findFreq_first c .cpu _ profile

theorem gpuMax_first (c : Clocks) (profile : SysClkProfile) :
    FirstAtLeast c.hz (tableHead .gpu) (c.initDefault .gpu).last (c.gpuTarget profile).toNat
      ((c.updateFreqRange.freqRange .gpu).max profile) :=
  min_findFreq_first c .gpu _ profile

/-! ## Safe caps -/

/-- The table has the frequency, or nothing above it. -/
def CapMet (l : List UInt32) (freq : UInt32) : Prop := freq ∈ l ∨ ∀ f ∈ l, f ≤ freq

theorem HoldsTable.value_le_iff (h : c.HoldsTable module l) {freq : UInt32} {p : Nat}
    (hp : FirstAtLeast c.hz (tableHead module) (c.initDefault module).last freq.toNat p) :
    c.freqTable p ≤ freq ↔ CapMet l freq := by
  show c.hz p ≤ freq.toNat ↔ _
  rw [hp.value_le_iff h.ascending]
  refine or_congr ?_ ?_
  · rw [h.mem_iff]
    exact exists_congr fun i => and_congr_right fun _ => and_congr_right fun _ => UInt32.toNat_inj
  · constructor
    · intro hle f hf
      obtain ⟨i, hlo, hhi, rfl⟩ := h.mem_iff.1 hf
      exact Nat.le_trans (h.ascending i _ hlo hhi (Nat.le_refl _)) hle
    · intro hall
      exact hall _ (h.mem_iff.2 ⟨_, h.head_le_last, Nat.le_refl _, rfl⟩)

/-- **The safe caps are upper bounds for tables that have them, or end below them.** -/
theorem safeCaps_iff {cpu gpu : List UInt32} (hcpu : c.HoldsTable .cpu cpu)
    (hgpu : c.HoldsTable .gpu gpu) (hsafe : c.allowUnsafe = false) (profile : SysClkProfile) :
    (c.updateFreqRange.cap .cpu profile ≤ c.cpuSafeMax ∧
        c.updateFreqRange.cap .gpu profile ≤ c.gpuSafeMax profile) ↔
      CapMet cpu c.cpuSafeMax ∧ CapMet gpu (c.gpuSafeMax profile) := by
  have hcpuTarget : c.cpuTarget profile = c.cpuSafeMax := by
    unfold cpuTarget
    rw [hsafe]
    rfl
  have hgpuTarget : c.gpuTarget profile = c.gpuSafeMax profile := by
    unfold gpuTarget
    rw [hsafe]
    rfl
  have hcpuMax := cpuMax_first c profile
  have hgpuMax := gpuMax_first c profile
  rw [hcpuTarget] at hcpuMax
  rw [hgpuTarget] at hgpuMax
  exact and_congr (hcpu.value_le_iff hcpuMax) (hgpu.value_le_iff hgpuMax)

/-! ## Order of the ranges -/

/-- The pointers of a range, inside the table of `n` entries of its module. -/
structure RangeOrdered (c : Clocks) (module : SysClkModule) (n : Nat) : Prop where
  head_le_first : tableHead module ≤ (c.freqRange module).first
  first_le_min : (c.freqRange module).first ≤ (c.freqRange module).min
  min_le_max : ∀ profile, (c.freqRange module).min ≤ (c.freqRange module).max profile
  max_le_last : ∀ profile, (c.freqRange module).max profile ≤ (c.freqRange module).last
  last_eq : (c.freqRange module).last = tableHead module + (n - 1)

theorem HoldsTable.cpu_ordered (h : c.HoldsTable .cpu l) :
    c.updateFreqRange.RangeOrdered .cpu l.length where
  head_le_first := Nat.le_refl _
  first_le_min := Nat.le_refl _
  min_le_max profile := (cpuMax_first c profile).lo_le
  max_le_last profile := (cpuMax_first c profile).le_hi
  last_eq := h.last

theorem HoldsTable.gpu_ordered (h : c.HoldsTable .gpu l) :
    c.updateFreqRange.RangeOrdered .gpu l.length where
  head_le_first := Nat.le_refl _
  first_le_min := Nat.le_refl _
  min_le_max profile := (gpuMax_first c profile).lo_le
  max_le_last profile := (gpuMax_first c profile).le_hi
  last_eq := h.last

theorem HoldsTable.mem_ordered (h : c.HoldsTable .mem l) :
    c.updateFreqRange.RangeOrdered .mem l.length := by
  have hmin := findFreq_first c .mem 1600000000 .docked
  have hlast := h.last
  have hrange : c.updateFreqRange.freqRange .mem = c.memRange := rfl
  unfold memRange at hrange
  dsimp only at hrange
  split at hrange
  · refine ⟨?_, ?_, fun profile => ?_, fun profile => ?_, ?_⟩ <;> rw [hrange]
    · exact hmin.lo_le
    · exact hmin.le_hi
    · exact Nat.le_refl _
    · exact hlast
  · refine ⟨?_, ?_, fun profile => ?_, fun profile => ?_, ?_⟩ <;> rw [hrange]
    · exact Nat.le_refl _
    · exact Nat.le_refl _
    · exact h.head_le_last
    · exact Nat.le_refl _
    · exact hlast

/-- A larger target, or the last entry itself, is found no earlier. -/
theorem HoldsTable.cap_le (h : c.HoldsTable module l) {x y : UInt32} {p q : Nat}
    (hp : FirstAtLeast c.hz (tableHead module) (c.initDefault module).last x.toNat p)
    (hq : FirstAtLeast c.hz (tableHead module) (c.initDefault module).last y.toNat q)
    (hxy : x ≤ y ∨ y = c.freqTable (c.initDefault module).last) :
    p ≤ q ∧ c.freqTable p ≤ c.freqTable q := by
  have hpq : p ≤ q := by
    rcases hxy with hle | rfl
    · exact hp.mono hq hle
    · have hlast : q = (c.initDefault module).last :=
        hq.eq_of_before h.head_le_last (Nat.le_refl _) (Nat.le_refl _)
          fun i hi hlt => h.lt_of_lt hi hlt (Nat.le_refl _)
      rw [hlast]
      exact hp.le_hi
  exact ⟨hpq, h.ascending p q hp.lo_le hpq hq.le_hi⟩

/-- Along the profiles the targets ascend, or are the last entry. -/
theorem cpuTarget_cases (c : Clocks) : SysClkProfile.all.Pairwise fun profile profile' =>
    c.cpuTarget profile ≤ c.cpuTarget profile' ∨
      c.cpuTarget profile' = c.freqTable (c.initDefault .cpu).last := by
  unfold SysClkProfile.all cpuTarget cpuUnsafeMax
  cases c.allowUnsafe <;> cases c.isMariko <;> simp

theorem gpuTarget_cases (c : Clocks) : SysClkProfile.all.Pairwise fun profile profile' =>
    c.gpuTarget profile ≤ c.gpuTarget profile' ∨
      c.gpuTarget profile' = c.freqTable (c.initDefault .gpu).last := by
  unfold SysClkProfile.all gpuTarget gpuUnsafeMax gpuSafeMax
  cases c.allowUnsafe <;> cases c.isMariko <;> simp

/-- The setting, with nothing else changed. -/
def withUnsafe (c : Clocks) (allow : Bool) : Clocks := { c with allowUnsafe := allow }

theorem HoldsTable.withUnsafe (h : c.HoldsTable module l) (allow : Bool) :
    (c.withUnsafe allow).HoldsTable module l :=
  ⟨h.ne_nil, h.length_le, h.entry, h.zero, h.positive, h.increasing⟩

theorem cpuTarget_allowUnsafe (c : Clocks) (profile : SysClkProfile) :
    (c.withUnsafe false).cpuTarget profile ≤ (c.withUnsafe true).cpuTarget profile ∨
      (c.withUnsafe true).cpuTarget profile = c.freqTable (c.initDefault .cpu).last := by
  show c.cpuSafeMax ≤ c.cpuUnsafeMax (c.initDefault .cpu).last profile ∨
    c.cpuUnsafeMax (c.initDefault .cpu).last profile = _
  unfold cpuSafeMax cpuUnsafeMax
  cases c.isMariko <;> cases profile <;> simp

theorem gpuTarget_allowUnsafe (c : Clocks) (profile : SysClkProfile) :
    (c.withUnsafe false).gpuTarget profile ≤ (c.withUnsafe true).gpuTarget profile ∨
      (c.withUnsafe true).gpuTarget profile = c.freqTable (c.initDefault .gpu).last := by
  show c.gpuSafeMax profile ≤ c.gpuUnsafeMax (c.initDefault .gpu).last profile ∨
    c.gpuUnsafeMax (c.initDefault .gpu).last profile = _
  unfold gpuUnsafeMax gpuSafeMax
  cases c.isMariko <;> cases profile <;> simp

/-- What holds of the ranges after `UpdateFreqRange`, for tables of `n` entries. -/
structure RangesOrdered (c : Clocks) (n : SysClkModule → Nat) : Prop where
  range : ∀ module, c.updateFreqRange.RangeOrdered module (n module)
  cpuCaps : SysClkProfile.all.Pairwise fun profile profile' =>
    c.updateFreqRange.cap .cpu profile ≤ c.updateFreqRange.cap .cpu profile'
  gpuCaps : SysClkProfile.all.Pairwise fun profile profile' =>
    c.updateFreqRange.cap .gpu profile ≤ c.updateFreqRange.cap .gpu profile'
  unsafeCaps : ∀ module profile, (c.withUnsafe false).updateFreqRange.cap module profile ≤
    (c.withUnsafe true).updateFreqRange.cap module profile

/-- **After `UpdateFreqRange` every range is in order inside its table, and so are the caps.** -/
theorem ranges_ordered {table : SysClkModule → List UInt32}
    (h : ∀ module, c.HoldsTable module (table module)) :
    c.RangesOrdered fun module => (table module).length where
  range module := by
    cases module with
    | cpu => exact (h .cpu).cpu_ordered
    | gpu => exact (h .gpu).gpu_ordered
    | mem => exact (h .mem).mem_ordered
  cpuCaps := (cpuTarget_cases c).imp fun hxy =>
    ((h .cpu).cap_le (cpuMax_first c _) (cpuMax_first c _) hxy).2
  gpuCaps := (gpuTarget_cases c).imp fun hxy =>
    ((h .gpu).cap_le (gpuMax_first c _) (gpuMax_first c _) hxy).2
  unsafeCaps module profile := by
    cases module with
    | cpu =>
      exact ((h .cpu).cap_le (cpuMax_first (c.withUnsafe false) profile)
        (cpuMax_first (c.withUnsafe true) profile) (cpuTarget_allowUnsafe c profile)).2
    | gpu =>
      exact ((h .gpu).cap_le (gpuMax_first (c.withUnsafe false) profile)
        (gpuMax_first (c.withUnsafe true) profile) (gpuTarget_allowUnsafe c profile)).2
    | mem => exact UInt32.le_refl _

/-- Tables given as lists. -/
theorem holdsTable_of_lists {table : SysClkModule → List UInt32}
    (h : c.freqTable = tablesOfLists (table .cpu) (table .gpu) (table .mem))
    (hne : table module ≠ []) (hlen : (table module).length < FREQ_TABLE_MAX_ENTRY_COUNT)
    (hpos : ∀ f ∈ table module, f ≠ 0) (hinc : (table module).Pairwise (· < ·)) :
    c.HoldsTable module (table module) := by
  have hentry : ∀ i, i < FREQ_TABLE_MAX_ENTRY_COUNT →
      c.freqTable (tableHead module + i) = (table module).getD i 0 := by
    intro i hi
    rw [h]
    unfold tablesOfLists tableHead FREQ_TABLE_MAX_ENTRY_COUNT at *
    cases module with
    | cpu =>
      rw [if_pos (by simp only [SysClkModule.index]; omega)]
      simp [SysClkModule.index]
    | gpu =>
      rw [if_neg (by simp only [SysClkModule.index]; omega),
        if_pos (by simp only [SysClkModule.index]; omega)]
      simp [SysClkModule.index]
    | mem =>
      rw [if_neg (by simp only [SysClkModule.index]; omega),
        if_neg (by simp only [SysClkModule.index]; omega)]
      simp [SysClkModule.index]
  refine ⟨hne, Nat.le_of_lt hlen, fun i hi => hentry i (by omega), ?_, hpos, hinc⟩
  rw [hentry _ hlen, List.getD_eq_default _ _ (Nat.le_refl _)]

def marikoTable : SysClkModule → List UInt32
  | .cpu => [1020000000, 1785000000, 1963500000, 2091000000]
  | .gpu => [460800000, 768000000, 998400000, 1267200000]
  | .mem => [665600000, 1331200000, 1600000000, 1862400000]

/-- A Mariko whose tables have the safe caps. -/
def marikoClocks : Clocks where
  boostCpuFreq := 1785000000
  maxMemFreq := 1862400000
  freqTable := tablesOfLists (marikoTable .cpu) (marikoTable .gpu) (marikoTable .mem)
  freqRange := fun _ => ⟨0, 0, 0, fun _ => 0⟩
  allowUnsafe := false
  isMariko := true

theorem marikoClocks_holds (module : SysClkModule) :
    marikoClocks.HoldsTable module (marikoTable module) := by
  apply holdsTable_of_lists rfl <;> cases module <;> simp [marikoTable, FREQ_TABLE_MAX_ENTRY_COUNT]

theorem ranges_ordered_marikoClocks :
    marikoClocks.RangesOrdered fun module => (marikoTable module).length :=
  ranges_ordered marikoClocks_holds

theorem safeCaps_marikoClocks :
    marikoClocks.updateFreqRange.cap .cpu .docked ≤ 1963500000 ∧
      marikoClocks.updateFreqRange.cap .gpu .docked ≤ 998400000 :=
  (safeCaps_iff (marikoClocks_holds .cpu) (marikoClocks_holds .gpu) rfl .docked).2
    ⟨.inl (by simp [cpuSafeMax, marikoClocks, marikoTable]),
      .inl (by simp [gpuSafeMax, marikoClocks, marikoTable])⟩

def gapTable : SysClkModule → List UInt32
  | .cpu => [1020000000, 1683000000, 1887000000]
  | .gpu => [460800000, 768000000, 921600000]
  | .mem => [665600000, 1331200000, 1600000000]

/-- An Erista whose CPU table steps over the safe cap of 1785 MHz. -/
def gapClocks : Clocks where
  boostCpuFreq := 1785000000
  maxMemFreq := 1600000000
  freqTable := tablesOfLists (gapTable .cpu) (gapTable .gpu) (gapTable .mem)
  freqRange := fun _ => ⟨0, 0, 0, fun _ => 0⟩
  allowUnsafe := false
  isMariko := false

theorem gapClocks_holds (module : SysClkModule) :
    gapClocks.HoldsTable module (gapTable module) := by
  apply holdsTable_of_lists rfl <;> cases module <;> simp [gapTable, FREQ_TABLE_MAX_ENTRY_COUNT]

/-- The cap of 1785 MHz lets 1887 MHz through. -/
theorem safeCaps_not_upper :
    ¬ ∀ (c : Clocks) (cpu gpu : List UInt32) (profile : SysClkProfile),
      c.HoldsTable .cpu cpu → c.HoldsTable .gpu gpu → cpu.headD 0 ≤ c.cpuSafeMax →
      gpu.headD 0 ≤ c.gpuSafeMax profile → c.allowUnsafe = false →
      c.updateFreqRange.cap .cpu profile ≤ c.cpuSafeMax ∧
        c.updateFreqRange.cap .gpu profile ≤ c.gpuSafeMax profile := by
  intro hall
  have hle := (hall gapClocks _ _ .docked (gapClocks_holds .cpu) (gapClocks_holds .gpu)
    (by decide) (by decide) rfl).1
  exact absurd hle (by decide)

end Clocks

end SwitchOc.SysClk
