import Mathlib.Tactic.Common
import SwitchOcSuite.Loader.Pcv

/-!
# What `SafetyCheck` accepts

`safetyCheck` takes the last frequency of four DVFS tables as 32-bit words, then asks
eleven validators.  An empty table gives it a null pointer before the first validator;
and a word of 0 means "not set" to every validator but the first, so a last frequency
that is a multiple of 2 ^ 32 passes, as does one that is in range in its low word only.

    safetyCheck_ok_iff        acceptance: four last entries and eleven validators
    safetyCheck_sound_iff     the tables for which the verdict is there and right
-/

namespace SwitchOc

open Traced

/-! ## Acceptance -/

theorem dvfsMaxFreq_ok_iff {t : DvfsTable} {v : UInt32} :
    dvfsMaxFreq t = .ok v ↔
      ∃ entry, getDvfsTableLastEntry t.view = some entry ∧ v = lowWord entry.freq := by
  unfold dvfsMaxFreq
  cases getDvfsTableLastEntry t.view with
  | none => simp
  | some entry => simp [eq_comm]

theorem dvfsMaxFreq_ofList (l : List CvbEntry) {v : UInt32}
    (h : (getDvfsTableLastEntry fun i => l.getD i {}).map (fun e => lowWord e.freq) = some v) :
    dvfsMaxFreq (.ofList l) = .ok v := by
  obtain ⟨entry, he, hv⟩ := Option.map_eq_some_iff.1 h
  exact dvfsMaxFreq_ok_iff.2 ⟨entry, by rw [getDvfsTableLastEntry_ofList, he], hv.symm⟩

/-- What acceptance by `safetyCheck` gives: the revision, a last entry in the four
tables it looks at, and eleven validators that pass. -/
theorem safetyCheck_ok_iff {C : CustomizeTable} :
    safetyCheck C = .ok () ↔
      C.custRev = custRevision ∧ ∃ a b c d, dvfsMaxFreq C.eristaCpuDvfsTable = .ok a ∧
        dvfsMaxFreq (if C.marikoCpuUV ≠ 0 then C.marikoCpuDvfsTableSLT
          else C.marikoCpuDvfsTable) = .ok b ∧
        dvfsMaxFreq C.eristaGpuDvfsTable = .ok c ∧
        dvfsMaxFreq (switchUV C.marikoGpuUV C.marikoGpuDvfsTable C.marikoGpuDvfsTableSLT
          C.marikoGpuDvfsTableHiOPT C.marikoGpuDvfsTable) = .ok d ∧
        checkAll (safetyValidators C a b c d) = .ok () := by
  unfold safetyCheck
  by_cases hrev : C.custRev = custRevision
  · simp only [hrev, ne_eq, not_true_eq_false, if_false, true_and]
    cases dvfsMaxFreq C.eristaCpuDvfsTable with
    | error e => simp [bind, Except.bind]
    | ok a =>
      cases dvfsMaxFreq (if ¬C.marikoCpuUV = 0 then C.marikoCpuDvfsTableSLT
          else C.marikoCpuDvfsTable) with
      | error e => simp [bind, Except.bind]
      | ok b =>
        cases dvfsMaxFreq C.eristaGpuDvfsTable with
        | error e => simp [bind, Except.bind]
        | ok c =>
          cases dvfsMaxFreq (switchUV C.marikoGpuUV C.marikoGpuDvfsTable
              C.marikoGpuDvfsTableSLT C.marikoGpuDvfsTableHiOPT C.marikoGpuDvfsTable) with
          | error e => simp [bind, Except.bind]
          | ok d => simp [bind, Except.bind]
  · simp [hrev]

theorem check_of_checkAll {vs : List SValidator} (h : checkAll vs = .ok ()) :
    ∀ v ∈ vs, v.check = .ok () := by
  induction vs with
  | nil =>
    intro v hv
    cases hv
  | cons w vs ih =>
    unfold checkAll at h
    cases hw : w.check with
    | error e =>
      rw [hw] at h
      cases h
    | ok u =>
      rw [hw] at h
      intro v hv
      rcases List.mem_cons.1 hv with rfl | hv
      · exact hw
      · exact ih h v hv

/-- A value that passes is in range, or it is the zero that stands for "not set". -/
theorem SValidator.range_of_check {v : SValidator} (h : v.check = .ok ()) (hmin : v.min ≠ 0)
    (hmax : v.max ≠ 0) :
    (v.valueRequired = false ∧ v.value = 0) ∨ (v.min ≤ v.value ∧ v.value ≤ v.max) := by
  unfold SValidator.check at h
  by_cases hskip : (!v.valueRequired && v.value == 0) = true
  · simp only [Bool.and_eq_true, Bool.not_eq_true', beq_iff_eq] at hskip
    exact .inl hskip
  · rw [if_neg hskip] at h
    by_cases hlo : v.min ≠ 0 ∧ v.value < v.min
    · rw [if_pos hlo] at h
      cases h
    · rw [if_neg hlo] at h
      by_cases hhi : v.max ≠ 0 ∧ v.value > v.max
      · rw [if_pos hhi] at h
        cases h
      · exact .inr ⟨UInt32.not_lt.1 fun hlt => hlo ⟨hmin, hlt⟩,
          UInt32.not_lt.1 fun hlt => hhi ⟨hmax, hlt⟩⟩

/-- Acceptance by `safetyCheck` as acceptance by each validator. -/
theorem check_of_safetyCheck {C : CustomizeTable} (h : safetyCheck C = .ok ()) :
    ∃ a b c d, ∀ v ∈ safetyValidators C a b c d, v.check = .ok () := by
  obtain ⟨-, a, b, c, d, -, -, -, -, hall⟩ := safetyCheck_ok_iff.1 h
  exact ⟨a, b, c, d, check_of_checkAll hall⟩

theorem marikoEmcMaxClock_le {C : CustomizeTable} (hsafe : safetyCheck C = .ok ()) :
    C.marikoEmcMaxClock.toNat ≤ 2800000 := by
  obtain ⟨a, b, c, d, hall⟩ := check_of_safetyCheck hsafe
  have hcheck := hall { value := C.marikoEmcMaxClock, min := 1600000, max := 2800000 }
    (by simp [safetyValidators])
  rcases SValidator.range_of_check hcheck (show (1600000 : UInt32) ≠ 0 by decide)
    (show (2800000 : UInt32) ≠ 0 by decide) with ⟨-, hzero⟩ | ⟨-, hle⟩
  · rw [show C.marikoEmcMaxClock = 0 from hzero]
    decide
  · exact hle

theorem count_ne_zero_of_dvfsMaxFreq {t : DvfsTable} {v : UInt32} (h : dvfsMaxFreq t = .ok v) :
    getDvfsTableEntryCount t.view ≠ 0 := by
  obtain ⟨entry, he, -⟩ := dvfsMaxFreq_ok_iff.1 h
  intro h0
  rw [getDvfsTableLastEntry_eq_none_iff.2 h0] at he
  cases he

theorem safetyCheck_customizeTable : safetyCheck customizeTable = .ok () :=
  safetyCheck_ok_iff.2 ⟨rfl, 2091000, 2295000, 998400, 1267200,
    dvfsMaxFreq_ofList eristaCpuDvfsTable (by decide),
    dvfsMaxFreq_ofList marikoCpuDvfsTable (by decide),
    dvfsMaxFreq_ofList eristaGpuDvfsTable (by decide),
    dvfsMaxFreq_ofList marikoGpuDvfsTable (by decide), by decide⟩

/-! ## The stated ranges -/

def Within (range : Nat × Nat) (x : Nat) : Prop := range.1 ≤ x ∧ x ≤ range.2

instance (range : Nat × Nat) (x : Nat) : Decidable (Within range x) :=
  inferInstanceAs (Decidable (_ ∧ _))

def boostRange : Nat × Nat := (1020000, 3000000)

/-- The voltages and EMC clocks; 0 is "not set". -/
def optionalValues (C : CustomizeTable) : List (UInt32 × Nat × Nat) :=
  [(C.commonEmcMemVolt, 1100000, 1250000), (C.eristaCpuMaxVolt, 1100, 1300),
   (C.eristaEmcMaxClock, 1600000, 2131200), (C.marikoCpuMaxVolt, 1100, 1300),
   (C.marikoEmcMaxClock, 1600000, 2800000), (C.marikoEmcVddqVolt, 550000, 650000)]

def marikoCpuTable (C : CustomizeTable) : DvfsTable :=
  if C.marikoCpuUV ≠ 0 then C.marikoCpuDvfsTableSLT else C.marikoCpuDvfsTable

def marikoGpuTable (C : CustomizeTable) : DvfsTable :=
  switchUV C.marikoGpuUV C.marikoGpuDvfsTable C.marikoGpuDvfsTableSLT C.marikoGpuDvfsTableHiOPT
    C.marikoGpuDvfsTable

/-- The DVFS tables that are selected, with the range of their last frequency. -/
def selectedTables (C : CustomizeTable) : List (DvfsTable × Nat × Nat) :=
  [(C.eristaCpuDvfsTable, 1785000, 3000000), (marikoCpuTable C, 1785000, 3000000),
   (C.eristaGpuDvfsTable, 768000, 1536000), (marikoGpuTable C, 768000, 1536000)]

structure RangesKept (C : CustomizeTable) : Prop where
  boost : Within boostRange C.commonCpuBoostClock.toNat
  optional : ∀ v ∈ optionalValues C, v.1 ≠ 0 → Within v.2 v.1.toNat
  lastFreq : ∀ t ∈ selectedTables C, ∃ entry, getDvfsTableLastEntry t.1.view = some entry ∧
    Within t.2 entry.freq.toNat

/-- `SafetyCheck` passes or aborts, and passes only what is in range. -/
structure SafetyCheckSound (C : CustomizeTable) : Prop where
  verdict : safetyCheck C = .ok () ∨ ∃ msg, safetyCheck C = .error (.crash msg)
  passed : safetyCheck C = .ok () → RangesKept C

/-! ## What the validators see -/

def TablesNonEmpty (C : CustomizeTable) : Prop :=
  ∀ t ∈ selectedTables C, getDvfsTableEntryCount t.1.view ≠ 0

/-- One of the eleven 32-bit values is set (the boost clock always is) and out of its range. -/
def OutOfRange (C : CustomizeTable) : Prop :=
  ¬ Within boostRange C.commonCpuBoostClock.toNat ∨
    (∃ v ∈ optionalValues C, v.1 ≠ 0 ∧ ¬ Within v.2 v.1.toNat) ∨
    ∃ t ∈ selectedTables C, ∃ entry, getDvfsTableLastEntry t.1.view = some entry ∧
      lowWord entry.freq ≠ 0 ∧ ¬ Within t.2 (lowWord entry.freq).toNat

/-- The last frequency is not its low word, or that is the 0 of "not set". -/
def HiddenFreq (t : DvfsTable) : Prop :=
  ∃ entry, getDvfsTableLastEntry t.view = some entry ∧
    (lowWord entry.freq = 0 ∨ 2 ^ 32 ≤ entry.freq.toNat)

theorem SValidator.check_ok_iff {v : SValidator} (hmin : v.min ≠ 0) (hmax : v.max ≠ 0) :
    v.check = .ok () ↔ (v.valueRequired = false ∧ v.value = 0) ∨
      Within (v.min.toNat, v.max.toNat) v.value.toNat := by
  constructor
  · exact fun h => v.range_of_check h hmin hmax
  · rintro (⟨hreq, hzero⟩ | ⟨hlo, hhi⟩)
    · simp [check, hreq, hzero]
    · unfold check
      rw [if_neg (c := _ ∧ v.value < v.min) fun h => UInt32.not_lt.2 hlo h.2,
        if_neg (c := _ ∧ v.value > v.max) fun h => UInt32.not_lt.2 hhi h.2, ite_self]

theorem checkAll_ok_iff {vs : List SValidator} :
    checkAll vs = .ok () ↔ ∀ v ∈ vs, v.check = .ok () := by
  refine ⟨check_of_checkAll, ?_⟩
  induction vs with
  | nil => exact fun _ => rfl
  | cons w vs ih =>
    intro h
    unfold checkAll
    rw [h w (List.mem_cons_self ..)]
    exact ih fun v hv => h v (List.mem_cons_of_mem _ hv)

/-- `checkAll` fails through `CRASH` only. -/
theorem checkAll_cases (vs : List SValidator) :
    checkAll vs = .ok () ∨ checkAll vs = .error (.crash "Triggered") := by
  induction vs with
  | nil => exact .inl rfl
  | cons v vs ih =>
    unfold checkAll
    cases v.check with
    | ok _ => exact ih
    | error _ => exact .inr rfl

/-! ## The verdict -/

theorem dvfsMaxFreq_cases (t : DvfsTable) :
    (getDvfsTableEntryCount t.view = 0 ∧ dvfsMaxFreq t = .error .nullPointer) ∨
      ∃ entry, getDvfsTableLastEntry t.view = some entry ∧
        dvfsMaxFreq t = .ok (lowWord entry.freq) := by
  unfold dvfsMaxFreq
  cases hlast : getDvfsTableLastEntry t.view with
  | none => exact .inl ⟨getDvfsTableLastEntry_eq_none_iff.1 hlast, rfl⟩
  | some entry => exact .inr ⟨entry, rfl, rfl⟩

theorem count_ne_zero_of_lastEntry {t : DvfsTable} {entry : CvbEntry}
    (h : getDvfsTableLastEntry t.view = some entry) : getDvfsTableEntryCount t.view ≠ 0 := by
  intro hzero
  rw [getDvfsTableLastEntry_eq_none_iff.2 hzero] at h
  cases h

/-- The values of the validators are in range. -/
theorem validators_ok_iff {C : CustomizeTable} {a b c d : UInt32} :
    (∀ v ∈ safetyValidators C a b c d, v.check = .ok ()) ↔
      Within boostRange C.commonCpuBoostClock.toNat ∧
        (∀ v ∈ optionalValues C, v.1 = 0 ∨ Within v.2 v.1.toNat) ∧
        (a = 0 ∨ Within (1785000, 3000000) a.toNat) ∧
        (b = 0 ∨ Within (1785000, 3000000) b.toNat) ∧
        (c = 0 ∨ Within (768000, 1536000) c.toNat) ∧
        (d = 0 ∨ Within (768000, 1536000) d.toNat) := by
  have hcheck : ∀ value lo hi : UInt32, lo ≠ 0 → hi ≠ 0 →
      (SValidator.check ⟨value, lo, hi, false⟩ = .ok () ↔
        value = 0 ∨ Within (lo.toNat, hi.toNat) value.toNat) := by
    intro value lo hi hlo hhi
    rw [SValidator.check_ok_iff hlo hhi]
    simp only [true_and]
  have hboost : SValidator.check ⟨C.commonCpuBoostClock, 1020000, 3000000, true⟩ = .ok () ↔
      Within boostRange C.commonCpuBoostClock.toNat := by
    rw [SValidator.check_ok_iff (by simp) (by simp)]
    simp only [Bool.true_eq_false, false_and, false_or]
    exact Iff.rfl
  simp only [safetyValidators, optionalValues, List.forall_mem_cons, List.not_mem_nil,
    false_implies, implies_true, and_true, and_assoc, hboost]
  iterate 10 rw [hcheck _ _ _ (by decide) (by decide)]
  exact Iff.rfl

/-- With the revision of the loader, either a null pointer is followed, or each table has
a last entry and the validators decide. -/
theorem safetyCheck_cases {C : CustomizeTable} (hrev : C.custRev = custRevision) :
    (¬ TablesNonEmpty C ∧ safetyCheck C = .error .nullPointer) ∨
      TablesNonEmpty C ∧ (safetyCheck C = .ok () ∨ safetyCheck C = .error (.crash "Triggered")) ∧
        (safetyCheck C = .ok () ↔ ¬ OutOfRange C) := by
  have hne : TablesNonEmpty C ↔ getDvfsTableEntryCount C.eristaCpuDvfsTable.view ≠ 0 ∧
      getDvfsTableEntryCount (marikoCpuTable C).view ≠ 0 ∧
      getDvfsTableEntryCount C.eristaGpuDvfsTable.view ≠ 0 ∧
      getDvfsTableEntryCount (marikoGpuTable C).view ≠ 0 := by
    unfold TablesNonEmpty selectedTables
    simp only [List.forall_mem_cons, List.not_mem_nil, false_implies, implies_true, and_true]
  have hcheck : safetyCheck C = (do
      let a ← dvfsMaxFreq C.eristaCpuDvfsTable
      let b ← dvfsMaxFreq (marikoCpuTable C)
      let c ← dvfsMaxFreq C.eristaGpuDvfsTable
      let d ← dvfsMaxFreq (marikoGpuTable C)
      checkAll (safetyValidators C a b c d)) := by
    unfold safetyCheck
    rw [if_neg (not_not.2 hrev)]
    rfl
  rcases dvfsMaxFreq_cases C.eristaCpuDvfsTable with ⟨h₁, he₁⟩ | ⟨e₁, h₁, he₁⟩
  · exact .inl ⟨fun h => (hne.1 h).1 h₁, by rw [hcheck, he₁]; rfl⟩
  rcases dvfsMaxFreq_cases (marikoCpuTable C) with ⟨h₂, he₂⟩ | ⟨e₂, h₂, he₂⟩
  · exact .inl ⟨fun h => (hne.1 h).2.1 h₂, by rw [hcheck, he₁, he₂]; rfl⟩
  rcases dvfsMaxFreq_cases C.eristaGpuDvfsTable with ⟨h₃, he₃⟩ | ⟨e₃, h₃, he₃⟩
  · exact .inl ⟨fun h => (hne.1 h).2.2.1 h₃, by rw [hcheck, he₁, he₂, he₃]; rfl⟩
  rcases dvfsMaxFreq_cases (marikoGpuTable C) with ⟨h₄, he₄⟩ | ⟨e₄, h₄, he₄⟩
  · exact .inl ⟨fun h => (hne.1 h).2.2.2 h₄, by rw [hcheck, he₁, he₂, he₃, he₄]; rfl⟩
  -- all four are there
  have hall : safetyCheck C = checkAll (safetyValidators C (lowWord e₁.freq) (lowWord e₂.freq)
      (lowWord e₃.freq) (lowWord e₄.freq)) := by
    rw [hcheck, he₁, he₂, he₃, he₄]
    rfl
  refine .inr ⟨?_, ?_, ?_⟩
  · exact hne.2 ⟨count_ne_zero_of_lastEntry h₁, count_ne_zero_of_lastEntry h₂,
      count_ne_zero_of_lastEntry h₃, count_ne_zero_of_lastEntry h₄⟩
  · rw [hall]
    exact checkAll_cases _
  · rw [hall, checkAll_ok_iff, validators_ok_iff]
    unfold OutOfRange
    simp only [not_or, not_not, not_exists, not_and]
    have htables : (∀ t ∈ selectedTables C, ∀ entry, getDvfsTableLastEntry t.1.view = some entry →
        lowWord entry.freq ≠ 0 → Within t.2 (lowWord entry.freq).toNat) ↔
          (lowWord e₁.freq = 0 ∨ Within (1785000, 3000000) (lowWord e₁.freq).toNat) ∧
          (lowWord e₂.freq = 0 ∨ Within (1785000, 3000000) (lowWord e₂.freq).toNat) ∧
          (lowWord e₃.freq = 0 ∨ Within (768000, 1536000) (lowWord e₃.freq).toNat) ∧
          (lowWord e₄.freq = 0 ∨ Within (768000, 1536000) (lowWord e₄.freq).toNat) := by
      unfold selectedTables
      simp only [List.forall_mem_cons, List.not_mem_nil, false_implies, implies_true, and_true,
        h₁, h₂, h₃, h₄, Option.some.injEq, forall_eq', or_iff_not_imp_left, ne_eq]
    rw [htables]
    simp only [or_iff_not_imp_left, ne_eq]

theorem toNat_lowWord (x : UInt64) : (lowWord x).toNat = x.toNat % 2 ^ 32 := UInt32.toNat_ofNat'

theorem selectedTables_ranges (C : CustomizeTable) :
    ∀ t ∈ selectedTables C, 0 < t.2.1 ∧ t.2.2 < 2 ^ 32 := by
  unfold selectedTables
  simp

/-- A frequency in range is what its validator sees. -/
theorem not_hidden_of_within {C : CustomizeTable} {t : DvfsTable × Nat × Nat}
    (ht : t ∈ selectedTables C) {entry : CvbEntry}
    (hlast : getDvfsTableLastEntry t.1.view = some entry) (hin : Within t.2 entry.freq.toNat) :
    ¬ HiddenFreq t.1 := by
  obtain ⟨hpos, hlt⟩ := selectedTables_ranges C t ht
  obtain ⟨hlo, hhi⟩ := hin
  rintro ⟨entry', hlast', hhidden⟩
  obtain rfl := Option.some.inj (hlast.symm.trans hlast')
  rcases hhidden with hzero | hlarge
  · have hlow := toNat_lowWord entry.freq
    rw [hzero, Nat.mod_eq_of_lt (by omega)] at hlow
    have : entry.freq.toNat = 0 := hlow.symm
    omega
  · omega

/-- A frequency that its validator sees and lets pass is in range. -/
theorem within_of_not_hidden {t : DvfsTable × Nat × Nat} {entry : CvbEntry}
    (hlast : getDvfsTableLastEntry t.1.view = some entry) (hseen : ¬ HiddenFreq t.1)
    (hin : lowWord entry.freq ≠ 0 → Within t.2 (lowWord entry.freq).toNat) :
    Within t.2 entry.freq.toNat := by
  have hne : lowWord entry.freq ≠ 0 := fun hzero => hseen ⟨entry, hlast, .inl hzero⟩
  have hlt : entry.freq.toNat < 2 ^ 32 :=
    Nat.lt_of_not_le fun hlarge => hseen ⟨entry, hlast, .inr hlarge⟩
  have hlow := hin hne
  rwa [toNat_lowWord, Nat.mod_eq_of_lt hlt] at hlow

/-- **The verdict is there and right unless a selected table is empty, or a last frequency
is hidden from its validator and nothing else aborts.** -/
theorem safetyCheck_sound_iff {C : CustomizeTable} (hrev : C.custRev = custRevision) :
    SafetyCheckSound C ↔
      TablesNonEmpty C ∧ (OutOfRange C ∨ ∀ t ∈ selectedTables C, ¬ HiddenFreq t.1) := by
  rcases safetyCheck_cases hrev with ⟨hempty, hnull⟩ | ⟨hne, hcases, hpass⟩
  · refine iff_of_false (fun h => ?_) fun h => hempty h.1
    rcases h.verdict with hok | ⟨msg, hcrash⟩
    · rw [hnull] at hok
      cases hok
    · rw [hnull] at hcrash
      cases hcrash
  constructor
  · intro hsound
    refine ⟨hne, or_iff_not_imp_left.2 fun hin t ht => ?_⟩
    obtain ⟨entry, hlast, hwithin⟩ := (hsound.passed (hpass.2 hin)).lastFreq t ht
    exact not_hidden_of_within ht hlast hwithin
  · rintro ⟨-, hcond⟩
    refine ⟨hcases.imp_right fun h => ⟨_, h⟩, fun hok => ?_⟩
    have hin := hpass.1 hok
    have hseen := hcond.resolve_left hin
    unfold OutOfRange at hin
    simp only [not_or, not_not, not_exists, not_and] at hin
    obtain ⟨hboost, hoptional, htables⟩ := hin
    refine ⟨hboost, hoptional, fun t ht => ?_⟩
    have hlast := getDvfsTableLastEntry_of_pos (Nat.pos_of_ne_zero (hne t ht))
    exact ⟨_, hlast, within_of_not_hidden hlast (hseen t ht) (htables t ht _ hlast)⟩

/-- The shipped configuration is accepted, and rightly so. -/
theorem safetyCheck_sound_customizeTable : SafetyCheckSound customizeTable := by
  have hlast : ∀ l : List CvbEntry, ∀ entry : CvbEntry,
      getDvfsTableLastEntry (fun i => l.getD i {}) = some entry →
      lowWord entry.freq ≠ 0 ∧ entry.freq.toNat < 2 ^ 32 →
      getDvfsTableEntryCount (DvfsTable.ofList l).view ≠ 0 ∧ ¬ HiddenFreq (.ofList l) := by
    intro l entry h hfreq
    rw [← getDvfsTableLastEntry_ofList] at h
    refine ⟨count_ne_zero_of_lastEntry h, ?_⟩
    rintro ⟨entry', h', hzero | hlarge⟩
    · obtain rfl := Option.some.inj (h.symm.trans h')
      exact hfreq.1 hzero
    · obtain rfl := Option.some.inj (h.symm.trans h')
      omega
  have h₁ := hlast eristaCpuDvfsTable _ rfl (by decide)
  have h₂ := hlast marikoCpuDvfsTable _ rfl (by decide)
  have h₃ := hlast eristaGpuDvfsTable _ rfl (by decide)
  have h₄ := hlast marikoGpuDvfsTable _ rfl (by decide)
  refine (safetyCheck_sound_iff (C := customizeTable) rfl).2 ⟨?_, .inr ?_⟩
  · unfold TablesNonEmpty selectedTables
    simp only [List.forall_mem_cons, List.not_mem_nil, false_implies, implies_true, and_true]
    exact ⟨h₁.1, h₂.1, h₃.1, h₄.1⟩
  · unfold selectedTables
    simp only [List.forall_mem_cons, List.not_mem_nil, false_implies, implies_true, and_true]
    exact ⟨h₁.2, h₂.2, h₃.2, h₄.2⟩

/-- The shipped configuration without an entry in the Erista GPU table. -/
def emptyGpuTable : CustomizeTable := { customizeTable with eristaGpuDvfsTable := .ofList [] }

/-- The null pointer is followed. -/
theorem safetyCheck_not_sound :
    ¬ ∀ C : CustomizeTable, C.custRev = custRevision → SafetyCheckSound C := by
  intro hall
  rcases safetyCheck_cases (C := emptyGpuTable) rfl with ⟨-, hnull⟩ | ⟨hne, -⟩
  · rcases (hall emptyGpuTable rfl).verdict with hok | ⟨msg, hcrash⟩
    · rw [hnull] at hok
      cases hok
    · rw [hnull] at hcrash
      cases hcrash
  · refine hne (emptyGpuTable.eristaGpuDvfsTable, 768000, 1536000) (by simp [selectedTables]) ?_
    exact (getDvfsTableEntryCount_ofList []).trans (by decide)

end SwitchOc
