import Mathlib.Tactic.Common
import SwitchOcSuite.Loader.MaxClock

/-!
# Where the patch functions read and write

The scan keeps an MTC table's room in front of the cursor, and no patch function
reaches further forward.  How far back each of them reaches is the right-hand side
of its `traces_` lemma; those with a `stays_` lemma do not reach back.

    traces_mtcChain      the validation of the MTC tables, up to the first that is off
-/

namespace SwitchOc

open Traced

/-! ## Patch functions -/

section Reach

variable {C : CustomizeTable} {ptr hi : Int} {s : Store Device}

/-- Accesses to words of an image of `hi` words. -/
abbrev Inside (hi : Int) : Access → Prop := Access.Within 0 hi

theorem inside_read {w : Int} (h₀ : 0 ≤ w) (h₁ : w < hi) : Inside hi (.read w) :=
  ⟨h₀, h₁⟩

theorem inside_write {w : Int} (h₀ : 0 ≤ w) (h₁ : w < hi) : Inside hi (.write w) :=
  ⟨h₀, h₁⟩

theorem stays_load64 {w : Int} (h : 0 ≤ w ∧ w + 1 < hi) : Stays (Inside hi) (load64 w) :=
  stays_bind (stays_load ⟨h.1, show w < hi by omega⟩) fun _ =>
    stays_bind (stays_load ⟨show 0 ≤ w + 1 by omega, h.2⟩) fun _ => stays_pure _

theorem traces_load64 {w : Int} :
    Traces (Inside hi) (load64 w) s ↔ 0 ≤ w ∧ w + 1 < hi := by
  constructor
  · intro h
    have h₀ : 0 ≤ w ∧ w < hi := (traces_load_bind.1 h).1
    have h₁ : 0 ≤ w + 1 ∧ w + 1 < hi := (traces_load_bind.1 (traces_load_bind.1 h).2).1
    exact ⟨h₀.1, h₁.2⟩
  · exact fun h => stays_load64 h s

/-- A table patch reads the default table first, and what it writes from the same head
on never passes the room in front of the cursor. -/
theorem traces_cpuFreqCvbTable (isMariko : Bool) (hroom : ptr + 448 ≤ hi) :
    Traces (Inside hi) (cpuFreqCvbTable isMariko C ptr) s ↔
      0 ≤ tableHead ptr (getDvfsTableEntryCount (cpuDefaultTable isMariko)) := by
  have hpos : 0 < getDvfsTableEntryCount (cpuDefaultTable isMariko) := by
    cases isMariko <;> decide
  have hn := getDvfsTableEntryCount_le (cpuCustomizeTable isMariko C)
  have hc : cvbWords = 14 := rfl
  have hl : dvfsTableEntryLimit = 31 := rfl
  unfold cpuFreqCvbTable
  constructor
  · intro h
    rcases traces_loadBlock.1 (traces_bind.1 h).1 with h₀ | h₀
    · rw [hc] at h₀
      omega
    · exact h₀.1
  · intro h
    have hhead : tableHead ptr (getDvfsTableEntryCount (cpuDefaultTable isMariko)) =
      ptr + 14 - 14 * getDvfsTableEntryCount (cpuDefaultTable isMariko) := rfl
    refine (show Stays (Inside hi) _ from ?_) s
    refine stays_bind (stays_loadBlock ⟨h, by rw [hc]; push_cast; omega⟩) fun _ => ?_
    refine stays_bind (stays_require _ _) fun _ => ?_
    refine stays_bind (stays_storeBlock ⟨h, by rw [length_tableWords, hc]; push_cast; omega⟩) fun _ => ?_
    refine stays_ite (stays_forEach fun i hi' => ?_) (stays_pure ())
    have hi'' := List.mem_range.1 hi'
    unfold cpuVoltTurn
    rw [hc]
    refine stays_bind (stays_load64 ⟨by omega, by omega⟩) fun _ => ?_
    refine stays_ite (stays_store ?_) (stays_pure ())
    unfold offsetPllC0 offsetDfllC0
    cases isMariko with
    | true => exact inside_write (by rw [if_pos rfl]; omega) (by rw [if_pos rfl]; omega)
    | false => exact inside_write (by rw [if_neg (by decide)]; omega) (by rw [if_neg (by decide)]; omega)

theorem traces_gpuFreqCvbTable (isMariko : Bool) (hroom : ptr + 448 ≤ hi) :
    Traces (Inside hi) (gpuFreqCvbTable isMariko C ptr) s ↔
      0 ≤ tableHead ptr (getDvfsTableEntryCount (gpuDefaultTable isMariko)) := by
  have hpos : 0 < getDvfsTableEntryCount (gpuDefaultTable isMariko) := by
    cases isMariko <;> decide
  have hn := getDvfsTableEntryCount_le (gpuCustomizeTable isMariko C)
  have hc : cvbWords = 14 := rfl
  have hl : dvfsTableEntryLimit = 31 := rfl
  unfold gpuFreqCvbTable
  constructor
  · intro h
    rcases traces_loadBlock.1 (traces_bind.1 h).1 with h₀ | h₀
    · rw [hc] at h₀
      omega
    · exact h₀.1
  · intro h
    have hhead : tableHead ptr (getDvfsTableEntryCount (gpuDefaultTable isMariko)) =
      ptr + 14 - 14 * getDvfsTableEntryCount (gpuDefaultTable isMariko) := rfl
    refine (show Stays (Inside hi) _ from ?_) s
    refine stays_bind (stays_loadBlock ⟨h, by rw [hc]; push_cast; omega⟩) fun _ => ?_
    refine stays_bind (stays_require _ _) fun _ => ?_
    refine stays_bind (stays_storeBlock ⟨h, by rw [length_tableWords, hc]; push_cast; omega⟩) fun _ => ?_
    refine stays_ite (stays_forEach fun i hi' => ?_)
      (stays_ite (stays_forEach fun i hi' => ?_) (stays_pure ()))
    · have hi'' := List.mem_range.1 hi'
      have hw : ∀ k : Int, 0 ≤ k → k ≤ 5 →
          Inside hi (.write (tableHead ptr (getDvfsTableEntryCount (gpuDefaultTable isMariko)) +
            (14 : Nat) * i + offsetPllC0 + k)) := by
        intro k h₀ h₅
        unfold offsetPllC0
        exact inside_write (by omega) (by omega)
      unfold gpuVoltArrayTurn
      rw [hc]
      have h₀ := hw 0 (by omega) (by omega)
      rw [Int.add_zero] at h₀
      refine stays_bind (stays_store h₀) fun _ => ?_
      refine stays_bind (stays_store (hw 1 (by omega) (by omega))) fun _ => ?_
      refine stays_bind (stays_store (hw 2 (by omega) (by omega))) fun _ => ?_
      refine stays_bind (stays_store (hw 3 (by omega) (by omega))) fun _ => ?_
      refine stays_bind (stays_store (hw 4 (by omega) (by omega))) fun _ => ?_
      exact stays_store (hw 5 (by omega) (by omega))
    · have hi'' := List.mem_range.1 hi'
      unfold gpuVoltOffsetTurn offsetPllC0
      rw [hc]
      exact stays_modify ⟨inside_read (by omega) (by omega), inside_write (by omega) (by omega)⟩

theorem stays_memFreqPllmLimit (h : 0 ≤ ptr) (hroom : ptr + 448 ≤ hi) :
    Stays (Inside hi) (memFreqPllmLimit ptr) := by
  unfold memFreqPllmLimit offsetVcoMax
  refine stays_bind (stays_load (inside_read (by omega) (by omega))) fun _ => ?_
  refine stays_bind (stays_load (inside_read (by omega) (by omega))) fun _ => ?_
  refine stays_bind (stays_require _ _) fun _ => ?_
  refine stays_bind (stays_store (inside_write (by omega) (by omega))) fun _ => ?_
  exact stays_store (inside_write (by omega) (by omega))

theorem stays_memVoltValidator {entry : Int} (h : 0 ≤ entry ∧ entry + 7 < hi) :
    Stays (Inside hi) (memVoltValidator entry) := by
  refine stays_bind (stays_load64 ⟨h.1, by omega⟩) fun _ => stays_ite ?_ (stays_pure false)
  refine stays_holdsAll fun q hq => ?_
  simp only [List.mem_cons, List.not_mem_nil, or_false] at hq
  rcases hq with rfl | rfl | rfl | rfl <;> exact inside_read (by dsimp only; omega) (by dsimp only; omega)

theorem neverFails_load64 (w : Int) : NeverFails (load64 w) :=
  fun s => ⟨_, congrArg Outcome.result (load64_run w s)⟩

theorem neverFails_memVoltValidator (entry : Int) : NeverFails (memVoltValidator entry) :=
  neverFails_bind (neverFails_load64 entry) fun _ =>
    neverFails_ite (neverFails_holdsAll _) (neverFails_pure false)

theorem traces_memVoltHandler (hroom : ptr + 448 ≤ hi) :
    Traces (Inside hi) (memVoltHandler C ptr) s ↔ 9 ≤ ptr := by
  unfold memVoltHandler
  constructor
  · intro h
    obtain ⟨b, hb⟩ := neverFails_memVoltValidator (ptr - 8) s
    have h₂ := (traces_bind.1 ((traces_bind.1 h).2 b hb)).1
    have h₃ := (traces_load64.1 (traces_bind.1 h₂).1).1
    omega
  · intro h
    refine (show Stays (Inside hi) _ from ?_) s
    refine stays_bind (stays_memVoltValidator ⟨by omega, by omega⟩) fun _ => ?_
    refine stays_bind (stays_memVoltValidator ⟨by omega, by omega⟩) fun _ => ?_
    refine stays_bind (stays_require _ _) fun _ => ?_
    exact stays_ite (stays_pure ()) (stays_store (inside_write (by omega) (by omega)))

theorem stays_lastFreq (table : Nat → CvbEntry) : Stays (Inside hi) (lastFreq table) := by
  unfold lastFreq
  cases getDvfsTableLastEntry table with
  | some entry => exact stays_pure _
  | none => exact fun s => traces_fail _ s

theorem stays_gpuFreqMaxAsmOf (table : Nat → CvbEntry) (h : 0 ≤ ptr) (hroom : ptr + 448 ≤ hi) :
    Stays (Inside hi) (gpuFreqMaxAsmOf (lastFreq table) ptr) := by
  unfold gpuFreqMaxAsmOf
  refine stays_bind (stays_load (inside_read (by omega) (by omega))) fun _ => ?_
  refine stays_bind (stays_load (inside_read (by omega) (by omega))) fun _ => ?_
  refine stays_bind (stays_require _ _) fun _ => stays_bind (stays_require _ _) fun _ => ?_
  refine stays_bind (stays_lastFreq table) fun _ => ?_
  refine stays_bind (stays_store (inside_write (by omega) (by omega))) fun _ => ?_
  exact stays_store (inside_write (by omega) (by omega))

theorem stays_gpuFreqPllLimit (h : 0 ≤ ptr) (hroom : ptr + 448 ≤ hi) :
    Stays (Inside hi) (gpuFreqPllLimit ptr) := by
  unfold gpuFreqPllLimit
  refine stays_bind (stays_forEach fun i hi' => stays_expect ?_) fun _ => ?_
  · have := List.mem_range'_1.1 hi'
    unfold clkPllParamWords at this
    exact inside_read (by omega) (by omega)
  · refine stays_bind (stays_load (inside_read (by omega) (by omega))) fun _ => ?_
    exact stays_store (inside_write (by omega) (by omega))

end Reach

/-- Copying `n` words stays where both blocks are. -/
theorem stays_copyBlock {hi a b : Int} {n : Nat} (ha : 0 ≤ a ∧ a + n ≤ hi)
    (hb : 0 ≤ b ∧ b + n ≤ hi) :
    Stays (Inside hi) (do let src ← loadBlock a n; storeBlock b src : Patch Unit) := by
  intro s
  rw [traces_bind]
  refine ⟨stays_loadBlock ha s, fun src hsrc => ?_⟩
  exact stays_storeBlock (by rw [length_of_loadBlock hsrc]; exact hb) _

/-! ## MTC chain -/

/-- How far the validation of the tables of `W` words below `ptr` reaches back: to the
first word that is not as it should be. -/
def mtcLookback (W : Nat) (rev : UInt32) (mem : Int → UInt32) (ptr : Int) :
    List (UInt32 × Nat) → Int
  | [] => 0
  | (khz, i) :: l =>
    if mem (ptr - i * W) ≠ khz then i * W
    else if mem (ptr - 16 - i * W) ≠ rev then 16 + i * W
    else max (16 + i * W) (mtcLookback W rev mem ptr l)

section Mtc

variable {W : Nat} {rev : UInt32} {ptr hi : Int}

theorem mtcTable_rate (i : Nat) : mtcTable W ptr i + offsetRateKhz = ptr - i * W := by
  unfold mtcTable offsetRateKhz
  omega

theorem mtcTable_rev (i : Nat) : mtcTable W ptr i + offsetRev = ptr - 16 - i * W := by
  unfold mtcTable offsetRateKhz offsetRev
  omega

theorem mtcLookback_cons (mem : Int → UInt32) (khz : UInt32) (i : Nat) (l : List (UInt32 × Nat)) :
    mtcLookback W rev mem ptr ((khz, i) :: l) =
      if mem (ptr - i * W) ≠ khz then (i * W : Int)
      else if mem (ptr - 16 - i * W) ≠ rev then 16 + (i * W : Int)
      else max (16 + (i * W : Int)) (mtcLookback W rev mem ptr l) :=
  rfl

theorem readOnly_checkMtcTable (table : Int) (khz rev : UInt32) :
    ReadOnly Access.IsWrite (checkMtcTable table khz rev) :=
  readOnly_bind (readOnly_expect _ _ _) fun _ => readOnly_expect _ _ _

theorem checkMtcTable_ok_iff (i : Nat) (khz : UInt32) (s : Store Device) :
    (checkMtcTable (mtcTable W ptr i) khz rev s).result = .ok () ↔
      s.mem (ptr - i * W) = khz ∧ s.mem (ptr - 16 - i * W) = rev := by
  unfold checkMtcTable expectWord
  rw [expect_bind_run, expect_run, mtcTable_rate, mtcTable_rev]
  by_cases h₁ : s.mem (ptr - i * W) = khz <;>
    by_cases h₂ : s.mem (ptr - 16 - i * W) = rev <;> simp [h₁, h₂]

theorem traces_checkMtcTable (i : Nat) (khz : UInt32) (hroom : ptr < hi) (s : Store Device) :
    Traces (Inside hi) (checkMtcTable (mtcTable W ptr i) khz rev) s ↔
      (i * W : Int) ≤ ptr ∧ (s.mem (ptr - i * W) = khz → 16 + (i * W : Int) ≤ ptr) := by
  have hiW : (0 : Int) ≤ i * W := Int.mul_nonneg (Int.natCast_nonneg i) (Int.natCast_nonneg W)
  unfold checkMtcTable expectWord
  rw [traces_expect_bind, traces_expect, mtcTable_rate, mtcTable_rev]
  constructor
  · rintro ⟨⟨h₁, -⟩, h₂⟩
    have h₁' : 0 ≤ ptr - i * W := h₁
    refine ⟨by omega, fun h₃ => ?_⟩
    have h₄ : 0 ≤ ptr - 16 - i * W := (h₂ h₃).1
    omega
  · rintro ⟨h₁, h₂⟩
    refine ⟨inside_read (by omega) (by omega), fun h₃ => ?_⟩
    have h₄ := h₂ h₃
    exact inside_read (by omega) (by omega)

/-- The chain succeeds iff every table has its rate and its revision. -/
theorem mtcChain_ok_iff (W : Nat) (rev : UInt32) (ptr : Int) (l : List (UInt32 × Nat)) (s : Store Device) :
    (Prog.forEach l (fun p => checkMtcTable (mtcTable W ptr p.2) p.1 rev) s).result = .ok () ↔
      ∀ p ∈ l, s.mem (ptr - p.2 * W) = p.1 ∧ s.mem (ptr - 16 - p.2 * W) = rev := by
  induction l with
  | nil => exact ⟨fun _ p hp => absurd hp List.not_mem_nil, fun _ => rfl⟩
  | cons p l ih =>
    rw [forEach_cons, bind_ok_iff, (readOnly_checkMtcTable _ _ _ s).1]
    rw [List.forall_mem_cons, ← ih, ← checkMtcTable_ok_iff]
    exact ⟨fun ⟨(), h⟩ => h, fun h => ⟨(), h⟩⟩

/-- **The chain stays inside iff `mtcLookback` words lie before the match.** -/
theorem traces_mtcChain (W : Nat) (rev : UInt32) (h : 0 ≤ ptr) (hroom : ptr < hi) (l : List (UInt32 × Nat))
    (s : Store Device) :
    Traces (Inside hi) (Prog.forEach l fun p => checkMtcTable (mtcTable W ptr p.2) p.1 rev) s ↔
      mtcLookback W rev s.mem ptr l ≤ ptr := by
  induction l with
  | nil => exact ⟨fun _ => h, fun _ => traces_pure () s⟩
  | cons p l ih =>
    obtain ⟨khz, i⟩ := p
    have hrest : (∀ u, (checkMtcTable (mtcTable W ptr i) khz rev s).result = .ok u →
        Traces (Inside hi)
          (Prog.forEach l fun p => checkMtcTable (mtcTable W ptr p.2) p.1 rev) s) ↔
        (s.mem (ptr - i * W) = khz ∧ s.mem (ptr - 16 - i * W) = rev →
          mtcLookback W rev s.mem ptr l ≤ ptr) := by
      rw [← checkMtcTable_ok_iff, ← ih]
      exact ⟨fun h => h (), fun h () => h⟩
    rw [forEach_cons, traces_bind, traces_checkMtcTable i khz hroom,
      (readOnly_checkMtcTable _ _ _ s).1, hrest, mtcLookback_cons]
    by_cases h₁ : s.mem (ptr - i * W) = khz
    · by_cases h₂ : s.mem (ptr - 16 - i * W) = rev
      · rw [if_neg (by simp [h₁]), if_neg (by simp [h₂])]
        simp only [h₁, h₂, true_imp_iff, and_self]
        omega
      · rw [if_neg (by simp [h₁]), if_pos h₂]
        simp only [h₁, h₂, true_imp_iff, and_false, false_imp_iff, and_true]
        omega
    · rw [if_pos h₁]
      simp [h₁]

/-- Where the chain succeeds it has reached back to every table. -/
theorem le_mtcLookback (W : Nat) (rev : UInt32) {l : List (UInt32 × Nat)} {s : Store Device}
    (h : ∀ p ∈ l, s.mem (ptr - p.2 * W) = p.1 ∧ s.mem (ptr - 16 - p.2 * W) = rev) :
    ∀ p ∈ l, 16 + (p.2 * W : Int) ≤ mtcLookback W rev s.mem ptr l := by
  induction l with
  | nil => exact fun p hp => absurd hp List.not_mem_nil
  | cons q l ih =>
    obtain ⟨khz, i⟩ := q
    obtain ⟨h₁, h₂⟩ := h (khz, i) (by simp)
    have hl := ih fun p hp => h p (by simp [hp])
    rw [mtcLookback_cons, if_neg (by simp [h₁]), if_neg (by simp [h₂])]
    intro p hp
    rcases List.mem_cons.1 hp with rfl | hp
    · exact le_max_left _ _
    · exact (hl p hp).trans (le_max_right _ _)

/-- So every table up to one that was checked lies inside the image. -/
theorem mtcTable_inside {l : List (UInt32 × Nat)} {s : Store Device}
    (hok : (Prog.forEach l (fun p => checkMtcTable (mtcTable W ptr p.2) p.1 rev) s).result = .ok ())
    (hback : mtcLookback W rev s.mem ptr l ≤ ptr) (hroom : ptr + W ≤ hi) {p : UInt32 × Nat}
    (hp : p ∈ l) {i : Nat} (hle : i ≤ p.2) :
    0 ≤ mtcTable W ptr i ∧ mtcTable W ptr i + W ≤ hi := by
  have hvalid := (mtcChain_ok_iff W rev ptr l s).1 hok
  have hlast := (le_mtcLookback W rev hvalid p hp).trans hback
  have hi₀ : (0 : Int) ≤ i * W := by positivity
  have hmul : (i * W : Int) ≤ p.2 * W := by exact_mod_cast Nat.mul_le_mul_right W hle
  unfold mtcTable offsetRateKhz
  constructor <;> omega

/-- What follows the chain matters only where the chain succeeds. -/
theorem traces_mtcChain_bind (W : Nat) (rev : UInt32) (h : 0 ≤ ptr) (hroom : ptr < hi)
    (l : List (UInt32 × Nat)) (s : Store Device) {f : Unit → Patch Unit}
    (hrest : (Prog.forEach l (fun p => checkMtcTable (mtcTable W ptr p.2) p.1 rev) s).result =
        .ok () → mtcLookback W rev s.mem ptr l ≤ ptr → Stays (Inside hi) (f ())) :
    Traces (Inside hi)
        (Prog.forEach l (fun p => checkMtcTable (mtcTable W ptr p.2) p.1 rev) >>= f) s ↔
      mtcLookback W rev s.mem ptr l ≤ ptr := by
  have hchain := traces_mtcChain W rev h hroom l s
  rw [traces_bind]
  constructor
  · exact fun hall => hchain.1 hall.1
  · intro hback
    exact ⟨hchain.2 hback, fun () hok => hrest hok hback _⟩

end Mtc

end SwitchOc
