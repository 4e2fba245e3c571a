import Mathlib.Algebra.Group.Nat.Defs
import Mathlib.Tactic.Common
import Mathlib.Data.Int.Basic
import Mathlib.Data.List.Basic
import SwitchOcSuite.Lib.WordMem

/-!
# CVB tables (`pcv_common.hpp`)

A CVB entry is a frequency and twelve voltage coefficients, 14 words in memory.
A DVFS table is zero-terminated: `getDvfsTableEntryCount` walks it up to
`dvfsTableEntryLimit` entries, `getDvfsTableLastEntry` is null for an empty one.
Tables are read through a view `Nat → CvbEntry`, so the same walk runs over the
customized tables and over a table in the image.

    ofWords_words                 the 14 words determine the entry
    getDvfsTableEntryCount_eq_iff the count is the first empty index (or the limit)
-/

namespace SwitchOc

open Traced

/-! ## Entries -/

/-- `cvb_coefficients`. -/
structure CvbCoefficients where
  c0 : Int32 := 0
  c1 : Int32 := 0
  c2 : Int32 := 0
  c3 : Int32 := 0
  c4 : Int32 := 0
  c5 : Int32 := 0
  deriving DecidableEq, Repr, Inhabited

/-- `cvb_entry_t`. -/
structure CvbEntry where
  freq : UInt64 := 0
  dfll : CvbCoefficients := {}
  pll : CvbCoefficients := {}
  deriving DecidableEq, Repr, Inhabited

/-- Aggregate initialisation `{ c0, c1, … }`: what is left out is zero. -/
def CvbCoefficients.ofList (l : List Int32) : CvbCoefficients :=
  ⟨l.getD 0 0, l.getD 1 0, l.getD 2 0, l.getD 3 0, l.getD 4 0, l.getD 5 0⟩

/-- `{ freq, { dfll }, { pll } }` as the tables spell an entry. -/
def cvb (freq : UInt64) (dfll pll : List Int32) : CvbEntry :=
  ⟨freq, .ofList dfll, .ofList pll⟩

/-! ## Entries in memory -/

/-- Words in a `cvb_entry_t` (0x38 bytes). -/
def cvbWords : Nat := 14

def lowWord (x : UInt64) : UInt32 := UInt32.ofNat x.toNat

def highWord (x : UInt64) : UInt32 := UInt32.ofNat (x.toNat / 2 ^ 32)

def joinWords (lo hi : UInt32) : UInt64 := UInt64.ofNat (lo.toNat + 2 ^ 32 * hi.toNat)

def CvbCoefficients.words (c : CvbCoefficients) : List UInt32 :=
  [c.c0.toUInt32, c.c1.toUInt32, c.c2.toUInt32, c.c3.toUInt32, c.c4.toUInt32, c.c5.toUInt32]

def CvbEntry.words (e : CvbEntry) : List UInt32 :=
  lowWord e.freq :: highWord e.freq :: (e.dfll.words ++ e.pll.words)

def CvbCoefficients.ofWords (w : Nat → UInt32) : CvbCoefficients :=
  ⟨(w 0).toInt32, (w 1).toInt32, (w 2).toInt32, (w 3).toInt32, (w 4).toInt32, (w 5).toInt32⟩

def CvbEntry.ofWords (w : Nat → UInt32) : CvbEntry :=
  ⟨joinWords (w 0) (w 1), .ofWords fun i => w (2 + i), .ofWords fun i => w (8 + i)⟩

/-- The table whose head is at word `head` of the image. -/
def tableAt (mem : Int → UInt32) (head : Int) : Nat → CvbEntry := fun i =>
  .ofWords fun k => mem (head + (cvbWords * i + k : Nat))

theorem joinWords_low_high (x : UInt64) : joinWords (lowWord x) (highWord x) = x := by
  have hx := x.toNat_lt
  apply UInt64.toNat_inj.1
  simp only [joinWords, lowWord, highWord, UInt64.toNat_ofNat', UInt32.toNat_ofNat']
  omega

@[simp] theorem CvbEntry.length_words (e : CvbEntry) : e.words.length = cvbWords := rfl

/-- Reading the 14 words of an entry back. -/
theorem CvbEntry.ofWords_words (e : CvbEntry) : CvbEntry.ofWords (fun k => e.words.getD k 0) = e := by
  obtain ⟨f, d, p⟩ := e
  simp [CvbEntry.ofWords, CvbEntry.words, CvbCoefficients.ofWords, CvbCoefficients.words,
    joinWords_low_high]

/-! ## Counting -/

def dvfsTableEntryCount : Nat := 32

/-- Index 31 is reserved to be empty. -/
def dvfsTableEntryLimit : Nat := dvfsTableEntryCount - 1

/-- All bytes of the entry are zero. -/
def CvbEntry.IsEmpty (e : CvbEntry) : Prop := e = {}

instance (e : CvbEntry) : Decidable e.IsEmpty := inferInstanceAs (Decidable (e = {}))

/-- The `while` loop of `GetDvfsTableEntryCount` with `n` turns left. -/
def countFrom (table : Nat → CvbEntry) (count : Nat) : Nat → Nat
  | 0 => count
  | n + 1 => if (table count).IsEmpty then count else countFrom table (count + 1) n

def getDvfsTableEntryCount (table : Nat → CvbEntry) : Nat :=
  countFrom table 0 dvfsTableEntryLimit

/-- `none` is the null pointer. -/
def getDvfsTableLastEntry (table : Nat → CvbEntry) : Option CvbEntry :=
  let count := getDvfsTableEntryCount table
  if count = 0 then none else some (table (count - 1))

theorem countFrom_spec (table : Nat → CvbEntry) (n : Nat) : ∀ count,
    count ≤ countFrom table count n ∧ countFrom table count n ≤ count + n ∧
    (∀ i, count ≤ i → i < countFrom table count n → ¬ (table i).IsEmpty) ∧
    (countFrom table count n < count + n → (table (countFrom table count n)).IsEmpty) := by
  induction n with
  | zero =>
    intro count
    simp only [countFrom]
    exact ⟨le_refl _, by omega, fun i h₁ h₂ => by omega, fun h => by omega⟩
  | succ n ih =>
    intro count
    by_cases he : (table count).IsEmpty
    · simp only [countFrom, if_pos he]
      exact ⟨le_refl _, by omega, fun i h₁ h₂ => by omega, fun _ => he⟩
    · simp only [countFrom, if_neg he]
      obtain ⟨h₁, h₂, h₃, h₄⟩ := ih (count + 1)
      refine ⟨by omega, by omega, fun i hi hlt => ?_, fun h => h₄ (by omega)⟩
      rcases Nat.eq_or_lt_of_le hi with rfl | hi
      · exact he
      · exact h₃ i hi hlt

theorem getDvfsTableEntryCount_le (table : Nat → CvbEntry) :
    getDvfsTableEntryCount table ≤ dvfsTableEntryLimit := by
  have := (countFrom_spec table dvfsTableEntryLimit 0).2.1
  unfold getDvfsTableEntryCount
  omega

theorem not_isEmpty_of_lt {table : Nat → CvbEntry} {i : Nat}
    (h : i < getDvfsTableEntryCount table) : ¬ (table i).IsEmpty :=
  (countFrom_spec table dvfsTableEntryLimit 0).2.2.1 i (Nat.zero_le i) h

/-- The count is the first empty index, or the limit if there is none below it. -/
theorem getDvfsTableEntryCount_eq_iff {table : Nat → CvbEntry} {n : Nat} :
    getDvfsTableEntryCount table = n ↔
      n ≤ dvfsTableEntryLimit ∧ (∀ i < n, ¬ (table i).IsEmpty) ∧
        (n < dvfsTableEntryLimit → (table n).IsEmpty) := by
  obtain ⟨-, h₂, h₃, h₄⟩ := countFrom_spec table dvfsTableEntryLimit 0
  rw [Nat.zero_add] at h₂ h₄
  constructor
  · rintro rfl
    exact ⟨h₂, fun i hi => h₃ i (Nat.zero_le i) hi, h₄⟩
  · rintro ⟨hn, hfull, hempty⟩
    unfold getDvfsTableEntryCount
    rcases Nat.lt_trichotomy (countFrom table 0 dvfsTableEntryLimit) n with h | h | h
    · exact absurd (h₄ (by omega)) (hfull _ h)
    · exact h
    · exact absurd (hempty (by omega)) (h₃ n (Nat.zero_le n) h)

theorem getDvfsTableEntryCount_congr {t u : Nat → CvbEntry}
    (h : ∀ i < dvfsTableEntryLimit, t i = u i) :
    getDvfsTableEntryCount t = getDvfsTableEntryCount u := by
  obtain ⟨h₁, h₂, h₃⟩ := getDvfsTableEntryCount_eq_iff.1 (rfl : getDvfsTableEntryCount u = _)
  refine getDvfsTableEntryCount_eq_iff.2 ⟨h₁, fun i hi => ?_, fun hlt => ?_⟩
  · rw [h i (by omega)]
    exact h₂ i hi
  · rw [h _ hlt]
    exact h₃ hlt

theorem getDvfsTableLastEntry_eq_none_iff {table : Nat → CvbEntry} :
    getDvfsTableLastEntry table = none ↔ getDvfsTableEntryCount table = 0 := by
  by_cases h : getDvfsTableEntryCount table = 0 <;> simp [getDvfsTableLastEntry, h]

theorem getDvfsTableLastEntry_of_pos {table : Nat → CvbEntry}
    (h : 0 < getDvfsTableEntryCount table) :
    getDvfsTableLastEntry table = some (table (getDvfsTableEntryCount table - 1)) :=
  if_neg (by omega)

end SwitchOc
