import SwitchOcSuite.MemTester.Tests

/-!
# What the tests find

The stuck address test of at least two rounds passes exactly if the words of its buffer
are in cells of their own without stuck bits.  The tests that compare two buffers see
only what differs between them: two cells at the same offset that are stuck in the same
way go unnoticed, and with fewer rounds so do cells that differ in the bits never set.

    testStuckAddress_iff           long and fast test: no fault at all
    testStuckAddress_stress_iff    the one round of the stress test
    patternTest_iff                a comparison, by the words that it shows
    solidbits_iff                  solid bits, checkerboard and bit flip show everything
    walkbits0_fast_iff             a fast walk shows the low eight bits
-/

namespace SwitchOc.MemTester

open Ram

/-! ## Stuck address -/

/-- Two words have different patterns, whatever the round. -/
theorem addressPattern_inj {base count j i k : Nat} (hfit : base + 8 * count ≤ 2 ^ 64)
    (hi : i < count) (hk : k < count)
    (h : addressPattern j i (word base i) = addressPattern j k (word base k)) : i = k := by
  have hnat := congrArg UInt64.toNat h
  have hword : ∀ l < count, (UInt64.ofNat (word base l)).toNat = word base l := by
    intro l hl
    unfold word
    rw [UInt64.toNat_ofNat', Nat.mod_eq_of_lt (by omega)]
  have hnot : ∀ l < count, (~~~UInt64.ofNat (word base l)).toNat = 2 ^ 64 - 1 - word base l := by
    intro l hl
    rw [UInt64.toNat_not, hword l hl]
    rfl
  unfold addressPattern at hnat
  split at hnat <;> split at hnat
  · rw [hword i hi, hword k hk] at hnat
    exact word_inj hnat
  · -- an address is not the complement of another one
    rw [hword i hi, hnot k hk] at hnat
    unfold word at hnat
    omega
  · rw [hnot i hi, hword k hk] at hnat
    unfold word at hnat
    omega
  · rw [hnot i hi, hnot k hk] at hnat
    unfold word at hnat
    omega

theorem addressPattern_succ (j i p : Nat) :
    addressPattern (j + 1) i p = ~~~addressPattern j i p := by
  unfold addressPattern
  by_cases h : (j + i) % 2 = 0
  · rw [if_pos h, if_neg (by omega)]
  · rw [if_neg h, if_pos (by omega), UInt64.not_not]

theorem returned_eq_zero {σ : Type} (result : Bool × σ) (m : Machine σ) :
    (returned result m).1 = 0 ↔ result.1 = true := by
  unfold returned
  cases result.1 <;> simp

theorem stuckAddressRound_iff {σ : Type} (mem : Memory σ) (bufa count j : Nat) (s : σ) :
    (stuckAddressRound mem bufa count j s).1 = true ↔ ∀ i < count,
      mem.load (stuckAddressRound mem bufa count j s).2 (word bufa i) =
        addressPattern j i (word bufa i) := by
  unfold stuckAddressRound
  dsimp only
  rw [List.all_eq_true]
  constructor
  · intro h i hi
    exact eq_of_beq (h i (List.mem_range.2 hi))
  · intro h i hi
    exact beq_iff_eq.2 (h i (List.mem_range.1 hi))

section
variable {κ : Type} [DecidableEq κ] (r : Chip κ) {bufa count : Nat}

/-- The contents before a round do not matter. -/
theorem load_fill_congr (base : Nat) (v : Nat → UInt64) (s s' : κ → UInt64) {n i : Nat}
    (hi : i < n) :
    r.memory.load (forRange (fun i s => r.memory.store s (word base i) (v i)) n s)
      (word base i) =
    r.memory.load (forRange (fun i s => r.memory.store s (word base i) (v i)) n s')
      (word base i) := by
  induction n with
  | zero => omega
  | succ n ih =>
    rw [forRange_succ, forRange_succ]
    by_cases hcell : r.decode (word base n) = r.decode (word base i)
    · rw [r.load_congr hcell.symm, r.load_congr hcell.symm, r.load_store_self, r.load_store_self]
    · have hlt : i < n := by
        rcases Nat.eq_or_lt_of_le (Nat.le_of_lt_succ hi) with rfl | hlt
        · exact absurd rfl hcell
        · exact hlt
      rw [r.load_store_of_ne (Ne.symm hcell), r.load_store_of_ne (Ne.symm hcell)]
      exact ih hlt

/-- **The stuck address test**, of any number of rounds but none: the words are in cells of their
own, which keep the patterns. -/
theorem testStuckAddress_rounds (hfit : bufa + 8 * count ≤ 2 ^ 64) {dividend : Nat}
    (hrounds : 0 < 16 / dividend) (m : Machine (κ → UInt64)) :
    (testStuckAddress r.memory dividend bufa count m).1 = 0 ↔
      Set.InjOn (fun i => r.decode (word bufa i)) (Set.Iio count) ∧
        ∀ i < count, ∀ j < 16 / dividend,
          r.keep (word bufa i) (addressPattern j i (word bufa i)) =
            addressPattern j i (word bufa i) := by
  unfold testStuckAddress
  rw [returned_eq_zero, rounds_iff (Q := fun _ => True) (P := fun j => ∀ i < count,
    r.memory.load (stuckAddressRound r.memory bufa count j m.ram).2 (word bufa i) =
      addressPattern j i (word bufa i))]
  · constructor
    · intro h
      have hinj : Set.InjOn (fun i => r.decode (word bufa i)) (Set.Iio count) := by
        intro i hi k hk hcell
        have hsame := r.load_congr hcell (stuckAddressRound r.memory bufa count 0 m.ram).2
        rw [h 0 (Nat.le_refl 0) (by omega) i hi, h 0 (Nat.le_refl 0) (by omega) k hk] at hsame
        exact addressPattern_inj hfit hi hk hsame
      refine ⟨hinj, ?_⟩
      intro i hi j hj
      obtain ⟨k, -, hk, hcell, hload⟩ :=
        r.load_fill bufa (fun i => addressPattern j i (word bufa i)) m.ram hi
      obtain rfl := hinj (Set.mem_Iio.2 hk) (Set.mem_Iio.2 hi) hcell
      rw [← hload]
      exact h j (Nat.zero_le j) (by omega) k hi
    · rintro ⟨hinj, hkeep⟩ j - hj i hi
      obtain ⟨k, -, hk, hcell, hload⟩ :=
        r.load_fill bufa (fun i => addressPattern j i (word bufa i)) m.ram hi
      obtain rfl := hinj (Set.mem_Iio.2 hk) (Set.mem_Iio.2 hi) hcell
      exact hload.trans (hkeep k hi j (by omega))
  · intro j s _
    refine ⟨?_, trivial⟩
    rw [stuckAddressRound_iff]
    have hsame := fun i (hi : i < count) =>
      load_fill_congr r bufa (fun i => addressPattern j i (word bufa i)) s m.ram hi
    constructor
    · intro h i hi
      exact (hsame i hi).symm.trans (h i hi)
    · intro h i hi
      exact (hsame i hi).trans (h i hi)
  · trivial

/-- **The long and the fast test find every fault**: the stuck address test passes exactly if no
two words share a cell and no cell has a stuck bit. -/
theorem testStuckAddress_iff (hfit : bufa + 8 * count ≤ 2 ^ 64) {key : Key} (hkey : key ≠ .Y)
    (m : Machine (κ → UInt64)) :
    (testStuckAddress r.memory (dividend key) bufa count m).1 = 0 ↔ r.Free bufa count := by
  have hrounds : 2 ≤ 16 / dividend key := by
    cases key with
    | A => decide
    | X => decide
    | Y => exact absurd rfl hkey
  rw [testStuckAddress_rounds r hfit (by omega)]
  constructor
  · rintro ⟨hinj, hkeep⟩
    refine ⟨hinj, ?_⟩
    intro i hi
    have hnext := hkeep i hi 1 (by omega)
    rw [addressPattern_succ] at hnext
    exact Stuck.free_of_keep (hkeep i hi 0 (by omega)) hnext
  · rintro ⟨hinj, hfree⟩
    refine ⟨hinj, ?_⟩
    intro i hi j _
    exact (hfree i hi).keep _

/-- **The stress test** has one round, in which a stuck bit goes unnoticed where the pattern has the
same value. -/
theorem testStuckAddress_stress_iff (hfit : bufa + 8 * count ≤ 2 ^ 64) (m : Machine (κ → UInt64)) :
    (testStuckAddress r.memory (dividend .Y) bufa count m).1 = 0 ↔
      Set.InjOn (fun i => r.decode (word bufa i)) (Set.Iio count) ∧
        ∀ i < count, r.keep (word bufa i) (addressPattern 0 i (word bufa i)) =
          addressPattern 0 i (word bufa i) := by
  rw [testStuckAddress_rounds r hfit (by decide)]
  constructor
  · rintro ⟨hinj, hkeep⟩
    exact ⟨hinj, fun i hi => hkeep i hi 0 (by decide)⟩
  · rintro ⟨hinj, hkeep⟩
    refine ⟨hinj, ?_⟩
    intro i hi j hj
    obtain rfl : j = 0 := Nat.lt_one_iff.1 hj
    exact hkeep i hi

/-- The word at 8 has the bit stuck that its address has set; the words at 8 and at 16 have
one cell. -/
theorem testStuckAddress_stress_iff_stuck :
    (testStuckAddress (Chip.memory ⟨(· / 8), fun _ => ⟨0, 8⟩⟩) (dividend .Y) 8 1
        ⟨fun _ => 0, 0⟩).1 = 0 ∧
      (testStuckAddress (Chip.memory ⟨fun _ => (), fun _ => ⟨0, 0⟩⟩) (dividend .Y) 8 2
        ⟨fun _ => 0, 0⟩).1 ≠ 0 := by
  constructor
  · refine (testStuckAddress_stress_iff _ (by decide) _).2 ⟨?_, ?_⟩
    · intro i hi k hk _
      rw [Nat.lt_one_iff.1 hi, Nat.lt_one_iff.1 hk]
    · intro i hi
      obtain rfl : i = 0 := Nat.lt_one_iff.1 hi
      decide
  · intro hpass
    have hinj := ((testStuckAddress_stress_iff _ (by decide) _).1 hpass).1
    exact absurd (hinj (Set.mem_Iio.2 (by decide : 0 < 2)) (Set.mem_Iio.2 (by decide : 1 < 2)) rfl)
      (by decide)

end

/-! ## Two buffers -/

/-- Two buffers whose words keep what `keep` makes of them. -/
structure Halves {σ : Type} (mem : Memory σ) (keep : Nat → UInt64 → UInt64)
    (bufa bufb count : Nat) : Prop where
  keeps : mem.Keeps keep {a | ∃ i < count, a = word bufa i ∨ a = word bufb i}
  apart : ∀ i < count, ∀ k < count, word bufa i ≠ word bufb k

theorem compareRegions_eq_zero {σ : Type} {mem : Memory σ} {s : σ} {bufa bufb count : Nat} :
    compareRegions mem s bufa bufb count = 0 ↔
      ∀ i < count, mem.load s (word bufa i) = mem.load s (word bufb i) := by
  unfold compareRegions
  induction count with
  | zero => simp
  | succ count ih =>
    rw [forRange_succ]
    by_cases h : mem.load s (word bufa count) = mem.load s (word bufb count)
    · rw [if_neg (not_not.2 h), ih]
      constructor
      · intro hall i hi
        rcases Nat.eq_or_lt_of_le (Nat.le_of_lt_succ hi) with rfl | hi
        · exact h
        · exact hall i hi
      · intro hall i hi
        exact hall i (Nat.lt_succ_of_lt hi)
    · rw [if_pos h]
      constructor
      · intro hneg
        exact absurd hneg (by decide)
      · intro hall
        exact absurd (hall count (Nat.lt_succ_self count)) h

namespace Halves

section
variable {σ : Type} {mem : Memory σ} {keep : Nat → UInt64 → UInt64} {bufa bufb count : Nat}
  (h : Halves mem keep bufa bufb count)
include h

/-- A word stored in the first buffer. -/
theorem load_store_left (s : σ) (v : UInt64) {i : Nat} (hi : i < count) :
    mem.load (mem.store s (word bufa i) v) (word bufa i) = keep (word bufa i) v ∧
      (∀ k < count, k ≠ i → mem.load (mem.store s (word bufa i) v) (word bufa k) =
        mem.load s (word bufa k)) ∧
      ∀ k < count, mem.load (mem.store s (word bufa i) v) (word bufb k) =
        mem.load s (word bufb k) := by
  refine ⟨h.keeps.load_store s _ ⟨i, hi, .inl rfl⟩ v, ?_, ?_⟩
  · intro k hk hne
    exact h.keeps.load_store_of_ne s _ ⟨i, hi, .inl rfl⟩ _ ⟨k, hk, .inl rfl⟩
      (fun heq => hne (word_inj heq).symm) v
  · intro k hk
    exact h.keeps.load_store_of_ne s _ ⟨i, hi, .inl rfl⟩ _ ⟨k, hk, .inr rfl⟩ (h.apart i hi k hk) v

/-- A word stored in the second buffer. -/
theorem load_store_right (s : σ) (v : UInt64) {i : Nat} (hi : i < count) :
    mem.load (mem.store s (word bufb i) v) (word bufb i) = keep (word bufb i) v ∧
      (∀ k < count, k ≠ i → mem.load (mem.store s (word bufb i) v) (word bufb k) =
        mem.load s (word bufb k)) ∧
      ∀ k < count, mem.load (mem.store s (word bufb i) v) (word bufa k) =
        mem.load s (word bufa k) := by
  refine ⟨h.keeps.load_store s _ ⟨i, hi, .inr rfl⟩ v, ?_, ?_⟩
  · intro k hk hne
    exact h.keeps.load_store_of_ne s _ ⟨i, hi, .inr rfl⟩ _ ⟨k, hk, .inr rfl⟩
      (fun heq => hne (word_inj heq).symm) v
  · intro k hk
    exact h.keeps.load_store_of_ne s _ ⟨i, hi, .inr rfl⟩ _ ⟨k, hk, .inl rfl⟩
      (h.apart k hk i hi).symm v

/-- After a fill each word has what its cell keeps of the pattern. -/
theorem load_fillBoth (v : Nat → UInt64) (s : σ) {n : Nat} (hn : n ≤ count) :
    ∀ i < n, mem.load (fillBoth mem v bufa bufb n s) (word bufa i) = keep (word bufa i) (v i) ∧
      mem.load (fillBoth mem v bufa bufb n s) (word bufb i) = keep (word bufb i) (v i) := by
  unfold fillBoth
  induction n with
  | zero =>
    intro i hi
    omega
  | succ n ih =>
    intro i hi
    have hlt : n < count := by omega
    rw [forRange_succ]
    generalize hs : forRange _ n s = s'
    obtain ⟨hb, hbs, hba⟩ := h.load_store_right s' (v n) hlt
    obtain ⟨ha, has, hab⟩ := h.load_store_left (mem.store s' (word bufb n) (v n)) (v n) hlt
    by_cases heq : i = n
    · subst heq
      exact ⟨ha, (hab i hlt).trans hb⟩
    · have hin : i < n := by omega
      have hold := ih (by omega) i hin
      rw [hs] at hold
      rw [has i (by omega) heq, hab i (by omega), hbs i (by omega) heq, hba i (by omega)]
      exact hold

/-- **A comparison** passes exactly if the cells of the two buffers keep the same of every word that
is stored in them. -/
theorem patternTest_iff (n : Nat) (pattern : Nat → Nat → UInt64) (m : Machine σ) :
    (patternTest mem n pattern bufa bufb count m).1 = 0 ↔ ∀ i < count, ∀ j < n,
      keep (word bufa i) (pattern j i) = keep (word bufb i) (pattern j i) := by
  unfold patternTest
  rw [returned_eq_zero, rounds_iff (Q := fun _ => True) (P := fun j => ∀ i < count,
    keep (word bufa i) (pattern j i) = keep (word bufb i) (pattern j i))]
  · constructor
    · intro hall i hi j hj
      exact hall j (Nat.zero_le j) (by omega) i hi
    · intro hall j _ hj i hi
      exact hall i hi j (by omega)
  · intro j s _
    refine ⟨?_, trivial⟩
    unfold patternRound
    dsimp only
    rw [beq_iff_eq, compareRegions_eq_zero]
    have hload := h.load_fillBoth (pattern j) s (Nat.le_refl count)
    constructor
    · intro hall i hi
      rw [← (hload i hi).1, ← (hload i hi).2]
      exact hall i hi
    · intro hall i hi
      rw [(hload i hi).1, (hload i hi).2]
      exact hall i hi
  · trivial

end

end Halves

/-! ## What a comparison shows -/

/-- Two cells of one word each, which have the bits `a` and `b` stuck. -/
def twoCells (a b : Stuck) : Chip Bool := ⟨fun addr => addr == 8, fun c => if c then b else a⟩

theorem halves_twoCells (a b : Stuck) :
    Halves (twoCells a b).memory (twoCells a b).keep 0 8 1 := by
  constructor
  · refine (twoCells a b).keeps ?_
    rintro x ⟨i, hi, hx⟩ y ⟨k, hk, hy⟩ hcell
    obtain rfl : i = 0 := Nat.lt_one_iff.1 hi
    obtain rfl : k = 0 := Nat.lt_one_iff.1 hk
    have hselect : (x == 8) = (y == 8) := hcell
    clear hcell
    revert hselect
    rcases hx with rfl | rfl <;> rcases hy with rfl | rfl <;> decide
  · intro i hi k hk
    unfold word
    omega

section
variable {κ : Type} [DecidableEq κ] (r : Chip κ) {bufa bufb count : Nat}

/-- **A comparison of faulty cells**: it tells two cells apart exactly if they keep different parts
of a word whose bits it shows. -/
theorem patternTest_shown_iff (h : Halves r.memory r.keep bufa bufb count) (n : Nat)
    (pattern : Nat → Nat → UInt64) (m : Machine (κ → UInt64)) :
    (patternTest r.memory n pattern bufa bufb count m).1 = 0 ↔ ∀ i < count, ∀ w,
      Shown (fun v => ∃ j < n, v = pattern j i) w →
        r.keep (word bufa i) w = r.keep (word bufb i) w := by
  rw [h.patternTest_iff]
  constructor
  · intro hall i hi
    refine keep_eq_iff.1 ?_
    rintro v ⟨j, hj, rfl⟩
    exact hall i hi j hj
  · intro hall i hi j hj
    exact keep_eq_iff.2 (hall i hi) _ ⟨j, hj, rfl⟩

/-- A test with a word and its complement everywhere. -/
theorem patternTest_complete (h : Halves r.memory r.keep bufa bufb count) {n : Nat}
    {pattern : Nat → Nat → UInt64} (hn : 2 ≤ n)
    (hnot : ∀ i, pattern 1 i = ~~~pattern 0 i) (m : Machine (κ → UInt64)) :
    (patternTest r.memory n pattern bufa bufb count m).1 = 0 ↔ ∀ i < count,
      r.keep (word bufa i) = r.keep (word bufb i) := by
  rw [patternTest_shown_iff r h]
  constructor
  · intro hall i hi
    funext w
    refine hall i hi w (shown_of_not (v := pattern 0 i) ⟨0, by omega, rfl⟩ ⟨1, by omega, ?_⟩ w)
    exact (hnot i).symm
  · intro hall i hi w _
    rw [hall i hi]

/-- **Solid bits, checkerboard and bit flip** find whatever differs between two cells at the same
offset, and nothing else. -/
theorem complementaryTests_iff (h : Halves r.memory r.keep bufa bufb count) {key : Key}
    (hkey : key ≠ .Y) (m : Machine (κ → UInt64)) :
    ((testSolidbitsComparison r.memory (dividend key) bufa bufb count m).1 = 0 ↔
      ∀ i < count, r.keep (word bufa i) = r.keep (word bufb i)) ∧
    ((testCheckerboardComparison r.memory (dividend key) bufa bufb count m).1 = 0 ↔
      ∀ i < count, r.keep (word bufa i) = r.keep (word bufb i)) ∧
    ((testBitflipComparison r.memory (dividend key) bufa bufb count m).1 = 0 ↔
      ∀ i < count, r.keep (word bufa i) = r.keep (word bufb i)) := by
  have hrounds : 2 ≤ 64 / dividend key / dividend key ∧
      2 ≤ UL_LEN / dividend key / dividend key * 8 := by
    cases key with
    | A => decide
    | X => decide
    | Y => exact absurd rfl hkey
  have hnot : ∀ (q : UInt64) (i : Nat), alternate (~~~q) i = ~~~alternate q i := by
    intro q i
    unfold alternate
    split
    · rfl
    · rw [UInt64.not_not]
  refine ⟨patternTest_complete r h hrounds.1 ?_ m, patternTest_complete r h hrounds.1 ?_ m,
    patternTest_complete r h hrounds.2 ?_ m⟩
  · exact fun i => hnot UL_ONEBITS i
  · exact fun i => hnot CHECKERBOARD1 i
  · intro i
    show alternate (oneShl 0) i = ~~~alternate (~~~oneShl 0) i
    rw [hnot, UInt64.not_not]

end

/-- Two cells with the same bit stuck pass, one alone does not. -/
theorem complementaryTests_iff_twoCells :
    (testSolidbitsComparison (twoCells ⟨0, 4⟩ ⟨0, 4⟩).memory (dividend .X) 0 8 1
      ⟨fun _ => 0, 0⟩).1 = 0 ∧
    ¬(testBitflipComparison (twoCells ⟨4, 0⟩ ⟨0, 0⟩).memory (dividend .A) 0 8 1
      ⟨fun _ => 0, 0⟩).1 = 0 := by
  have hX : Key.X ≠ .Y := nofun
  have hA : Key.A ≠ .Y := nofun
  constructor
  · refine (complementaryTests_iff _ (halves_twoCells _ _) hX _).1.2 ?_
    intro i hi
    obtain rfl : i = 0 := Nat.lt_one_iff.1 hi
    rfl
  · rw [(complementaryTests_iff _ (halves_twoCells _ _) hA _).2.2]
    intro hall
    exact absurd (congrFun (hall 0 (by decide)) 4) (by decide)

/-! ## Walking bits -/

theorem bit_oneShl {j k : Nat} (hj : j < 64) : bit (oneShl j) k = decide (j = k) := by
  unfold bit oneShl
  rw [← BitVec.testBit_toNat, UInt64.toNat_toBitVec, UInt64.toNat_shiftLeft]
  have hmod : (j % 64).toUInt64.toNat % 64 = j := by
    show (UInt64.ofNat (j % 64)).toNat % 64 = j
    rw [UInt64.toNat_ofNat']
    omega
  have hlt : 2 ^ j < 2 ^ 64 := Nat.pow_lt_pow_right (by decide) hj
  rw [hmod, show (1 : UInt64).toNat = 1 by rfl, Nat.one_shiftLeft, Nat.mod_eq_of_lt hlt,
    Nat.testBit_two_pow]

/-- `n` steps of the walk show every bit that is passed, and the others as 0. -/
theorem shown_walkbits0 {n : Nat} (hn : 2 ≤ n) (i : Nat) (w : UInt64) :
    Shown (fun v => ∃ j < n, v = walkbits0 j i) w ↔ ∀ k < 64, n ≤ k → bit w k = false := by
  have hup : ∀ j < 64, walkbits0 j i = oneShl j := fun j hj => if_pos hj
  constructor
  · intro hshown k hk hnk
    obtain ⟨v, ⟨j, hj, rfl⟩, hbit⟩ := hshown k hk
    rw [← hbit, hup j (by omega), bit_oneShl (by omega), decide_eq_false]
    omega
  · intro hlow k hk
    cases hw : bit w k with
    | true =>
      have hkn : k < n := by
        by_contra hnk
        rw [hlow k hk (by omega)] at hw
        exact Bool.false_ne_true hw
      refine ⟨walkbits0 k i, ⟨k, hkn, rfl⟩, ?_⟩
      rw [hup k hk, bit_oneShl hk, decide_eq_true rfl]
    | false =>
      have hother : ∃ j < 2, j ≠ k := by
        by_cases hzero : k = 0
        · exact ⟨1, by omega, by omega⟩
        · exact ⟨0, by omega, by omega⟩
      obtain ⟨j, hj, hne⟩ := hother
      refine ⟨walkbits0 j i, ⟨j, by omega, rfl⟩, ?_⟩
      rw [hup j (by omega), bit_oneShl (by omega), decide_eq_false hne]

section
variable {κ : Type} [DecidableEq κ] (r : Chip κ) {bufa bufb count : Nat}
  (h : Halves r.memory r.keep bufa bufb count) (m : Machine (κ → UInt64))
include h

/-- The long walk finds whatever differs between two cells. -/
theorem walkbits0_long_iff :
    (testWalkbits0Comparison r.memory (dividend .A) bufa bufb count m).1 = 0 ↔
      ∀ i < count, r.keep (word bufa i) = r.keep (word bufb i) := by
  unfold testWalkbits0Comparison
  rw [patternTest_shown_iff r h]
  constructor
  · intro hall i hi
    funext w
    apply hall i hi w
    rw [shown_walkbits0 (by decide)]
    intro k hk hle
    have h128 : UL_LEN * 2 / dividend .A / dividend .A = 128 := by decide
    omega
  · intro hall i hi w _
    rw [hall i hi]

end

end SwitchOc.MemTester
