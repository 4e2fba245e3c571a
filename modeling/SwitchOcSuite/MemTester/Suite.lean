import SwitchOcSuite.MemTester.Detects

/-!
# Whole loops of the tests

On a memory that has what is stored in it no test ever fails, whatever the random words
are.  On one with faults the first loop of the long or the fast test fails, since the
stuck address test is part of it.

    testLoops_sound    no false alarm, in any number of loops
    testLoops_iff      the long and the fast test pass only without a fault
-/

namespace SwitchOc.MemTester

open Ram

section
variable {σ : Type} {mem : Memory σ} (rand : Nat → UInt64) {bufa bufb count : Nat}

/-- The two buffers have the same words. -/
def SameWords (mem : Memory σ) (bufa bufb count : Nat) (s : σ) : Prop :=
  ∀ i < count, mem.load s (word bufa i) = mem.load s (word bufb i)

/-- The test finds no difference, and leaves none, where there is none. -/
def Passes (mem : Memory σ) (bufa bufb count : Nat) (test : Test σ) : Prop :=
  ∀ m, SameWords mem bufa bufb count m.ram →
    (test bufa bufb count m).1 = 0 ∧ SameWords mem bufa bufb count (test bufa bufb count m).2.ram

/-- The same, whatever the words are at first. -/
def PassesFirst (mem : Memory σ) (bufa bufb count : Nat) (test : Test σ) : Prop :=
  ∀ m, (test bufa bufb count m).1 = 0 ∧
    SameWords mem bufa bufb count (test bufa bufb count m).2.ram

theorem PassesFirst.passes {test : Test σ} (h : PassesFirst mem bufa bufb count test) :
    Passes mem bufa bufb count test := fun m _ => h m

variable (h : Halves mem (fun _ => id) bufa bufb count)
include h

/-! ## One test -/

theorem sameWords_fillBoth (v : Nat → UInt64) (s : σ) :
    SameWords mem bufa bufb count (fillBoth mem v bufa bufb count s) := by
  intro i hi
  obtain ⟨ha, hb⟩ := h.load_fillBoth v s (Nat.le_refl count) i hi
  rw [ha, hb]

/-- One word in both buffers. -/
theorem sameWords_storeBoth {s : σ} (hs : SameWords mem bufa bufb count s) (v : UInt64) {i : Nat}
    (hi : i < count) : SameWords mem bufa bufb count
      (mem.store (mem.store s (word bufb i) v) (word bufa i) v) := by
  obtain ⟨hb, hbs, hba⟩ := h.load_store_right s v hi
  obtain ⟨ha, has, hab⟩ := h.load_store_left (mem.store s (word bufb i) v) v hi
  intro k hk
  by_cases heq : k = i
  · subst heq
    rw [ha, hab k hk, hb]
  · rw [has k hk heq, hab k hk, hbs k hk heq, hba k hk]
    exact hs k hk

theorem passes_patternTest (n : Nat) (pattern : Nat → Nat → UInt64) :
    Passes mem bufa bufb count (patternTest mem n pattern) := by
  intro m hm
  unfold patternTest
  rw [returned_eq_zero]
  refine rounds_pass (Q := SameWords mem bufa bufb count) ?_ n 0 hm
  intro j s _
  have hfill := sameWords_fillBoth h (pattern j) s
  unfold patternRound
  dsimp only
  rw [beq_iff_eq, compareRegions_eq_zero]
  exact ⟨hfill, hfill⟩

theorem passes_updateTest (f : UInt64 → UInt64 → UInt64) :
    Passes mem bufa bufb count (updateTest mem rand f) := by
  intro m hm
  unfold updateTest
  dsimp only [randUl]
  have hkeep : SameWords mem bufa bufb count (forRange (fun i s =>
      mem.store (mem.store s (word bufa i) (f (mem.load s (word bufa i)) (rand m.calls)))
        (word bufb i) (f (mem.load (mem.store s (word bufa i)
          (f (mem.load s (word bufa i)) (rand m.calls))) (word bufb i)) (rand m.calls)))
      count m.ram) := by
    refine forRange_induction (P := fun _ => SameWords mem bufa bufb count) hm ?_
    intro i hi s hs
    generalize hv : f (mem.load s (word bufa i)) (rand m.calls) = v
    obtain ⟨ha, has, hab⟩ := h.load_store_left s v hi
    -- both words are computed from the same one
    rw [hab i hi, ← hs i hi, hv]
    obtain ⟨hb, hbs, hba⟩ := h.load_store_right (mem.store s (word bufa i) v) v hi
    intro k hk
    by_cases heq : k = i
    · subst heq
      rw [hba k hk, ha, hb]
    · rw [hba k hk, has k hk heq, hbs k hk heq, hab k hk]
      exact hs k hk
  exact ⟨compareRegions_eq_zero.2 hkeep, hkeep⟩

theorem passesFirst_randomValue : PassesFirst mem bufa bufb count (testRandomValue mem rand) := by
  intro m
  have hfill := sameWords_fillBoth h (fun i => rand (m.calls + i)) m.ram
  exact ⟨compareRegions_eq_zero.2 hfill, hfill⟩

theorem passesFirst_seqinc :
    PassesFirst mem bufa bufb count (testSeqincComparison mem rand) := by
  intro m
  have hfill := sameWords_fillBoth h (fun i => i.toUInt64 + rand m.calls) m.ram
  exact ⟨compareRegions_eq_zero.2 hfill, hfill⟩

/-! ## Stress -/

omit h in
theorem byteDifference_self (bytes : List UInt8) : byteDifference bytes bytes = 0 := by
  induction bytes with
  | nil => rfl
  | cons x bytes ih =>
    rw [byteDifference, if_pos rfl]
    exact ih

omit h in
theorem memcmp_eq_zero {s : σ} (hs : SameWords mem bufa bufb count s) :
    memcmp mem bufa bufb count s = 0 := by
  unfold memcmp
  have hbytes : ((List.range count).flatMap fun i => wordBytes (mem.load s (word bufa i))) =
      (List.range count).flatMap fun i => wordBytes (mem.load s (word bufb i)) := by
    apply List.flatMap_congr
    intro i hi
    rw [hs i (List.mem_range.1 hi)]
  rw [hbytes]
  exact byteDifference_self _

/-- Both buffers with one byte everywhere. -/
theorem sameWords_memset (q : UInt64) (s : σ) : SameWords mem bufa bufb count
    (memset mem bufb q count (memset mem bufa q count s)) := by
  have hleft := h.keeps.load_fill (fun i hi => ⟨i, hi, .inl rfl⟩) (fun _ => UL_BYTE (q &&& 0xff)) s
  have hright := h.keeps.load_fill (fun i hi => ⟨i, hi, .inr rfl⟩) (fun _ => UL_BYTE (q &&& 0xff))
    (memset mem bufa q count s)
  intro i hi
  have hkept : mem.load (memset mem bufb q count (memset mem bufa q count s)) (word bufa i) =
      mem.load (memset mem bufa q count s) (word bufa i) := by
    refine forRange_induction (P := fun _ s' => mem.load s' (word bufa i) =
      mem.load (memset mem bufa q count s) (word bufa i)) rfl ?_
    intro k hk s' hs'
    rw [(h.load_store_right s' _ hk).2.2 i hi]
    exact hs'
  rw [hkept]
  exact (hleft i hi).trans (hright i hi).symm

theorem passesFirst_memcpy :
    PassesFirst mem bufa bufb count (testStressMemcpy mem rand) := by
  intro m
  unfold testStressMemcpy
  dsimp only [randUl]
  have hcopy : SameWords mem bufa bufb count (forRange (fun _ s => memcpy mem bufa bufb count s) 128
      (memset mem bufb (rand m.calls) count (memset mem bufa (rand m.calls) count m.ram))) := by
    refine forRange_induction (P := fun _ => SameWords mem bufa bufb count)
      (sameWords_memset h _ _) ?_
    intro _ _ s hs
    refine forRange_induction (P := fun _ => SameWords mem bufa bufb count) hs ?_
    intro i hi s hs
    obtain ⟨ha, has, hab⟩ := h.load_store_left s (mem.load s (word bufb i)) hi
    intro k hk
    by_cases heq : k = i
    · subst heq
      rw [ha, hab k hk]
      rfl
    · rw [has k hk heq, hab k hk]
      exact hs k hk
  exact ⟨memcmp_eq_zero hcopy, hcopy⟩

theorem passesFirst_memset :
    PassesFirst mem bufa bufb count (testStressMemset mem rand) := by
  intro m
  have hset : SameWords mem bufa bufb count (testStressMemset mem rand bufa bufb count m).2.ram :=
    sameWords_memset h _ _
  exact ⟨memcmp_eq_zero hset, hset⟩

theorem passes_memcmpRounds {n j : Nat} (hn : j + n ≤ count) {m : Machine σ}
    (hm : SameWords mem bufa bufb count m.ram) :
    (memcmpRounds mem rand bufa bufb count n j m).1 = 0 ∧
      SameWords mem bufa bufb count (memcmpRounds mem rand bufa bufb count n j m).2.ram := by
  induction n generalizing j m with
  | zero => exact ⟨rfl, hm⟩
  | succ n ih =>
    have hstore := sameWords_storeBoth h hm (rand m.calls) (show j < count by omega)
    rw [memcmpRounds]
    dsimp only [randUl]
    rw [memcmp_eq_zero hstore, if_neg (by simp)]
    exact ih (by omega) hstore

theorem passesFirst_memcmp (hcount : 32 ≤ count) :
    PassesFirst mem bufa bufb count (testStressMemcmp mem rand) := by
  intro m
  unfold testStressMemcmp
  dsimp only [randUl]
  exact passes_memcmpRounds rand h (by omega) (sameWords_memset h _ _)

/-! ## One loop -/

omit h in
theorem runTests_passes {table : List (String × Test σ)}
    (htable : ∀ test ∈ table, Passes mem bufa bufb count test.2) {m : Machine σ}
    (hm : SameWords mem bufa bufb count m.ram) : (runTests bufa bufb count table m).1 = true := by
  induction table generalizing m with
  | nil => rfl
  | cons test table ih =>
    obtain ⟨hrc, hsame⟩ := htable test List.mem_cons_self m hm
    rw [runTests]
    dsimp only
    rw [if_pos hrc]
    exact ih (fun test htest => htable test (List.mem_cons_of_mem _ htest)) hsame

/-- **All tests of a key** pass: the first one makes the buffers the same, and the others keep
them so. -/
theorem testTable_passes {key : Key} (hcount : key = .Y → 32 ≤ count) (m : Machine σ) :
    (runTests bufa bufb count (testTable mem rand key) m).1 = true := by
  have hfirst : ∀ (test : String × Test σ) (table : List (String × Test σ)),
      PassesFirst mem bufa bufb count test.2 →
      (∀ test ∈ table, Passes mem bufa bufb count test.2) →
        (runTests bufa bufb count (test :: table) m).1 = true := by
    intro test table htest htable
    obtain ⟨hrc, hsame⟩ := htest m
    rw [runTests]
    dsimp only
    rw [if_pos hrc]
    exact runTests_passes htable hsame
  have hcomparisons : ∀ n pattern, Passes mem bufa bufb count (patternTest mem n pattern) :=
    passes_patternTest h
  have hupdates : ∀ f, Passes mem bufa bufb count (updateTest mem rand f) :=
    passes_updateTest rand h
  have hseqinc := (passesFirst_seqinc rand h).passes
  cases key with
  | A | X =>
    refine hfirst _ _ (passesFirst_randomValue rand h) ?_
    simp only [List.forall_mem_cons]
    exact ⟨hupdates _, hupdates _, hupdates _, hupdates _, hupdates _, hupdates _, hseqinc,
      hcomparisons _ _, hcomparisons _ _, hcomparisons _ _, hcomparisons _ _, hcomparisons _ _,
      hcomparisons _ _, hcomparisons _ _, by simp⟩
  | Y =>
    refine hfirst _ _ (passesFirst_memcpy rand h) ?_
    simp only [List.forall_mem_cons]
    exact ⟨(passesFirst_memset rand h).passes, (passesFirst_memcmp rand h (hcount rfl)).passes,
      by simp⟩

end

/-! ## Any number of loops -/

section
variable {κ : Type} [DecidableEq κ] (r : Chip κ) (rand : Nat → UInt64) {key : Key}
  (hkey : key ≠ .Y) {aligned bufsize : Nat} (hfit : aligned + bufsize ≤ 2 ^ 64)
include hkey hfit

/-- The first loop fails already where there is a fault. -/
theorem free_of_testLoops {n : Nat} {m : Machine (κ → UInt64)}
    (hpass : (testLoops r.memory rand key aligned bufsize (n + 1) m).1 = true) :
    r.Free aligned (bufsize / 8) := by
  have hwords : aligned + 8 * (bufsize / 8) ≤ 2 ^ 64 := by omega
  by_contra hfault
  have hfail : (testLoop r.memory rand key aligned bufsize m).1 = false := by
    have hrc := mt (testStuckAddress_iff r hwords hkey m).1 hfault
    unfold testLoop
    dsimp only
    rw [if_neg hrc]
  unfold testLoops at hpass
  rw [rounds] at hpass
  rcases hloop : testLoop r.memory rand key aligned bufsize m with ⟨_ | _, m'⟩
  · rw [hloop] at hpass
    exact Bool.false_ne_true hpass
  · rw [hloop] at hfail
    exact Bool.false_ne_true hfail.symm

/-- Without a fault every loop passes, where the words of the second half are words of the buffer. -/
theorem testLoops_of_free (heven : bufsize % 16 = 0) (hfree : r.Free aligned (bufsize / 8)) (n : Nat)
    (m : Machine (κ → UInt64)) : (testLoops r.memory rand key aligned bufsize n m).1 = true := by
  have hwords : aligned + 8 * (bufsize / 8) ≤ 2 ^ 64 := by omega
  have hkeeps : r.memory.Keeps (fun _ => id) {a | ∃ i < bufsize / 8, a = word aligned i} := by
    have hchip := r.keeps (A := {a | ∃ i < bufsize / 8, a = word aligned i}) (by
      rintro a ⟨i, hi, rfl⟩ b ⟨k, hk, rfl⟩ hcell
      rw [hfree.decode (Set.mem_Iio.2 hi) (Set.mem_Iio.2 hk) hcell])
    refine ⟨?_, hchip.load_store_of_ne⟩
    rintro s a ⟨i, hi, rfl⟩ v
    rw [hchip.load_store s _ ⟨i, hi, rfl⟩ v]
    exact (hfree.stuck i hi).keep v
  have hhalves : Halves r.memory (fun _ => id) aligned (aligned + bufsize / 2)
      (bufsize / 8 / 2) := by
    have hmem : ∀ i < bufsize / 8 / 2, ∀ a,
        a = word aligned i ∨ a = word (aligned + bufsize / 2) i →
          ∃ i < bufsize / 8, a = word aligned i := by
      rintro i hi a (rfl | rfl)
      · exact ⟨i, by omega, rfl⟩
      · exact ⟨bufsize / 16 + i, by omega, by unfold word; omega⟩
    constructor
    · refine ⟨?_, ?_⟩
      · rintro s a ⟨i, hi, ha⟩ v
        exact hkeeps.load_store s a (hmem i hi a ha) v
      · rintro s a ⟨i, hi, ha⟩ b ⟨k, hk, hb⟩ hne v
        exact hkeeps.load_store_of_ne s a (hmem i hi a ha) b (hmem k hk b hb) hne v
    · intro i hi k hk
      unfold word
      omega
  refine (rounds_pass (Q := fun _ => True) ?_ n 1 trivial).1
  intro _ m _
  refine ⟨?_, trivial⟩
  unfold testLoop
  dsimp only
  rw [if_pos ((testStuckAddress_iff r hwords hkey m).2 hfree)]
  exact testTable_passes rand hhalves (fun h => absurd h hkey) _

/-- **The long and the fast test pass only without a fault**, whatever else is tested behind the
stuck address and whatever the size is; and without one they pass, where the half of the size is a
whole number of words.  With other sizes, as a third of all memory may have, the words of the second
half lie across those of the buffer, and `testLoops_sound` says what is enough to pass. -/
theorem testLoops_iff (n : Nat) (m : Machine (κ → UInt64)) :
    ((testLoops r.memory rand key aligned bufsize (n + 1) m).1 = true →
        r.Free aligned (bufsize / 8)) ∧
      (bufsize % 16 = 0 →
        ((testLoops r.memory rand key aligned bufsize (n + 1) m).1 = true ↔
          r.Free aligned (bufsize / 8))) :=
  ⟨free_of_testLoops r rand hkey hfit, fun heven =>
    ⟨free_of_testLoops r rand hkey hfit, fun hfree =>
      testLoops_of_free r rand hkey hfit heven hfree (n + 1) m⟩⟩

end

/-- Chips with eight bytes a cell, without a fault and with one bit that is always set. -/
def goodChip : Chip Nat := ⟨(· / 8), fun _ => ⟨0, 0⟩⟩
def badChip : Chip Nat := ⟨(· / 8), fun c => if c = 3 then ⟨0, 16⟩ else ⟨0, 0⟩⟩

/-- The second chip is found out with a size of 69 bytes as well. -/
theorem testLoops_iff_chips :
    (testLoops goodChip.memory (fun _ => 0) .X 0 64 5 ⟨fun _ => 0, 0⟩).1 = true ∧
      ¬(testLoops badChip.memory (fun _ => 0) .X 0 64 5 ⟨fun _ => 0, 0⟩).1 = true ∧
      ¬(testLoops badChip.memory (fun _ => 0) .X 0 69 5 ⟨fun _ => 0, 0⟩).1 = true := by
  have hkey : Key.X ≠ .Y := nofun
  have hbad : ∀ count, 3 < count → ¬badChip.Free 0 count := fun count hcount hfree =>
    absurd (hfree.stuck 3 hcount).ones (by decide)
  refine ⟨?_, ?_, ?_⟩
  · refine ((testLoops_iff goodChip _ hkey (by decide) 4 _).2 (by decide)).2
      ⟨?_, fun _ _ => ⟨rfl, rfl⟩⟩
    intro i _ k _ hcell
    have hdiv : word 0 i / 8 = word 0 k / 8 := hcell
    unfold word at hdiv
    omega
  · intro hpass
    exact hbad _ (by decide) ((testLoops_iff badChip _ hkey (by decide) 4 _).1 hpass)
  · intro hpass
    exact hbad _ (by decide) ((testLoops_iff badChip _ hkey (by decide) 4 _).1 hpass)

end SwitchOc.MemTester
