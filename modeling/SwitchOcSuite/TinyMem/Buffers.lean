import Mathlib.Data.UInt
import Mathlib.Data.Nat.Bitwise
import SwitchOcSuite.TinyMem.Blocks

/-!
# TinyMemBenchNX: the four buffers

The buffers come from one allocation.  Each begins in a place of a megabyte of its own,
so that no two of them compete for the same lines of a cache.

    allocFour_spec    they lie one behind the other within the allocation
-/

namespace SwitchOc.TinyMem

def ALIGN_PADDING : UInt64 := 0x100000
def CACHE_LINE_SIZE : UInt64 := 128

def alignUp (ptr align : UInt64) : UInt64 := (ptr + align - 1) &&& ~~~(align - 1)

def antialiasPatternMask : UInt64 := (ALIGN_PADDING - 1) &&& ~~~(CACHE_LINE_SIZE - 1)

/-- The size of a buffer, of which there may be none (`NULL`). -/
def sizeOf (request : Option Int) : Int :=
  match request with
  | none => 0
  | some size => if size < 0 then 0 else size

/-- One buffer from `ptr` on, and where the next one may begin. -/
def place (pattern ptr : UInt64) (request : Option Int) : Option UInt64 × UInt64 :=
  match request with
  | none => (none, ptr)
  | some _ =>
    let buf := ptr + (pattern &&& antialiasPatternMask)
    (some buf, alignUp (buf + UInt64.ofNat (sizeOf request).toNat) ALIGN_PADDING)

/-- The buffers and what lies between them. -/
def poolSum (requests : List (Option Int)) : Int :=
  (requests.map sizeOf).sum + 9 * ALIGN_PADDING.toNat

/-- What `malloc` is asked for, a sum in `int`. -/
def poolSize (requests : List (Option Int)) : Int := (poolSum requests).bmod (2 ^ 32)

def patterns : List UInt64 := [0xAAAAAAAA, 0x55555555, 0xCCCCCCCC, 0x33333333]

/-- The buffers of the requests, one pattern each. -/
def placeAll (ptr : UInt64) : List (UInt64 × Option Int) → List (Option UInt64)
  | [] => []
  | (pattern, request) :: rest =>
    let (buf, ptr) := place pattern ptr request
    buf :: placeAll ptr rest

/-- `alloc_four_nonaliased_buffers`, where `buf` is what `malloc` has returned for the pool. -/
def allocFourNonaliasedBuffers (buf : UInt64) (request₁ request₂ request₃ request₄ : Option Int) :
    List (Option UInt64) :=
  placeAll (alignUp buf ALIGN_PADDING) (patterns.zip [request₁, request₂, request₃, request₄])

/-! ## Alignment -/

theorem land_high {x : Nat} (hx : x < 2 ^ 64) : x &&& (2 ^ 64 - 2 ^ 20) = x / 2 ^ 20 * 2 ^ 20 := by
  have hmask : 2 ^ 64 - 2 ^ 20 = (2 ^ 44 - 1) * 2 ^ 20 := by norm_num
  apply Nat.eq_of_testBit_eq
  intro i
  rw [hmask, Nat.testBit_and, Nat.testBit_mul_two_pow, Nat.testBit_mul_two_pow,
    Nat.testBit_two_pow_sub_one, Nat.testBit_div_two_pow]
  by_cases h : 20 ≤ i
  · rw [Nat.sub_add_cancel h]
    by_cases h' : i - 20 < 44
    · simp [h, h']
    · have hhigh : x.testBit i = false :=
        Nat.testBit_lt_two_pow (Nat.lt_of_lt_of_le hx (Nat.pow_le_pow_right (by decide) (by omega)))
      simp [hhigh]
  · simp [h]

theorem toNat_alignUp (ptr : UInt64) (h : ptr.toNat + 2 ^ 20 ≤ 2 ^ 64) :
    (alignUp ptr ALIGN_PADDING).toNat = (ptr.toNat + (2 ^ 20 - 1)) / 2 ^ 20 * 2 ^ 20 := by
  have hadd : (ptr + ALIGN_PADDING - 1).toNat = ptr.toNat + (2 ^ 20 - 1) := by
    have hpadding : ALIGN_PADDING.toNat = 2 ^ 20 := rfl
    have hone : (1 : UInt64).toNat = 1 := rfl
    rw [UInt64.toNat_sub, UInt64.toNat_add, hpadding, hone]
    omega
  unfold alignUp
  rw [UInt64.toNat_and, hadd, ← land_high (by omega)]
  rfl

/-! ## The buffers -/

/-- Where in a megabyte a pattern puts a buffer. -/
def offset (pattern : UInt64) : Nat := (pattern &&& antialiasPatternMask).toNat

theorem offset_lt (pattern : UInt64) : offset pattern < 2 ^ 20 := by
  unfold offset
  rw [UInt64.toNat_and]
  exact Nat.lt_of_le_of_lt Nat.and_le_right (by decide)

theorem sizeOf_nonneg (request : Option Int) : 0 ≤ sizeOf request := by
  unfold sizeOf
  split
  · exact Int.le_refl 0
  · split <;> omega

/-- The buffer `buf` of a request in a pool that begins at `lo`. -/
structure Placed (pattern : UInt64) (request : Option Int) (lo : Nat) (buf : UInt64) : Prop where
  ahead : lo ≤ buf.toNat
  offset : buf.toNat % 2 ^ 20 = TinyMem.offset pattern

/-- **One buffer**: it begins at its offset, and what it takes of the pool is less than two
megabytes more than its size. -/
theorem place_spec (pattern : UInt64) {ptr : UInt64} (request : Option Int)
    (haligned : ptr.toNat % 2 ^ 20 = 0)
    (hfit : ptr.toNat + (sizeOf request).toNat + 2 ^ 21 ≤ 2 ^ 64) :
    (place pattern ptr request).2.toNat % 2 ^ 20 = 0 ∧
      ptr.toNat ≤ (place pattern ptr request).2.toNat ∧
      (place pattern ptr request).2.toNat < ptr.toNat + (sizeOf request).toNat + 2 ^ 21 ∧
      ∀ buf, (place pattern ptr request).1 = some buf → Placed pattern request ptr.toNat buf ∧
        buf.toNat + (sizeOf request).toNat ≤ (place pattern ptr request).2.toNat := by
  cases request with
  | none => exact ⟨haligned, Nat.le_refl _, by show ptr.toNat < _; omega, nofun⟩
  | some size =>
    have hnonneg := sizeOf_nonneg (some size)
    have hpattern := offset_lt pattern
    have hbuf : (ptr + (pattern &&& antialiasPatternMask)).toNat = ptr.toNat + offset pattern := by
      rw [UInt64.toNat_add]
      exact Nat.mod_eq_of_lt (by unfold offset at *; omega)
    have hend : (ptr + (pattern &&& antialiasPatternMask) +
        UInt64.ofNat (sizeOf (some size)).toNat).toNat =
          ptr.toNat + offset pattern + (sizeOf (some size)).toNat := by
      have hsize : (UInt64.ofNat (sizeOf (some size)).toNat).toNat =
          (sizeOf (some size)).toNat := by
        rw [UInt64.toNat_ofNat', Nat.mod_eq_of_lt (by omega)]
      rw [UInt64.toNat_add, hbuf, hsize]
      omega
    have hnext := toNat_alignUp (ptr + (pattern &&& antialiasPatternMask) +
      UInt64.ofNat (sizeOf (some size)).toNat) (by omega)
    rw [hend] at hnext
    unfold place
    dsimp only
    rw [hnext]
    refine ⟨by omega, by omega, by omega, ?_⟩
    intro buf hsome
    obtain rfl := Option.some.inj hsome
    refine ⟨⟨?_, ?_⟩, ?_⟩
    · omega
    · omega
    · omega

/-- The requests with their patterns, and what they get. -/
abbrev Placement := (UInt64 × Option Int) × Option UInt64

/-- The first buffer ends before the second one begins. -/
def Ahead (x y : Placement) : Prop :=
  ∀ b, x.2 = some b → ∀ b', y.2 = some b' → b.toNat + (sizeOf x.1.2).toNat ≤ b'.toNat

theorem placeAll_spec (requests : List (UInt64 × Option Int)) {ptr : UInt64}
    (haligned : ptr.toNat % 2 ^ 20 = 0) (room : Nat)
    (hroom : (requests.map fun r => (sizeOf r.2).toNat).sum + 2 ^ 21 * requests.length ≤ room)
    (hfit : ptr.toNat + room ≤ 2 ^ 64) :
    (∀ x ∈ requests.zip (placeAll ptr requests), ∀ b, x.2 = some b →
      Placed x.1.1 x.1.2 ptr.toNat b ∧ b.toNat + (sizeOf x.1.2).toNat ≤ ptr.toNat + room) ∧
    (requests.zip (placeAll ptr requests)).Pairwise Ahead := by
  induction requests generalizing ptr room with
  | nil => exact ⟨by simp, by simp [placeAll]⟩
  | cons r requests ih =>
    obtain ⟨pattern, request⟩ := r
    rw [List.map_cons, List.sum_cons, List.length_cons, Nat.mul_succ, ← Nat.add_assoc,
      Nat.add_assoc (sizeOf _).toNat] at hroom
    dsimp only at hroom
    generalize (requests.map fun r => (sizeOf r.2).toNat).sum + 2 ^ 21 * requests.length = rest
      at hroom ih
    have hroom₁ : ptr.toNat + (sizeOf request).toNat + 2 ^ 21 ≤ 2 ^ 64 := by omega
    obtain ⟨hnext, hle, hlt, hbuf⟩ := place_spec pattern request haligned hroom₁
    obtain ⟨hall, hpairwise⟩ := ih hnext (ptr.toNat + room - (place pattern ptr request).2.toNat)
      (by omega) (by omega)
    rw [placeAll]
    dsimp only
    rw [List.zip_cons_cons, List.pairwise_cons]
    refine ⟨?_, ?_, hpairwise⟩
    · intro x hx b hb
      rcases List.mem_cons.1 hx with rfl | hx
      · obtain ⟨hplaced, hend⟩ := hbuf b hb
        exact ⟨hplaced, by dsimp only; omega⟩
      · obtain ⟨hplaced, hend⟩ := hall x hx b hb
        exact ⟨⟨Nat.le_trans hle hplaced.ahead, hplaced.offset⟩, by omega⟩
    · intro y hy b hb b' hb'
      exact Nat.le_trans (hbuf b hb).2 (hall y hy b' hb').1.ahead

/-- The pool has room for the buffers. -/
theorem allocFour_placed {buf : UInt64} {request₁ request₂ request₃ request₄ : Option Int}
    (hint : poolSum [request₁, request₂, request₃, request₄] < 2 ^ 31)
    (hfit : buf.toNat + (poolSize [request₁, request₂, request₃, request₄]).toNat ≤ 2 ^ 64) :
    let requests := [request₁, request₂, request₃, request₄]
    let placed := (patterns.zip requests).zip
      (allocFourNonaliasedBuffers buf request₁ request₂ request₃ request₄)
    (∀ x ∈ placed, ∀ b, x.2 = some b → Placed x.1.1 x.1.2 buf.toNat b ∧
      b.toNat + (sizeOf x.1.2).toNat ≤ buf.toNat + (poolSize requests).toNat) ∧
    placed.Pairwise Ahead := by
  dsimp only
  have hpool : (poolSize [request₁, request₂, request₃, request₄]).toNat =
      (sizeOf request₁).toNat + (sizeOf request₂).toNat + (sizeOf request₃).toNat +
        (sizeOf request₄).toNat + 9 * 2 ^ 20 := by
    have h₁ := sizeOf_nonneg request₁
    have h₂ := sizeOf_nonneg request₂
    have h₃ := sizeOf_nonneg request₃
    have h₄ := sizeOf_nonneg request₄
    have hpadding : ALIGN_PADDING.toNat = 2 ^ 20 := rfl
    have hsum : poolSum [request₁, request₂, request₃, request₄] =
        sizeOf request₁ + (sizeOf request₂ + (sizeOf request₃ + sizeOf request₄)) + 9 * 2 ^ 20 := by
      unfold poolSum
      rw [hpadding]
      simp only [List.map_cons, List.map_nil, List.sum_cons, List.sum_nil, Int.add_zero]
      rfl
    unfold poolSize
    rw [Int.bmod_eq_of_le (by omega) (by omega), hsum]
    omega
  have hstart := toNat_alignUp buf (by omega)
  have haligned : (alignUp buf ALIGN_PADDING).toNat % 2 ^ 20 = 0 := by omega
  obtain ⟨hall, hpairwise⟩ := placeAll_spec (patterns.zip [request₁, request₂, request₃, request₄])
    haligned ((sizeOf request₁).toNat + (sizeOf request₂).toNat + (sizeOf request₃).toNat +
      (sizeOf request₄).toNat + 8 * 2 ^ 20) (by simp [patterns]; omega) (by omega)
  refine ⟨?_, hpairwise⟩
  intro x hx b hb
  obtain ⟨hplaced, hend⟩ := hall x hx b hb
  have hahead := hplaced.ahead
  exact ⟨⟨by omega, hplaced.offset⟩, by omega⟩

/-- **The buffers** lie within the pool, one behind the other, and each of them begins in a place of
a megabyte of its own. -/
theorem allocFour_spec {buf : UInt64} {request₁ request₂ request₃ request₄ : Option Int}
    (hint : poolSum [request₁, request₂, request₃, request₄] < 2 ^ 31)
    (hfit : buf.toNat + (poolSize [request₁, request₂, request₃, request₄]).toNat ≤ 2 ^ 64) :
    let requests := [request₁, request₂, request₃, request₄]
    let placed := (patterns.zip requests).zip
      (allocFourNonaliasedBuffers buf request₁ request₂ request₃ request₄)
    (∀ x ∈ placed, ∀ b, x.2 = some b → buf.toNat ≤ b.toNat ∧
      b.toNat + (sizeOf x.1.2).toNat ≤ buf.toNat + (poolSize requests).toNat ∧
      b.toNat % 2 ^ 20 = offset x.1.1) ∧
    placed.Pairwise Ahead ∧
    (patterns.map offset).Nodup ∧ ∀ o ∈ patterns.map offset, o % 128 = 0 := by
  obtain ⟨hall, hpairwise⟩ := allocFour_placed hint hfit
  refine ⟨?_, hpairwise, by decide, by decide⟩
  intro x hx b hb
  obtain ⟨hplaced, hend⟩ := hall x hx b hb
  exact ⟨hplaced.ahead, hend, hplaced.offset⟩

theorem allocFour_spec_twoBuffers :
    ((patterns.zip [some 100, some (-1), none, some 200]).zip
      (allocFourNonaliasedBuffers 0x1000 (some 100) (some (-1)) none (some 200))).Pairwise Ahead :=
  (@allocFour_spec 0x1000 (some 100) (some (-1)) none (some 200) (by decide) (by decide)).2.1

end SwitchOc.TinyMem
