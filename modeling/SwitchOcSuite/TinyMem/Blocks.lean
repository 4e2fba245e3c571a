import SwitchOcSuite.Lib.Transfer
import Mathlib.Data.Int.Basic
import Mathlib.Tactic.Ring

/-!
# TinyMemBenchNX: the C benchmarks that copy and fill

All of them take blocks of eight words as long as there are 64 bytes left.  They differ
in where they begin, in which direction they go, and in the order within a block; a
prefetch does nothing to the memory.  Pointers are word positions.

    copies_eq          the three copies upwards, and the three downwards, which leave a
                       rest at the other end
    fills_eq           the four fills
-/

namespace SwitchOc.TinyMem

open Function Transfer

/-- The words, by position. -/
abbrev Mem := Int → UInt64

/-! ## The loops -/

/-- `while ((size -= 64) >= 0)`, where the pointers move by `step` words a block. -/
def blockLoop (body : Int → Int → Mem → Mem) (step size dst src : Int) (mem : Mem) : Mem :=
  if 0 ≤ size - 64 then
    blockLoop body step (size - 64) (dst + step) (src + step) (body dst src mem)
  else mem
termination_by size.toNat
decreasing_by omega

/-- Words at some offsets are read, and then written in the same order. -/
def copyWords (dst src : Int) (offsets : List Int) (mem : Mem) : Mem :=
  (offsets.map fun o => (dst + o, mem (src + o))).foldl (fun m w => update m w.1 w.2) mem

/-- A block in two halves. -/
def copyBlock (half half' : List Int) (dst src : Int) (mem : Mem) : Mem :=
  copyWords dst src half' (copyWords dst src half mem)

def fillBlock (offsets : List Int) (data : UInt64) (dst _src : Int) (mem : Mem) : Mem :=
  offsets.foldl (fun m o => update m (dst + o) data) mem

/-! ## Copies -/

/-- A benchmark: `dst`, `src` and a size in bytes. -/
abbrev Bench := (dst src size : Int) → Mem → Mem

def alignedBlockCopy : Bench := fun dst src size =>
  blockLoop (copyBlock [0, 1, 2, 3] [4, 5, 6, 7]) 8 size dst src

/-- With a prefetch in front of each half. -/
def alignedBlockCopyPf32 : Bench := fun dst src size =>
  blockLoop (copyBlock [0, 1, 2, 3] [4, 5, 6, 7]) 8 size dst src

/-- With a prefetch in front of each block. -/
def alignedBlockCopyPf64 : Bench := fun dst src size =>
  blockLoop (copyBlock [0, 1, 2, 3] [4, 5, 6, 7]) 8 size dst src

def alignedBlockCopyBackwards : Bench := fun dst src size =>
  blockLoop (copyBlock [0, -1, -2, -3] [-4, -5, -6, -7]) (-8) size
    (dst + (size.tdiv 8 - 1)) (src + (size.tdiv 8 - 1))

def alignedBlockCopyBackwardsBs32 : Bench := fun dst src size =>
  blockLoop (copyBlock [4, 5, 6, 7] [0, 1, 2, 3]) (-8) size
    (dst + (size.tdiv 8 - 8)) (src + (size.tdiv 8 - 8))

def alignedBlockCopyBackwardsBs64 : Bench := fun dst src size =>
  blockLoop (copyBlock [0, 1, 2, 3] [4, 5, 6, 7]) (-8) size
    (dst + (size.tdiv 8 - 8)) (src + (size.tdiv 8 - 8))

/-! ## Fills, and a fetch -/

def alignedBlockFill : Bench := fun dst src size mem =>
  blockLoop (fillBlock [0, 1, 2, 3, 4, 5, 6, 7] (mem src)) 8 size dst src mem

def alignedBlockFillShuffle16 : Bench := fun dst src size mem =>
  blockLoop (fillBlock [0 + 0, 1 + 0, 1 + 2, 0 + 2, 1 + 4, 0 + 4, 0 + 6, 1 + 6] (mem src))
    8 size dst src mem

def alignedBlockFillShuffle32 : Bench := fun dst src size mem =>
  blockLoop (fillBlock [3 + 0, 0 + 0, 2 + 0, 1 + 0, 3 + 4, 0 + 4, 2 + 4, 1 + 4] (mem src))
    8 size dst src mem

def alignedBlockFillShuffle64 : Bench := fun dst src size mem =>
  blockLoop (fillBlock [5, 2, 7, 6, 1, 3, 0, 4] (mem src)) 8 size dst src mem

/-- What is read is not kept. -/
def alignedBlockFetch : Bench := fun dst src size =>
  blockLoop (fun _ _ mem => mem) 8 size dst src

/-! ## Blocks as transfers -/

/-- The offsets of `k` blocks, the first of them at `start`. -/
def blockOffsets (offsets : List Int) (step : Int) : Nat → Int → List Int
  | 0, _ => []
  | k + 1, start => offsets.map (start + ·) ++ blockOffsets offsets step k (start + step)

/-- The number of blocks. -/
def blocks (size : Int) : Nat := (size / 64).toNat

theorem mem_blockOffsets {offsets : List Int} {step start o : Int} {k : Nat} :
    o ∈ blockOffsets offsets step k start ↔
      ∃ b : Nat, b < k ∧ ∃ q ∈ offsets, o = start + step * b + q := by
  induction k generalizing start with
  | zero => simp [blockOffsets]
  | succ k ih =>
    rw [blockOffsets, List.mem_append, List.mem_map, ih]
    constructor
    · rintro (⟨q, hq, rfl⟩ | ⟨b, hb, q, hq, rfl⟩)
      · exact ⟨0, by omega, q, hq, by simp⟩
      · refine ⟨b + 1, by omega, q, hq, ?_⟩
        push_cast
        ring
    · rintro ⟨b, hb, q, hq, rfl⟩
      cases b with
      | zero => exact .inl ⟨q, hq, by simp⟩
      | succ b =>
        refine .inr ⟨b, by omega, q, hq, ?_⟩
        push_cast
        ring

/-- What is read first and written then is copied one after the other. -/
theorem copyWords_eq {dst src : Int} {offsets : List Int}
    (hapart : ∀ o ∈ offsets, ∀ q ∈ offsets, dst + o ≠ src + q) (mem : Mem) :
    copyWords dst src offsets mem = run (offsets.map fun o => (dst + o, src + o)) mem := by
  have hread : ∀ (os : List Int) (m : Mem), (∀ o ∈ os, o ∈ offsets) →
      (∀ o ∈ offsets, m (src + o) = mem (src + o)) →
      (os.map fun o => (dst + o, mem (src + o))).foldl (fun m w => update m w.1 w.2) m =
        run (os.map fun o => (dst + o, src + o)) m := by
    intro os
    induction os with
    | nil => exact fun m _ _ => rfl
    | cons o os ih =>
      intro m hos hm
      have ho := hos o List.mem_cons_self
      rw [List.map_cons, List.map_cons, List.foldl_cons, run_cons]
      dsimp only
      rw [hm o ho]
      refine ih _ (fun o h => hos o (List.mem_cons_of_mem _ h)) ?_
      intro q hq
      rw [update_of_ne (hapart o ho q hq).symm]
      exact hm q hq
  exact hread offsets mem (fun _ h => h) fun _ _ => rfl

section
variable {dst src : Int} {half half' : List Int} {step : Int}

theorem copyBlock_eq (hapart : ∀ o ∈ half ++ half', ∀ q ∈ half ++ half', dst + o ≠ src + q)
    (mem : Mem) : copyBlock half half' dst src mem =
      run ((half ++ half').map fun o => (dst + o, src + o)) mem := by
  have hleft : ∀ o ∈ half, o ∈ half ++ half' := fun o h => List.mem_append_left _ h
  have hright : ∀ o ∈ half', o ∈ half ++ half' := fun o h => List.mem_append_right _ h
  unfold copyBlock
  rw [copyWords_eq fun o ho q hq => hapart o (hright o ho) q (hright q hq),
    copyWords_eq fun o ho q hq => hapart o (hleft o ho) q (hleft q hq), List.map_append, run_append]

/-- **A copying loop** is a transfer. -/
theorem copyLoop_eq {size p : Int}
    (hapart : ∀ o ∈ blockOffsets (half ++ half') step (blocks size) p,
      ∀ q ∈ blockOffsets (half ++ half') step (blocks size) p, dst + o ≠ src + q) (mem : Mem) :
    blockLoop (copyBlock half half') step size (dst + p) (src + p) mem =
      run ((blockOffsets (half ++ half') step (blocks size) p).map fun o => (dst + o, src + o))
        mem := by
  generalize hk : blocks size = k at hapart ⊢
  induction k generalizing size p mem with
  | zero =>
    rw [blockLoop, if_neg (by unfold blocks at hk; omega), blockOffsets, List.map_nil, run_nil]
  | succ k ih =>
    rw [blockOffsets] at hapart
    have hhead : ∀ o ∈ half ++ half', p + o ∈ (half ++ half').map (p + ·) ++
        blockOffsets (half ++ half') step k (p + step) :=
      fun o ho => List.mem_append_left _ (List.mem_map_of_mem ho)
    have hblock : copyBlock half half' (dst + p) (src + p) mem =
        run (((half ++ half').map (p + ·)).map fun o => (dst + o, src + o)) mem := by
      rw [copyBlock_eq]
      · simp only [List.map_map, Function.comp_def, Int.add_assoc]
      · intro o ho q hq
        have hne := hapart _ (hhead o ho) _ (hhead q hq)
        omega
    have hsplit : ∀ (A B : List Int) (m : Mem), run ((A ++ B).map fun o => (dst + o, src + o)) m =
        run (B.map fun o => (dst + o, src + o)) (run (A.map fun o => (dst + o, src + o)) m) := by
      intro A B m
      rw [List.map_append, run_append]
    rw [blockLoop, if_pos (by unfold blocks at hk; omega), hblock, blockOffsets, hsplit,
      Int.add_assoc, Int.add_assoc]
    refine ih _ (by unfold blocks at hk ⊢; omega) ?_
    intro o ho q hq
    exact hapart o (List.mem_append_right _ ho) q (List.mem_append_right _ hq)

/-- **A filling loop** is a transfer from one word. -/
theorem fillLoop_eq {offsets : List Int} {size p : Int} {data : UInt64} (src' : Int) (mem : Mem)
    (hdata : mem src = data)
    (hapart : ∀ o ∈ blockOffsets offsets step (blocks size) p, dst + o ≠ src) :
    blockLoop (fillBlock offsets data) step size (dst + p) src' mem =
      run ((blockOffsets offsets step (blocks size) p).map fun o => (dst + o, src)) mem := by
  have hfill : ∀ (os : List Int) (m : Mem) (d : Int), m src = data → (∀ o ∈ os, d + o ≠ src) →
      os.foldl (fun m o => update m (d + o) data) m = run (os.map fun o => (d + o, src)) m ∧
        run (os.map fun o => (d + o, src)) m src = data := by
    intro os
    induction os with
    | nil => exact fun m d hm _ => ⟨rfl, hm⟩
    | cons o os ih =>
      intro m d hm hos
      rw [List.map_cons, List.foldl_cons, run_cons]
      dsimp only
      rw [hm]
      refine ih _ d ?_ fun q hq => hos q (List.mem_cons_of_mem _ hq)
      rw [update_of_ne (hos o List.mem_cons_self).symm, hm]
  generalize hk : blocks size = k at hapart ⊢
  induction k generalizing size p src' mem with
  | zero =>
    rw [blockLoop, if_neg (by unfold blocks at hk; omega), blockOffsets, List.map_nil, run_nil]
  | succ k ih =>
    rw [blockOffsets] at hapart
    obtain ⟨hblock, hsrc⟩ := hfill offsets mem (dst + p) hdata fun o ho => by
      have hne := hapart _ (List.mem_append_left _ (List.mem_map_of_mem ho))
      rwa [Int.add_assoc]
    rw [blockLoop, if_pos (by unfold blocks at hk; omega), blockOffsets, List.map_append,
      run_append, Int.add_assoc, ih]
    · unfold fillBlock
      rw [hblock]
      simp only [List.map_map, Function.comp_def, Int.add_assoc]
    · unfold fillBlock
      rw [hblock]
      exact hsrc
    · unfold blocks at hk ⊢
      omega
    · exact fun o ho => hapart o (List.mem_append_right _ ho)

end

/-! ## What the benchmarks do -/

/-- The words `[lo, hi)` behind `dst` are those behind `src`, and the others are as before. -/
structure Copied (dst src lo hi : Int) (before after : Mem) : Prop where
  copied : ∀ o, lo ≤ o → o < hi → after (dst + o) = before (src + o)
  kept : ∀ x, x < dst + lo ∨ dst + hi ≤ x → after x = before x

/-- The words `[lo, hi)` behind `dst` are `data`, and the others are as before. -/
structure Filled (dst lo hi : Int) (data : UInt64) (before after : Mem) : Prop where
  filled : ∀ o, lo ≤ o → o < hi → after (dst + o) = data
  kept : ∀ x, x < dst + lo ∨ dst + hi ≤ x → after x = before x

/-- Both pointers are `restrict`: the buffers have no word in common. -/
def Restrict (dst src size : Int) : Prop := dst + size / 8 ≤ src ∨ src + size / 8 ≤ dst

/-- Blocks upwards, of eight offsets from `c` on in any order. -/
theorem mem_blockOffsets_up {offsets : List Int} {c : Int}
    (hoffsets : ∀ q, q ∈ offsets ↔ c ≤ q ∧ q < c + 8) (k : Nat) (p o : Int) :
    o ∈ blockOffsets offsets 8 k p ↔ p + c ≤ o ∧ o < p + c + 8 * k := by
  rw [mem_blockOffsets]
  constructor
  · rintro ⟨b, hb, q, hq, rfl⟩
    have hq' := (hoffsets q).1 hq
    omega
  · rintro ⟨hlo, hhi⟩
    refine ⟨((o - p - c) / 8).toNat, by omega, c + (o - p - c) % 8, ?_, by omega⟩
    rw [hoffsets]
    omega

/-- Blocks downwards. -/
theorem mem_blockOffsets_down {offsets : List Int} {c : Int}
    (hoffsets : ∀ q, q ∈ offsets ↔ c ≤ q ∧ q < c + 8) (k : Nat) (p o : Int) :
    o ∈ blockOffsets offsets (-8) k p ↔ p + c + 8 - 8 * k ≤ o ∧ o < p + c + 8 := by
  rw [mem_blockOffsets]
  constructor
  · rintro ⟨b, hb, q, hq, rfl⟩
    have hq' := (hoffsets q).1 hq
    omega
  · rintro ⟨hlo, hhi⟩
    refine ⟨((p + c + 7 - o) / 8).toNat, by omega, c + 7 - (p + c + 7 - o) % 8, ?_, by omega⟩
    rw [hoffsets]
    omega

section
variable {dst src size : Int}

/-- A copying loop whose blocks fill a range. -/
theorem copied_of_range (hrestrict : Restrict dst src size) (half half' : List Int)
    (step p lo hi : Int)
    (hrange : ∀ o, o ∈ blockOffsets (half ++ half') step (blocks size) p ↔ lo ≤ o ∧ o < hi)
    (hlo : 0 ≤ lo) (hhi : hi ≤ size / 8) (mem : Mem) :
    Copied dst src lo hi mem
      (blockLoop (copyBlock half half') step size (dst + p) (src + p) mem) := by
  unfold Restrict at hrestrict
  have hapart : ∀ o ∈ blockOffsets (half ++ half') step (blocks size) p,
      ∀ q ∈ blockOffsets (half ++ half') step (blocks size) p, dst + o ≠ src + q := by
    intro o ho q hq
    have ho' := (hrange o).1 ho
    have hq' := (hrange q).1 hq
    omega
  rw [copyLoop_eq hapart]
  have hclean : Clean (· ∈ (blockOffsets (half ++ half') step (blocks size) p).map
      fun o => (dst + o, src + o)) := by
    constructor
    · intro q hq q' hq' heq
      obtain ⟨o, -, rfl⟩ := List.mem_map.1 hq
      obtain ⟨o', -, rfl⟩ := List.mem_map.1 hq'
      have heq' : dst + o = dst + o' := heq
      show src + o = src + o'
      omega
    · intro q hq q' hq'
      obtain ⟨o, ho, rfl⟩ := List.mem_map.1 hq
      obtain ⟨o', ho', rfl⟩ := List.mem_map.1 hq'
      exact hapart o ho o' ho'
  have hmoved := moved_run hclean mem
  constructor
  · intro o ho hlt
    exact hmoved.written (dst + o, src + o) (List.mem_map_of_mem ((hrange o).2 ⟨ho, hlt⟩))
  · intro x hx
    apply hmoved.kept
    intro q hq
    obtain ⟨o, ho, rfl⟩ := List.mem_map.1 hq
    have ho' := (hrange o).1 ho
    show dst + o ≠ x
    omega

/-- A filling loop whose blocks fill a range. -/
theorem filled_of_range {offsets : List Int} {step lo hi : Int}
    (hrange : ∀ o, o ∈ blockOffsets offsets step (blocks size) 0 ↔ lo ≤ o ∧ o < hi) (mem : Mem)
    (hsrc : src < dst + lo ∨ dst + hi ≤ src) :
    Filled dst lo hi (mem src) mem
      (blockLoop (fillBlock offsets (mem src)) step size dst src mem) := by
  have hapart : ∀ o ∈ blockOffsets offsets step (blocks size) 0, dst + o ≠ src := by
    intro o ho
    have ho' := (hrange o).1 ho
    omega
  have hloop := fillLoop_eq src mem rfl hapart
  rw [Int.add_zero] at hloop
  rw [hloop]
  have hclean : Clean (· ∈ (blockOffsets offsets step (blocks size) 0).map
      fun o => (dst + o, src)) := by
    constructor
    · intro q hq q' hq' _
      obtain ⟨o, -, rfl⟩ := List.mem_map.1 hq
      obtain ⟨o', -, rfl⟩ := List.mem_map.1 hq'
      rfl
    · intro q hq q' hq'
      obtain ⟨o, ho, rfl⟩ := List.mem_map.1 hq
      obtain ⟨o', -, rfl⟩ := List.mem_map.1 hq'
      exact hapart o ho
  have hmoved := moved_run hclean mem
  constructor
  · intro o ho hlt
    exact hmoved.written (dst + o, src) (List.mem_map_of_mem ((hrange o).2 ⟨ho, hlt⟩))
  · intro x hx
    apply hmoved.kept
    intro q hq
    obtain ⟨o, ho, rfl⟩ := List.mem_map.1 hq
    have ho' := (hrange o).1 ho
    show dst + o ≠ x
    omega

theorem blocks_cast (hsize : 0 ≤ size) : (blocks size : Int) = size / 64 := by
  unfold blocks
  omega

/-- A copy upwards, in any order within the blocks. -/
theorem copied_up (hsize : 0 ≤ size) (hrestrict : Restrict dst src size) {half half' : List Int}
    (hoffsets : ∀ q, q ∈ half ++ half' ↔ 0 ≤ q ∧ q < 0 + 8) (mem : Mem) :
    Copied dst src 0 (8 * (size / 64)) mem
      (blockLoop (copyBlock half half') 8 size dst src mem) := by
  have hcopied := copied_of_range hrestrict half half' 8 0 0 (8 * (size / 64)) (fun o => by
    rw [mem_blockOffsets_up hoffsets, blocks_cast hsize]
    omega) (by omega) (by omega) mem
  rwa [Int.add_zero, Int.add_zero] at hcopied

/-- A copy downwards, of blocks that begin `c` words behind the pointers. -/
theorem copied_down (hsize : 0 ≤ size) (hrestrict : Restrict dst src size) {half half' : List Int}
    {c : Int} (hoffsets : ∀ q, q ∈ half ++ half' ↔ c ≤ q ∧ q < c + 8) {p : Int}
    (hp : p + c = size.tdiv 8 - 8) (mem : Mem) :
    Copied dst src (size / 8 - 8 * (size / 64)) (size / 8) mem
      (blockLoop (copyBlock half half') (-8) size (dst + p) (src + p) mem) := by
  rw [Int.tdiv_eq_ediv_of_nonneg hsize] at hp
  refine copied_of_range hrestrict half half' (-8) p _ _ ?_ (by omega) (by omega) mem
  intro o
  rw [mem_blockOffsets_down hoffsets, blocks_cast hsize]
  omega

/-- **The copies** upwards copy the whole blocks in front, those downwards the whole blocks at the
end. -/
theorem copies_eq (hsize : 0 ≤ size) (hrestrict : Restrict dst src size) (mem : Mem) :
    (∀ f ∈ [alignedBlockCopy, alignedBlockCopyPf32, alignedBlockCopyPf64],
      Copied dst src 0 (8 * (size / 64)) mem (f dst src size mem)) ∧
    ∀ f ∈ [alignedBlockCopyBackwards, alignedBlockCopyBackwardsBs32, alignedBlockCopyBackwardsBs64],
      Copied dst src (size / 8 - 8 * (size / 64)) (size / 8) mem (f dst src size mem) := by
  constructor
  · have hup : Copied dst src 0 (8 * (size / 64)) mem (alignedBlockCopy dst src size mem) :=
      copied_up hsize hrestrict (fun q => by simp; omega) mem
    simp only [List.forall_mem_cons]
    exact ⟨hup, hup, hup, by simp⟩
  · simp only [List.forall_mem_cons]
    refine ⟨?_, ?_, ?_, by simp⟩
    · exact copied_down (c := -7) hsize hrestrict (fun q => by simp; omega) (by omega) mem
    · exact copied_down (c := 0) hsize hrestrict (fun q => by simp; omega) (by omega) mem
    · exact copied_down (c := 0) hsize hrestrict (fun q => by simp; omega) (by omega) mem

theorem copies_eq_twoBlocks :
    alignedBlockCopy 0 100 168 (fun x => UInt64.ofNat x.toNat) 3 = 103 ∧
      alignedBlockCopyBackwards 0 100 168 (fun x => UInt64.ofNat x.toNat) 20 = 120 := by
  have h := @copies_eq 0 100 168 (by decide) (.inl (by decide))
    fun x => UInt64.ofNat x.toNat
  exact ⟨(h.1 alignedBlockCopy (by simp)).copied 3 (by decide) (by decide),
    (h.2 alignedBlockCopyBackwards (by simp)).copied 20 (by decide) (by decide)⟩

/-- **The fills** fill the whole blocks in front with the first word of the source. -/
theorem fills_eq (hsize : 0 ≤ size) (mem : Mem)
    (hsrc : src < dst ∨ dst + 8 * (size / 64) ≤ src) :
    ∀ f ∈ [alignedBlockFill, alignedBlockFillShuffle16, alignedBlockFillShuffle32,
      alignedBlockFillShuffle64],
      Filled dst 0 (8 * (size / 64)) (mem src) mem (f dst src size mem) := by
  have hfill : ∀ offsets : List Int, (∀ q, q ∈ offsets ↔ 0 ≤ q ∧ q < 0 + 8) →
      Filled dst 0 (8 * (size / 64)) (mem src) mem
        (blockLoop (fillBlock offsets (mem src)) 8 size dst src mem) := by
    intro offsets hoffsets
    refine filled_of_range ?_ mem (by omega)
    intro o
    rw [mem_blockOffsets_up hoffsets, blocks_cast hsize]
    omega
  simp only [List.forall_mem_cons]
  refine ⟨hfill _ ?_, hfill _ ?_, hfill _ ?_, hfill _ ?_, by simp⟩
  · intro q
    simp
    omega
  · intro q
    simp
    omega
  · intro q
    simp
    omega
  · intro q
    simp
    omega

theorem fills_eq_twoBlocks :
    alignedBlockFillShuffle16 0 100 168 (fun x => UInt64.ofNat x.toNat) 15 = 100 :=
  (@fills_eq 0 100 168 (by decide) (fun x => UInt64.ofNat x.toNat)
    (.inr (by decide)) alignedBlockFillShuffle16 (by simp)).filled 15 (by decide) (by decide)

end

end SwitchOc.TinyMem
