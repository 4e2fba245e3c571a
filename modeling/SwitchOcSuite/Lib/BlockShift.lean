import SwitchOcSuite.Lib.Puts

/-!
# Blocks moved in place

Blocks of `width` words lie below one another: block `i + 1` ends where block `i`
begins.  Copying block `n - 1` to block `n`, then `n - 2` to `n - 1`, and so on to
block 0, never reads a block that was written before, so each block ends up with
what the one above it held (`shiftDown_run`).
-/

namespace Traced

open Prog

variable {ε δ : Type} {block : Nat → Int} {width : Nat}

/-- `n, …, 2, 1`. -/
def countdown : Nat → List Nat
  | 0 => []
  | n + 1 => (n + 1) :: countdown n

/-- Copy the block above block `i` to it. -/
def copyDown (block : Nat → Int) (width i : Nat) : WordProg ε δ Unit := do
  let src ← loadBlock (block (i - 1)) width
  storeBlock (block i) src

/-- The words from `lo` to `hi`, each replaced by the one `width` above it. -/
def shifted (mem : Int → UInt32) (lo hi : Int) (width : Nat) : Int → UInt32 := fun w =>
  if lo ≤ w ∧ w < hi then mem (w + width) else mem w

theorem shifted_of_mem (mem : Int → UInt32) {lo hi w : Int} (h₁ : lo ≤ w) (h₂ : w < hi) :
    shifted mem lo hi width w = mem (w + width) :=
  if_pos ⟨h₁, h₂⟩

theorem shifted_of_not_mem (mem : Int → UInt32) {lo hi w : Int} (h : w < lo ∨ hi ≤ w) :
    shifted mem lo hi width w = mem w :=
  if_neg (by omega)

theorem shifted_empty (mem : Int → UInt32) (lo : Int) (width : Nat) :
    shifted mem lo lo width = mem :=
  funext fun w => if_neg (by omega)

theorem copyDown_run (h : ∀ i, block (i + 1) + width = block i) (i : Nat) (s : Store δ) :
    ((copyDown block width (i + 1) : WordProg ε δ Unit) s).result = .ok () ∧
      ((copyDown block width (i + 1) : WordProg ε δ Unit) s).state =
        { s with mem := shifted s.mem (block (i + 1)) (block i) width } := by
  unfold copyDown
  rw [loadBlock_bind_run]
  refine ⟨rfl, ?_⟩
  show { s with mem := writeBlock s.mem (block (i + 1)) (readBlock s.mem (block i) width) } =
    { s with mem := shifted s.mem (block (i + 1)) (block i) width }
  congr 1
  funext w
  have hi := h i
  by_cases hw : block (i + 1) ≤ w ∧ w < block i
  · obtain ⟨k, rfl⟩ : ∃ k : Nat, w = block (i + 1) + k := ⟨(w - block (i + 1)).toNat, by omega⟩
    rw [shifted_of_mem s.mem hw.1 hw.2, writeBlock_of_mem _ _ _ (by rw [length_readBlock]; omega),
      getD_readBlock _ _ (by omega)]
    congr 1
    omega
  · rw [shifted_of_not_mem s.mem (by omega)]
    exact if_neg (by rw [length_readBlock]; omega)

theorem block_antitone (h : ∀ i, block (i + 1) + width = block i) (i : Nat) : block i ≤ block 0 := by
  induction i with
  | zero => exact Int.le_refl _
  | succ i ih =>
    have hi := h i
    omega

/-- Shifting the words below `mid` first leaves those above it as they were. -/
theorem shifted_shifted (mem : Int → UInt32) {lo mid hi : Int} (h : lo + width = mid)
    (h' : mid ≤ hi) :
    shifted (shifted mem lo mid width) mid hi width = shifted mem lo hi width := by
  funext w
  by_cases hlow : w < mid
  · rw [shifted_of_not_mem _ (.inl hlow)]
    by_cases hw : lo ≤ w
    · rw [shifted_of_mem _ hw hlow, shifted_of_mem _ hw (by omega)]
    · rw [shifted_of_not_mem _ (by omega), shifted_of_not_mem _ (by omega)]
  · by_cases hw : w < hi
    · rw [shifted_of_mem _ (by omega) hw, shifted_of_mem _ (by omega) hw,
        shifted_of_not_mem _ (by omega)]
    · rw [shifted_of_not_mem _ (by omega), shifted_of_not_mem _ (by omega),
        shifted_of_not_mem _ (by omega)]

/-- **From the lowest block up, nothing is copied twice and nothing else is lost.** -/
theorem shiftDown_run (h : ∀ i, block (i + 1) + width = block i) (n : Nat) (s : Store δ) :
    ((forEach (countdown n) (copyDown block width) : WordProg ε δ Unit) s).result = .ok () ∧
      ((forEach (countdown n) (copyDown block width) : WordProg ε δ Unit) s).state =
        { s with mem := shifted s.mem (block n) (block 0) width } := by
  induction n generalizing s with
  | zero =>
    rw [shifted_empty]
    exact ⟨rfl, rfl⟩
  | succ n ih =>
    obtain ⟨hres, hst⟩ := copyDown_run h n s
    obtain ⟨hres', hst'⟩ := ih { s with mem := shifted s.mem (block (n + 1)) (block n) width }
    rw [countdown, forEach_cons, bind_of_ok hres, after_result, after_state, hst]
    refine ⟨hres', hst'.trans ?_⟩
    rw [shifted_shifted s.mem (h n) (block_antitone h n)]

end Traced
