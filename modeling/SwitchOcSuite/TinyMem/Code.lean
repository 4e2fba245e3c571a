import Mathlib.Data.List.Nodup
import SwitchOcSuite.Lib.RaceFree
import SwitchOcSuite.TinyMem.Blocks

/-!
# TinyMemBenchNX: the C benchmarks, word by word

A benchmark loads words into its variables and stores them.  This is what several threads
interleave; run by one thread, it is the benchmark.

    Func          a benchmark, its code, and the words of the buffers that it stays in
    cBenchmarks   the table of the C benchmarks
-/

namespace SwitchOc.TinyMem

open Function RaceFree

/-! ## Instructions -/

inductive Instr
  /-- `t = *x` -/
  | load (t : Nat) (x : Int)
  /-- `*x = t` -/
  | store (x : Int) (t : Nat)

/-- The variables `t1` to `t4`, or `data`. -/
abbrev Regs := Nat → UInt64

def Instr.exec : Instr → Regs × Mem → Regs × Mem
  | .load t x, s => (update s.1 t (s.2 x), s.2)
  | .store x t, s => (s.1, update s.2 x (s.1 t))

def Instr.address : Instr → Int
  | .load _ x => x
  | .store x _ => x

/-- The instructions over words. -/
def words : Machine Instr Regs Int UInt64 where
  exec := Instr.exec
  touches op x := op.address = x
  writes op x := ∃ t, op = .store x t
  touches_of_writes op x := by
    rintro ⟨t, rfl⟩
    rfl
  kept op s x hx := by
    cases op with
    | load t y => rfl
    | store y t =>
      have hne : x ≠ y := fun h => hx ⟨t, by rw [h]⟩
      exact update_of_ne hne ..
  agree op regs mem mem' h := by
    cases op with
    | load t y =>
      have hy : mem y = mem' y := h y rfl
      exact ⟨by simp only [Instr.exec, hy], fun x hx => h x hx⟩
    | store y t =>
      refine ⟨rfl, fun x hx => ?_⟩
      obtain rfl : y = x := hx
      simp [Instr.exec]

/-! ## Code -/

/-- The words at some offsets, loaded first and stored then. -/
def wordsCode (dst src : Int) (offsets : List Int) : List Instr :=
  (offsets.zipIdx.map fun o => .load o.2 (src + o.1)) ++
    offsets.zipIdx.map fun o => .store (dst + o.1) o.2

def copyCode (half half' : List Int) (dst src : Int) : List Instr :=
  wordsCode dst src half ++ wordsCode dst src half'

def fillCode (offsets : List Int) (dst _src : Int) : List Instr :=
  offsets.map fun o => .store (dst + o) 0

/-- Nothing is done with what is loaded. -/
def fetchCode (offsets : List Int) (_dst src : Int) : List Instr :=
  offsets.map fun o => .load 0 (src + o)

/-- Some blocks. -/
def loopCode (code : Int → Int → List Instr) (step : Int) : Nat → Int → Int → List Instr
  | 0, _, _ => []
  | k + 1, dst, src => code dst src ++ loopCode code step k (dst + step) (src + step)

/-! ## What the code does -/

theorem run_loads (src : Int) (l : List (Int × Nat)) (hl : (l.map Prod.snd).Nodup) (regs : Regs)
    (mem : Mem) :
    (words.run (l.map fun o => .load o.2 (src + o.1)) (regs, mem)).2 = mem ∧
      (∀ t, t ∉ l.map Prod.snd →
        (words.run (l.map fun o => .load o.2 (src + o.1)) (regs, mem)).1 t = regs t) ∧
      ∀ o ∈ l, (words.run (l.map fun o => .load o.2 (src + o.1)) (regs, mem)).1 o.2 =
        mem (src + o.1) := by
  induction l generalizing regs with
  | nil => exact ⟨rfl, fun _ _ => rfl, by simp⟩
  | cons o l ih =>
    rw [List.map_cons, List.nodup_cons] at hl
    obtain ⟨hmem, hother, hloaded⟩ := ih hl.2 (update regs o.2 (mem (src + o.1)))
    rw [List.map_cons, Machine.run_cons]
    refine ⟨hmem, ?_, ?_⟩
    · intro t ht
      rw [List.map_cons, List.mem_cons, not_or] at ht
      exact (hother t ht.2).trans (update_of_ne ht.1 ..)
    · intro o' ho'
      rcases List.mem_cons.1 ho' with rfl | ho'
      · exact (hother o'.2 hl.1).trans (update_self ..)
      · exact hloaded o' ho'

theorem run_stores (dst : Int) (l : List (Int × Nat)) (regs : Regs) (mem : Mem) :
    words.run (l.map fun o => .store (dst + o.1) o.2) (regs, mem) =
      (regs, (l.map fun o => (dst + o.1, regs o.2)).foldl (fun m w => update m w.1 w.2) mem) := by
  induction l generalizing mem with
  | nil => rfl
  | cons o l ih => exact ih (update mem (dst + o.1) (regs o.2))

theorem run_wordsCode (dst src : Int) (offsets : List Int) (regs : Regs) (mem : Mem) :
    (words.run (wordsCode dst src offsets) (regs, mem)).2 = copyWords dst src offsets mem := by
  obtain ⟨hmem, -, hloaded⟩ := run_loads src offsets.zipIdx
    (by rw [List.zipIdx_map_snd]; exact List.nodup_range') regs mem
  unfold wordsCode copyWords
  rw [Machine.run_append]
  generalize words.run (offsets.zipIdx.map fun o => .load o.2 (src + o.1)) (regs, mem) = s
    at hmem hloaded
  obtain ⟨regs', mem'⟩ := s
  obtain rfl : mem' = mem := hmem
  have hvalues : (offsets.zipIdx.map fun o => (dst + o.1, regs' o.2)) =
      offsets.map fun o => (dst + o, mem' (src + o)) := by
    rw [← List.zipIdx_map_fst 0 offsets, List.map_map, List.zipIdx_map_fst]
    exact List.map_congr_left fun o ho => congrArg (Prod.mk (dst + o.1)) (hloaded o ho)
  rw [run_stores, hvalues]

theorem run_copyCode (half half' : List Int) (dst src : Int) (regs : Regs) (mem : Mem) :
    (words.run (copyCode half half' dst src) (regs, mem)).2 = copyBlock half half' dst src mem := by
  unfold copyCode copyBlock
  rw [Machine.run_append, ← run_wordsCode dst src half regs mem]
  exact run_wordsCode ..

theorem run_fillCode (offsets : List Int) (dst src : Int) (regs : Regs) (mem : Mem) :
    words.run (fillCode offsets dst src) (regs, mem) =
      (regs, fillBlock offsets (regs 0) dst src mem) := by
  unfold fillCode fillBlock
  induction offsets generalizing mem with
  | nil => rfl
  | cons o offsets ih => exact ih (update mem (dst + o) (regs 0))

theorem run_fetchCode (offsets : List Int) (dst src : Int) (regs : Regs) (mem : Mem) :
    (words.run (fetchCode offsets dst src) (regs, mem)).2 = mem := by
  unfold fetchCode
  induction offsets generalizing regs with
  | nil => rfl
  | cons o offsets ih => exact ih (update regs 0 (mem (src + o)))

/-- **A loop** whose blocks keep `I` of the registers. -/
theorem run_loopCode {code : Int → Int → List Instr} {body : Int → Int → Mem → Mem}
    {I : Regs → Prop} (hbody : ∀ dst src regs mem, I regs →
      I (words.run (code dst src) (regs, mem)).1 ∧
        (words.run (code dst src) (regs, mem)).2 = body dst src mem)
    (step size dst src : Int) {regs : Regs} (hregs : I regs) (mem : Mem) :
    (words.run (loopCode code step (blocks size) dst src) (regs, mem)).2 =
      blockLoop body step size dst src mem := by
  generalize hk : blocks size = k
  induction k generalizing size dst src regs mem with
  | zero =>
    rw [blockLoop, if_neg (by unfold blocks at hk; omega)]
    rfl
  | succ k ih =>
    obtain ⟨hI, hmem⟩ := hbody dst src regs mem hregs
    rw [blockLoop, if_pos (by unfold blocks at hk; omega), loopCode, Machine.run_append, ← hmem]
    exact ih (size - 64) (dst + step) (src + step) hI _ (by unfold blocks at hk ⊢; omega)

/-! ## Where the code goes -/

/-- Every word is at one of the offsets behind its pointer. -/
def Within (offsets : List Int) (code : Int → Int → List Instr) : Prop :=
  ∀ dst src, ∀ op ∈ code dst src, ∃ o ∈ offsets,
    (∃ t, op = .store (dst + o) t) ∨ ∃ t, op = .load t (src + o)

theorem within_wordsCode (offsets : List Int) :
    Within offsets fun dst src => wordsCode dst src offsets := by
  intro dst src op hop
  rcases List.mem_append.1 hop with hop | hop
  · obtain ⟨o, ho, rfl⟩ := List.mem_map.1 hop
    exact ⟨o.1, List.fst_mem_of_mem_zipIdx ho, .inr ⟨o.2, rfl⟩⟩
  · obtain ⟨o, ho, rfl⟩ := List.mem_map.1 hop
    exact ⟨o.1, List.fst_mem_of_mem_zipIdx ho, .inl ⟨o.2, rfl⟩⟩

theorem within_copyCode (half half' : List Int) : Within (half ++ half') (copyCode half half') := by
  intro dst src op hop
  rcases List.mem_append.1 hop with hop | hop
  · obtain ⟨o, ho, h⟩ := within_wordsCode half dst src op hop
    exact ⟨o, List.mem_append_left _ ho, h⟩
  · obtain ⟨o, ho, h⟩ := within_wordsCode half' dst src op hop
    exact ⟨o, List.mem_append_right _ ho, h⟩

theorem within_fillCode (offsets : List Int) : Within offsets (fillCode offsets) := by
  intro dst src op hop
  obtain ⟨o, ho, rfl⟩ := List.mem_map.1 hop
  exact ⟨o, ho, .inl ⟨0, rfl⟩⟩

theorem within_fetchCode (offsets : List Int) : Within offsets (fetchCode offsets) := by
  intro dst src op hop
  obtain ⟨o, ho, rfl⟩ := List.mem_map.1 hop
  exact ⟨o, ho, .inr ⟨0, rfl⟩⟩

/-- So it is in a loop. -/
theorem within_loopCode {offsets : List Int} {code : Int → Int → List Instr}
    (h : Within offsets code) {step : Int} {k : Nat} {dst src p : Int} {op : Instr}
    (hop : op ∈ loopCode code step k (dst + p) (src + p)) :
    ∃ o ∈ blockOffsets offsets step k p,
      (∃ t, op = .store (dst + o) t) ∨ ∃ t, op = .load t (src + o) := by
  induction k generalizing p with
  | zero => simp [loopCode] at hop
  | succ k ih =>
    rw [loopCode, List.mem_append, Int.add_assoc, Int.add_assoc] at hop
    rw [blockOffsets]
    rcases hop with hop | hop
    · obtain ⟨o, ho, hop⟩ := h (dst + p) (src + p) op hop
      rw [Int.add_assoc, Int.add_assoc] at hop
      exact ⟨p + o, List.mem_append_left _ (List.mem_map_of_mem ho), hop⟩
    · obtain ⟨o, ho, hop⟩ := ih hop
      exact ⟨o, List.mem_append_right _ ho, hop⟩

/-- A loop over blocks from `p` words behind the pointers on stays in the buffers. -/
def Inside (offsets : List Int) (step p size : Int) : Prop :=
  ∀ o ∈ blockOffsets offsets step (blocks size) p, 64 ≤ size ∧ 0 ≤ o ∧ o < size / 8

theorem inside_up {offsets : List Int} (hoffsets : ∀ q, q ∈ offsets ↔ 0 ≤ q ∧ q < 0 + 8)
    (size : Int) : Inside offsets 8 0 size := by
  intro o ho
  rw [mem_blockOffsets_up hoffsets] at ho
  unfold blocks at ho
  omega

theorem inside_down {offsets : List Int} {c : Int} (hoffsets : ∀ q, q ∈ offsets ↔ c ≤ q ∧ q < c + 8)
    (size : Int) : Inside offsets (-8) (size.tdiv 8 - 8 - c) size := by
  intro o ho
  rw [mem_blockOffsets_down hoffsets] at ho
  unfold blocks at ho
  have hnonneg : 0 ≤ size := by omega
  rw [Int.tdiv_eq_ediv_of_nonneg hnonneg] at ho
  omega

/-- **A benchmark**, its code, and the words that it stays in. -/
structure Func where
  bench : Bench
  code : (dst src size : Int) → List Instr
  run_code : ∀ dst src size regs mem,
    (words.run (code dst src size) (regs, mem)).2 = bench dst src size mem
  writes : ∀ dst src size x, words.Writes (code dst src size) x →
    64 ≤ size ∧ dst ≤ x ∧ x < dst + size / 8
  touches : ∀ dst src size x, 64 ≤ size → words.Touches (code dst src size) x →
    (dst ≤ x ∧ x < dst + size / 8) ∨ (src ≤ x ∧ x < src + size / 8)

section
variable {offsets : List Int} {code : Int → Int → List Instr} {step : Int} {p dst src size x : Int}

theorem writes_loop (hwithin : Within offsets code) (hinside : Inside offsets step p size)
    (hx : words.Writes (loopCode code step (blocks size) (dst + p) (src + p)) x) :
    64 ≤ size ∧ dst ≤ x ∧ x < dst + size / 8 := by
  obtain ⟨op, hop, t, rfl⟩ := hx
  obtain ⟨o, ho, ⟨t', heq⟩ | ⟨t', heq⟩⟩ := within_loopCode hwithin hop
  · obtain ⟨hx, -⟩ := Instr.store.inj heq
    have ho' := hinside o ho
    omega
  · cases heq

theorem touches_loop (hwithin : Within offsets code) (hinside : Inside offsets step p size)
    (hx : words.Touches (loopCode code step (blocks size) (dst + p) (src + p)) x) :
    (dst ≤ x ∧ x < dst + size / 8) ∨ (src ≤ x ∧ x < src + size / 8) := by
  obtain ⟨op, hop, hx⟩ := hx
  obtain ⟨o, ho, ⟨t, rfl⟩ | ⟨t, rfl⟩⟩ := within_loopCode hwithin hop
  · have hx' : dst + o = x := hx
    have ho' := hinside o ho
    omega
  · have hx' : src + o = x := hx
    have ho' := hinside o ho
    omega

end

/-- A copy, that begins `p` words behind the pointers. -/
def Func.copy (bench : Bench) (half half' : List Int) (step : Int) (p : Int → Int)
    (hbench : ∀ dst src size, bench dst src size =
      blockLoop (copyBlock half half') step size (dst + p size) (src + p size))
    (hinside : ∀ size, Inside (half ++ half') step (p size) size) : Func where
  bench := bench
  code dst src size :=
    loopCode (copyCode half half') step (blocks size) (dst + p size) (src + p size)
  run_code dst src size regs mem := by
    rw [hbench]
    exact run_loopCode (I := fun _ => True) (fun dst src regs mem _ =>
      ⟨trivial, run_copyCode half half' dst src regs mem⟩) step size _ _ trivial mem
  writes dst src size x := writes_loop (within_copyCode half half') (hinside size)
  touches dst src size x _ := touches_loop (within_copyCode half half') (hinside size)

/-- A fill; the first word of the source is loaded once. -/
def Func.fill (bench : Bench) (offsets : List Int)
    (hbench : ∀ dst src size mem, bench dst src size mem =
      blockLoop (fillBlock offsets (mem src)) 8 size dst src mem)
    (hoffsets : ∀ q, q ∈ offsets ↔ 0 ≤ q ∧ q < 0 + 8) : Func where
  bench := bench
  code dst src size := .load 0 src :: loopCode (fillCode offsets) 8 (blocks size) dst src
  run_code dst src size regs mem := by
    rw [hbench, Machine.run_cons]
    refine run_loopCode (I := fun regs => regs 0 = mem src) ?_ 8 size dst src (update_self ..) mem
    intro dst' src' regs' mem' hregs'
    rw [run_fillCode, hregs']
    exact ⟨hregs', rfl⟩
  writes dst src size x := by
    rintro ⟨op, hop, t, rfl⟩
    rcases List.mem_cons.1 hop with heq | hop
    · cases heq
    · rw [← Int.add_zero dst, ← Int.add_zero src] at hop
      exact writes_loop (within_fillCode offsets) (inside_up hoffsets size) ⟨_, hop, t, rfl⟩
  touches dst src size x hsize := by
    rintro ⟨op, hop, hx⟩
    rcases List.mem_cons.1 hop with rfl | hop
    · have hx' : src = x := hx
      omega
    · rw [← Int.add_zero dst, ← Int.add_zero src] at hop
      exact touches_loop (within_fillCode offsets) (inside_up hoffsets size) ⟨op, hop, hx⟩

/-! ## The table -/

def copyBackwardsFunc : Func :=
  .copy alignedBlockCopyBackwards [0, -1, -2, -3] [-4, -5, -6, -7] (-8)
    (fun size => size.tdiv 8 - 8 - -7) (fun dst src size => by
      unfold alignedBlockCopyBackwards
      congr 1 <;> omega) (inside_down fun q => by simp; omega)

def copyBackwardsBs32Func : Func :=
  .copy alignedBlockCopyBackwardsBs32 [4, 5, 6, 7] [0, 1, 2, 3] (-8)
    (fun size => size.tdiv 8 - 8 - 0) (fun dst src size => by
      unfold alignedBlockCopyBackwardsBs32
      rw [Int.sub_zero]) (inside_down fun q => by simp; omega)

def copyBackwardsBs64Func : Func :=
  .copy alignedBlockCopyBackwardsBs64 [0, 1, 2, 3] [4, 5, 6, 7] (-8)
    (fun size => size.tdiv 8 - 8 - 0) (fun dst src size => by
      unfold alignedBlockCopyBackwardsBs64
      rw [Int.sub_zero]) (inside_down fun q => by simp; omega)

/-- A copy upwards. -/
def Func.copyUp (bench : Bench) (hbench : ∀ dst src size, bench dst src size =
    blockLoop (copyBlock [0, 1, 2, 3] [4, 5, 6, 7]) 8 size dst src) : Func :=
  .copy bench [0, 1, 2, 3] [4, 5, 6, 7] 8 (fun _ => 0)
    (fun dst src size => by rw [hbench, Int.add_zero, Int.add_zero])
    (inside_up fun q => by simp; omega)

def copyFunc : Func := .copyUp alignedBlockCopy fun _ _ _ => rfl

def copyPf32Func : Func := .copyUp alignedBlockCopyPf32 fun _ _ _ => rfl

def copyPf64Func : Func := .copyUp alignedBlockCopyPf64 fun _ _ _ => rfl

def fetchFunc : Func where
  bench := alignedBlockFetch
  code dst src size := loopCode (fetchCode [0, 1, 2, 3, 4, 5, 6, 7]) 8 (blocks size) dst src
  run_code dst src size regs mem :=
    run_loopCode (I := fun _ => True) (fun dst src regs mem _ =>
      ⟨trivial, run_fetchCode _ dst src regs mem⟩) 8 size dst src trivial mem
  writes dst src size x hx := by
    rw [← Int.add_zero dst, ← Int.add_zero src] at hx
    exact writes_loop (within_fetchCode _) (inside_up (fun q => by simp; omega) size) hx
  touches dst src size x _ hx := by
    rw [← Int.add_zero dst, ← Int.add_zero src] at hx
    exact touches_loop (within_fetchCode _) (inside_up (fun q => by simp; omega) size) hx

def cBenchmarks : List (String × Func) :=
  [("C copy backwards", copyBackwardsFunc),
    ("C copy backwards (32B blocks)", copyBackwardsBs32Func),
    ("C copy backwards (64B blocks)", copyBackwardsBs64Func),
    ("C copy", copyFunc),
    ("C copy prefetched (32B step)", copyPf32Func),
    ("C copy prefetched (64B step)", copyPf64Func),
    ("C fetch", fetchFunc),
    ("C fill", .fill alignedBlockFill [0, 1, 2, 3, 4, 5, 6, 7] (fun _ _ _ _ => rfl)
      fun q => by simp; omega),
    ("C fill (shuffle within 16B blocks)", .fill alignedBlockFillShuffle16
      [0 + 0, 1 + 0, 1 + 2, 0 + 2, 1 + 4, 0 + 4, 0 + 6, 1 + 6] (fun _ _ _ _ => rfl)
      fun q => by simp; omega),
    ("C fill (shuffle within 32B blocks)", .fill alignedBlockFillShuffle32
      [3 + 0, 0 + 0, 2 + 0, 1 + 0, 3 + 4, 0 + 4, 2 + 4, 1 + 4] (fun _ _ _ _ => rfl)
      fun q => by simp; omega),
    ("C fill (shuffle within 64B blocks)", .fill alignedBlockFillShuffle64
      [5, 2, 7, 6, 1, 3, 0, 4] (fun _ _ _ _ => rfl) fun q => by simp; omega)]

example : cBenchmarks.map (·.2.bench) =
    [alignedBlockCopyBackwards, alignedBlockCopyBackwardsBs32, alignedBlockCopyBackwardsBs64,
      alignedBlockCopy, alignedBlockCopyPf32, alignedBlockCopyPf64, alignedBlockFetch,
      alignedBlockFill, alignedBlockFillShuffle16, alignedBlockFillShuffle32,
      alignedBlockFillShuffle64] := rfl

end SwitchOc.TinyMem
