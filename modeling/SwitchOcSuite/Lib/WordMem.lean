import SwitchOcSuite.Lib.Traced
import Mathlib.Logic.Function.Basic
import Mathlib.Data.Int.Basic

/-!
# Programs over a word memory

The memory is a total map from word positions (counted from a base, also below
it) to 32-bit words, next to the state of a device that is written but never read
back.  Every load and store is logged, block operations word by word.

    load / store / loadBlock / storeBlock      the operations
    writeBlock_of_mem / _of_lt / _of_le        what a block write leaves where
    traces_loadBlock / traces_storeBlock       when a block stays within bounds
-/

namespace Traced

/-- One access to a word. -/
inductive Access where
  | read (w : Int)
  | write (w : Int)
  deriving DecidableEq, Repr

def Access.addr : Access → Int
  | .read w => w
  | .write w => w

def Access.IsWrite : Access → Prop
  | .read _ => False
  | .write _ => True

/-- The access touches a word of `[lo, hi)`. -/
def Access.Within (lo hi : Int) (a : Access) : Prop := lo ≤ a.addr ∧ a.addr < hi

structure Store (δ : Type) where
  mem : Int → UInt32
  dev : δ

abbrev WordProg (ε δ α : Type) := Prog ε (Store δ) Access α

variable {ε δ α β : Type}

/-! ## Operations -/

/-- `ws` laid over the memory from `head` on. -/
def writeBlock (mem : Int → UInt32) (head : Int) (ws : List UInt32) : Int → UInt32 := fun w =>
  if head ≤ w ∧ w < head + ws.length then ws.getD (w - head).toNat 0 else mem w

/-- The `n` words from `head` on. -/
def readBlock (mem : Int → UInt32) (head : Int) (n : Nat) : List UInt32 :=
  (List.range n).map fun i : Nat => mem (head + i)

def load (w : Int) : WordProg ε δ UInt32 where
  run s := ⟨.ok (s.mem w), s, [.read w]⟩

def store (w : Int) (v : UInt32) : WordProg ε δ Unit where
  run s := ⟨.ok (), { s with mem := Function.update s.mem w v }, [.write w]⟩

def loadBlock (head : Int) (n : Nat) : WordProg ε δ (List UInt32) where
  run s := ⟨.ok (readBlock s.mem head n), s, (List.range n).map fun i : Nat => .read (head + i)⟩

def storeBlock (head : Int) (ws : List UInt32) : WordProg ε δ Unit where
  run s := ⟨.ok (), { s with mem := writeBlock s.mem head ws },
    (List.range ws.length).map fun i : Nat => .write (head + i)⟩

/-- Read, change and write back one word. -/
def modify (w : Int) (f : UInt32 → UInt32) : WordProg ε δ Unit := do
  let v ← load w
  store w (f v)

/-- A command to the device. -/
def command (f : δ → δ) : WordProg ε δ Unit where
  run s := ⟨.ok (), { s with dev := f s.dev }, []⟩

/-- Stop with `e` unless word `w` holds `v`. -/
def expect (w : Int) (v : UInt32) (e : ε) : WordProg ε δ Unit := do
  let x ← load w
  Prog.require (x = v) e

/-- Whether the words named in `l` hold the values given; stops at the first that does not. -/
def holdsAll : List (Int × UInt32) → WordProg ε δ Bool
  | [] => pure true
  | (w, v) :: l => do
    let x ← load w
    if x = v then holdsAll l else pure false

/-! ## Running -/

@[simp] theorem load_run (w : Int) (s : Store δ) :
    (load w : WordProg ε δ UInt32) s = ⟨.ok (s.mem w), s, [.read w]⟩ :=
  rfl

@[simp] theorem store_run (w : Int) (v : UInt32) (s : Store δ) :
    (store w v : WordProg ε δ Unit) s =
      ⟨.ok (), { s with mem := Function.update s.mem w v }, [.write w]⟩ :=
  rfl

theorem yields_load (w : Int) (s : Store δ) :
    Yields (load w : WordProg ε δ UInt32) s (s.mem w) :=
  ⟨rfl, rfl⟩

@[simp] theorem load_bind_run (w : Int) (f : UInt32 → WordProg ε δ β) (s : Store δ) :
    (load w >>= f) s = (f (s.mem w) s).after [.read w] :=
  bind_of_ok (x := (load w : WordProg ε δ UInt32)) rfl

@[simp] theorem loadBlock_bind_run (head : Int) (n : Nat) (f : List UInt32 → WordProg ε δ β)
    (s : Store δ) : (loadBlock head n >>= f) s =
      (f (readBlock s.mem head n) s).after ((List.range n).map fun i : Nat => .read (head + i)) :=
  bind_of_ok (x := (loadBlock head n : WordProg ε δ _)) rfl

@[simp] theorem store_bind_run (w : Int) (v : UInt32) (f : Unit → WordProg ε δ β) (s : Store δ) :
    (store w v >>= f) s =
      (f () { s with mem := Function.update s.mem w v }).after [.write w] :=
  bind_of_ok (x := (store w v : WordProg ε δ Unit)) rfl

@[simp] theorem storeBlock_bind_run (head : Int) (ws : List UInt32)
    (f : Unit → WordProg ε δ β) (s : Store δ) : (storeBlock head ws >>= f) s =
      (f () { s with mem := writeBlock s.mem head ws }).after
        ((List.range ws.length).map fun i : Nat => .write (head + i)) :=
  bind_of_ok (x := (storeBlock head ws : WordProg ε δ Unit)) rfl

theorem expect_run (w : Int) (v : UInt32) (e : ε) (s : Store δ) :
    (expect w v e : WordProg ε δ Unit) s =
      ⟨if s.mem w = v then .ok () else .error e, s, [.read w]⟩ := by
  unfold expect
  rw [load_bind_run, require_run]
  rfl

theorem expect_bind_run (w : Int) (v : UInt32) (e : ε) (f : Unit → WordProg ε δ β)
    (s : Store δ) : (expect w v e >>= f) s =
      if s.mem w = v then (f () s).after [.read w] else ⟨.error e, s, [.read w]⟩ := by
  by_cases h : s.mem w = v
  · rw [if_pos h, bind_of_ok (a := ()) (by simp [expect_run, h]), expect_run]
  · rw [if_neg h, bind_of_error (e := e) (by simp [expect_run, h]), expect_run]

/-- If the whole succeeds, the word was as expected. -/
theorem expect_bind_of_ok {w : Int} {v : UInt32} {e : ε} {f : Unit → WordProg ε δ β}
    {s : Store δ} {b : β} (h : ((expect w v e >>= f) s).result = .ok b) :
    s.mem w = v ∧ (expect w v e >>= f) s = (f () s).after [.read w] := by
  rw [expect_bind_run] at h ⊢
  by_cases hw : s.mem w = v
  · exact ⟨hw, if_pos hw⟩
  · rw [if_neg hw] at h
    cases h

/-! ## Blocks -/

@[simp] theorem length_readBlock (mem : Int → UInt32) (head : Int) (n : Nat) :
    (readBlock mem head n).length = n := by
  simp [readBlock]

theorem length_of_loadBlock {head : Int} {n : Nat} {s : Store δ} {ws : List UInt32}
    (h : ((loadBlock head n : WordProg ε δ (List UInt32)) s).result = .ok ws) : ws.length = n := by
  have hread : readBlock s.mem head n = ws := by
    injection (show (Except.ok _ : Except ε _) = Except.ok ws from h)
  rw [← hread, length_readBlock]

theorem getD_readBlock (mem : Int → UInt32) (head : Int) {n i : Nat} (h : i < n) :
    (readBlock mem head n).getD i 0 = mem (head + i) := by
  simp [readBlock, h]

/-- Two blocks of words are equal iff each word is. -/
theorem readBlock_eq_iff {mem : Int → UInt32} {head : Int} {ws : List UInt32} :
    readBlock mem head ws.length = ws ↔ ∀ i, i < ws.length → mem (head + i) = ws.getD i 0 := by
  constructor
  · intro h i hi
    rw [← getD_readBlock mem head hi, h]
  · intro h
    refine List.ext_getElem (by simp) fun i h₁ h₂ => ?_
    have := h i h₂
    rw [← getD_readBlock mem head h₂] at this
    simpa [List.getD_eq_getElem?_getD, h₂] using this

theorem writeBlock_of_mem (mem : Int → UInt32) (head : Int) (ws : List UInt32) {i : Nat}
    (h : i < ws.length) : writeBlock mem head ws (head + i) = ws.getD i 0 := by
  unfold writeBlock
  rw [if_pos ⟨by omega, by omega⟩]
  congr 1
  omega

theorem writeBlock_of_le (mem : Int → UInt32) (head : Int) (ws : List UInt32) {w : Int}
    (h : head + ws.length ≤ w) : writeBlock mem head ws w = mem w :=
  if_neg (by omega)

theorem readBlock_writeBlock (mem : Int → UInt32) (head : Int) (ws : List UInt32) :
    readBlock (writeBlock mem head ws) head ws.length = ws :=
  readBlock_eq_iff.2 fun _ hi => writeBlock_of_mem mem head ws hi

/-! ## What the operations do -/

section Facts

theorem neverFails_load (w : Int) : NeverFails (load w : WordProg ε δ UInt32) :=
  fun s => ⟨s.mem w, rfl⟩

theorem neverFails_store (w : Int) (v : UInt32) : NeverFails (store w v : WordProg ε δ Unit) :=
  fun _ => ⟨(), rfl⟩

theorem neverFails_loadBlock (head : Int) (n : Nat) :
    NeverFails (loadBlock head n : WordProg ε δ (List UInt32)) :=
  fun s => ⟨readBlock s.mem head n, rfl⟩

theorem neverFails_storeBlock (head : Int) (ws : List UInt32) :
    NeverFails (storeBlock head ws : WordProg ε δ Unit) :=
  fun _ => ⟨(), rfl⟩

theorem neverFails_command (f : δ → δ) : NeverFails (command f : WordProg ε δ Unit) :=
  fun _ => ⟨(), rfl⟩

theorem readOnly_load (w : Int) : ReadOnly Access.IsWrite (load w : WordProg ε δ UInt32) := by
  refine fun s => ⟨rfl, fun l hl => ?_⟩
  rw [load_run, List.mem_singleton] at hl
  rw [hl]
  exact id

theorem readOnly_loadBlock (head : Int) (n : Nat) :
    ReadOnly Access.IsWrite (loadBlock head n : WordProg ε δ (List UInt32)) := by
  refine fun s => ⟨rfl, fun l hl => ?_⟩
  obtain ⟨i, -, rfl⟩ := List.mem_map.1 hl
  exact id

theorem readOnly_expect (w : Int) (v : UInt32) (e : ε) :
    ReadOnly Access.IsWrite (expect w v e : WordProg ε δ Unit) :=
  readOnly_bind (readOnly_load w) fun _ => readOnly_require _ e

theorem readOnly_holdsAll (l : List (Int × UInt32)) :
    ReadOnly Access.IsWrite (holdsAll l : WordProg ε δ Bool) := by
  induction l with
  | nil => exact readOnly_pure true
  | cons p l ih =>
    exact readOnly_bind (readOnly_load p.1) fun _ => readOnly_ite ih (readOnly_pure false)

theorem neverFails_holdsAll (l : List (Int × UInt32)) :
    NeverFails (holdsAll l : WordProg ε δ Bool) := by
  induction l with
  | nil => exact neverFails_pure true
  | cons p l ih =>
    exact neverFails_bind (neverFails_load p.1) fun _ =>
      neverFails_ite ih (neverFails_pure false)

variable {P : Access → Prop}

@[simp] theorem traces_load {w : Int} {s : Store δ} :
    Traces P (load w : WordProg ε δ UInt32) s ↔ P (.read w) := by
  simp [Traces]

@[simp] theorem traces_store {w : Int} {v : UInt32} {s : Store δ} :
    Traces P (store w v : WordProg ε δ Unit) s ↔ P (.write w) := by
  simp [Traces]

@[simp] theorem traces_command {f : δ → δ} {s : Store δ} :
    Traces P (command f : WordProg ε δ Unit) s := by
  intro l hl
  cases hl

theorem traces_load_bind {w : Int} {f : UInt32 → WordProg ε δ β} {s : Store δ} :
    Traces P (load w >>= f) s ↔ P (.read w) ∧ Traces P (f (s.mem w)) s := by
  simp [traces_bind]

theorem traces_store_bind {w : Int} {v : UInt32} {f : Unit → WordProg ε δ β} {s : Store δ} :
    Traces P (store w v >>= f) s ↔
      P (.write w) ∧ Traces P (f ()) { s with mem := Function.update s.mem w v } := by
  rw [traces_bind, traces_store]
  exact and_congr_right fun _ => ⟨fun h => h () rfl, fun h _ _ => h⟩

theorem traces_expect_bind {w : Int} {v : UInt32} {e : ε} {f : Unit → WordProg ε δ β}
    {s : Store δ} :
    Traces P (expect w v e >>= f) s ↔ P (.read w) ∧ (s.mem w = v → Traces P (f ()) s) := by
  unfold Traces
  rw [expect_bind_run]
  by_cases h : s.mem w = v <;> simp [h]

theorem traces_expect {w : Int} {v : UInt32} {e : ε} {s : Store δ} :
    Traces P (expect w v e : WordProg ε δ Unit) s ↔ P (.read w) := by
  simp [Traces, expect_run]

theorem traces_modify {w : Int} {f : UInt32 → UInt32} {s : Store δ} :
    Traces P (modify w f : WordProg ε δ Unit) s ↔ P (.read w) ∧ P (.write w) := by
  simp [modify, traces_load_bind]

/-- A block of accesses is within bounds iff it is empty or its two ends are. -/
theorem forall_range_within {lo hi head : Int} {n : Nat} :
    (∀ i < n, lo ≤ head + (i : Nat) ∧ head + (i : Nat) < hi) ↔
      n = 0 ∨ lo ≤ head ∧ head + n ≤ hi := by
  constructor
  · intro h
    rcases Nat.eq_zero_or_pos n with h0 | h0
    · exact .inl h0
    · have h₁ := h 0 h0
      have h₂ := h (n - 1) (by omega)
      exact .inr ⟨by omega, by omega⟩
  · rintro (h | h) i hi'
    · omega
    · omega

theorem traces_loadBlock {lo hi head : Int} {n : Nat} {s : Store δ} :
    Traces (Access.Within lo hi) (loadBlock head n : WordProg ε δ (List UInt32)) s ↔
      n = 0 ∨ lo ≤ head ∧ head + n ≤ hi := by
  rw [← forall_range_within]
  simp [Traces, loadBlock, Access.Within, Access.addr]

theorem traces_storeBlock {lo hi head : Int} {ws : List UInt32} {s : Store δ} :
    Traces (Access.Within lo hi) (storeBlock head ws : WordProg ε δ Unit) s ↔
      ws.length = 0 ∨ lo ≤ head ∧ head + ws.length ≤ hi := by
  rw [← forall_range_within]
  simp [Traces, storeBlock, Access.Within, Access.addr]

theorem stays_load {w : Int} (h : P (.read w)) : Stays P (load w : WordProg ε δ UInt32) :=
  fun _ => traces_load.2 h

theorem stays_store {w : Int} {v : UInt32} (h : P (.write w)) :
    Stays P (store w v : WordProg ε δ Unit) :=
  fun _ => traces_store.2 h

theorem stays_expect {w : Int} {v : UInt32} {e : ε} (h : P (.read w)) :
    Stays P (expect w v e : WordProg ε δ Unit) :=
  fun _ => traces_expect.2 h

theorem stays_holdsAll {l : List (Int × UInt32)} (h : ∀ p ∈ l, P (.read p.1)) :
    Stays P (holdsAll l : WordProg ε δ Bool) := by
  induction l with
  | nil => exact stays_pure true
  | cons p l ih =>
    refine stays_bind (stays_load (h p (by simp))) fun _ => ?_
    exact stays_ite (ih fun q hq => h q (by simp [hq])) (stays_pure false)

theorem stays_modify {w : Int} {f : UInt32 → UInt32} (h : P (.read w) ∧ P (.write w)) :
    Stays P (modify w f : WordProg ε δ Unit) :=
  fun _ => traces_modify.2 h

theorem stays_loadBlock {lo hi head : Int} {n : Nat} (h : lo ≤ head ∧ head + n ≤ hi) :
    Stays (Access.Within lo hi) (loadBlock head n : WordProg ε δ (List UInt32)) :=
  fun _ => traces_loadBlock.2 (.inr h)

theorem stays_storeBlock {lo hi head : Int} {ws : List UInt32}
    (h : lo ≤ head ∧ head + ws.length ≤ hi) :
    Stays (Access.Within lo hi) (storeBlock head ws : WordProg ε δ Unit) :=
  fun _ => traces_storeBlock.2 (.inr h)

end Facts

end Traced
