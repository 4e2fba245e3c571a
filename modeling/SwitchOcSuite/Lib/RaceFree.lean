import Mathlib.Data.List.Basic
import Mathlib.Logic.Function.Basic
import Mathlib.Tactic.Common

/-!
# Threads without data races

A thread has registers of its own, and a list of instructions over a memory that all
threads share.  As long as no thread writes what another one reads or writes, the memory
that any interleaving ends with is that of the threads one after another.

    Along            what an interleaving has come to
    Along.exec       one instruction of a thread
    Along.run        a thread to its end
    Along.mem_eq     the memory at the end
-/

namespace RaceFree

open Function

/-- Instructions over the registers of their thread and the memory.  What an instruction does
depends on the memory it touches, and is to the memory it writes. -/
structure Machine (Op Regs A V : Type) where
  exec : Op → Regs × (A → V) → Regs × (A → V)
  touches : Op → A → Prop
  writes : Op → A → Prop
  touches_of_writes : ∀ op x, writes op x → touches op x
  kept : ∀ op s x, ¬ writes op x → (exec op s).2 x = s.2 x
  agree : ∀ op regs mem mem', (∀ x, touches op x → mem x = mem' x) →
    (exec op (regs, mem)).1 = (exec op (regs, mem')).1 ∧
      ∀ x, touches op x → (exec op (regs, mem)).2 x = (exec op (regs, mem')).2 x

namespace Machine

variable {Op Regs A V ι : Type} (M : Machine Op Regs A V)

def run (ops : List Op) (s : Regs × (A → V)) : Regs × (A → V) :=
  ops.foldl (fun s op => M.exec op s) s

@[simp] theorem run_nil (s : Regs × (A → V)) : M.run [] s = s := rfl

@[simp] theorem run_cons (op : Op) (ops : List Op) (s : Regs × (A → V)) :
    M.run (op :: ops) s = M.run ops (M.exec op s) := rfl

theorem run_append (ops ops' : List Op) (s : Regs × (A → V)) :
    M.run (ops ++ ops') s = M.run ops' (M.run ops s) := List.foldl_append ..

def Writes (ops : List Op) (x : A) : Prop := ∃ op ∈ ops, M.writes op x

def Touches (ops : List Op) (x : A) : Prop := ∃ op ∈ ops, M.touches op x

theorem touches_of_Writes {ops : List Op} {x : A} (h : M.Writes ops x) : M.Touches ops x :=
  h.imp fun op hop => ⟨hop.1, M.touches_of_writes op x hop.2⟩

/-- No thread writes what another one touches. -/
def NoRace (code : ι → List Op) : Prop :=
  ∀ i j, i ≠ j → ∀ x, M.Writes (code i) x → ¬ M.Touches (code j) x

/-- **What an interleaving has come to**: every thread is where it would be without the others,
and so is the memory it touches.  The registers of a thread at its end are lost. -/
structure Along (code : ι → List Op) (start : Regs) (before : A → V) (todo : ι → List Op)
    (regs : ι → Regs) (mem : A → V) : Prop where
  thread : ∀ i, ∃ done, done ++ todo i = code i ∧
    (todo i ≠ [] → regs i = (M.run done (start, before)).1) ∧
    ∀ x, M.Touches (code i) x → mem x = (M.run done (start, before)).2 x
  kept : ∀ x, (∀ i, ¬ M.Writes (code i) x) → mem x = before x

variable {M} {code todo : ι → List Op} {start : Regs} {before mem : A → V} {regs : ι → Regs}

theorem Along.initial : M.Along code start before code (fun _ => start) before :=
  ⟨fun _ => ⟨[], rfl, fun _ => rfl, fun _ _ => rfl⟩, fun _ _ => rfl⟩

theorem Along.congr (h : M.Along code start before todo regs mem) {todo' : ι → List Op}
    {regs' : ι → Regs} (htodo : ∀ i, todo' i = todo i)
    (hregs : ∀ i, todo i ≠ [] → regs' i = regs i) :
    M.Along code start before todo' regs' mem := by
  refine ⟨fun i => ?_, h.kept⟩
  obtain ⟨done, hcode, hregs', hmem⟩ := h.thread i
  rw [htodo i]
  exact ⟨done, hcode, fun hne => (hregs i hne).trans (hregs' hne), hmem⟩

section
variable [DecidableEq ι]

/-- **One instruction of a thread.** -/
theorem Along.exec (hrace : M.NoRace code) (h : M.Along code start before todo regs mem) {i : ι}
    {op : Op} {rest : List Op} (htodo : todo i = op :: rest) :
    M.Along code start before (update todo i rest) (update regs i (M.exec op (regs i, mem)).1)
      (M.exec op (regs i, mem)).2 := by
  obtain ⟨done, hcode, hregs, hmem⟩ := h.thread i
  have hop : op ∈ code i := by simp [← hcode, htodo]
  have hregs' := hregs (by simp [htodo])
  obtain ⟨hexec₁, hexec₂⟩ := M.agree op (regs i) mem (M.run done (start, before)).2
    fun x hx => hmem x ⟨op, hop, hx⟩
  have hnext : M.run (done ++ [op]) (start, before) =
      M.exec op (regs i, (M.run done (start, before)).2) := by
    rw [run_append, run_cons, run_nil, hregs']
  constructor
  · intro j
    by_cases hj : j = i
    · subst hj
      rw [update_self, update_self]
      refine ⟨done ++ [op], by simp [← hcode, htodo], fun _ => by rw [hexec₁, hnext], ?_⟩
      intro x hx
      rw [hnext]
      by_cases htouches : M.touches op x
      · exact hexec₂ x htouches
      · have hwrites : ¬ M.writes op x := fun hw => htouches (M.touches_of_writes op x hw)
        rw [M.kept op _ x hwrites, M.kept op _ x hwrites]
        exact hmem x hx
    · rw [update_of_ne hj, update_of_ne hj]
      obtain ⟨done', hcode', hregs'', hmem'⟩ := h.thread j
      refine ⟨done', hcode', hregs'', ?_⟩
      intro x hx
      rw [M.kept op _ x fun hw => hrace i j (Ne.symm hj) x ⟨op, hop, hw⟩ hx]
      exact hmem' x hx
  · intro x hx
    rw [M.kept op _ x fun hw => hx i ⟨op, hop, hw⟩]
    exact h.kept x hx

/-- **A thread to its end.** -/
theorem Along.run (hrace : M.NoRace code) (h : M.Along code start before todo regs mem) (i : ι) :
    ∃ regs', (∀ j, j ≠ i → regs' j = regs j) ∧
      M.Along code start before (update todo i []) regs' (M.run (todo i) (regs i, mem)).2 := by
  generalize htodo : todo i = ops
  induction ops generalizing todo regs mem with
  | nil =>
    refine ⟨regs, fun _ _ => rfl, h.congr (fun j => ?_) fun _ _ => rfl⟩
    rw [← htodo, update_eq_self]
  | cons op ops ih =>
    obtain ⟨regs', hregs', hrun⟩ := ih (h.exec hrace htodo) (update_self ..)
    rw [update_idem, update_self] at hrun
    refine ⟨regs', fun j hj => ?_, hrun⟩
    rw [hregs' j hj, update_of_ne hj]

end

/-- **The memory at the end** is the same for every interleaving. -/
theorem Along.unique (h : M.Along code start before todo regs mem) (hdone : ∀ i, todo i = [])
    {todo' : ι → List Op} {regs' : ι → Regs} {mem' : A → V}
    (h' : M.Along code start before todo' regs' mem') (hdone' : ∀ i, todo' i = []) :
    mem = mem' := by
  funext x
  by_cases hx : ∃ i, M.Writes (code i) x
  · obtain ⟨i, hi⟩ := hx
    obtain ⟨done, hcode, -, hmem⟩ := h.thread i
    obtain ⟨done', hcode', -, hmem'⟩ := h'.thread i
    rw [hdone i, List.append_nil] at hcode
    rw [hdone' i, List.append_nil] at hcode'
    rw [hmem x (M.touches_of_Writes hi), hmem' x (M.touches_of_Writes hi), hcode, hcode']
  · have hnone : ∀ i, ¬ M.Writes (code i) x := fun i hi => hx ⟨i, hi⟩
    rw [h.kept x hnone, h'.kept x hnone]

variable (M) in
/-- The threads one after another. -/
def inOrder (code : ι → List Op) (start : Regs) (threads : List ι) (mem : A → V) : A → V :=
  threads.foldl (fun mem i => (M.run (code i) (start, mem)).2) mem

theorem Along.inOrder [DecidableEq ι] (hrace : M.NoRace code) {threads : List ι}
    (hnodup : threads.Nodup) (h : M.Along code start before todo regs mem)
    (htodo : ∀ i ∈ threads, todo i = code i ∧ regs i = start) :
    ∃ regs', M.Along code start before (fun i => if i ∈ threads then [] else todo i) regs'
      (M.inOrder code start threads mem) := by
  induction threads generalizing todo regs mem with
  | nil => exact ⟨regs, by simpa [Machine.inOrder] using h⟩
  | cons i threads ih =>
    obtain ⟨hnotin, hnodup⟩ := List.nodup_cons.1 hnodup
    obtain ⟨hcode, hregs⟩ := htodo i List.mem_cons_self
    obtain ⟨regs', hregs', hrun⟩ := h.run hrace i
    rw [hcode, hregs] at hrun
    obtain ⟨regs'', hlast⟩ := ih hnodup hrun fun j hj => by
      have hne : j ≠ i := fun heq => hnotin (heq ▸ hj)
      rw [update_of_ne hne, hregs' j hne]
      exact htodo j (List.mem_cons_of_mem _ hj)
    refine ⟨regs'', hlast.congr (fun j => ?_) fun _ _ => rfl⟩
    by_cases hj : j = i
    · simp [hj]
    · simp [hj]

/-- **No interleaving can be told** from the threads one after another. -/
theorem Along.mem_eq [DecidableEq ι] (hrace : M.NoRace code)
    (h : M.Along code start before todo regs mem) (hdone : ∀ i, todo i = [])
    {threads : List ι} (hnodup : threads.Nodup) (hall : ∀ i, i ∈ threads) :
    mem = M.inOrder code start threads before := by
  have hinitial : M.Along code start before code (fun _ => start) before := .initial
  obtain ⟨regs', horder⟩ := hinitial.inOrder hrace hnodup fun _ _ => ⟨rfl, rfl⟩
  exact h.unique hdone horder fun i => if_pos (hall i)

end Machine

end RaceFree
