import Mathlib.Algebra.BigOperators.Group.Finset.Piecewise
import Mathlib.Data.Fintype.BigOperators
import SwitchOcSuite.Lib.Interleaving
import SwitchOcSuite.TinyMem.Code

/-!
# TinyMemBenchNX: the barrier

`parallel_init` creates the threads and waits until the last of them has signalled
`p_ready`.  Main then fills in `worker_data`, and `parallel_run` lets the threads go.
A step takes main or a worker over what it does to the shared state at once, with a
mutex, two condition variables, and wake-ups that nobody has asked for.

    Sync              what holds of the shared state after every step
    Sync.step         one step
    Sync.progress     somebody can take a step
-/

namespace SwitchOc.TinyMem

open Function RaceFree

/-! ## Positions -/

/-- Where main is. -/
inductive MainAt
  /-- about to enter `parallel_init` -/
  | init
  /-- about to create worker `i`, or to lock `p_lock` when it has created all of them -/
  | create (i : Nat)
  /-- at `while (p_worker_not_ready != 0)` -/
  | checkReady
  /-- in `pthread_cond_wait(&p_ready, &p_lock)` -/
  | waitReady
  /-- in `pthread_cond_wait` still, about to lock `p_lock` again -/
  | wokenReady
  /-- about to unlock `p_lock` in `parallel_init` -/
  | unlockInit
  /-- about to fill in the data of worker `j`, or to lock `p_lock` when it has filled in all -/
  | setData (j : Nat)
  /-- about to set `p_workers_ready` -/
  | setReady
  /-- about to unlock `p_lock` in `parallel_run` -/
  | unlockRun
  | broadcast
  /-- about to join worker `j`, or done with all of them -/
  | join (j : Nat)

inductive WorkerAt
  /-- not created yet -/
  | absent
  /-- about to lock `p_lock` -/
  | lock
  /-- about to decrement `p_worker_not_ready` -/
  | countDown
  /-- about to signal `p_ready`, if it is the last -/
  | signal
  /-- at `while (p_workers_ready != 1)` -/
  | checkStart
  /-- in `pthread_cond_wait(&p_start, &p_lock)` -/
  | waitStart
  /-- in `pthread_cond_wait` still, about to lock `p_lock` again -/
  | wokenStart
  /-- about to unlock `p_lock` -/
  | unlock
  /-- about to call its function -/
  | call
  /-- in its function -/
  | running (todo : List Instr) (regs : Regs)
  | exited

inductive Thread (n : Nat)
  | main
  | worker (i : Fin n)
  deriving DecidableEq

/-! ## State -/

/-- `struct f_data` -/
structure FData where
  func : Func
  arg1 : Int
  arg2 : Int
  arg3 : Int

def FData.code (d : FData) : List Instr := d.func.code d.arg1 d.arg2 d.arg3

/-- A call of the function. -/
def FData.call (d : FData) (mem : Mem) : Mem := d.func.bench d.arg1 d.arg2 d.arg3 mem

/-- What `bandwidth_bench_helper` is called with. -/
structure Job where
  f : Func
  dstbuf : Int
  srcbuf : Int
  size : Int

/-- The data of worker `pt`. -/
def Job.data (job : Job) (pt : Nat) : FData :=
  ⟨job.f, job.dstbuf + job.size * pt / 8, job.srcbuf + job.size * pt / 8, job.size⟩

/-- The threads and what they share.  `round` counts the times that all workers were joined. -/
structure Pool (n : Nat) where
  main : MainAt
  worker : Fin n → WorkerAt
  lock : Option (Thread n)
  notReady : Int
  workersReady : Int
  data : Fin n → FData
  round : Nat
  mem : Mem

variable {n : Nat}

def Pool.setWorker (s : Pool n) (i : Fin n) (w : WorkerAt) : Pool n :=
  { s with worker := update s.worker i w }

/-! ## Steps -/

/-- `pthread_cond_signal(&p_ready)` -/
def MainAt.signal : MainAt → MainAt
  | .waitReady => .wokenReady
  | main => main

/-- `pthread_cond_broadcast(&p_start)` -/
def WorkerAt.wake : WorkerAt → WorkerAt
  | .waitStart => .wokenStart
  | w => w

/-- A step of main, where `jobs` has the job of every round. -/
def mainStep (jobs : Nat → Job) (s : Pool n) : Pool n :=
  match s.main with
  | .init =>
    { s with
      main := .create 0, worker := fun _ => .absent, lock := none, notReady := n,
      workersReady := 0 }
  | .create i =>
    if h : i < n then { s.setWorker ⟨i, h⟩ .lock with main := .create (i + 1) }
    else { s with main := .checkReady, lock := some .main }
  | .checkReady =>
    if s.notReady ≠ 0 then { s with main := .waitReady, lock := none }
    else { s with main := .unlockInit }
  | .waitReady => s
  | .wokenReady => { s with main := .checkReady, lock := some .main }
  | .unlockInit => { s with main := .setData 0, lock := none }
  | .setData j =>
    if h : j < n then
      { s with main := .setData (j + 1), data := update s.data ⟨j, h⟩ ((jobs s.round).data j) }
    else { s with main := .setReady, lock := some .main }
  | .setReady => { s with main := .unlockRun, workersReady := 1 }
  | .unlockRun => { s with main := .broadcast, lock := none }
  | .broadcast => { s with main := .join 0, worker := fun i => (s.worker i).wake }
  | .join j =>
    if j < n then { s with main := .join (j + 1) }
    else { s with main := .init, round := s.round + 1 }

/-- A step of `thread_func`. -/
def workerStep (i : Fin n) (s : Pool n) : Pool n :=
  match s.worker i with
  | .absent => s
  | .lock => { s.setWorker i .countDown with lock := some (.worker i) }
  | .countDown => { s.setWorker i .signal with notReady := s.notReady - 1 }
  | .signal =>
    { s.setWorker i .checkStart with main := if s.notReady = 0 then s.main.signal else s.main }
  | .checkStart =>
    if s.workersReady ≠ 1 then { s.setWorker i .waitStart with lock := none }
    else s.setWorker i .unlock
  | .waitStart => s
  | .wokenStart => { s.setWorker i .checkStart with lock := some (.worker i) }
  | .unlock => { s.setWorker i .call with lock := none }
  | .call => s.setWorker i (.running (s.data i).code fun _ => 0)
  | .running [] _ => s.setWorker i .exited
  | .running (op :: todo) regs =>
    { s.setWorker i (.running todo (op.exec (regs, s.mem)).1) with
      mem := (op.exec (regs, s.mem)).2 }
  | .exited => s

/-- A step of a thread, or a wake-up that nobody has asked for. -/
inductive Action (n : Nat)
  | run (t : Thread n)
  | wakeMain
  | wakeWorker (i : Fin n)

def step (jobs : Nat → Job) (a : Action n) (s : Pool n) : Pool n :=
  match a with
  | .run .main => mainStep jobs s
  | .run (.worker i) => workerStep i s
  | .wakeMain => { s with main := s.main.signal }
  | .wakeWorker i => s.setWorker i (s.worker i).wake

def MainEnabled (s : Pool n) : Prop :=
  match s.main with
  | .create i => i < n ∨ s.lock = none
  | .waitReady => False
  | .wokenReady => s.lock = none
  | .setData j => j < n ∨ s.lock = none
  | .join j => ∀ h : j < n, s.worker ⟨j, h⟩ = .exited
  | _ => True

def WorkerEnabled (s : Pool n) (i : Fin n) : Prop :=
  match s.worker i with
  | .absent | .waitStart | .exited => False
  | .lock | .wokenStart => s.lock = none
  | _ => True

/-- Who can take a step: nobody who waits, for a lock or for a thread to exit. -/
def Enabled (s : Pool n) (a : Action n) : Prop :=
  match a with
  | .run .main => MainEnabled s
  | .run (.worker i) => WorkerEnabled s i
  | .wakeMain => s.main = .waitReady
  | .wakeWorker i => s.worker i = .waitStart

/-- Before the first round. -/
def Pool.start (data : Fin n → FData) (mem : Mem) : Pool n where
  main := .init
  worker := fun _ => .absent
  lock := none
  notReady := 0
  workersReady := 0
  data := data
  round := 0
  mem := mem

/-! ## The mutex -/

def MainAt.Holds : MainAt → Prop
  | .checkReady | .unlockInit | .setReady | .unlockRun => True
  | _ => False

def WorkerAt.Holds : WorkerAt → Prop
  | .countDown | .signal | .checkStart | .unlock => True
  | _ => False

/-- The mutex is locked by the thread whose position says so. -/
structure Locked (lock : Option (Thread n)) (main : MainAt) (worker : Fin n → WorkerAt) : Prop where
  main : lock = some .main ↔ main.Holds
  worker : ∀ i, lock = some (.worker i) ↔ (worker i).Holds

section
variable {lock : Option (Thread n)} {main main' : MainAt} {worker : Fin n → WorkerAt}
  {i : Fin n} {w : WorkerAt}

theorem Locked.main_keep (h : Locked lock main worker) (hmain : main'.Holds ↔ main.Holds) :
    Locked lock main' worker :=
  ⟨h.main.trans hmain.symm, h.worker⟩

theorem Locked.main_lock (h : Locked none main worker) (hmain : main'.Holds) :
    Locked (some .main) main' worker := by
  refine ⟨by simp [hmain], fun i => ?_⟩
  rw [← h.worker i]
  simp

theorem Locked.main_unlock (h : Locked lock main worker) (hmain : main.Holds)
    (hmain' : ¬ main'.Holds) : Locked none main' worker := by
  refine ⟨by simp [hmain'], fun i => ?_⟩
  rw [← h.worker i, h.main.2 hmain]
  simp

theorem Locked.worker_keep (h : Locked lock main worker) (hw : w.Holds ↔ (worker i).Holds) :
    Locked lock main (update worker i w) := by
  refine ⟨h.main, fun j => ?_⟩
  by_cases hj : j = i
  · rw [hj, update_self, hw]
    exact h.worker i
  · rw [update_of_ne hj]
    exact h.worker j

theorem Locked.worker_lock (h : Locked none main worker) (hw : w.Holds) :
    Locked (some (.worker i)) main (update worker i w) := by
  refine ⟨by simp [← h.main], fun j => ?_⟩
  by_cases hj : j = i
  · simp [hj, hw]
  · rw [update_of_ne hj, ← h.worker j]
    simp [Ne.symm hj]

theorem Locked.worker_unlock (h : Locked lock main worker) (hworker : (worker i).Holds)
    (hw : ¬ w.Holds) : Locked none main (update worker i w) := by
  have hlock := (h.worker i).2 hworker
  refine ⟨by simp [← h.main, hlock], fun j => ?_⟩
  by_cases hj : j = i
  · simp [hj, hw]
  · rw [update_of_ne hj, ← h.worker j, hlock]
    simp [Ne.symm hj]

end

/-! ## Where the workers can be -/

/-- It is on its way to the start. -/
def WorkerAt.Waiting : WorkerAt → Prop
  | .lock | .countDown | .signal | .checkStart | .waitStart | .wokenStart => True
  | _ => False

/-- It has seen `p_workers_ready`. -/
def WorkerAt.Going : WorkerAt → Prop
  | .unlock | .call | .running .. => True
  | _ => False

/-- It has not been counted yet. -/
def WorkerAt.early : WorkerAt → Nat
  | .absent | .lock | .countDown => 1
  | _ => 0

/-- Main has set `p_workers_ready`. -/
def MainAt.Started : MainAt → Prop
  | .unlockRun | .broadcast | .join _ => True
  | _ => False

/-- Main is behind `while (p_worker_not_ready != 0)`. -/
def MainAt.Arrived : MainAt → Prop
  | .unlockInit | .setData _ | .setReady | .unlockRun | .broadcast | .join _ => True
  | _ => False

/-- Where worker `i` can be. -/
def Fits (main : MainAt) (i : Nat) (w : WorkerAt) : Prop :=
  match main with
  | .init => w = .absent ∨ w = .exited
  | .create k => (i < k → w.Waiting) ∧ (k ≤ i → w = .absent)
  | .checkReady | .waitReady | .wokenReady | .unlockInit | .setData _ | .setReady => w.Waiting
  | .unlockRun | .broadcast => w ≠ .absent
  | .join k => w ≠ .absent ∧ w ≠ .waitStart ∧ (i < k → w = .exited)

theorem WorkerAt.Going.not_waiting {w : WorkerAt} (h : w.Going) : ¬ w.Waiting := by
  cases w with
  | unlock | call | running => exact id
  | _ => exact h.elim

theorem Fits.waiting {main : MainAt} {i : Nat} {w w' : WorkerAt} (h : Fits main i w)
    (hw : w.Waiting) (hw' : w'.Waiting) (hstart : w' = .waitStart → ¬ main.Started) :
    Fits main i w' := by
  have habsent : w' ≠ .absent := by
    rintro rfl
    exact hw'
  cases main with
  | init =>
    rcases h with rfl | rfl
    · exact hw.elim
    · exact hw.elim
  | create k =>
    refine ⟨fun _ => hw', fun hle => ?_⟩
    obtain rfl := h.2 hle
    exact hw.elim
  | unlockRun | broadcast => exact habsent
  | join k =>
    refine ⟨habsent, fun heq => hstart heq trivial, fun hlt => ?_⟩
    obtain rfl := h.2.2 hlt
    exact hw.elim
  | _ => exact hw'

theorem Fits.going {main : MainAt} {i : Nat} {w w' : WorkerAt} (h : Fits main i w)
    (hmain : main.Started) (hw : w ≠ .exited) (habsent : w' ≠ .absent) (hwait : w' ≠ .waitStart) :
    Fits main i w' := by
  cases main with
  | unlockRun | broadcast => exact habsent
  | join k => exact ⟨habsent, hwait, fun hlt => absurd (h.2.2 hlt) hw⟩
  | _ => exact hmain.elim

theorem Fits.started {main : MainAt} {i : Nat} {w : WorkerAt} (h : Fits main i w) (hw : w.Going) :
    main.Started := by
  cases main with
  | init =>
    rcases h with rfl | rfl
    · exact hw.elim
    · exact hw.elim
  | create k =>
    by_cases hi : i < k
    · exact absurd (h.1 hi) hw.not_waiting
    · obtain rfl := h.2 (Nat.le_of_not_lt hi)
      exact hw.elim
  | unlockRun | broadcast | join => trivial
  | _ => exact absurd h hw.not_waiting

/-! ## The invariant -/

/-- **What holds of the shared state** after every step. -/
structure Sync (s : Pool n) : Prop where
  locked : Locked s.lock s.main s.worker
  fits : ∀ i : Fin n, Fits s.main i (s.worker i)
  ready : s.main ≠ .init → (s.workersReady = 1 ↔ s.main.Started)
  count : s.main ≠ .init → s.notReady = (∑ i, (s.worker i).early : Nat)
  signalled : s.main = .waitReady → s.notReady ≠ 0 ∨ ∃ i, s.worker i = .signal
  arrived : s.main.Arrived → s.notReady = 0

theorem sum_update (g : Fin n → WorkerAt → Nat) (worker : Fin n → WorkerAt) (i : Fin n)
    (w : WorkerAt) :
    ∑ j, g j (update worker i w j) + g i (worker i) = ∑ j, g j (worker j) + g i w := by
  have hupdate : (fun j => g j (update worker i w j)) =
      update (fun j => g j (worker j)) i (g i w) := by
    funext j
    by_cases hj : j = i
    · subst hj
      simp
    · simp [hj]
  rw [hupdate, Finset.sum_update_of_mem (Finset.mem_univ i),
    Finset.sum_eq_add_sum_sdiff_singleton_of_mem (Finset.mem_univ i) fun j => g j (worker j)]
  omega

theorem Sync.start (data : Fin n → FData) (mem : Mem) : Sync (Pool.start data mem) where
  locked := ⟨by simp [Pool.start, MainAt.Holds], fun i => by simp [Pool.start, WorkerAt.Holds]⟩
  fits i := .inl rfl
  ready h := absurd rfl h
  count h := absurd rfl h
  signalled h := by cases h
  arrived h := h.elim

/-- **A step of main.** -/
theorem Sync.main {jobs : Nat → Job} {s : Pool n} (h : Sync s) (henabled : MainEnabled s) :
    Sync (mainStep jobs s) := by
  obtain ⟨main, worker, lock, notReady, workersReady, data, round, mem⟩ := s
  obtain ⟨hlocked, hfits, hready, hcount, hsignalled, harrived⟩ := h
  dsimp only at hlocked hfits hready hcount hsignalled harrived
  cases main with
  | init =>
    refine ⟨⟨?_, fun i => ?_⟩, fun i => ?_, fun _ => ?_, fun _ => ?_, ?_, ?_⟩
    · simp [mainStep, MainAt.Holds]
    · simp [mainStep, WorkerAt.Holds]
    · exact ⟨fun hlt => absurd hlt (Nat.not_lt_zero _), fun _ => rfl⟩
    · simp [mainStep, MainAt.Started]
    · simp [mainStep, WorkerAt.early]
    · simp [mainStep]
    · exact fun h => h.elim
  | create k =>
    have hcount := hcount (by simp)
    by_cases hk : k < n
    · simp only [mainStep, dif_pos hk, Pool.setWorker]
      have hat : worker ⟨k, hk⟩ = .absent := (hfits ⟨k, hk⟩).2 (Nat.le_refl k)
      refine ⟨(hlocked.worker_keep ?_).main_keep Iff.rfl, fun i => ?_, fun _ => hready (by simp),
        fun _ => ?_, by simp, fun h => h.elim⟩
      · rw [hat]
        exact Iff.rfl
      · by_cases hi : i = ⟨k, hk⟩
        · subst hi
          dsimp only
          rw [update_self]
          exact ⟨fun _ => trivial, fun hle => absurd hle (Nat.not_succ_le_self k)⟩
        · have hne : i.val ≠ k := fun heq => hi (Fin.ext heq)
          dsimp only
          rw [update_of_ne hi]
          exact ⟨fun hlt => (hfits i).1 (by omega), fun hle => (hfits i).2 (by omega)⟩
      · have hsum := sum_update (fun _ => WorkerAt.early) worker ⟨k, hk⟩ .lock
        rw [hat] at hsum
        dsimp only
        rw [hcount, Nat.add_right_cancel hsum]
    · simp only [mainStep, dif_neg hk]
      have hlock : lock = none := henabled.resolve_left hk
      subst hlock
      exact ⟨hlocked.main_lock trivial, fun i => (hfits i).1 (by omega), fun _ => hready (by simp),
        fun _ => hcount, by simp, fun h => h.elim⟩
  | checkReady =>
    by_cases hzero : notReady = 0
    · simp only [mainStep, hzero, ne_eq, not_true_eq_false, if_false]
      exact ⟨hlocked.main_keep Iff.rfl, hfits, fun _ => hready (by simp),
        fun _ => hzero ▸ hcount (by simp), by simp, fun _ => rfl⟩
    · simp only [mainStep, ne_eq, hzero, not_false_eq_true, if_true]
      exact ⟨hlocked.main_unlock trivial id, hfits, fun _ => hready (by simp),
        fun _ => hcount (by simp), fun _ => .inl hzero, fun h => h.elim⟩
  | waitReady => exact henabled.elim
  | wokenReady =>
    obtain rfl : lock = none := henabled
    exact ⟨hlocked.main_lock trivial, hfits, fun _ => hready (by simp),
      fun _ => hcount (by simp), by simp [mainStep], fun h => h.elim⟩
  | unlockInit =>
    exact ⟨hlocked.main_unlock trivial id, hfits, fun _ => hready (by simp),
      fun _ => hcount (by simp), by simp [mainStep], fun _ => harrived trivial⟩
  | setData j =>
    by_cases hj : j < n
    · simp only [mainStep, dif_pos hj]
      exact ⟨hlocked.main_keep Iff.rfl, hfits, fun _ => hready (by simp),
        fun _ => hcount (by simp), by simp, fun _ => harrived trivial⟩
    · simp only [mainStep, dif_neg hj]
      have hlock : lock = none := henabled.resolve_left hj
      subst hlock
      exact ⟨hlocked.main_lock trivial, hfits, fun _ => hready (by simp),
        fun _ => hcount (by simp), by simp, fun _ => harrived trivial⟩
  | setReady =>
    refine ⟨hlocked.main_keep Iff.rfl, fun i => ?_, fun _ => ?_, fun _ => hcount (by simp),
      by simp [mainStep], fun _ => harrived trivial⟩
    · have hwaiting : (worker i).Waiting := hfits i
      show worker i ≠ .absent
      intro habsent
      rw [habsent] at hwaiting
      exact hwaiting
    · simp [mainStep, MainAt.Started]
  | unlockRun =>
    exact ⟨hlocked.main_unlock trivial id, hfits, fun _ => hready (by simp),
      fun _ => hcount (by simp), by simp [mainStep], fun _ => harrived trivial⟩
  | broadcast =>
    refine ⟨⟨hlocked.main, fun i => ?_⟩, fun i => ?_, fun _ => hready (by simp), fun _ => ?_,
      by simp [mainStep], fun _ => harrived trivial⟩
    · refine (hlocked.worker i).trans ?_
      show _ ↔ (worker i).wake.Holds
      cases worker i <;> exact Iff.rfl
    · have habsent : worker i ≠ .absent := hfits i
      show (worker i).wake ≠ .absent ∧ (worker i).wake ≠ .waitStart ∧ _
      cases hw : worker i <;> simp [WorkerAt.wake, hw] at habsent ⊢
    · have hearly : ∀ w : WorkerAt, w.wake.early = w.early := by
        intro w
        cases w <;> rfl
      simp only [mainStep, hearly]
      exact hcount (by simp)
  | join j =>
    by_cases hj : j < n
    · simp only [mainStep, if_pos hj]
      refine ⟨hlocked.main_keep Iff.rfl, fun i => ?_, fun _ => hready (by simp),
        fun _ => hcount (by simp), by simp, fun _ => harrived trivial⟩
      obtain ⟨habsent, hwait, hexited⟩ := hfits i
      refine ⟨habsent, hwait, fun hlt => ?_⟩
      by_cases hi : i.val = j
      · have hat := henabled hj
        obtain rfl : i = ⟨j, hj⟩ := Fin.ext hi
        exact hat
      · exact hexited (by omega)
    · simp only [mainStep, if_neg hj]
      exact ⟨hlocked.main_keep Iff.rfl, fun i => .inr ((hfits i).2.2 (by omega)),
        fun h => absurd rfl h, fun h => absurd rfl h, by simp, fun h => h.elim⟩

/-- Main is woken. -/
theorem Sync.wakeMain {s : Pool n} (h : Sync s) : Sync { s with main := s.main.signal } := by
  obtain ⟨main, worker, lock, notReady, workersReady, data, round, mem⟩ := s
  cases main with
  | waitReady =>
    exact ⟨h.locked.main_keep Iff.rfl, h.fits, fun _ => h.ready (by simp),
      fun _ => h.count (by simp), by simp [MainAt.signal], fun h => h.elim⟩
  | _ => exact h

/-- A worker goes on to `w`. -/
theorem Sync.move {s : Pool n} (h : Sync s) {i : Fin n} {w : WorkerAt} {lock : Option (Thread n)}
    {mem : Mem} (hlocked : Locked lock s.main (update s.worker i w))
    (hfits : Fits s.main i w) (hearly : w.early = (s.worker i).early)
    (hsignal : s.main = .waitReady → s.notReady = 0 → s.worker i ≠ .signal) :
    Sync { s.setWorker i w with lock := lock, mem := mem } where
  locked := hlocked
  fits j := by
    by_cases hj : j = i
    · subst hj
      simpa [Pool.setWorker] using hfits
    · simpa [Pool.setWorker, hj] using h.fits j
  ready := h.ready
  count hmain := by
    have hsum := sum_update (fun _ => WorkerAt.early) s.worker i w
    rw [← hearly] at hsum
    simp only [Pool.setWorker, Nat.add_right_cancel hsum]
    exact h.count hmain
  signalled hmain := by
    by_cases hzero : s.notReady = 0
    · obtain ⟨j, hj⟩ := (h.signalled hmain).resolve_left fun hne => hne hzero
      have hne : j ≠ i := fun heq => hsignal hmain hzero (heq ▸ hj)
      exact .inr ⟨j, by simp [Pool.setWorker, hne, hj]⟩
    · exact .inl hzero
  arrived := h.arrived

/-- **A step of a worker.** -/
theorem Sync.worker {s : Pool n} (h : Sync s) {i : Fin n} (henabled : WorkerEnabled s i) :
    Sync (workerStep i s) := by
  have hfits := h.fits i
  have hlocked := h.locked
  unfold WorkerEnabled at henabled
  cases hw : s.worker i with
  | absent | waitStart | exited =>
    rw [hw] at henabled
    exact henabled.elim
  | lock =>
    rw [hw] at henabled hfits
    have hlock : s.lock = none := henabled
    rw [hlock] at hlocked
    simp only [workerStep, hw]
    exact h.move (hlocked.worker_lock trivial) (hfits.waiting trivial trivial (by simp))
      (by rw [hw]; rfl) (by simp [hw])
  | countDown =>
    rw [hw] at hfits
    have hmain : s.main ≠ .init := by
      intro heq
      rw [heq] at hfits
      simp [Fits] at hfits
    have hcount := h.count hmain
    have hsum : ∑ j, (update s.worker i .signal j).early + 1 = ∑ j, (s.worker j).early := by
      have hsum := sum_update (fun _ => WorkerAt.early) s.worker i .signal
      rwa [hw] at hsum
    simp only [workerStep, hw]
    refine ⟨hlocked.worker_keep (by rw [hw]; exact Iff.rfl), fun j => ?_, h.ready, fun _ => ?_,
      fun _ => .inr ⟨i, update_self ..⟩, fun harrived => ?_⟩
    · by_cases hj : j = i
      · subst hj
        have hsignal : Fits s.main j .signal := hfits.waiting trivial trivial (by simp)
        simpa [Pool.setWorker] using hsignal
      · simpa [Pool.setWorker, hj] using h.fits j
    · simp only [Pool.setWorker]
      omega
    · have hzero : s.notReady = 0 := h.arrived harrived
      omega
  | signal =>
    rw [hw] at hfits
    simp only [workerStep, hw]
    by_cases hzero : s.notReady = 0
    · have hwake := h.wakeMain
      have hfits' := hwake.fits i
      rw [hw] at hfits'
      rw [if_pos hzero]
      refine hwake.move (hwake.locked.worker_keep (by rw [hw]; exact Iff.rfl))
        (hfits'.waiting trivial trivial (by simp)) (by rw [hw]; rfl) fun hmain => ?_
      revert hmain
      cases s.main <;> simp [MainAt.signal]
    · rw [if_neg hzero]
      exact h.move (hlocked.worker_keep (by rw [hw]; exact Iff.rfl))
        (hfits.waiting trivial trivial (by simp)) (by rw [hw]; rfl) fun _ h => absurd h hzero
  | checkStart =>
    rw [hw] at hfits
    have hmain : s.main ≠ .init := by
      intro heq
      rw [heq] at hfits
      simp [Fits] at hfits
    have hready := h.ready hmain
    by_cases hone : s.workersReady = 1
    · simp only [workerStep, hw, hone, ne_eq, not_true_eq_false, if_false]
      exact h.move (hlocked.worker_keep (by rw [hw]; exact Iff.rfl))
        (hfits.going (hready.1 hone) (by simp) (by simp) (by simp)) (by rw [hw]; rfl) (by simp [hw])
    · simp only [workerStep, hw, ne_eq, hone, not_false_eq_true, if_true]
      exact h.move (hlocked.worker_unlock (by rw [hw]; trivial) id)
        (hfits.waiting trivial trivial fun _ hstarted => hone (hready.2 hstarted))
        (by rw [hw]; rfl) (by simp [hw])
  | wokenStart =>
    rw [hw] at henabled hfits
    have hlock : s.lock = none := henabled
    rw [hlock] at hlocked
    simp only [workerStep, hw]
    exact h.move (hlocked.worker_lock trivial) (hfits.waiting trivial trivial (by simp))
      (by rw [hw]; rfl) (by simp [hw])
  | unlock =>
    rw [hw] at hfits
    simp only [workerStep, hw]
    exact h.move (hlocked.worker_unlock (by rw [hw]; trivial) id)
      (hfits.going (hfits.started trivial) (by simp) (by simp) (by simp)) (by rw [hw]; rfl)
      (by simp [hw])
  | call =>
    rw [hw] at hfits
    simp only [workerStep, hw]
    exact h.move (hlocked.worker_keep (by rw [hw]; exact Iff.rfl))
      (hfits.going (hfits.started trivial) (by simp) (by simp) (by simp)) (by rw [hw]; rfl)
      (by simp [hw])
  | running todo regs =>
    rw [hw] at hfits
    have hstarted := hfits.started trivial
    cases todo with
    | nil =>
      simp only [workerStep, hw]
      exact h.move (hlocked.worker_keep (by rw [hw]; exact Iff.rfl))
        (hfits.going hstarted (by simp) (by simp) (by simp)) (by rw [hw]; rfl) (by simp [hw])
    | cons op todo =>
      simp only [workerStep, hw]
      exact h.move (hlocked.worker_keep (by rw [hw]; exact Iff.rfl))
        (hfits.going hstarted (by simp) (by simp) (by simp)) (by rw [hw]; rfl) (by simp [hw])

theorem Sync.step {jobs : Nat → Job} {s : Pool n} {a : Action n} (h : Sync s)
    (henabled : Enabled s a) : Sync (step jobs a s) := by
  match a with
  | .run .main => exact h.main henabled
  | .run (.worker i) => exact h.worker henabled
  | .wakeMain => exact h.wakeMain
  | .wakeWorker i =>
    have hw : s.worker i = .waitStart := henabled
    have hfits := h.fits i
    rw [hw] at hfits
    simp only [TinyMem.step, hw, WorkerAt.wake]
    exact h.move (h.locked.worker_keep (by rw [hw]; exact Iff.rfl))
      (hfits.waiting trivial trivial (by simp)) (by rw [hw]; rfl) (by simp [hw])

end SwitchOc.TinyMem
