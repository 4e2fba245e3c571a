import Mathlib.Algebra.Order.BigOperators.Group.Finset
import SwitchOcSuite.TinyMem.Rounds

/-!
# TinyMemBenchNX: the threads come to an end

Some thread can always take a step.  Every step of a thread takes it nearer to the end of
the round, and a wake-up takes it back by two, so that a round is over after a number of
steps that depends on the benchmark.

    no_deadlock      nobody waits for ever
    round_bounded    the steps of a round
-/

namespace SwitchOc.TinyMem

open Function Interleaving

variable {n : Nat}

/-! ## Deadlock -/

/-- What a worker has yet to do, where its code has `len` instructions. -/
def WorkerAt.rank (len : Nat) : WorkerAt → Nat
  | .absent => 12 + len
  | .lock => 11 + len
  | .countDown => 10 + len
  | .signal => 9 + len
  | .wokenStart => 6 + len
  | .checkStart => 5 + len
  | .waitStart => 4 + len
  | .unlock => 3 + len
  | .call => 2 + len
  | .running todo _ => 1 + todo.length
  | .exited => 0

/-- What main has yet to do.  The broadcast wakeUps every worker. -/
def MainAt.rank (n : Nat) : MainAt → Nat
  | .init => 5 * n + 10
  | .create i => 4 * n + 9 + (n - i)
  | .wokenReady => 4 * n + 9
  | .checkReady => 4 * n + 8
  | .waitReady => 4 * n + 7
  | .unlockInit => 4 * n + 6
  | .setData j => 3 * n + 5 + (n - j)
  | .setReady => 3 * n + 4
  | .unlockRun => 3 * n + 3
  | .broadcast => 3 * n + 2
  | .join j => n - j + 1

/-- The length of the code of a worker. -/
def Job.len (job : Job) (pt : Nat) : Nat := (job.data pt).code.length

/-- All workers are created anew at the beginning of a round. -/
def MainAt.workers (worker : Fin n → WorkerAt) : MainAt → Fin n → WorkerAt
  | .init => fun _ => .absent
  | _ => worker

def toGo (jobs : Nat → Job) (s : Pool n) : Nat :=
  s.main.rank n + ∑ i, (s.main.workers s.worker i).rank ((jobs s.round).len i)

section
variable {jobs : Nat → Job} {s : Pool n}

theorem toGo_eq (hmain : s.main ≠ .init) :
    toGo jobs s = s.main.rank n + ∑ i, (s.worker i).rank ((jobs s.round).len i) := by
  unfold toGo
  cases h : s.main with
  | init => exact absurd h hmain
  | _ => rfl

theorem toGo_move (hmain : s.main ≠ .init) (i : Fin n) (w : WorkerAt) :
    toGo jobs (s.setWorker i w) + (s.worker i).rank ((jobs s.round).len i) =
      toGo jobs s + w.rank ((jobs s.round).len i) := by
  have hsum := sum_update (fun j => WorkerAt.rank ((jobs s.round).len j)) s.worker i w
  rw [toGo_eq hmain, toGo_eq (by exact hmain)]
  dsimp only [Pool.setWorker]
  omega

theorem toGo_lt (hmain : s.main ≠ .init) {i : Fin n} {w : WorkerAt} {lock : Option (Thread n)}
    {notReady : Int} {mem : Mem}
    (hlt : w.rank ((jobs s.round).len i) < (s.worker i).rank ((jobs s.round).len i)) :
    toGo jobs { s.setWorker i w with lock := lock, notReady := notReady, mem := mem } <
      toGo jobs s := by
  have hmove : toGo jobs (s.setWorker i w) + (s.worker i).rank ((jobs s.round).len i) =
      toGo jobs s + w.rank ((jobs s.round).len i) := toGo_move hmain i w
  show toGo jobs (s.setWorker i w) < _
  omega

theorem WorkerAt.rank_wake (len : Nat) (w : WorkerAt) : w.wake.rank len ≤ w.rank len + 2 := by
  cases w with
  | waitStart =>
    simp only [WorkerAt.wake, WorkerAt.rank]
    omega
  | _ => exact Nat.le_add_right _ 2

theorem toGo_wakeMain : toGo jobs { s with main := s.main.signal } ≤ toGo jobs s + 2 := by
  unfold toGo
  cases s.main with
  | waitReady =>
    simp only [MainAt.signal, MainAt.rank, MainAt.workers]
    omega
  | _ => exact Nat.le_add_right _ 2

/-- **A step of main**, that does not end the round. -/
theorem toGo_main (hsync : Sync s) (henabled : MainEnabled s)
    (hround : (mainStep jobs s).round = s.round) : toGo jobs (mainStep jobs s) < toGo jobs s := by
  have hfits := hsync.fits
  obtain ⟨main, worker, lock, notReady, workersReady, data, round, mem⟩ := s
  dsimp only at hfits
  cases main with
  | init =>
    simp only [toGo, mainStep, MainAt.rank, MainAt.workers]
    omega
  | create k =>
    by_cases hk : k < n
    · have hat : worker ⟨k, hk⟩ = .absent := (hfits ⟨k, hk⟩).2 (Nat.le_refl k)
      have hsum : ∑ j, (update worker ⟨k, hk⟩ .lock j).rank ((jobs round).len j) +
          (12 + (jobs round).len k) =
            ∑ j, (worker j).rank ((jobs round).len j) + (11 + (jobs round).len k) := by
        have hsum := sum_update (fun j => WorkerAt.rank ((jobs round).len j)) worker ⟨k, hk⟩ .lock
        rwa [hat] at hsum
      simp only [toGo, mainStep, dif_pos hk, MainAt.rank, MainAt.workers, Pool.setWorker]
      omega
    · simp only [toGo, mainStep, dif_neg hk, MainAt.rank, MainAt.workers]
      omega
  | waitReady => exact henabled.elim
  | checkReady =>
    simp only [mainStep]
    split
    · simp only [toGo, MainAt.rank, MainAt.workers]
      omega
    · simp only [toGo, MainAt.rank, MainAt.workers]
      omega
  | wokenReady | unlockInit | setReady | unlockRun =>
    simp only [toGo, mainStep, MainAt.rank, MainAt.workers]
    omega
  | setData j =>
    by_cases hj : j < n
    · simp only [toGo, mainStep, dif_pos hj, MainAt.rank, MainAt.workers]
      omega
    · simp only [toGo, mainStep, dif_neg hj, MainAt.rank, MainAt.workers]
      omega
  | broadcast =>
    have hwake : ∑ i, ((worker i).wake).rank ((jobs round).len i) ≤
        ∑ i, ((worker i).rank ((jobs round).len i) + 2) :=
      Finset.sum_le_sum fun i _ => WorkerAt.rank_wake _ _
    have htwo : ∑ _i : Fin n, 2 = n * 2 := by
      rw [Finset.sum_const_nat fun _ _ => rfl, Finset.card_univ, Fintype.card_fin]
    rw [Finset.sum_add_distrib, htwo] at hwake
    simp only [toGo, mainStep, MainAt.rank, MainAt.workers]
    omega
  | join j =>
    by_cases hj : j < n
    · simp only [toGo, mainStep, if_pos hj, MainAt.rank, MainAt.workers]
      omega
    · simp only [mainStep, if_neg hj] at hround
      omega

/-- **A step of a worker.** -/
theorem toGo_worker {before : Mem} (hsync : Sync s) (hshared : Shared jobs before s) {i : Fin n}
    (henabled : WorkerEnabled s i) :
    (workerStep i s).round = s.round ∧ toGo jobs (workerStep i s) < toGo jobs s := by
  have hfits := hsync.fits i
  have hmain : s.main ≠ .init := by
    intro heq
    rw [heq] at hfits
    unfold WorkerEnabled at henabled
    rcases hfits with hw | hw
    · rw [hw] at henabled
      exact henabled
    · rw [hw] at henabled
      exact henabled
  unfold WorkerEnabled at henabled
  cases hw : s.worker i with
  | absent | waitStart | exited =>
    rw [hw] at henabled
    exact henabled.elim
  | lock | countDown | wokenStart | unlock =>
    simp only [workerStep, hw]
    refine ⟨rfl, toGo_lt hmain ?_⟩
    rw [hw]
    simp only [WorkerAt.rank]
    omega
  | signal =>
    simp only [workerStep, hw]
    refine ⟨rfl, ?_⟩
    have hwake : toGo jobs { s with main := s.main.signal } ≤ toGo jobs s + 2 := toGo_wakeMain
    have hsignal : s.main.signal ≠ .init := by
      revert hmain
      cases s.main <;> simp [MainAt.signal]
    by_cases hzero : s.notReady = 0
    · rw [if_pos hzero]
      have hmove : toGo jobs ({ s with main := s.main.signal }.setWorker i .checkStart) +
          (s.worker i).rank ((jobs s.round).len i) =
            toGo jobs { s with main := s.main.signal } +
              WorkerAt.checkStart.rank ((jobs s.round).len i) := toGo_move hsignal i _
      rw [hw] at hmove
      simp only [WorkerAt.rank] at hmove
      show toGo jobs ({ s with main := s.main.signal }.setWorker i .checkStart) < _
      omega
    · rw [if_neg hzero]
      refine toGo_lt hmain ?_
      rw [hw]
      simp only [WorkerAt.rank]
      omega
  | checkStart =>
    simp only [workerStep, hw]
    split
    · refine ⟨rfl, toGo_lt hmain ?_⟩
      rw [hw]
      simp only [WorkerAt.rank]
      omega
    · refine ⟨rfl, toGo_lt hmain ?_⟩
      rw [hw]
      simp only [WorkerAt.rank]
      omega
  | call =>
    rw [hw] at hfits
    have hdata := hshared.data i ((hfits.started trivial).set i)
    simp only [workerStep, hw, hdata]
    refine ⟨rfl, toGo_lt hmain ?_⟩
    rw [hw]
    simp only [WorkerAt.rank, Job.len]
    omega
  | running todo regs =>
    cases todo with
    | nil =>
      simp only [workerStep, hw]
      refine ⟨rfl, toGo_lt hmain ?_⟩
      rw [hw]
      exact Nat.zero_lt_one
    | cons op todo =>
      simp only [workerStep, hw]
      refine ⟨rfl, toGo_lt hmain ?_⟩
      rw [hw]
      simp only [WorkerAt.rank, List.length_cons]
      omega

/-! ## A round -/

/-- Whether a thread takes the step. -/
def Action.isRun : Action n → Bool
  | .run _ => true
  | _ => false

theorem round_le_step (jobs : Nat → Job) (a : Action n) (s : Pool n) :
    s.round ≤ (step jobs a s).round := by
  match a with
  | .run .main =>
    show _ ≤ (mainStep jobs s).round
    unfold mainStep
    split
    case h_2 | h_3 | h_7 => split <;> exact Nat.le_refl _
    case h_11 =>
      split
      · exact Nat.le_refl _
      · exact Nat.le_succ _
    all_goals exact Nat.le_refl _
  | .run (.worker i) =>
    show _ ≤ (workerStep i s).round
    unfold workerStep
    split
    case h_5 => split <;> exact Nat.le_refl _
    all_goals exact Nat.le_refl _
  | .wakeMain => exact Nat.le_refl _
  | .wakeWorker i => exact Nat.le_refl _

theorem round_le_play (jobs : Nat → Job) (as : List (Action n)) (s : Pool n) :
    s.round ≤ (play (step jobs) as s).round := by
  induction as generalizing s with
  | nil => exact Nat.le_refl _
  | cons a as ih => exact Nat.le_trans (round_le_step jobs a s) (ih _)

/-- **A step of a thread** that does not end the round takes the threads nearer to its end. -/
theorem toGo_run {before : Mem} (hsync : Sync s) (hshared : Shared jobs before s) {t : Thread n}
    (henabled : Enabled s (.run t)) (hround : (step jobs (.run t) s).round = s.round) :
    toGo jobs (step jobs (.run t) s) < toGo jobs s := by
  cases t with
  | main => exact toGo_main hsync henabled hround
  | worker i => exact (toGo_worker hsync hshared henabled).2

/-- **A wake-up** takes them back by two. -/
theorem toGo_wake (hsync : Sync s) {a : Action n} (henabled : Enabled s a)
    (hwake : a.isRun = false) : toGo jobs (step jobs a s) ≤ toGo jobs s + 2 := by
  match a with
  | .wakeMain => exact toGo_wakeMain
  | .wakeWorker i =>
    have hw : s.worker i = .waitStart := henabled
    have hmain : s.main ≠ .init := by
      intro heq
      have hfits := hsync.fits i
      rw [heq, hw] at hfits
      simp [Fits] at hfits
    have hmove : toGo jobs (s.setWorker i .wokenStart) + (s.worker i).rank ((jobs s.round).len i) =
        toGo jobs s + WorkerAt.wokenStart.rank ((jobs s.round).len i) := toGo_move hmain i _
    rw [hw] at hmove
    simp only [WorkerAt.rank] at hmove
    simp only [step, hw, WorkerAt.wake]
    omega

/-- The steps of the threads, and the wake-ups. -/
def threadSteps (as : List (Action n)) : Nat := as.countP Action.isRun

def wakeUps (as : List (Action n)) : Nat := as.countP fun a => !a.isRun

theorem toGo_play (hjobs : ∀ r, (jobs r).Apart n) {before : Mem} {as : List (Action n)}
    (hsync : Sync s) (hshared : Shared jobs before s) (hruns : Runs (step jobs) Enabled as s)
    (hround : (play (step jobs) as s).round = s.round) :
    threadSteps as + toGo jobs (play (step jobs) as s) ≤ toGo jobs s + 2 * wakeUps as := by
  induction as generalizing s with
  | nil => simp [threadSteps, wakeUps, play]
  | cons a as ih =>
    obtain ⟨henabled, hruns⟩ := hruns
    have hle := round_le_step jobs a s
    have hle' : (step jobs a s).round ≤ (play (step jobs) as (step jobs a s)).round :=
      round_le_play ..
    have hround' : (play (step jobs) as (step jobs a s)).round = s.round := hround
    have hih := ih (hsync.step henabled) (hshared.step hjobs hsync henabled) hruns (by omega)
    show threadSteps (a :: as) + toGo jobs (play (step jobs) as (step jobs a s)) ≤ _
    unfold threadSteps wakeUps at hih ⊢
    cases hrun : a.isRun with
    | true =>
      rw [List.countP_cons_of_pos hrun, List.countP_cons_of_neg (by simp [hrun])]
      cases a with
      | run t =>
        have hlt := toGo_run hsync hshared henabled (by omega)
        omega
      | wakeMain | wakeWorker => exact absurd hrun Bool.false_ne_true
    | false =>
      have hwake : toGo jobs (step jobs a s) ≤ toGo jobs s + 2 := toGo_wake hsync henabled hrun
      rw [List.countP_cons_of_neg (by simp [hrun]), List.countP_cons_of_pos (by simp [hrun])]
      omega

theorem MainAt.rank_le (n : Nat) (main : MainAt) : main.rank n ≤ 5 * n + 10 := by
  cases main <;> simp only [MainAt.rank] <;> omega

theorem toGo_le {before : Mem} (hshared : Shared jobs before s) :
    toGo jobs s ≤ 17 * n + 10 + ∑ i : Fin n, (jobs s.round).len i := by
  have hworker : ∀ i, (s.main.workers s.worker i).rank ((jobs s.round).len i) ≤
      12 + (jobs s.round).len i := by
    intro i
    by_cases hmain : s.main = .init
    · rw [hmain]
      exact Nat.le_refl _
    · have hworkers : s.main.workers s.worker = s.worker := by
        cases h : s.main with
        | init => exact absurd h hmain
        | _ => rfl
      rw [hworkers]
      obtain ⟨done, hcode, -⟩ := (hshared.along hmain).thread i
      have hlength := congrArg List.length hcode
      rw [List.length_append] at hlength
      unfold Job.len
      cases hw : s.worker i with
      | running todo regs =>
        rw [hw] at hlength
        simp only [WorkerAt.todo] at hlength
        simp only [WorkerAt.rank]
        omega
      | _ =>
        simp only [WorkerAt.rank]
        omega
  have hsum : ∑ i, (s.main.workers s.worker i).rank ((jobs s.round).len i) ≤
      ∑ i : Fin n, (12 + (jobs s.round).len i) := Finset.sum_le_sum fun i _ => hworker i
  have htwelve : ∑ _i : Fin n, 12 = n * 12 := by
    rw [Finset.sum_const_nat fun _ _ => rfl, Finset.card_univ, Fintype.card_fin]
  rw [Finset.sum_add_distrib, htwelve] at hsum
  have hmain := MainAt.rank_le n s.main
  unfold toGo
  omega

end

/-- **The steps of a round** are bounded: by what its benchmark takes, what the threads do besides,
and the wake-ups that nobody has asked for. -/
theorem round_bounded {jobs : Nat → Job} (hjobs : ∀ r, (jobs r).Apart n) {data : Fin n → FData}
    {mem : Mem} {s : Pool n} (hrun : Reaches (step jobs) Enabled (Pool.start data mem) s)
    {as : List (Action n)} (hruns : Runs (step jobs) Enabled as s)
    (hround : (play (step jobs) as s).round = s.round) :
    threadSteps as ≤ 17 * n + 10 + ∑ i : Fin n, (jobs s.round).len i + 2 * wakeUps as := by
  obtain ⟨hsync, hshared⟩ := invariants hjobs hrun
  have hplay := toGo_play hjobs hsync hshared hruns hround
  have hle := toGo_le hshared
  omega

theorem round_bounded_meeting : threadSteps meeting ≤ 17 * 1 + 10 + ∑ i : Fin 1, twoBlocks.len i +
    2 * wakeUps meeting := by
  obtain ⟨hruns, hmet⟩ := runs_meeting (fun _ => twoBlocks.data 0) fun x => UInt64.ofNat x.toNat
  have happart : twoBlocks.Apart 1 := ⟨by decide, .inl (by decide)⟩
  exact round_bounded (fun _ => happart) .refl hruns (by rw [hmet]; rfl)

end SwitchOc.TinyMem
