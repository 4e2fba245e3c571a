import SwitchOcSuite.TinyMem.Barrier
import SwitchOcSuite.TinyMem.Buffers

/-!
# TinyMemBenchNX: what the threads do to the memory

Every worker has a part of the buffers of its own.  So nobody can tell from the memory
in which order the workers took their steps, and no worker runs with the data of
another round.

    noRace      no worker writes what another one touches
    rounds_eq   the memory between two rounds
-/

namespace SwitchOc.TinyMem

open Function RaceFree Interleaving

variable {n : Nat}

/-! ## The plain meaning of a round -/

/-- The workers one after another. -/
def Job.inOrder (job : Job) (n : Nat) (mem : Mem) : Mem :=
  (List.finRange n).foldl (fun mem i => (job.data i.val).call mem) mem

/-- The memory behind some rounds. -/
def after (jobs : Nat → Job) (n : Nat) (mem : Mem) : Nat → Mem
  | 0 => mem
  | r + 1 => (jobs r).inOrder n (after jobs n mem r)

/-- The buffers are two, with a part for every worker. -/
def Job.Apart (job : Job) (n : Nat) : Prop :=
  0 ≤ job.size ∧ (job.dstbuf + job.size * n / 8 ≤ job.srcbuf ∨
    job.srcbuf + job.size * n / 8 ≤ job.dstbuf)

/-- So are the buffers that are allocated for `n` workers. -/
theorem buffers_apart {buf src dst : UInt64} {size : Int} {tmp : Option Int}
    {rest : List (Option UInt64)} (hsize : 0 ≤ size) (n : Nat)
    (hint : poolSum [some (size * n), some (size * n), tmp, none] < 2 ^ 31)
    (hfit : buf.toNat + (poolSize [some (size * n), some (size * n), tmp, none]).toNat ≤ 2 ^ 64)
    (halloc : allocFourNonaliasedBuffers buf (some (size * n)) (some (size * n)) tmp none =
      some src :: some dst :: rest) (f : Func) :
    Job.Apart ⟨f, (dst.toNat / 8 : Nat), (src.toNat / 8 : Nat), size⟩ n := by
  obtain ⟨-, hpairwise⟩ := allocFour_placed hint hfit
  rw [halloc] at hpairwise
  simp only [patterns, List.zip_cons_cons, List.pairwise_cons] at hpairwise
  have hahead := hpairwise.1 _ List.mem_cons_self src rfl dst rfl
  have hnonneg : 0 ≤ size * n := Int.mul_nonneg hsize (by omega)
  simp only [TinyMem.sizeOf, if_neg (Int.not_lt.2 hnonneg)] at hahead
  refine ⟨hsize, .inr ?_⟩
  show ((src.toNat / 8 : Nat) : Int) + size * n / 8 ≤ (dst.toNat / 8 : Nat)
  omega

theorem noRace {job : Job} (h : job.Apart n) :
    words.NoRace fun i : Fin n => (job.data i).code := by
  intro i j hne x hwrites htouches
  obtain ⟨hsize, hlo, hhi⟩ := job.f.writes _ _ _ x hwrites
  have hreach := job.f.touches _ _ _ x hsize htouches
  dsimp only [Job.data] at hsize hlo hhi hreach
  have hpart : ∀ k : Fin n, job.size * k + job.size ≤ job.size * n := by
    intro k
    have hle : ((k : Nat) : Int) + 1 ≤ n := by omega
    have hmul := Int.mul_le_mul_of_nonneg_left hle h.1
    rwa [Int.mul_add, Int.mul_one] at hmul
  have hmono : ∀ k l : Fin n, k < l → job.size * k + job.size ≤ job.size * l := by
    intro k l hlt
    have hle : ((k : Nat) : Int) + 1 ≤ (l : Nat) := by omega
    have hmul := Int.mul_le_mul_of_nonneg_left hle h.1
    rwa [Int.mul_add, Int.mul_one] at hmul
  have hi := hpart i
  have hj := hpart j
  have hzero : ∀ k : Fin n, 0 ≤ job.size * k := fun k => Int.mul_nonneg h.1 (by omega)
  have hi₀ := hzero i
  have hj₀ := hzero j
  have hbuffers := h.2
  rcases Nat.lt_or_gt_of_ne fun heq => hne (Fin.ext heq) with hlt | hlt
  · have hij := hmono i j hlt
    omega
  · have hji := hmono j i hlt
    omega

/-! ## The memory within a round -/

/-- What a worker has yet to do. -/
def WorkerAt.todo (code : List Instr) : WorkerAt → List Instr
  | .running todo _ => todo
  | .exited => []
  | _ => code

def WorkerAt.regs : WorkerAt → Regs
  | .running _ regs => regs
  | _ => fun _ => 0

/-- Main has filled in the data of worker `j`. -/
def MainAt.Set (j : Nat) : MainAt → Prop
  | .setData k => j < k
  | .setReady | .unlockRun | .broadcast | .join _ => True
  | _ => False

theorem MainAt.Started.set {main : MainAt} (h : main.Started) (j : Nat) : main.Set j := by
  cases main with
  | unlockRun | broadcast | join => trivial
  | _ => exact h.elim

/-- **The memory, and the data of the workers**, within a round. -/
structure Shared (jobs : Nat → Job) (before : Mem) (s : Pool n) : Prop where
  idle : s.main = .init → s.mem = after jobs n before s.round
  data : ∀ j : Fin n, s.main.Set j → s.data j = (jobs s.round).data j
  along : s.main ≠ .init → words.Along (fun i : Fin n => ((jobs s.round).data i).code) (fun _ => 0)
    (after jobs n before s.round) (fun i => (s.worker i).todo ((jobs s.round).data i).code)
    (fun i => (s.worker i).regs) s.mem

theorem Shared.start (jobs : Nat → Job) (data : Fin n → FData) (mem : Mem) :
    Shared jobs mem (Pool.start data mem) :=
  ⟨fun _ => rfl, fun _ h => h.elim, fun h => absurd rfl h⟩

/-- The code of a worker is its benchmark. -/
theorem inOrder_eq (job : Job) (mem : Mem) :
    words.inOrder (fun i : Fin n => (job.data i).code) (fun _ => 0) (List.finRange n) mem =
      job.inOrder n mem := by
  have hcall : (fun (mem : Mem) (i : Fin n) =>
      (words.run (job.data i).code (fun _ => (0 : UInt64), mem)).2) =
        fun (mem : Mem) (i : Fin n) => (job.data i).call mem := by
    funext mem i
    exact job.f.run_code ..
  unfold Machine.inOrder Job.inOrder
  rw [hcall]

section
variable {jobs : Nat → Job} {before : Mem} {s : Pool n}

theorem Shared.main (hjobs : ∀ r, (jobs r).Apart n) (hsync : Sync s) (h : Shared jobs before s)
    (henabled : MainEnabled s) : Shared jobs before (mainStep jobs s) := by
  have hfits := hsync.fits
  obtain ⟨main, worker, lock, notReady, workersReady, data, round, mem⟩ := s
  obtain ⟨hidle, hdata, halong⟩ := h
  dsimp only at hidle hdata halong hfits
  cases main with
  | init =>
    simp only [mainStep]
    refine ⟨by simp, fun _ h => h.elim, fun _ => ?_⟩
    rw [hidle rfl]
    exact .initial
  | create k =>
    by_cases hk : k < n
    · simp only [mainStep, dif_pos hk, Pool.setWorker]
      have hat : worker ⟨k, hk⟩ = .absent := (hfits ⟨k, hk⟩).2 (Nat.le_refl k)
      refine ⟨by simp, fun _ h => h.elim, fun _ => (halong (by simp)).congr (fun i => ?_) ?_⟩
      · dsimp only
        by_cases hi : i = ⟨k, hk⟩
        · rw [hi, update_self, hat]
          rfl
        · rw [update_of_ne hi]
      · intro i _
        dsimp only
        by_cases hi : i = ⟨k, hk⟩
        · rw [hi, update_self, hat]
          rfl
        · rw [update_of_ne hi]
    · simp only [mainStep, dif_neg hk]
      exact ⟨by simp, fun _ h => h.elim, fun _ => halong (by simp)⟩
  | waitReady => exact henabled.elim
  | checkReady =>
    simp only [mainStep]
    split
    · exact ⟨by simp, fun _ h => h.elim, fun _ => halong (by simp)⟩
    · exact ⟨by simp, fun _ h => h.elim, fun _ => halong (by simp)⟩
  | wokenReady =>
    exact ⟨by simp [mainStep], fun _ h => h.elim, fun _ => halong (by simp)⟩
  | unlockInit =>
    exact ⟨by simp [mainStep], fun j h => absurd h (Nat.not_lt_zero j), fun _ => halong (by simp)⟩
  | setData j =>
    by_cases hj : j < n
    · simp only [mainStep, dif_pos hj]
      refine ⟨by simp, fun k hk => ?_, fun _ => halong (by simp)⟩
      by_cases heq : k = ⟨j, hj⟩
      · subst heq
        exact update_self ..
      · have hne : k.val ≠ j := fun h => heq (Fin.ext h)
        have hlt : k.val < j + 1 := hk
        exact (update_of_ne heq ..).trans (hdata k (show k.val < j by omega))
    · simp only [mainStep, dif_neg hj]
      exact ⟨by simp, fun k _ => hdata k (show k.val < j by omega), fun _ => halong (by simp)⟩
  | setReady | unlockRun => exact ⟨by simp [mainStep], hdata, fun _ => halong (by simp)⟩
  | broadcast =>
    refine ⟨by simp [mainStep], hdata,
      fun _ => (halong (by simp)).congr (fun i => ?_) fun i _ => ?_⟩
    · show (worker i).wake.todo _ = _
      cases worker i <;> rfl
    · show (worker i).wake.regs = _
      cases worker i <;> rfl
  | join j =>
    by_cases hj : j < n
    · simp only [mainStep, if_pos hj]
      exact ⟨by simp, hdata, fun _ => halong (by simp)⟩
    · simp only [mainStep, if_neg hj]
      refine ⟨fun _ => ?_, fun _ h => h.elim, fun h => absurd rfl h⟩
      -- every worker was joined
      have hdone : ∀ i, (worker i).todo ((jobs round).data i).code = [] := by
        intro i
        rw [(hfits i).2.2 (by omega)]
        rfl
      have hmem := (halong (by simp)).mem_eq (noRace (hjobs round)) hdone (List.nodup_finRange n)
        List.mem_finRange
      rw [inOrder_eq] at hmem
      exact hmem

/-- A worker goes on without a step of its code. -/
theorem Shared.move (h : Shared jobs before s) {i : Fin n} {w : WorkerAt}
    {lock : Option (Thread n)} {notReady : Int}
    (htodo : w.todo ((jobs s.round).data i).code =
      (s.worker i).todo ((jobs s.round).data i).code)
    (hregs : (s.worker i).todo ((jobs s.round).data i).code ≠ [] → w.regs = (s.worker i).regs) :
    Shared jobs before { s.setWorker i w with lock := lock, notReady := notReady } := by
  refine ⟨h.idle, h.data, fun hmain => (h.along hmain).congr (fun j => ?_) fun j hj => ?_⟩
  · by_cases heq : j = i
    · subst heq
      simpa [Pool.setWorker] using htodo
    · simp [Pool.setWorker, heq]
  · by_cases heq : j = i
    · subst heq
      simpa [Pool.setWorker] using hregs hj
    · simp [Pool.setWorker, heq]

theorem Shared.wakeMain (h : Shared jobs before s) :
    Shared jobs before { s with main := s.main.signal } := by
  obtain ⟨main, worker, lock, notReady, workersReady, data, round, mem⟩ := s
  cases main with
  | waitReady => exact ⟨by simp [MainAt.signal], fun _ h => h.elim, fun _ => h.along (by simp)⟩
  | _ => exact h

theorem Shared.worker (hjobs : ∀ r, (jobs r).Apart n) (hsync : Sync s) (h : Shared jobs before s)
    {i : Fin n} (henabled : WorkerEnabled s i) : Shared jobs before (workerStep i s) := by
  have hfits := hsync.fits i
  unfold WorkerEnabled at henabled
  cases hw : s.worker i with
  | absent | waitStart | exited =>
    rw [hw] at henabled
    exact henabled.elim
  | lock | countDown | wokenStart | unlock =>
    simp only [workerStep, hw]
    exact h.move (by rw [hw]; rfl) fun _ => by rw [hw]; rfl
  | signal =>
    simp only [workerStep, hw]
    by_cases hzero : s.notReady = 0
    · rw [if_pos hzero]
      exact h.wakeMain.move (by rw [hw]; rfl) fun _ => by rw [hw]; rfl
    · rw [if_neg hzero]
      exact h.move (by rw [hw]; rfl) fun _ => by rw [hw]; rfl
  | checkStart =>
    simp only [workerStep, hw]
    split
    · exact h.move (by rw [hw]; rfl) fun _ => by rw [hw]; rfl
    · exact h.move (by rw [hw]; rfl) fun _ => by rw [hw]; rfl
  | call =>
    rw [hw] at hfits
    have hdata := h.data i ((hfits.started trivial).set i)
    simp only [workerStep, hw, hdata]
    exact h.move (by rw [hw]; rfl) fun _ => by rw [hw]; rfl
  | running todo regs =>
    cases todo with
    | nil =>
      simp only [workerStep, hw]
      exact h.move (by rw [hw]; rfl) fun hne => absurd (by rw [hw]; rfl) hne
    | cons op todo =>
      rw [hw] at hfits
      have hstarted := hfits.started trivial
      have hmain : s.main ≠ .init := by
        intro heq
        rw [heq] at hstarted
        exact hstarted
      have htodo : (s.worker i).todo ((jobs s.round).data i).code = op :: todo := by
        rw [hw]
        rfl
      have hregs : (s.worker i).regs = regs := by
        rw [hw]
        rfl
      have hexec := (h.along hmain).exec (noRace (hjobs s.round)) htodo
      rw [hregs] at hexec
      simp only [workerStep, hw]
      refine ⟨fun h => absurd h hmain, h.data, fun _ => hexec.congr (fun j => ?_) fun j _ => ?_⟩
      · by_cases hj : j = i
        · subst hj
          simp [Pool.setWorker, WorkerAt.todo]
        · simp [Pool.setWorker, hj]
      · by_cases hj : j = i
        · subst hj
          simp [Pool.setWorker, WorkerAt.regs, words]
        · simp [Pool.setWorker, hj]

theorem Shared.step (hjobs : ∀ r, (jobs r).Apart n) (hsync : Sync s) (h : Shared jobs before s)
    {a : Action n} (henabled : Enabled s a) : Shared jobs before (step jobs a s) := by
  match a with
  | .run .main => exact h.main hjobs hsync henabled
  | .run (.worker i) => exact h.worker hjobs hsync henabled
  | .wakeMain => exact h.wakeMain
  | .wakeWorker i =>
    have hw : s.worker i = .waitStart := henabled
    simp only [TinyMem.step, hw, WorkerAt.wake]
    exact h.move (by rw [hw]; rfl) fun _ => by rw [hw]; rfl

end

/-! ## Rounds -/

/-- **Both invariants** in every state of every run. -/
theorem invariants {jobs : Nat → Job} (hjobs : ∀ r, (jobs r).Apart n) {data : Fin n → FData}
    {mem : Mem} {s : Pool n} (hrun : Reaches (step jobs) Enabled (Pool.start data mem) s) :
    Sync s ∧ Shared jobs mem s :=
  hrun.invariant (I := fun s => Sync s ∧ Shared jobs mem s)
    (fun _ _ h henabled => ⟨h.1.step henabled, h.2.step hjobs h.1 henabled⟩)
    ⟨.start data mem, .start jobs data mem⟩

/-- **The rounds.**  Between two rounds the memory is that of the workers one after another, round
after round, whatever the order of the steps was.  Main fills in the data when all workers have
arrived, and a worker that goes on finds the data of its round. -/
theorem rounds_eq {jobs : Nat → Job} (hjobs : ∀ r, (jobs r).Apart n) {data : Fin n → FData}
    {mem : Mem} {s : Pool n} (hrun : Reaches (step jobs) Enabled (Pool.start data mem) s) :
    (s.main = .init → s.mem = after jobs n mem s.round) ∧
      (s.main.Arrived → ∀ i, (s.worker i).early = 0) ∧
      ∀ i, (s.worker i).Going → s.data i = (jobs s.round).data i := by
  obtain ⟨hsync, hshared⟩ := invariants hjobs hrun
  refine ⟨hshared.idle, fun harrived i => ?_, fun i hgoing => ?_⟩
  · have hmain : s.main ≠ .init := by
      intro heq
      rw [heq] at harrived
      exact harrived
    have hzero := hsync.count hmain
    rw [hsync.arrived harrived] at hzero
    exact Finset.sum_eq_zero_iff.1 (Int.ofNat.inj hzero.symm) i (Finset.mem_univ i)
  · exact hshared.data i (((hsync.fits i).started hgoing).set i)

/-! ## A run of one round -/

/-- A worker in its function runs to its end. -/
theorem runs_code (jobs : Nat → Job) {s : Pool n} {i : Fin n} {todo : List Instr} {regs : Regs}
    (hw : s.worker i = .running todo regs) :
    Runs (step jobs) Enabled (List.replicate (todo.length + 1) (.run (.worker i))) s ∧
      play (step jobs) (List.replicate (todo.length + 1) (.run (.worker i))) s =
        { s.setWorker i .exited with mem := (words.run todo (regs, s.mem)).2 } := by
  have henabled : Enabled s (.run (.worker i)) := by
    show WorkerEnabled s i
    unfold WorkerEnabled
    rw [hw]
    trivial
  induction todo generalizing s regs with
  | nil =>
    refine ⟨⟨henabled, trivial⟩, ?_⟩
    show workerStep i s = _
    simp only [workerStep, hw]
    rfl
  | cons op todo ih =>
    have hstep : step jobs (.run (.worker i)) s =
        { s.setWorker i (.running todo (op.exec (regs, s.mem)).1) with
          mem := (op.exec (regs, s.mem)).2 } := by
      show workerStep i s = _
      simp only [workerStep, hw]
    have hw' : (step jobs (.run (.worker i)) s).worker i =
        .running todo (op.exec (regs, s.mem)).1 := by
      rw [hstep]
      exact update_self ..
    obtain ⟨hruns, hplay⟩ := ih hw' (by
      show WorkerEnabled _ i
      unfold WorkerEnabled
      rw [hw']
      trivial)
    refine ⟨⟨henabled, hruns⟩, ?_⟩
    show play (step jobs) (List.replicate (todo.length + 1) _) (step jobs (.run (.worker i)) s) = _
    rw [hplay, hstep]
    simp [Pool.setWorker, words]

/-- Two blocks, for one worker. -/
def twoBlocks : Job := ⟨copyFunc, 0, 100, 128⟩

/-- The worker goes to sleep, and is woken without a reason before main has anything to say. -/
def meeting : List (Action 1) :=
  List.replicate 4 (.run .main) ++ List.replicate 4 (.run (.worker 0)) ++ [.wakeWorker 0] ++
    List.replicate 2 (.run (.worker 0)) ++ List.replicate 8 (.run .main) ++
    List.replicate 4 (.run (.worker 0))

/-- Behind it main is to join the worker, which is in its function. -/
def met (mem : Mem) : Pool 1 where
  main := .join 0
  worker := fun _ => .running (twoBlocks.data 0).code fun _ => 0
  lock := none
  notReady := 0
  workersReady := 1
  data := fun _ => twoBlocks.data 0
  round := 0
  mem := mem

theorem runs_meeting (data : Fin 1 → FData) (mem : Mem) :
    Runs (step fun _ => twoBlocks) Enabled meeting (Pool.start data mem) ∧
      play (step fun _ => twoBlocks) meeting (Pool.start data mem) = met mem := by
  constructor
  · simp [meeting, List.replicate_succ, Runs, step, mainStep, workerStep, Enabled, MainEnabled,
      WorkerEnabled, Pool.start, Pool.setWorker, MainAt.signal, WorkerAt.wake]
  · simp only [meeting, List.replicate_succ, List.replicate_zero, List.cons_append,
      List.nil_append, play, List.foldl_cons, List.foldl_nil, Pool.start]
    simp [step, mainStep, workerStep, Pool.setWorker, MainAt.signal, WorkerAt.wake, met]
    constructor
    · funext i
      rw [Subsingleton.elim i 0]
      rfl
    · funext i
      rw [Subsingleton.elim i 0]
      rfl

/-- The rest of the round. -/
def leaving : List (Action 1) :=
  List.replicate ((twoBlocks.data 0).code.length + 1) (.run (.worker 0)) ++
    List.replicate 2 (.run .main)

theorem runs_leaving (mem : Mem) :
    Runs (step fun _ => twoBlocks) Enabled leaving (met mem) ∧
      (play (step fun _ => twoBlocks) leaving (met mem)).main = .init ∧
      (play (step fun _ => twoBlocks) leaving (met mem)).round = 1 := by
  have hworker : (met mem).worker 0 = .running (twoBlocks.data 0).code fun _ => 0 := rfl
  obtain ⟨hcode, hplay⟩ := runs_code (fun _ => twoBlocks) hworker
  unfold leaving
  refine ⟨hcode.append ?_, ?_⟩
  · rw [hplay]
    exact ⟨fun _ => rfl, fun h => absurd h (Nat.lt_irrefl 1), trivial⟩
  · rw [play_append, hplay]
    exact ⟨rfl, rfl⟩

/-- **A whole round.** -/
theorem runs_oneRound (data : Fin 1 → FData) (mem : Mem) :
    Runs (step fun _ => twoBlocks) Enabled (meeting ++ leaving) (Pool.start data mem) ∧
      (play (step fun _ => twoBlocks) (meeting ++ leaving) (Pool.start data mem)).main = .init ∧
      (play (step fun _ => twoBlocks) (meeting ++ leaving) (Pool.start data mem)).round = 1 := by
  obtain ⟨hmeeting, hmet⟩ := runs_meeting data mem
  rw [play_append, hmet]
  obtain ⟨hleaving, hlast⟩ := runs_leaving mem
  exact ⟨hmeeting.append (by rw [hmet]; exact hleaving), hlast⟩

theorem rounds_eq_oneRound :
    (play (step fun _ => twoBlocks) (meeting ++ leaving)
      (Pool.start (fun _ => twoBlocks.data 0) fun x => UInt64.ofNat x.toNat)).mem =
        after (fun _ => twoBlocks) 1 (fun x => UInt64.ofNat x.toNat) 1 := by
  obtain ⟨hruns, hmain, hround⟩ :=
    runs_oneRound (fun _ => twoBlocks.data 0) fun x => UInt64.ofNat x.toNat
  have happart : twoBlocks.Apart 1 := ⟨by decide, .inl (by decide)⟩
  have hmem := (rounds_eq (fun _ => happart) hruns.reaches).1 hmain
  rwa [hround] at hmem

end SwitchOc.TinyMem
