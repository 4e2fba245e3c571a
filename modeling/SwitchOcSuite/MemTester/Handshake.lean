import SwitchOcSuite.MemTester.Channel

/-!
# The handshake between main and the workers

Main posts -2 and then -1 without waiting for an answer in between, so that a worker
that polls between its other naps may find the -2 gone: it then waits for a -2 that
main only posts behind its report.  Once a worker has seen the -2, everything is in
order: it never runs ahead of main, nor main ahead of it.

    missed_forever      a worker that has missed the -2 never gets ready
    postsInOrder        main posts a test when every worker has finished the one before
    handshake_safe      no circular wait, where every worker has seen the -2
-/

namespace SwitchOc.MemTester

open Interleaving

variable {n : Nat} {testSelect : List String}

/-! ## What can go wrong -/

/-- The id that a worker polls for. -/
def Worker.awaits (w : Worker) : Option Int :=
  match w.pc with
  | .getReady => some (-2)
  | .await => some w.currentJobId
  | _ => none

theorem mem_awaits_iff {w : Worker} {id : Int} :
    id ∈ w.awaits ↔ (w.pc = .getReady ∧ id = -2) ∨ (w.pc = .await ∧ id = w.currentJobId) := by
  unfold Worker.awaits
  cases w.pc <;> simp [eq_comm]

/-- Main polls for the report of worker `d`, and `d` for an id other than the one posted. -/
structure CircularWait (s : Memtest n) (d : Fin n) : Prop where
  main : ∃ i, s.main = .collect i d
  report : s.testWorkerReport d = 0
  worker : ∃ id ∈ (s.worker d).awaits, s.testJobId d ≠ id

/-- The worker has incremented `currentJobId` behind the test `t`, in its loop. -/
def Worker.Finished (w : Worker) (t : Task) : Prop :=
  t.loop < w.loop ∨ (t.loop = w.loop ∧ t.id < w.currentJobId)

/-- While main posts test `i + 1` every worker has finished test `i` of the same loop. -/
def PostsInOrder (s : Memtest n) : Prop :=
  ∀ i j, s.main = .post (i + 1) j → ∀ d, (s.worker d).Finished ⟨s.loop, i⟩

/-- No test fails. -/
def TestPasses (_ : Memtest n) (p : Process n) : Prop := ∀ d, p ≠ .worker d false

/-- Main does not post -1 to a worker that is still in its loop for -2. -/
def ReadySeen (s : Memtest n) (p : Process n) : Prop :=
  p = .main → ∀ d : Fin n, s.main = .post (-1) d → (s.worker d).pc ≠ .getReady

/-- No step ends a circular wait: neither of the two gets what it polls for. -/
theorem circularWait_step {s : Memtest n} {d : Fin n} (h : CircularWait s d) (p : Process n) :
    CircularWait (step testSelect p s) d := by
  obtain ⟨⟨i, hmain⟩, hreport, id, hid, hne⟩ := h
  cases p with
  | main =>
    have hstay : mainStep testSelect s = s := by
      unfold mainStep
      rw [hmain]
      simp [hreport]
    show CircularWait (mainStep testSelect s) d
    rw [hstay]
    exact ⟨⟨i, hmain⟩, hreport, id, hid, hne⟩
  | worker div passes =>
    show CircularWait (workerStep testSelect div passes s) d
    by_cases hd : d = div
    · subst hd
      have hstay : workerStep testSelect d passes s = s := by
        unfold workerStep
        obtain ⟨hpc, rfl⟩ | ⟨hpc, rfl⟩ := mem_awaits_iff.1 hid
        all_goals simp [hpc, hne]
      rw [hstay]
      exact ⟨⟨i, hmain⟩, hreport, id, hid, hne⟩
    · have hchan : channel testSelect _ d = channel testSelect s d :=
        channel_workerStep_of_ne s hd passes
      refine ⟨⟨i, (main_workerStep s div passes).trans hmain⟩,
        (congrArg Channel.testWorkerReport hchan).trans hreport, id, ?_, ?_⟩
      · rw [show (workerStep testSelect div passes s).worker d = s.worker d from
          congrArg Channel.worker hchan]
        exact hid
      · rw [show (workerStep testSelect div passes s).testJobId d = s.testJobId d from
          congrArg Channel.testJobId hchan]
        exact hne

/-! ## A worker that misses the -2 -/

/-- It polls for -2 while -1 is posted. -/
structure Channel.Missed (c : Channel) : Prop where
  pc : c.worker.pc = .getReady
  testJobId : c.testJobId = -1
  testWorkerReport : c.testWorkerReport = 0
  main : (∃ t, c.main = .posted t) ∨ c.main = .ended

theorem Channel.Missed.step {posts : Task → Worker → Prop} {c c' : Channel} (h : c.Missed)
    (hstep : Channel.Step testSelect posts c c') : c'.Missed := by
  obtain ⟨hpc, hid, hr, hmain⟩ := h
  cases hstep with
  | stay => exact ⟨hpc, hid, hr, hmain⟩
  | setReady =>
    obtain ⟨_, h⟩ | h := hmain
    all_goals cases h
  | post =>
    obtain ⟨_, h⟩ | h := hmain
    all_goals cases h
  | receive => exact absurd hr (show (1 : Int) ≠ 0 by decide)
  | clear =>
    obtain ⟨_, h⟩ | h := hmain
    all_goals cases h
  | exit => exact ⟨hpc, hid, hr, .inr rfl⟩
  | getReady => exact absurd hid (show (-2 : Int) ≠ -1 by decide)
  | take => cases hpc
  | test => cases hpc
  | pass => cases hpc
  | fail => cases hpc

/-- **Once -1 is posted to a worker that has not seen the -2, it never sees it**, and main
never gets its report. -/
theorem missed_forever (hne : testSelect ≠ []) {ok : Memtest n → Process n → Prop}
    {s s' : Memtest n} {p : Process n} (h : Reaches (step testSelect) ok (start n) s)
    (hp : ¬ ReadySeen s p) (h' : Reaches (step testSelect) ok (step testSelect p s) s') :
    ∃ d, (s'.worker d).pc = .getReady ∧ s'.testWorkerReport d = 0 := by
  unfold ReadySeen at hp
  push Not at hp
  obtain ⟨rfl, d, hmain, hpc⟩ := hp
  have hin := inStep_of_reaches hne h d
  have hview : view testSelect s d = .idle ⟨s.loop, -1⟩ := by
    simp [view, hmain]
  have hreport : s.testWorkerReport d = 0 := by
    unfold Channel.InStep channel at hin
    rw [hview] at hin
    exact hin.2.1
  have hmissed : (channel testSelect (mainStep testSelect s) d).Missed := by
    unfold mainStep channel
    rw [hmain]
    dsimp only
    rw [dif_pos d.isLt]
    refine ⟨hpc, ?_, hreport, .inl ⟨⟨s.loop, -1⟩, ?_⟩⟩
    · simp [Memtest.setJobId]
    · simp [view, Memtest.setJobId]
  have hlater : (channel testSelect s' d).Missed :=
    h'.component (f := fun s => channel testSelect s d)
      (R := Channel.Step testSelect fun _ _ => True)
      (fun s p _ => channel_step p s d fun _ _ _ => trivial) (fun _ _ h hstep => h.step hstep)
      hmissed
  exact ⟨d, hlater.pc, hlater.testWorkerReport⟩

/-! ## Workers that have seen the -2 -/

/-- A worker to which a task is posted is out of its loop for -2. -/
def Channel.Ready (c : Channel) : Prop := ∀ t, c.main = .posted t → c.worker.pc ≠ .getReady

theorem Channel.Ready.step {c c' : Channel} (h : c.Ready) (hin : c.InStep testSelect)
    (hstep : Channel.Step testSelect (fun t w => t.id = -1 → w.pc ≠ .getReady) c c') :
    c'.Ready := by
  intro u hu
  cases hstep with
  | stay => exact h u hu
  | setReady => cases hu
  | post t _ _ w hpost =>
    intro hpc
    obtain ⟨-, hawait | ⟨-, ht⟩⟩ := hin.1
    · rw [hpc] at hawait
      cases hawait
    · exact hpost (congrArg Task.id ht) hpc
  | receive => cases hu
  | clear => cases hu
  | exit => cases hu
  | getReady | take | test | fail => exact WorkerAt.noConfusion
  | pass =>
    rw [nextTest_pc]
    exact WorkerAt.noConfusion

theorem ready_of_reaches (hne : testSelect ≠ []) {s : Memtest n}
    (h : Reaches (step testSelect) ReadySeen (start n) s) (d : Fin n) :
    (channel testSelect s d).InStep testSelect ∧ (channel testSelect s d).Ready := by
  refine h.component (f := fun s => channel testSelect s d)
    (R := Channel.Step testSelect fun t w => t.id = -1 → w.pc ≠ .getReady)
    (I := fun c => c.InStep testSelect ∧ c.Ready) (fun s p hp => ?_)
    (fun c c' hc hstep => ⟨hc.1.step hne hstep, hc.2.step hc.1 hstep⟩)
    ⟨inStep_start d, fun t ht => by cases ht⟩
  refine channel_step p s d fun hmain i hpost hi => ?_
  have hid : i = -1 := hi
  subst hid
  exact hp hmain d hpost

/-- **No circular wait**: the id that main has posted is the one the worker polls for. -/
theorem no_circularWait {s : Memtest n} {d : Fin n}
    (hin : (channel testSelect s d).InStep testSelect)
    (hready : (channel testSelect s d).Ready) : ¬ CircularWait s d := by
  rintro ⟨⟨i, hmain⟩, hreport, id, hid, hne⟩
  have hview : view testSelect s d = .posted ⟨s.loop, i⟩ := by
    simp [view, hmain]
  obtain ⟨hpc, -⟩ | ⟨hpc, rfl⟩ := mem_awaits_iff.1 hid
  · exact hready _ hview hpc
  unfold Channel.InStep channel at hin
  rw [hview] at hin
  obtain ⟨hjob, ⟨⟨htask, -⟩, -⟩ | ⟨-, hbusy | ⟨_, hbusy⟩, -⟩ | ⟨-, -, hone⟩ | ⟨-, hret, -⟩⟩ := hin
  · exact hne (hjob.trans (congrArg Task.id htask).symm)
  · cases hpc.symm.trans hbusy
  · cases hpc.symm.trans hbusy
  · exact absurd (hreport.symm.trans hone) (by decide)
  · cases hpc.symm.trans hret

/-- A worker that is out of its loop for -2 stays out of it. -/
theorem seen_step {posts : Task → Worker → Prop} {c c' : Channel}
    (hstep : Channel.Step testSelect posts c c') (h : c.worker.pc ≠ .getReady) :
    c'.worker.pc ≠ .getReady := by
  cases hstep with
  | stay | setReady | post | receive | clear | exit => exact h
  | getReady | take | test | fail => exact WorkerAt.noConfusion
  | pass =>
    rw [nextTest_pc]
    exact WorkerAt.noConfusion

/-- So every schedule will do once all workers have seen the -2. -/
theorem runs_of_seen {s : Memtest n} (h : ∀ d, (s.worker d).pc ≠ .getReady)
    (ps : List (Process n)) : Runs (step testSelect) ReadySeen ps s := by
  induction ps generalizing s with
  | nil => trivial
  | cons p ps ih =>
    refine ⟨fun _ d _ => h d, ih fun d => ?_⟩
    have hstep : Channel.Step testSelect (fun _ _ => True) (channel testSelect s d)
        (channel testSelect (step testSelect p s) d) :=
      channel_step p s d fun _ _ _ => trivial
    exact seen_step hstep (h d)

/-! ## Main -/

theorem finished_of_task {w : Worker} {loop : Nat} {i : Int} (h : w.task = ⟨loop, i + 1⟩) :
    w.Finished ⟨loop, i⟩ := by
  have hloop : w.loop = loop := congrArg Task.loop h
  have hid : w.currentJobId = i + 1 := congrArg Task.id h
  exact .inr ⟨hloop.symm, by show i < w.currentJobId; omega⟩

theorem finished_of_next {w : Worker} {loop : Nat} {i : Int}
    (h : w.task = (Task.mk loop (i + 1)).next testSelect) : w.Finished ⟨loop, i⟩ := by
  unfold Task.next at h
  split at h
  · have hloop : w.loop = loop := congrArg Task.loop h
    have hid : w.currentJobId = i + 1 + 1 := congrArg Task.id h
    exact .inr ⟨hloop.symm, by show i < w.currentJobId; omega⟩
  · have hloop : w.loop = loop + 1 := congrArg Task.loop h
    exact .inl (by show loop < w.loop; omega)

/-- **Main never runs ahead of a worker**, in any run. -/
theorem postsInOrder (hne : testSelect ≠ []) {ok : Memtest n → Process n → Prop} {s : Memtest n}
    (h : Reaches (step testSelect) ok (start n) s) : PostsInOrder s := by
  intro i j hmain d
  have hin := inStep_of_reaches hne h d
  unfold Channel.InStep channel view at hin
  simp only [hmain] at hin
  by_cases hdj : d.val < j
  · simp only [if_pos hdj] at hin
    obtain ⟨-, ⟨⟨htask, -⟩, -⟩ | ⟨htask, -⟩ | ⟨htask, -⟩ | ⟨htask, -⟩⟩ := hin
    · exact finished_of_task htask
    · exact finished_of_task htask
    · exact finished_of_next htask
    · exact finished_of_task htask
  · simp only [if_neg hdj] at hin
    exact finished_of_task hin.1.1

theorem testSelect_ne_nil (key : Key) : MemTester.testSelect key ≠ [] := by
  cases key <;> decide

/-- **The handshake, where every worker has seen the -2**: nobody waits in a circle, and
main posts the tests in order. -/
theorem handshake_safe (isDevKit8GB : Bool) (key : Key) (s : Memtest (testThreads isDevKit8GB))
    (h : Reaches (step (MemTester.testSelect key)) ReadySeen (start (testThreads isDevKit8GB)) s) :
    (∀ d, ¬ CircularWait s d) ∧ PostsInOrder s := by
  have hne := testSelect_ne_nil key
  refine ⟨fun d => ?_, postsInOrder hne h⟩
  obtain ⟨hin, hready⟩ := ready_of_reaches hne h d
  exact no_circularWait hin hready

/-- Three workers see the -2. -/
def ready : List (Process 3) :=
  List.replicate 3 .main ++ [.worker 0 true, .worker 1 true, .worker 2 true, .main]

/-- Main posts a test and polls for a report; the workers take it, test and report, and
main collects the reports and goes on. -/
def oneTest : List (Process 3) :=
  List.replicate 5 .main ++ [.worker 2 true, .worker 0 true, .worker 2 true, .worker 2 true] ++
    List.replicate 2 .main ++
    [.worker 1 true, .worker 0 true, .worker 1 true, .worker 0 true, .worker 1 true] ++
    List.replicate 7 .main

/-- The stuck address, the first test, and the second up to its last post. -/
def twoTests : List (Process 3) := oneTest ++ oneTest ++ List.replicate 3 .main

theorem runs_ready : Runs (step tests) ReadySeen ready (start 3) := by
  refine ⟨?_, ?_, ?_, ?_, ?_, ?_, ?_, trivial⟩
  all_goals
    intro _ d h
    cases h

theorem runs_twoTests : Runs (step tests) ReadySeen (ready ++ twoTests) (start 3) := by
  refine runs_ready.append (runs_of_seen ?_ twoTests)
  decide

/-- With all ids of the second test posted, and behind the next step, where main polls for
the first report on it. -/
theorem handshake_safe_twoTests :
    (play (step tests) (ready ++ twoTests) (start 3)).main = .post (0 + 1) 3 ∧
      PostsInOrder (play (step tests) (ready ++ twoTests) (start 3)) ∧
      (play (step tests) (ready ++ twoTests ++ [.main]) (start 3)).main = .collect 1 0 ∧
      ∀ d, ¬ CircularWait (play (step tests) (ready ++ twoTests ++ [.main]) (start 3)) d := by
  have hlast : Runs (step tests) ReadySeen (ready ++ twoTests ++ [.main]) (start 3) := by
    refine runs_twoTests.append ⟨fun _ d h => ?_, trivial⟩
    cases h
  exact ⟨rfl, (handshake_safe false .A _ runs_twoTests.reaches).2, rfl,
    (handshake_safe false .A _ hlast.reaches).1⟩

/-- Main alone takes the first eight steps, and waits for a worker that waits for -2. -/
theorem handshake_not_safe :
    ¬ ∀ (isDevKit8GB : Bool) (key : Key) (s : Memtest (testThreads isDevKit8GB)),
      Reaches (step (MemTester.testSelect key)) TestPasses (start (testThreads isDevKit8GB)) s →
        (∀ d, ¬ CircularWait s d) ∧ PostsInOrder s := by
  intro h
  have hrun : Reaches (step tests) TestPasses (start 3) _ :=
    reaches_schedule (start 3) (List.replicate 8 .main) fun p hp s d => by
      rw [List.eq_of_mem_replicate hp]
      rintro ⟨⟩
  refine (h false .A _ hrun).1 (0 : Fin 3) ⟨⟨-1, rfl⟩, rfl, -2, rfl, ?_⟩
  show (-1 : Int) ≠ -2
  decide

end SwitchOc.MemTester
