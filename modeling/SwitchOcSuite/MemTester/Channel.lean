import Mathlib.Tactic.Common
import SwitchOcSuite.Lib.Interleaving
import SwitchOcSuite.MemTester.Threads

/-!
# What main and one worker see of each other

A `Channel` is the job id and the report of one worker, with the worker itself and with
main seen from there: which task comes next, or is posted, or has its report received.
A step of any process is a step of every channel (`channel_step`), so that what the
steps of a channel keep, every run keeps.

    inStep_of_reaches    where the worker is, for each of the things main may be at
-/

namespace SwitchOc.MemTester

open Interleaving

/-- A test of a loop; -1 is the stuck address. -/
structure Task where
  loop : Nat
  id : Int

variable {n : Nat} {testSelect : List String}

def Task.next (testSelect : List String) (t : Task) : Task :=
  if HasTest testSelect (t.id + 1) then ⟨t.loop, t.id + 1⟩ else ⟨t.loop + 1, -1⟩

def Worker.task (w : Worker) : Task := ⟨w.loop, w.currentJobId⟩

@[simp] theorem nextTest_pc (w : Worker) : (w.nextTest testSelect).pc = .await := by
  unfold Worker.nextTest
  split <;> rfl

@[simp] theorem nextTest_task (w : Worker) :
    (w.nextTest testSelect).task = w.task.next testSelect := by
  unfold Worker.nextTest Task.next
  by_cases h : HasTest testSelect (w.currentJobId + 1)
  · rw [if_pos h, if_pos (show HasTest testSelect (w.task.id + 1) from h)]
    rfl
  · rw [if_neg h, if_neg (show ¬ HasTest testSelect (w.task.id + 1) from h)]
    rfl

/-- The next task has another id, unless there are no tests but the stuck address. -/
theorem next_id_ne (hne : testSelect ≠ []) (t : Task) : (t.next testSelect).id ≠ t.id := by
  have hpos : 0 < testSelect.length := List.length_pos_iff.2 hne
  unfold Task.next
  by_cases h : HasTest testSelect (t.id + 1)
  · rw [if_pos h]
    show t.id + 1 ≠ t.id
    omega
  · rw [if_neg h]
    unfold HasTest at h
    show -1 ≠ t.id
    omega

/-- Main, seen from one worker. -/
inductive View
  /-- `t` is the next task that main will post to it -/
  | idle (t : Task)
  | posted (t : Task)
  /-- main has read the report on `t`, and has not cleared it yet -/
  | received (t : Task)
  | ended

def view (testSelect : List String) (s : Memtest n) (d : Nat) : View :=
  match s.main with
  | .setReady _ => .idle ⟨s.loop, -1⟩
  | .post i j => if d < j then .posted ⟨s.loop, i⟩ else .idle ⟨s.loop, i⟩
  | .collect i j =>
    if d < j then .idle ((Task.mk s.loop i).next testSelect) else .posted ⟨s.loop, i⟩
  | .clear i j =>
    if d < j then .idle ((Task.mk s.loop i).next testSelect)
    else if d = j then .received ⟨s.loop, i⟩
    else .posted ⟨s.loop, i⟩
  | .exited => .ended

structure Channel where
  main : View
  testJobId : Int
  testWorkerReport : Int
  worker : Worker

def channel (testSelect : List String) (s : Memtest n) (d : Fin n) : Channel :=
  ⟨view testSelect s d, s.testJobId d, s.testWorkerReport d, s.worker d⟩

/-- The steps of a channel: those of main, and those of the worker.  `posts` holds of the
tasks that main posts, and of the worker as it is then. -/
inductive Channel.Step (testSelect : List String) (posts : Task → Worker → Prop) :
    Channel → Channel → Prop
  | stay (c : Channel) : Step testSelect posts c c
  | setReady (loop : Nat) (id r : Int) (w : Worker) :
      Step testSelect posts ⟨.idle ⟨loop, -1⟩, id, r, w⟩ ⟨.idle ⟨loop, -1⟩, -2, r, w⟩
  | post (t : Task) (id r : Int) (w : Worker) (h : posts t w) :
      Step testSelect posts ⟨.idle t, id, r, w⟩ ⟨.posted t, t.id, r, w⟩
  | receive (t : Task) (id : Int) (w : Worker) :
      Step testSelect posts ⟨.posted t, id, 1, w⟩ ⟨.received t, id, 1, w⟩
  | clear (t : Task) (id r : Int) (w : Worker) :
      Step testSelect posts ⟨.received t, id, r, w⟩ ⟨.idle (t.next testSelect), id, 0, w⟩
  | exit (v : View) (id r : Int) (w : Worker) :
      Step testSelect posts ⟨v, id, r, w⟩ ⟨.ended, id, r, w⟩
  | getReady (v : View) (r : Int) (loop : Nat) (k : Int) :
      Step testSelect posts ⟨v, -2, r, ⟨.getReady, loop, k⟩⟩ ⟨v, -2, r, ⟨.await, loop, k⟩⟩
  | take (v : View) (r : Int) (loop : Nat) (k : Int) :
      Step testSelect posts ⟨v, k, r, ⟨.await, loop, k⟩⟩ ⟨v, k, r, ⟨.test, loop, k⟩⟩
  | test (v : View) (id r : Int) (loop : Nat) (k : Int) (passes : Bool) :
      Step testSelect posts ⟨v, id, r, ⟨.test, loop, k⟩⟩ ⟨v, id, r, ⟨.report passes, loop, k⟩⟩
  | pass (v : View) (id r : Int) (loop : Nat) (k : Int) :
      Step testSelect posts ⟨v, id, r, ⟨.report true, loop, k⟩⟩
        ⟨v, id, 1, Worker.nextTest testSelect ⟨.report true, loop, k⟩⟩
  | fail (v : View) (id r : Int) (loop : Nat) (k : Int) :
      Step testSelect posts ⟨v, id, r, ⟨.report false, loop, k⟩⟩ ⟨v, id, -1, ⟨.returned, loop, k⟩⟩

/-! ## Every step is a step of every channel -/

variable {posts : Task → Worker → Prop}

theorem channel_workerStep_of_ne (s : Memtest n) {d div : Fin n} (h : d ≠ div) (passes : Bool) :
    channel testSelect (workerStep testSelect div passes s) d = channel testSelect s d := by
  unfold workerStep
  dsimp only
  split
  all_goals
    try split
  all_goals
    simp [channel, view, Memtest.setWorker, Memtest.setReport, Function.update_of_ne h]

theorem main_workerStep (s : Memtest n) (div : Fin n) (passes : Bool) :
    (workerStep testSelect div passes s).main = s.main := by
  unfold workerStep
  dsimp only
  split
  all_goals
    try split
  all_goals rfl

theorem channel_workerStep_self (s : Memtest n) (d : Fin n) (passes : Bool) :
    Channel.Step testSelect posts (channel testSelect s d)
      (channel testSelect (workerStep testSelect d passes s) d) := by
  unfold workerStep channel
  cases hw : s.worker d with
  | mk pc loop k =>
    cases pc with
    | getReady =>
      dsimp only
      by_cases h : s.testJobId d = -2
      · rw [if_pos h]
        simp only [Memtest.setWorker, Function.update_self, h]
        exact .getReady _ _ _ _
      · rw [if_neg h, hw]
        exact .stay _
    | await =>
      dsimp only
      by_cases h : s.testJobId d = k
      · rw [if_pos h]
        simp only [Memtest.setWorker, Function.update_self, h]
        exact .take _ _ _ _
      · rw [if_neg h, hw]
        exact .stay _
    | test =>
      simp only [Memtest.setWorker, Function.update_self]
      exact .test _ _ _ _ _ _
    | report passed =>
      cases passed with
      | true =>
        simp only [Memtest.setWorker, Memtest.setReport, Function.update_self]
        exact .pass _ _ _ _ _
      | false =>
        simp only [Memtest.setWorker, Memtest.setReport, Function.update_self]
        exact .fail _ _ _ _ _
    | returned =>
      dsimp only
      rw [hw]
      exact .stay _

/-- Main's loops come to the workers in order: a worker before index `j` is behind the
step, one after it is ahead of it. -/
theorem channel_mainStep (s : Memtest n) (d : Fin n)
    (hposts : ∀ i, s.main = .post i d → posts ⟨s.loop, i⟩ (s.worker d)) :
    Channel.Step testSelect posts (channel testSelect s d)
      (channel testSelect (mainStep testSelect s) d) := by
  have hd := d.isLt
  unfold mainStep channel
  cases hm : s.main with
  | setReady j =>
    dsimp only
    by_cases hj : j < n
    · rw [dif_pos hj]
      by_cases hdj : d = ⟨j, hj⟩
      · subst hdj
        simp only [view, hm, Memtest.setJobId, Function.update_self]
        exact .setReady _ _ _ _
      · simp only [view, hm, Memtest.setJobId, Function.update_of_ne hdj]
        exact .stay _
    · rw [dif_neg hj]
      simp only [view, hm, Nat.not_lt_zero, if_false]
      exact .stay _
  | post i j =>
    dsimp only
    by_cases hj : j < n
    · rw [dif_pos hj]
      by_cases hdj : d = ⟨j, hj⟩
      · subst hdj
        simp only [view, hm, Memtest.setJobId, Function.update_self, Nat.lt_irrefl, if_false,
          Nat.lt_succ_self, if_true]
        exact .post _ _ _ _ (hposts i hm)
      · have hne : d.val ≠ j := fun h => hdj (Fin.ext h)
        have hiff : d.val < j + 1 ↔ d.val < j := by omega
        simp only [view, hm, Memtest.setJobId, Function.update_of_ne hdj, hiff]
        exact .stay _
    · have hlt : d.val < j := by omega
      rw [dif_neg hj]
      simp only [view, hm, hlt, if_true, Nat.not_lt_zero, if_false]
      exact .stay _
  | collect i j =>
    dsimp only
    by_cases hj : j < n
    · rw [dif_pos hj]
      by_cases hexit : s.testWorkerReport ⟨j, hj⟩ = -1
      · rw [if_pos hexit]
        exact .exit _ _ _ _
      rw [if_neg hexit]
      by_cases hone : s.testWorkerReport ⟨j, hj⟩ = 1
      · rw [if_pos hone]
        by_cases hdj : d = ⟨j, hj⟩
        · subst hdj
          simp only [view, hm, hone, Nat.lt_irrefl, if_false, if_true]
          exact .receive _ _ _
        · have hne : d.val ≠ j := fun h => hdj (Fin.ext h)
          simp only [view, hm, hne, if_false]
          exact .stay _
      · rw [if_neg hone]
        exact .stay _
    · have hlt : d.val < j := by omega
      rw [dif_neg hj]
      unfold Memtest.nextTest
      by_cases hnext : HasTest testSelect (i + 1)
      · simp only [view, hm, hlt, hnext, Task.next, Nat.not_lt_zero, if_true, if_false]
        exact .stay _
      · simp only [view, hm, hlt, hnext, Task.next, if_true, if_false]
        exact .stay _
  | clear i j =>
    dsimp only
    by_cases hj : j < n
    · rw [dif_pos hj]
      by_cases hdj : d = ⟨j, hj⟩
      · subst hdj
        simp only [view, hm, Memtest.setReport, Function.update_self, Nat.lt_irrefl, if_false,
          Nat.lt_succ_self, if_true]
        exact .clear _ _ _ _
      · have hne : d.val ≠ j := fun h => hdj (Fin.ext h)
        have hiff : d.val < j + 1 ↔ d.val < j := by omega
        simp only [view, hm, Memtest.setReport, Function.update_of_ne hdj, hiff, hne, if_false]
        exact .stay _
    · rw [dif_neg hj]
      exact .stay _
  | exited => exact .stay _

/-- **Every step of a process is a step of every channel.** -/
theorem channel_step (p : Process n) (s : Memtest n) (d : Fin n)
    (hposts : p = .main → ∀ i, s.main = .post i d → posts ⟨s.loop, i⟩ (s.worker d)) :
    Channel.Step testSelect posts (channel testSelect s d)
      (channel testSelect (step testSelect p s) d) := by
  cases p with
  | main => exact channel_mainStep s d (hposts rfl)
  | worker div passes =>
    by_cases h : d = div
    · subst h
      exact channel_workerStep_self s d passes
    · show Channel.Step testSelect posts _
        (channel testSelect (workerStep testSelect div passes s) d)
      rw [channel_workerStep_of_ne s h]
      exact .stay _

/-! ## The invariant -/

/-- A worker that polls for `t`: in its loop, or for -2 before its first task. -/
def Polls (w : Worker) (t : Task) : Prop :=
  w.task = t ∧ (w.pc = .await ∨ (w.pc = .getReady ∧ t = ⟨1, -1⟩))

/-- Worker and main in step: what the worker does for each of the things main may be at. -/
def Channel.InStep (testSelect : List String) (c : Channel) : Prop :=
  match c.main with
  | .idle t => Polls c.worker t ∧ c.testWorkerReport = 0 ∧ c.testJobId ≠ t.id
  | .posted t => c.testJobId = t.id ∧
      ((Polls c.worker t ∧ c.testWorkerReport = 0) ∨
        (c.worker.task = t ∧ (c.worker.pc = .test ∨ ∃ passed, c.worker.pc = .report passed) ∧
          c.testWorkerReport = 0) ∨
        (c.worker.task = t.next testSelect ∧ c.worker.pc = .await ∧ c.testWorkerReport = 1) ∨
        (c.worker.task = t ∧ c.worker.pc = .returned ∧ c.testWorkerReport = -1))
  | .received t => c.testJobId = t.id ∧
      c.worker.task = t.next testSelect ∧ c.worker.pc = .await
  | .ended => True

theorem inStep_start (d : Fin n) : (channel testSelect (start n) d).InStep testSelect :=
  ⟨⟨rfl, .inr ⟨rfl, rfl⟩⟩, rfl, show (0 : Int) ≠ -1 by decide⟩

/-- A worker at a test, or about to report on it, is at the one that main has posted. -/
theorem Channel.InStep.busy {c : Channel} (h : c.InStep testSelect)
    (hpc : c.worker.pc = .test ∨ ∃ passed, c.worker.pc = .report passed) :
    c.main = .ended ∨ ∃ t, c.main = .posted t ∧ c.testJobId = t.id ∧ c.worker.task = t ∧
      c.testWorkerReport = 0 := by
  obtain ⟨v, id, r, pc, loop, k⟩ := c
  have hawait : pc ≠ .await := by
    rintro rfl
    obtain hpc | ⟨_, hpc⟩ := hpc
    all_goals cases hpc
  have hready : pc ≠ .getReady := by
    rintro rfl
    obtain hpc | ⟨_, hpc⟩ := hpc
    all_goals cases hpc
  have hpoll : ∀ t, ¬ Polls ⟨pc, loop, k⟩ t := by
    rintro t ⟨-, h | ⟨h, -⟩⟩
    · exact hawait h
    · exact hready h
  cases v with
  | idle t => exact absurd h.1 (hpoll t)
  | posted t =>
    obtain ⟨hid, ⟨h, -⟩ | ⟨htask, -, hr⟩ | ⟨-, h, -⟩ | ⟨-, h, -⟩⟩ := h
    · exact absurd h (hpoll t)
    · exact .inr ⟨t, rfl, hid, htask, hr⟩
    · exact absurd h hawait
    · change pc = .returned at h
      subst h
      obtain hpc | ⟨_, hpc⟩ := hpc
      all_goals cases hpc
  | received t => exact absurd h.2.2 hawait
  | ended => exact .inl rfl

theorem Channel.InStep.step (hne : testSelect ≠ []) {c c' : Channel} (h : c.InStep testSelect)
    (hstep : Channel.Step testSelect posts c c') : c'.InStep testSelect := by
  cases hstep with
  | stay => exact h
  | setReady => exact ⟨h.1, h.2.1, show (-2 : Int) ≠ -1 by decide⟩
  | post => exact ⟨rfl, .inl ⟨h.1, h.2.1⟩⟩
  | receive t =>
    -- only a worker that has passed has reported 1
    obtain ⟨hid, ⟨-, h⟩ | ⟨-, -, h⟩ | ⟨htask, hpc, -⟩ | ⟨-, -, h⟩⟩ := h
    · exact absurd h (show (1 : Int) ≠ 0 by decide)
    · exact absurd h (show (1 : Int) ≠ 0 by decide)
    · exact ⟨hid, htask, hpc⟩
    · exact absurd h (show (1 : Int) ≠ -1 by decide)
  | clear t =>
    -- what is left in `testJobId` is not the id that the worker polls for
    obtain ⟨hid, htask, hpc⟩ := h
    refine ⟨⟨htask, .inl hpc⟩, rfl, fun heq => next_id_ne hne t ?_⟩
    exact heq.symm.trans hid
  | exit => trivial
  | getReady v =>
    cases v with
    | idle => exact ⟨⟨h.1.1, .inl rfl⟩, h.2⟩
    | posted =>
      obtain ⟨hid, ⟨hpoll, hr⟩ | ⟨-, h | ⟨_, h⟩, -⟩ | ⟨-, h, -⟩ | ⟨-, h, -⟩⟩ := h
      · exact ⟨hid, .inl ⟨⟨hpoll.1, .inl rfl⟩, hr⟩⟩
      all_goals cases h
    | received =>
      obtain ⟨-, -, h⟩ := h
      cases h
    | ended => trivial
  | take v =>
    cases v with
    | idle => exact absurd (congrArg Task.id h.1.1) h.2.2
    | posted =>
      obtain ⟨hid, ⟨hpoll, hr⟩ | ⟨-, h | ⟨_, h⟩, -⟩ | ⟨htask, -, -⟩ | ⟨-, h, -⟩⟩ := h
      · exact ⟨hid, .inr (.inl ⟨hpoll.1, .inl rfl, hr⟩)⟩
      · cases h
      · cases h
      · exact absurd ((congrArg Task.id htask).symm.trans hid) (next_id_ne hne _)
      · cases h
    | received =>
      obtain ⟨hid, htask, -⟩ := h
      exact absurd ((congrArg Task.id htask).symm.trans hid) (next_id_ne hne _)
    | ended => trivial
  | test v id r loop k passes =>
    obtain rfl | ⟨t, rfl, hid, htask, hr⟩ := h.busy (.inl rfl)
    · trivial
    · exact ⟨hid, .inr (.inl ⟨htask, .inr ⟨passes, rfl⟩, hr⟩)⟩
  | pass v =>
    obtain rfl | ⟨t, rfl, hid, htask, -⟩ := h.busy (.inr ⟨true, rfl⟩)
    · trivial
    · refine ⟨hid, .inr (.inr (.inl ⟨?_, nextTest_pc _, rfl⟩))⟩
      rw [nextTest_task]
      exact congrArg _ htask
  | fail v =>
    obtain rfl | ⟨t, rfl, hid, htask, -⟩ := h.busy (.inr ⟨false, rfl⟩)
    · trivial
    · exact ⟨hid, .inr (.inr (.inr ⟨htask, rfl, rfl⟩))⟩

/-- **In every run, every worker is in step with main.** -/
theorem inStep_of_reaches (hne : testSelect ≠ []) {ok : Memtest n → Process n → Prop}
    {s : Memtest n} (h : Reaches (step testSelect) ok (start n) s) (d : Fin n) :
    (channel testSelect s d).InStep testSelect :=
  h.component (f := fun s => channel testSelect s d) (R := Channel.Step testSelect fun _ _ => True)
    (fun s p _ => channel_step p s d fun _ _ _ => trivial)
    (fun _ _ hin hstep => hin.step hne hstep) (inStep_start d)

end SwitchOc.MemTester
