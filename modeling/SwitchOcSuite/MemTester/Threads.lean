import Mathlib.Logic.Function.Basic

/-!
# MemTesterNX: main and its workers

`main` and the `testWorker`s share two arrays of words, `testJobId` (written by main)
and `testWorkerReport` (written by both).  Each process is a position in its code;
a step takes one of them over one read or write of a shared word, or over a test.
What a test finds is left open: a step of a worker says whether it passes.

    mainStep / workerStep     one step of a process
-/

namespace SwitchOc.MemTester

/-! ## Tests -/

/-- The names in `tests[]`, up to the one that is `NULL`. -/
def tests : List String :=
  ["Random Value", "Compare XOR", "Compare SUB", "Compare MUL", "Compare DIV", "Compare OR",
    "Compare AND", "Sequential Increment", "Solid Bits", "Block Sequential", "Checkerboard",
    "Bit Spread", "Bit Flip (Slow)", "Walking Ones", "Walking Zeroes"]

def stressTests : List String := ["Stress memcpy x128", "Stress memset x128", "Stress memcmp x 32"]

/-- The keys that start a test. -/
inductive Key
  | A
  | X
  | Y

def testSelect : Key → List String
  | .A => tests
  | .X => tests
  | .Y => stressTests

def testThreads (isDevKit8GB : Bool) : Nat := if isDevKit8GB then 4 else 3

/-! ## Positions -/

/-- Where main is, in a loop over the workers that has come to worker `j`.  The test with
index `i` is the one of `testSelect`, and -1 the stuck address. -/
inductive MainAt
  /-- about to set `testJobId[j]` to -2 -/
  | setReady (j : Nat)
  /-- about to set `testJobId[j]` to `i` -/
  | post (i : Int) (j : Nat)
  /-- about to read `testWorkerReport[j]` -/
  | collect (i : Int) (j : Nat)
  /-- about to set `testWorkerReport[j]` to 0 -/
  | clear (i : Int) (j : Nat)
  | exited
  deriving DecidableEq

inductive WorkerAt
  /-- about to read its job id, for -2 -/
  | getReady
  /-- about to read its job id, for `currentJobId` -/
  | await
  | test
  /-- about to write its report -/
  | report (passed : Bool)
  | returned
  deriving DecidableEq

/-- A worker.  No code reads `loop`: it counts the turns of `while (true)`. -/
structure Worker where
  pc : WorkerAt
  loop : Nat
  currentJobId : Int

structure Memtest (n : Nat) where
  testJobId : Fin n → Int
  testWorkerReport : Fin n → Int
  main : MainAt
  loop : Nat
  worker : Fin n → Worker

/-- The workers are started, and main enters its loop. -/
def start (n : Nat) : Memtest n where
  testJobId := fun _ => 0
  testWorkerReport := fun _ => 0
  main := .setReady 0
  loop := 1
  worker := fun _ => ⟨.getReady, 1, -1⟩

/-! ## Steps -/

variable {n : Nat} (testSelect : List String)

/-- Whether `test_select[i].name` is not `NULL`. -/
def HasTest (i : Int) : Prop := i < testSelect.length

instance (i : Int) : Decidable (HasTest testSelect i) := inferInstanceAs (Decidable (i < _))

def Memtest.setJobId (s : Memtest n) (j : Fin n) (id : Int) : Memtest n :=
  { s with testJobId := Function.update s.testJobId j id }

def Memtest.setReport (s : Memtest n) (j : Fin n) (report : Int) : Memtest n :=
  { s with testWorkerReport := Function.update s.testWorkerReport j report }

def Memtest.setWorker (s : Memtest n) (j : Fin n) (w : Worker) : Memtest n :=
  { s with worker := Function.update s.worker j w }

/-- Behind the reports on test `i`: the next test, or the next loop. -/
def Memtest.nextTest (s : Memtest n) (i : Int) : Memtest n :=
  if HasTest testSelect (i + 1) then { s with main := .post (i + 1) 0 }
  else { s with main := .setReady 0, loop := s.loop + 1 }

def mainStep (s : Memtest n) : Memtest n :=
  match s.main with
  | .setReady j =>
    if h : j < n then { s.setJobId ⟨j, h⟩ (-2) with main := .setReady (j + 1) }
    else { s with main := .post (-1) 0 }
  | .post i j =>
    if h : j < n then { s.setJobId ⟨j, h⟩ i with main := .post i (j + 1) }
    else { s with main := .collect i 0 }
  | .collect i j =>
    if h : j < n then
      if s.testWorkerReport ⟨j, h⟩ = -1 then { s with main := .exited }
      else if s.testWorkerReport ⟨j, h⟩ = 1 then { s with main := .clear i j }
      else s -- sleeps and reads again
    else s.nextTest testSelect i
  | .clear i j =>
    if h : j < n then { s.setReport ⟨j, h⟩ 0 with main := .collect i (j + 1) } else s
  | .exited => s

/-- `currentJobId++`, and a further turn of `while (true)` behind the last test. -/
def Worker.nextTest (w : Worker) : Worker :=
  if HasTest testSelect (w.currentJobId + 1) then ⟨.await, w.loop, w.currentJobId + 1⟩
  else ⟨.await, w.loop + 1, -1⟩

def workerStep (div : Fin n) (passes : Bool) (s : Memtest n) : Memtest n :=
  let w := s.worker div
  match w.pc with
  | .getReady => if s.testJobId div = -2 then s.setWorker div { w with pc := .await } else s
  | .await =>
    if s.testJobId div = w.currentJobId then s.setWorker div { w with pc := .test } else s
  | .test => s.setWorker div { w with pc := .report passes }
  | .report true => (s.setReport div 1).setWorker div (w.nextTest testSelect)
  | .report false => (s.setReport div (-1)).setWorker div { w with pc := .returned }
  | .returned => s

/-- The process that takes the step. -/
inductive Process (n : Nat)
  | main
  | worker (div : Fin n) (passes : Bool)

def step : Process n → Memtest n → Memtest n
  | .main, s => mainStep testSelect s
  | .worker div passes, s => workerStep testSelect div passes s

end SwitchOc.MemTester
