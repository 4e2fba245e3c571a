import SwitchOcSuite.Lib.FaultyRam
import SwitchOcSuite.MemTester.Threads

/-!
# MemTesterNX: the tests

The functions of `tests.c` over any memory.  A machine is the memory together with how
many random words have been drawn; `rand` says what they are.  Most tests fill two
buffers with the same words and compare them, round by round, and differ in the words
and in how many rounds there are.

    testStuckAddress    one buffer, each word its own address
    patternTest         two buffers, one word at a time
    testLoop            what a worker does in one loop
-/

namespace SwitchOc.MemTester

open Ram

/-! ## The memory and the random words -/

structure Machine (σ : Type) where
  ram : σ
  calls : Nat

/-- The tests return 0 or not. -/
abbrev Test (σ : Type) := (bufa bufb count : Nat) → Machine σ → Int × Machine σ

def UL_LEN : Nat := 64
def UL_ONEBITS : UInt64 := 0xffffffffffffffff
def CHECKERBOARD1 : UInt64 := 0x5555555555555555
def CHECKERBOARD2 : UInt64 := 0xaaaaaaaaaaaaaaaa

/-- The byte `x` eight times, where `x` is less than 256. -/
def UL_BYTE (x : UInt64) : UInt64 :=
  x ||| x <<< 8 ||| x <<< 16 ||| x <<< 24 ||| x <<< 32 ||| x <<< 40 ||| x <<< 48 ||| x <<< 56

/-- `ONE << n`.  From 64 on that is undefined; the processor shifts by `n % 64`. -/
def oneShl (n : Nat) : UInt64 := 1 <<< (n % 64).toUInt64

/-- The keys set `dividend`, which makes for fewer rounds. -/
def dividend : Key → Nat
  | .A => 1
  | .X => 4
  | .Y => 16

section
variable {σ : Type} (mem : Memory σ) (rand : Nat → UInt64)

def compareRegions (s : σ) (bufa bufb count : Nat) : Int :=
  forRange (fun i r => if mem.load s (word bufa i) ≠ mem.load s (word bufb i) then -1 else r) count 0

def randUl (m : Machine σ) : UInt64 × Machine σ := (rand m.calls, { m with calls := m.calls + 1 })

def returned (result : Bool × σ) (m : Machine σ) : Int × Machine σ :=
  (if result.1 then 0 else -1, { m with ram := result.2 })

/-! ## Stuck address -/

/-- The address, or its complement, of word `i` at `p` in round `j`. -/
def addressPattern (j i p : Nat) : UInt64 :=
  if (j + i) % 2 = 0 then UInt64.ofNat p else ~~~UInt64.ofNat p

def stuckAddressRound (bufa count j : Nat) (s : σ) : Bool × σ :=
  let s := forRange
    (fun i s => mem.store s (word bufa i) (addressPattern j i (word bufa i))) count s
  ((List.range count).all fun i =>
    mem.load s (word bufa i) == addressPattern j i (word bufa i), s)

def testStuckAddress (dividend bufa count : Nat) (m : Machine σ) : Int × Machine σ :=
  returned (rounds (stuckAddressRound mem bufa count) (16 / dividend) 0 m.ram) m

/-! ## Patterns in both buffers -/

/-- `*p1++ = *p2++ = v i`. -/
def fillBoth (v : Nat → UInt64) (bufa bufb count : Nat) (s : σ) : σ :=
  forRange (fun i s => mem.store (mem.store s (word bufb i) (v i)) (word bufa i) (v i)) count s

def patternRound (pattern : Nat → Nat → UInt64) (bufa bufb count j : Nat) (s : σ) : Bool × σ :=
  let s := fillBoth mem (pattern j) bufa bufb count s
  (compareRegions mem s bufa bufb count == 0, s)

/-- `n` rounds, in round `j` with the word `pattern j i` at `i`. -/
def patternTest (n : Nat) (pattern : Nat → Nat → UInt64) : Test σ := fun bufa bufb count m =>
  returned (rounds (patternRound mem pattern bufa bufb count) n 0 m.ram) m

/-- `q` and its complement in turn. -/
def alternate (q : UInt64) (i : Nat) : UInt64 := if i % 2 = 0 then q else ~~~q

def solidbits (j : Nat) : Nat → UInt64 := alternate (if j % 2 = 0 then UL_ONEBITS else 0)

def checkerboard (j : Nat) : Nat → UInt64 :=
  alternate (if j % 2 = 0 then CHECKERBOARD1 else CHECKERBOARD2)

def blockseq (j _i : Nat) : UInt64 := UL_BYTE j.toUInt64

def walkbits0 (j _i : Nat) : UInt64 :=
  -- walk it up, then back down
  if j < UL_LEN then oneShl j else oneShl (UL_LEN * 2 - j - 1)

def walkbits1 (j _i : Nat) : UInt64 :=
  if j < UL_LEN then UL_ONEBITS ^^^ oneShl j else UL_ONEBITS ^^^ oneShl (UL_LEN * 2 - j - 1)

def bitspread (j i : Nat) : UInt64 :=
  if j < UL_LEN then
    if i % 2 = 0 then oneShl j ||| oneShl (j + 2)
    else UL_ONEBITS ^^^ (oneShl j ||| oneShl (j + 2))
  else
    if i % 2 = 0 then oneShl (UL_LEN * 2 - 1 - j) ||| oneShl (UL_LEN * 2 + 1 - j)
    else UL_ONEBITS ^^^ (oneShl (UL_LEN * 2 - 1 - j) ||| oneShl (UL_LEN * 2 + 1 - j))

/-- Round `k * 8 + j`, in which `q` has been complemented `j + 1` times. -/
def bitflip (round : Nat) : Nat → UInt64 :=
  let q := oneShl (round / 8)
  alternate (if round % 8 % 2 = 0 then ~~~q else q)

def testSolidbitsComparison (dividend : Nat) : Test σ :=
  patternTest mem (64 / dividend / dividend) solidbits

def testCheckerboardComparison (dividend : Nat) : Test σ :=
  patternTest mem (64 / dividend / dividend) checkerboard

def testBlockseqComparison (dividend : Nat) : Test σ :=
  patternTest mem (64 / dividend / dividend) blockseq

def testWalkbits0Comparison (dividend : Nat) : Test σ :=
  patternTest mem (UL_LEN * 2 / dividend / dividend) walkbits0

def testWalkbits1Comparison (dividend : Nat) : Test σ :=
  patternTest mem (UL_LEN * 2 / dividend / dividend) walkbits1

def testBitspreadComparison (dividend : Nat) : Test σ :=
  patternTest mem (UL_LEN * 2 / dividend / dividend) bitspread

def testBitflipComparison (dividend : Nat) : Test σ :=
  patternTest mem (UL_LEN / dividend / dividend * 8) bitflip

/-! ## Words computed from random ones -/

/-- Every word of both buffers becomes `f` of what it is. -/
def updateTest (f : UInt64 → UInt64 → UInt64) : Test σ := fun bufa bufb count m =>
  let (q, m) := randUl rand m
  let update (a : Nat) (s : σ) : σ := mem.store s a (f (mem.load s a) q)
  let s := forRange (fun i s => update (word bufb i) (update (word bufa i) s)) count m.ram
  (compareRegions mem s bufa bufb count, { m with ram := s })

def testXorComparison : Test σ := updateTest mem rand fun w q => w ^^^ q
def testSubComparison : Test σ := updateTest mem rand fun w q => w - q
def testMulComparison : Test σ := updateTest mem rand fun w q => w * q
def testDivComparison : Test σ := updateTest mem rand fun w q => w / if q = 0 then q + 1 else q
def testOrComparison : Test σ := updateTest mem rand fun w q => w ||| q
def testAndComparison : Test σ := updateTest mem rand fun w q => w &&& q

def testRandomValue : Test σ := fun bufa bufb count m =>
  let s := fillBoth mem (fun i => rand (m.calls + i)) bufa bufb count m.ram
  (compareRegions mem s bufa bufb count, ⟨s, m.calls + count⟩)

def testSeqincComparison : Test σ := fun bufa bufb count m =>
  let (q, m) := randUl rand m
  let s := fillBoth mem (fun i => i.toUInt64 + q) bufa bufb count m.ram
  (compareRegions mem s bufa bufb count, { m with ram := s })

/-! ## Stress -/

/-- `memset` of `count` words. -/
def memset (buf : Nat) (q : UInt64) (count : Nat) (s : σ) : σ :=
  forRange (fun i s => mem.store s (word buf i) (UL_BYTE (q &&& 0xff))) count s

/-- `memcpy` of `count` words. -/
def memcpy (dest src count : Nat) (s : σ) : σ :=
  forRange (fun i s => mem.store s (word dest i) (mem.load s (word src i))) count s

/-- The bytes of a word in memory. -/
def wordBytes (w : UInt64) : List UInt8 := (List.range 8).map fun k => (w >>> (8 * k).toUInt64).toUInt8

/-- The difference of the first bytes that differ. -/
def byteDifference : List UInt8 → List UInt8 → Int
  | x :: xs, y :: ys => if x = y then byteDifference xs ys else (x.toNat : Int) - y.toNat
  | _, _ => 0

/-- `memcmp` of `count` words. -/
def memcmp (bufa bufb count : Nat) (s : σ) : Int :=
  byteDifference ((List.range count).flatMap fun i => wordBytes (mem.load s (word bufa i)))
    ((List.range count).flatMap fun i => wordBytes (mem.load s (word bufb i)))

def testStressMemcpy : Test σ := fun bufa bufb count m =>
  let (q, m) := randUl rand m
  let s := memset mem bufb q count (memset mem bufa q count m.ram)
  let s := forRange (fun _ s => memcpy mem bufa bufb count s) 128 s
  (memcmp mem bufa bufb count s, { m with ram := s })

def testStressMemset : Test σ := fun bufa bufb count m =>
  let m := forRange (fun _ m =>
    let (q, m) := randUl rand m
    { m with ram := memset mem bufb q count (memset mem bufa q count m.ram) }) 128 m
  (memcmp mem bufa bufb count m.ram, m)

/-- The rounds of `testStressMemcmp`, from round `j` on. -/
def memcmpRounds (bufa bufb count : Nat) : Nat → Nat → Machine σ → Int × Machine σ
  | 0, _, m => (0, m)
  | n + 1, j, m =>
    let (q, m) := randUl rand m
    let s := mem.store (mem.store m.ram (word bufb j) q) (word bufa j) q
    let m := { m with ram := s }
    let rc := memcmp mem bufa bufb count s
    if rc ≠ 0 then (rc, m) else memcmpRounds bufa bufb count n (j + 1) m

def testStressMemcmp : Test σ := fun bufa bufb count m =>
  let (q, m) := randUl rand m
  let s := memset mem bufb q count (memset mem bufa q count m.ram)
  memcmpRounds mem rand bufa bufb count 32 0 { m with ram := s }

/-! ## A worker -/

/-- The tests that a key selects, with their names. -/
def testTable (key : Key) : List (String × Test σ) :=
  match key with
  | .Y =>
    [("Stress memcpy x128", testStressMemcpy mem rand),
      ("Stress memset x128", testStressMemset mem rand),
      ("Stress memcmp x 32", testStressMemcmp mem rand)]
  | key =>
    [("Random Value", testRandomValue mem rand), ("Compare XOR", testXorComparison mem rand),
      ("Compare SUB", testSubComparison mem rand), ("Compare MUL", testMulComparison mem rand),
      ("Compare DIV", testDivComparison mem rand), ("Compare OR", testOrComparison mem rand),
      ("Compare AND", testAndComparison mem rand),
      ("Sequential Increment", testSeqincComparison mem rand),
      ("Solid Bits", testSolidbitsComparison mem (dividend key)),
      ("Block Sequential", testBlockseqComparison mem (dividend key)),
      ("Checkerboard", testCheckerboardComparison mem (dividend key)),
      ("Bit Spread", testBitspreadComparison mem (dividend key)),
      ("Bit Flip (Slow)", testBitflipComparison mem (dividend key)),
      ("Walking Ones", testWalkbits1Comparison mem (dividend key)),
      ("Walking Zeroes", testWalkbits0Comparison mem (dividend key))]

/-- They are the tests that main announces. -/
theorem names_testTable (key : Key) :
    (testTable mem rand key).map Prod.fst = testSelect key := by
  cases key <;> rfl

/-- The tests in their order, up to the first that fails. -/
def runTests (bufa bufb count : Nat) : List (String × Test σ) → Machine σ → Bool × Machine σ
  | [], m => (true, m)
  | test :: tests, m =>
    match test.2 bufa bufb count m with
    | (rc, m) => if rc = 0 then runTests bufa bufb count tests m else (false, m)

/-- One loop of `testWorker` over its `bufsize` bytes: does no test fail? -/
def testLoop (key : Key) (aligned bufsize : Nat) (m : Machine σ) : Bool × Machine σ :=
  match testStuckAddress mem (dividend key) aligned (bufsize / 8) m with
  | (rc, m) =>
    if rc = 0 then
      runTests aligned (aligned + bufsize / 2) (bufsize / 8 / 2) (testTable mem rand key) m
    else (false, m)

/-- Loops until one fails. -/
def testLoops (key : Key) (aligned bufsize n : Nat) (m : Machine σ) : Bool × Machine σ :=
  rounds (fun _ => testLoop mem rand key aligned bufsize) n 1 m

end

end SwitchOc.MemTester
