import Mathlib.Algebra.Group.Nat.Defs
import Mathlib.Data.List.Induction
import Mathlib.Data.UInt
import Mathlib.Tactic.Common
import SwitchOcSuite.Lib.Peak

/-!
# The sliding maximum of the GPU governor (`sysmodule/src/oc_extra.h`)

`SWindowMax` keeps the last values in two stacks, of which each entry carries the
maximum of the entries below.  Both stacks start full of zeros, `Pop` moves the running
maxima instead of the items and `Push` takes the maximum from `enqStack` whichever
stack it pushes to.  So the first values are dropped, and after that the window is the
maximum of the values since the last transfer and of the oldest ones of the block before
it (`Holds.get`), not of the newest ones (`swindowMax_get_iff`).
-/

namespace SwitchOc.SysClk

open Peak

/-- `s_Entry`. -/
structure Entry (T : Type) where
  item : T
  max : T

/-- `s_Stack`: `m_next` of the `WINDOW_SIZE` entries are in use. -/
structure Stack (T : Type) (n : Nat) where
  m_stack : Vector (Entry T) n
  m_next : Nat
  m_next_le : m_next ≤ n

namespace Stack

variable {T : Type} {n : Nat}

/-- The initialisers: all entries zero, and all in use. -/
def new [Zero T] : Stack T n := ⟨Vector.replicate n ⟨0, 0⟩, n, Nat.le_refl n⟩

def empty (s : Stack T n) : Bool := s.m_next = 0

/-- `none` stands for a read below the array. -/
def top (s : Stack T n) : Option (Entry T) :=
  if s.m_next = 0 then none else s.m_stack[s.m_next - 1]?

def pop (s : Stack T n) : Option (Entry T × Stack T n) :=
  if h : s.m_next = 0 then none
  else
    have := s.m_next_le
    some (s.m_stack[s.m_next - 1], ⟨s.m_stack, s.m_next - 1, by omega⟩)

/-- An item for a full stack is dropped. -/
def push (s : Stack T n) (item : Entry T) : Stack T n :=
  if h : s.m_next = n then s
  else
    have hlt : s.m_next < n := Nat.lt_of_le_of_ne s.m_next_le h
    ⟨s.m_stack.set s.m_next item, s.m_next + 1, hlt⟩

/-! ## A stack as the list of its entries, top first -/

def contents (s : Stack T n) : List (Entry T) := (s.m_stack.toList.take s.m_next).reverse

@[simp] theorem length_contents (s : Stack T n) : s.contents.length = s.m_next := by
  have := s.m_next_le
  simp [contents]
  omega

theorem contents_new [Zero T] : (new : Stack T n).contents = List.replicate n ⟨0, 0⟩ := by
  simp [contents, new]

theorem empty_iff (s : Stack T n) : s.empty = true ↔ s.contents = [] := by
  rw [← List.length_eq_zero_iff, length_contents]
  simp [empty]

theorem contents_of_ne_zero {s : Stack T n} (h : s.m_next ≠ 0)
    (hlt : s.m_next - 1 < n) : s.contents =
      s.m_stack[s.m_next - 1] :: (s.m_stack.toList.take (s.m_next - 1)).reverse := by
  have hlast : s.m_next - 1 < s.m_stack.toList.length := by simpa using hlt
  have htake := List.take_succ_eq_append_getElem hlast
  rw [Nat.sub_add_cancel (Nat.pos_of_ne_zero h)] at htake
  unfold contents
  rw [htake, List.reverse_append]
  rfl

theorem top_eq (s : Stack T n) : s.top = s.contents.head? := by
  have := s.m_next_le
  unfold top
  split
  · rename_i h
    have hnil : s.contents = [] := List.eq_nil_of_length_eq_zero (by rw [length_contents, h])
    rw [hnil]
    rfl
  · rename_i h
    have hlt : s.m_next - 1 < n := by omega
    rw [contents_of_ne_zero h hlt]
    exact Vector.getElem?_eq_getElem hlt

theorem pop_of_contents {s : Stack T n} {e : Entry T} {l : List (Entry T)}
    (h : s.contents = e :: l) : ∃ s' : Stack T n, s.pop = some (e, s') ∧ s'.contents = l := by
  have := s.m_next_le
  have hne : s.m_next ≠ 0 := by rw [← length_contents, h]; simp
  have hlt : s.m_next - 1 < n := by omega
  rw [contents_of_ne_zero hne hlt, List.cons.injEq] at h
  obtain ⟨rfl, rfl⟩ := h
  exact ⟨_, dif_neg hne, rfl⟩

theorem contents_push {s : Stack T n} (h : s.m_next < n) (e : Entry T) :
    (s.push e).contents = e :: s.contents := by
  have hlast : s.m_next < (s.m_stack.set s.m_next e).toList.length := by simpa using h
  have htake := List.take_succ_eq_append_getElem hlast
  unfold push contents
  rw [dif_neg (Nat.ne_of_lt h)]
  dsimp only
  rw [htake, List.reverse_append]
  simp [Vector.toList_set, List.take_set_of_le]

theorem push_of_full {s : Stack T n} (h : s.m_next = n) (e : Entry T) : s.push e = s := dif_pos h

end Stack

/-! ## The window -/

structure SWindowMax (T : Type) (n : Nat) where
  enqStack : Stack T n
  deqStack : Stack T n

namespace SWindowMax

section

variable {T : Type} {n : Nat} [Max T]

def new [Zero T] : SWindowMax T n := ⟨.new, .new⟩

/-- `Push`: the maximum is the one of `enqStack`, whatever `stack` is. -/
def push (enqStack stack : Stack T n) (item : T) : Stack T n :=
  stack.push ⟨item, match enqStack.top with
    | none => item
    | some top => max item top.max⟩

/-- The loop of `Pop`, which takes as many turns as `enqStack` has entries. -/
def transfer : Nat → Stack T n → Stack T n → Stack T n × Stack T n
  | 0, enqStack, deqStack => (enqStack, deqStack)
  | k + 1, enqStack, deqStack =>
    match enqStack.pop with
    | none => (enqStack, deqStack)
    | some (entry, enqStack) => transfer k enqStack (push enqStack deqStack entry.max)

/-- `Pop`: `none` if both stacks are empty, where the code reads below an array. -/
def pop (w : SWindowMax T n) : Option (T × SWindowMax T n) :=
  let pair :=
    if w.deqStack.empty then transfer w.enqStack.m_next w.enqStack w.deqStack
    else (w.enqStack, w.deqStack)
  match pair.2.pop with
  | none => none
  | some (entry, deqStack) => some (entry.item, ⟨pair.1, deqStack⟩)

def add (w : SWindowMax T n) (item : T) : Option (SWindowMax T n) :=
  match w.pop with
  | none => none
  | some (_, w) => some { w with enqStack := push w.enqStack w.enqStack item }

def get [Zero T] (w : SWindowMax T n) : T :=
  match w.enqStack.top with
  | some enqTop =>
    match w.deqStack.top with
    | some deqTop => max deqTop.max enqTop.max
    | none => enqTop.max
  | none =>
    match w.deqStack.top with
    | some deqTop => deqTop.max
    | none => 0

/-- The calls of `Add` one after the other. -/
def addAll (w : SWindowMax T n) (items : List T) : Option (SWindowMax T n) := items.foldlM add w

/-! ## What the stacks hold -/

/-- The items of a stack, top first, each with the maximum of it and all below. -/
def entries (items : List T) : List (Entry T) := List.zipWith Entry.mk items (runningMax items)

/-- What the transfer makes of a block: for each item the maximum up to it, the oldest on top. -/
def levels (block : List T) : List (Entry T) :=
  (runningMax block.reverse).reverse.map fun m => ⟨m, m⟩

/-- `stored` is in `enqStack`, and `deqStack` has what is left of `behind`. -/
structure Holds (w : SWindowMax T n) (stored behind : List T) (taken : Nat) : Prop where
  enq : w.enqStack.contents = entries stored.reverse
  deq : w.deqStack.contents = (levels behind).drop taken
  length_behind : behind.length = n

theorem entries_cons (x : T) (l : List T) :
    entries (x :: l) = ⟨x, (runningMax l).head?.elim x (max x)⟩ :: entries l := rfl

@[simp] theorem length_entries (l : List T) : (entries l).length = l.length := by
  simp [entries]

@[simp] theorem length_levels (l : List T) : (levels l).length = l.length := by
  simp [levels]

theorem head?_entries (l : List T) : (entries l).head?.map Entry.max = (runningMax l).head? := by
  cases l with
  | nil => rfl
  | cons x l => rfl

/-- `Push` to the stack that holds the items itself. -/
theorem contents_push {s : Stack T n} {items : List T} (h : s.contents = entries items)
    (hlt : s.m_next < n) (x : T) : (push s s x).contents = entries (x :: items) := by
  unfold push
  rw [Stack.contents_push hlt, s.top_eq, h, entries_cons, ← head?_entries]
  cases (entries items).head? with
  | none => rfl
  | some top => rfl

/-! ## One call of `Add` -/

/-- `Add` while something is left to take. -/
theorem Holds.add_of_lt {w : SWindowMax T n} {stored behind : List T} {taken : Nat}
    (h : Holds w stored behind taken) (htaken : taken < n) (x : T) :
    ∃ w', w.add x = some w' ∧
      Holds w' (if stored.length = n then stored else stored ++ [x]) behind (taken + 1) := by
  have hlen : taken < (levels behind).length := by rw [length_levels, h.length_behind]; exact htaken
  have hcons := h.deq
  rw [List.drop_eq_getElem_cons hlen] at hcons
  obtain ⟨deqStack, hpop, hdeq⟩ := Stack.pop_of_contents hcons
  have hfull : w.deqStack.empty = false := by
    rw [← Bool.not_eq_true, Stack.empty_iff, hcons]
    exact List.cons_ne_nil _ _
  have hnext : w.enqStack.m_next = stored.length := by
    rw [← Stack.length_contents, h.enq, length_entries, List.length_reverse]
  unfold add pop
  rw [hfull]
  dsimp only [Bool.false_eq_true, if_false]
  rw [if_neg Bool.false_ne_true]
  dsimp only
  rw [hpop]
  refine ⟨_, rfl, ?_, hdeq, h.length_behind⟩
  dsimp only
  split
  · rename_i heq
    exact (congrArg Stack.contents (Stack.push_of_full (hnext.trans heq) _)).trans h.enq
  · rename_i hne
    have hlt : w.enqStack.m_next < n := Nat.lt_of_le_of_ne w.enqStack.m_next_le (hnext ▸ hne)
    rw [contents_push h.enq hlt, List.reverse_append]
    rfl

end

section

variable {T : Type} {n : Nat} [LE T] [Max T] [Std.IsLinearOrder T] [Std.LawfulOrderMax T]

/-- The entry that the transfer makes of the top one: its own maximum twice. -/
theorem contents_push_max {enqStack deqStack : Stack T n} {x : T} {items : List T}
    (h : enqStack.contents = entries items) (hlt : deqStack.m_next < n) :
    (push enqStack deqStack ((runningMax items).head?.elim x (max x))).contents =
      ⟨(runningMax items).head?.elim x (max x), (runningMax items).head?.elim x (max x)⟩ ::
        deqStack.contents := by
  unfold push
  rw [Stack.contents_push hlt, enqStack.top_eq, h, ← head?_entries]
  cases (entries items).head? with
  | none => rfl
  | some top =>
    have hmax : max (max x top.max) top.max = max x top.max :=
      Std.le_antisymm (Std.max_le_iff.2 ⟨Std.le_refl _, Std.right_le_max⟩) Std.left_le_max
    simp [hmax]

/-- The loop of `Pop` turns the stack over and keeps the maxima. -/
theorem transfer_contents (items : List T) :
    ∀ (enqStack deqStack : Stack T n), enqStack.contents = entries items →
      deqStack.m_next + items.length ≤ n →
      (transfer items.length enqStack deqStack).1.contents = [] ∧
        (transfer items.length enqStack deqStack).2.contents =
          (runningMax items).reverse.map (fun m => ⟨m, m⟩) ++ deqStack.contents := by
  induction items with
  | nil =>
    intro enqStack deqStack h _
    exact ⟨h, rfl⟩
  | cons x items ih =>
    intro enqStack deqStack h hroom
    rw [entries_cons] at h
    obtain ⟨enqStack', hpop, h'⟩ := Stack.pop_of_contents h
    rw [List.length_cons] at hroom
    have hpush := contents_push_max (x := x) h' (by omega : deqStack.m_next < n)
    have hnext : (push enqStack' deqStack
        ((runningMax items).head?.elim x (max x))).m_next = deqStack.m_next + 1 := by
      rw [← Stack.length_contents, hpush, List.length_cons, Stack.length_contents]
    rw [List.length_cons, transfer, hpop]
    dsimp only
    obtain ⟨hempty, hdeq⟩ := ih enqStack' _ h' (by rw [hnext]; omega)
    refine ⟨hempty, ?_⟩
    rw [hdeq, hpush, runningMax, List.reverse_cons, List.map_append, List.append_assoc]
    rfl

/-- `Add` when the stack of the old values is empty. -/
theorem Holds.add_of_eq {w : SWindowMax T n} {stored behind : List T}
    (h : Holds w stored behind n) (hn : 0 < n) (hstored : stored.length = n) (x : T) :
    ∃ w', w.add x = some w' ∧ Holds w' [x] stored 1 := by
  have hdeq : w.deqStack.contents = [] := by
    rw [h.deq]
    exact List.drop_of_length_le (Nat.le_of_eq (by rw [length_levels, h.length_behind]))
  have hnext : w.enqStack.m_next = stored.reverse.length := by
    rw [← Stack.length_contents, h.enq, length_entries]
  have hroom : w.deqStack.m_next + stored.reverse.length ≤ n := by
    rw [← Stack.length_contents, hdeq, List.length_reverse, hstored]
    exact Nat.le_of_eq (Nat.zero_add n)
  obtain ⟨hempty, hmoved⟩ := transfer_contents stored.reverse w.enqStack w.deqStack h.enq hroom
  rw [hdeq, List.append_nil] at hmoved
  have hlen : 0 < (levels stored).length := by rw [length_levels, hstored]; exact hn
  have hcons : (transfer stored.reverse.length w.enqStack w.deqStack).2.contents =
      (levels stored)[0] :: (levels stored).drop 1 := by
    rw [hmoved, ← List.drop_eq_getElem_cons hlen]
    rfl
  obtain ⟨deqStack, hpop, hleft⟩ := Stack.pop_of_contents hcons
  unfold add pop
  rw [if_pos ((Stack.empty_iff _).2 hdeq), hnext]
  dsimp only
  rw [hpop]
  refine ⟨_, rfl, ?_, hleft, hstored⟩
  have hlt : (transfer stored.reverse.length w.enqStack w.deqStack).1.m_next < n := by
    rw [← Stack.length_contents, hempty]
    exact hn
  exact @contents_push T n _ _ [] hempty hlt x

/-! ## What `Get` returns -/

/-- **`Get` is the maximum** of the items stored and of the oldest ones behind them, up to
and with the next one to take. -/
theorem Holds.get [Zero T] {w : SWindowMax T n} {stored behind : List T} {taken : Nat}
    (h : Holds w stored behind taken) (hstored : stored ≠ []) :
    some w.get = (stored ++ if taken < n then behind.take (taken + 1) else []).max? := by
  obtain ⟨m, hm⟩ := exists_max? hstored
  have htop : w.enqStack.top.map Entry.max = some m := by
    rw [w.enqStack.top_eq, h.enq, head?_entries, head?_runningMax, max?_reverse, hm]
  obtain ⟨enqTop, henq, rfl⟩ := Option.map_eq_some_iff.1 htop
  unfold SWindowMax.get
  rw [henq, w.deqStack.top_eq, h.deq, List.head?_drop]
  dsimp only
  split_ifs with htaken
  · have hlt : taken < behind.length := by rw [h.length_behind]; exact htaken
    have hne : behind.take (taken + 1) ≠ [] := by
      rw [← List.length_pos_iff, List.length_take]
      omega
    obtain ⟨m', hm'⟩ := exists_max? hne
    have hlevel : (levels behind)[taken]? = some ⟨m', m'⟩ := by
      unfold levels
      rw [List.getElem?_map, getElem?_reverse_runningMax hlt, hm']
      rfl
    rw [hlevel, max?_append hm hm']
  · rw [List.getElem?_eq_none (by rw [length_levels, h.length_behind]; omega), List.append_nil, hm]

end

/-! ## Runs -/

section

variable {T : Type} (n : Nat) (items : List T)

/-- How many of `len` items came since the last transfer, or since the start. -/
def taken (len : Nat) : Nat := if len = 0 then 0 else (len - 1) % n + 1

/-- The items since the last transfer. -/
def newer : List T := items.drop (items.length - taken n items.length)

/-- The `n` items before them. -/
def older : List T := (items.drop (items.length - taken n items.length - n)).take n

variable {n}

theorem taken_le (hn : 1 ≤ n) (len : Nat) : taken n len ≤ n := by
  unfold taken
  split
  · exact Nat.zero_le n
  · exact Nat.mod_lt _ hn

theorem taken_of_le {len : Nat} (h : len ≤ n) : taken n len = len := by
  unfold taken
  split
  · exact (by assumption : len = 0).symm
  · rw [Nat.mod_eq_of_lt (by omega)]
    omega

theorem taken_sub {len : Nat} (h : n < len) : taken n len = taken n (len - n) := by
  unfold taken
  rw [if_neg (by omega), if_neg (by omega), Nat.mod_eq_sub_mod (by omega),
    show len - 1 - n = len - n - 1 by omega]

theorem taken_succ (hn : 1 ≤ n) (len : Nat) :
    taken n (len + 1) = if taken n len = n then 1 else taken n len + 1 := by
  induction len using Nat.strongRecOn with
  | ind len ih =>
    rcases Nat.lt_trichotomy len n with hlt | rfl | hgt
    · rw [taken_of_le (Nat.le_of_lt hlt), taken_of_le hlt, if_neg (Nat.ne_of_lt hlt)]
    · rw [taken_of_le (Nat.le_refl _), if_pos rfl, taken_sub (by omega : len < len + 1),
        show len + 1 - len = 1 by omega, taken_of_le hn]
    · rw [taken_sub (Nat.lt_succ_of_lt hgt), taken_sub hgt,
        show len + 1 - n = len - n + 1 by omega]
      exact ih (len - n) (by omega)

theorem taken_le_len (n len : Nat) : taken n len ≤ len := by
  unfold taken
  split
  · exact Nat.zero_le len
  · have := Nat.mod_le (len - 1) n
    omega

theorem taken_pos {len : Nat} (h : 0 < len) : 0 < taken n len := by
  unfold taken
  rw [if_neg (by omega)]
  exact Nat.succ_pos _

theorem taken_add_le {len : Nat} (h : n < len) : taken n len + n ≤ len := by
  have := taken_le_len n (len - n)
  rw [taken_sub h]
  omega

/-- A block is complete after `n` items, and then not before `2 * n`. -/
theorem le_of_taken_eq {len : Nat} (h : taken n len = n) : len = n ∨ 2 * n ≤ len := by
  rcases Nat.lt_trichotomy len n with hlt | heq | hgt
  · rw [taken_of_le (Nat.le_of_lt hlt)] at h
    exact absurd h (Nat.ne_of_lt hlt)
  · exact .inl heq
  · refine .inr (Nat.le_of_not_lt fun hlt => ?_)
    rw [taken_sub hgt, taken_of_le (by omega)] at h
    omega

theorem taken_two_mul (hn : 1 ≤ n) : taken n (2 * n) = n := by
  rw [taken_sub (by omega), taken_of_le (by omega)]
  omega

theorem newer_concat (hn : 1 ≤ n) (items : List T) (x : T) :
    newer n (items ++ [x]) =
      if taken n items.length = n then [x] else newer n items ++ [x] := by
  unfold newer
  rw [List.length_append, List.length_singleton, taken_succ hn]
  split
  · rw [Nat.add_sub_cancel, List.drop_append_of_le_length (Nat.le_refl _), List.drop_length]
    rfl
  · rw [Nat.add_sub_add_right, List.drop_append_of_le_length (Nat.sub_le _ _)]

theorem length_newer (items : List T) : (newer n items).length = taken n items.length := by
  have := taken_le_len n items.length
  unfold newer
  rw [List.length_drop]
  omega

theorem older_concat (hn : 1 ≤ n) (items : List T) (x : T) (h : n < items.length) :
    older n (items ++ [x]) =
      if taken n items.length = n then newer n items else older n items := by
  have htaken := taken_le hn items.length
  unfold older newer
  rw [List.length_append, List.length_singleton, taken_succ hn]
  split
  · rename_i heq
    rw [heq, Nat.add_sub_cancel, List.drop_append_of_le_length (Nat.sub_le _ _),
      List.take_append_of_le_length (by rw [List.length_drop]; omega)]
    exact List.take_of_length_le (by rw [List.length_drop]; omega)
  · rw [Nat.add_sub_add_right, List.drop_append_of_le_length (by omega),
      List.take_append_of_le_length (by rw [List.length_drop]; omega)]

variable [Zero T]

/-- What is in `enqStack`: nothing of the first `n` items. -/
def stored (n : Nat) (items : List T) : List T :=
  if items.length ≤ n then List.replicate n 0 else newer n items

/-- What the last transfer moved. -/
def behind (n : Nat) (items : List T) : List T :=
  if items.length ≤ 2 * n then List.replicate n 0 else older n items

theorem stored_of_le {items : List T} (h : items.length ≤ n) :
    stored n items = List.replicate n 0 := if_pos h

theorem stored_of_lt {items : List T} (h : n < items.length) : stored n items = newer n items :=
  if_neg (Nat.not_le.2 h)

theorem behind_of_le {items : List T} (h : items.length ≤ 2 * n) :
    behind n items = List.replicate n 0 := if_pos h

theorem behind_of_lt {items : List T} (h : 2 * n < items.length) :
    behind n items = older n items := if_neg (Nat.not_le.2 h)

theorem length_stored_of_eq {items : List T} (h : taken n items.length = n) :
    (stored n items).length = n := by
  unfold stored
  split
  · exact List.length_replicate
  · rw [length_newer, h]

theorem stored_concat (hn : 1 ≤ n) (items : List T) (x : T) :
    stored n (items ++ [x]) =
      if taken n items.length = n then [x]
      else if (stored n items).length = n then stored n items else stored n items ++ [x] := by
  have hlen : (items ++ [x]).length = items.length + 1 := List.length_append
  by_cases htaken : taken n items.length = n
  · have hcases := le_of_taken_eq htaken
    rw [if_pos htaken, stored_of_lt (by omega), newer_concat hn, if_pos htaken]
  · rw [if_neg htaken]
    rcases Nat.lt_trichotomy items.length n with hlt | heq | hgt
    · rw [stored_of_le (by omega), stored_of_le (by omega), if_pos List.length_replicate]
    · exact absurd ((taken_of_le (Nat.le_of_eq heq)).trans heq) htaken
    · rw [stored_of_lt (by omega), stored_of_lt hgt, length_newer, if_neg htaken,
        newer_concat hn, if_neg htaken]

theorem behind_concat (hn : 1 ≤ n) (items : List T) (x : T) :
    behind n (items ++ [x]) =
      if taken n items.length = n then stored n items else behind n items := by
  have hlen : (items ++ [x]).length = items.length + 1 := List.length_append
  by_cases htaken : taken n items.length = n
  · rw [if_pos htaken]
    rcases le_of_taken_eq htaken with heq | hle
    · rw [behind_of_le (by omega), stored_of_le (Nat.le_of_eq heq)]
    · rw [behind_of_lt (by omega), older_concat hn items x (by omega), if_pos htaken,
        stored_of_lt (by omega)]
  · rw [if_neg htaken]
    rcases Nat.lt_trichotomy items.length (2 * n) with hlt | heq | hgt
    · rw [behind_of_le (by omega), behind_of_le (by omega)]
    · exact absurd (heq ▸ taken_two_mul hn) htaken
    · rw [behind_of_lt (by omega), behind_of_lt hgt, older_concat hn items x (by omega),
        if_neg htaken]

/-- The last `n` items, missing ones as 0. -/
def window (n : Nat) (items : List T) : List T :=
  (List.replicate n 0 ++ items).drop items.length

theorem length_window (n : Nat) (items : List T) : (window n items).length = n := by
  unfold window
  rw [List.length_drop, List.length_append, List.length_replicate]
  omega

theorem window_of_lt {items : List T} (hn : 1 ≤ n) (h : n < items.length) :
    window n items = (older n items).drop (taken n items.length) ++ newer n items := by
  have htaken := taken_le hn items.length
  have hlen := taken_add_le h
  unfold window older newer
  rw [List.drop_append, List.drop_of_length_le (by rw [List.length_replicate]; omega),
    List.nil_append, List.length_replicate, List.drop_take, List.drop_drop,
    show items.length - taken n items.length - n + taken n items.length =
      items.length - n by omega,
    show items.length - taken n items.length =
      items.length - n + (n - taken n items.length) by omega,
    ← List.drop_drop, List.take_append_drop]

end

section

variable {T : Type} {n : Nat} [LE T] [Max T] [Zero T] [Std.IsLinearOrder T]
  [Std.LawfulOrderMax T]

theorem entries_zero (n : Nat) :
    entries (List.replicate n (0 : T)) = List.replicate n ⟨0, 0⟩ := by
  simp [entries, runningMax_replicate]

theorem levels_zero (n : Nat) :
    levels (List.replicate n (0 : T)) = List.replicate n ⟨0, 0⟩ := by
  simp [levels, runningMax_replicate]

theorem holds_new (n : Nat) :
    Holds (new : SWindowMax T n) (stored n []) (behind n []) (taken n 0) := by
  rw [stored_of_le (Nat.zero_le n), behind_of_le (Nat.zero_le _)]
  refine ⟨?_, ?_, List.length_replicate⟩
  · rw [List.reverse_replicate, entries_zero]
    exact Stack.contents_new
  · rw [levels_zero]
    exact Stack.contents_new

/-- **The stacks after any calls of `Add`.** -/
theorem holds_addAll (hn : 1 ≤ n) (items : List T) :
    ∃ w : SWindowMax T n, new.addAll items = some w ∧
      Holds w (stored n items) (behind n items) (taken n items.length) := by
  induction items using List.reverseRecOn with
  | nil => exact ⟨new, rfl, holds_new n⟩
  | append_singleton items x ih =>
    obtain ⟨w, hrun, hw⟩ := ih
    have hstep : ∀ w', w.add x = some w' → new.addAll (items ++ [x]) = some w' := by
      intro w' hadd
      unfold addAll at hrun ⊢
      rw [List.foldlM_append, hrun]
      simp [hadd]
    rw [stored_concat hn, behind_concat hn, List.length_append, List.length_singleton,
      taken_succ hn]
    by_cases htaken : taken n items.length = n
    · rw [htaken] at hw
      obtain ⟨w', hadd, hw'⟩ := hw.add_of_eq hn (length_stored_of_eq htaken) x
      refine ⟨w', hstep w' hadd, ?_⟩
      rw [if_pos htaken, if_pos htaken, if_pos htaken]
      exact hw'
    · have hlt := Nat.lt_of_le_of_ne (taken_le hn items.length) htaken
      obtain ⟨w', hadd, hw'⟩ := hw.add_of_lt hlt x
      refine ⟨w', hstep w' hadd, ?_⟩
      rw [if_neg htaken, if_neg htaken, if_neg htaken]
      exact hw'

/-! ## The sliding maximum -/

/-- The naive sliding maximum. -/
def windowMax (n : Nat) (items : List T) : T := (window n items).max?.getD 0

/-- The part of the window that `Get` sees: the items since the last transfer and the oldest
one of the block before that is still in the window. -/
def kept (n : Nat) (items : List T) : List T :=
  if items.length ≤ n then []
  else if items.length ≤ 2 * n then newer n items
  else newer n items ++ ((older n items).drop (taken n items.length)).take 1

/-- What `Get` sees besides: the zeros of the start, or the items of the block before that
have left the window, unless that block is used up. -/
def stale (n : Nat) (items : List T) : List T :=
  if items.length ≤ n then [0]
  else if taken n items.length = n then []
  else if items.length ≤ 2 * n then [0]
  else (older n items).take (taken n items.length)

/-- The part of the window that `Get` does not see. -/
def overlooked (n : Nat) (items : List T) : List T :=
  if items.length ≤ n then window n items
  else if items.length ≤ 2 * n then (older n items).drop (taken n items.length)
  else (older n items).drop (taken n items.length + 1)

/-- No overlooked value exceeds all that `Get` sees, and no stale one all of the window. -/
def Covered (n : Nat) (items : List T) : Prop :=
  (∀ x ∈ stale n items, ∃ y ∈ kept n items ++ overlooked n items, x ≤ y) ∧
    ∀ y ∈ overlooked n items, ∃ x ∈ kept n items ++ stale n items, y ≤ x

/-- The window consists of what is kept and what is overlooked. -/
theorem windowMax_eq (hn : 1 ≤ n) (items : List T) :
    some (windowMax n items) = (kept n items ++ overlooked n items).max? := by
  have hne : window n items ≠ [] := by
    rw [← List.length_pos_iff, length_window]
    exact hn
  obtain ⟨m, hm⟩ := exists_max? hne
  have hwindow : (window n items).max? = (kept n items ++ overlooked n items).max? := by
    apply max?_congr
    intro x
    unfold kept overlooked
    split_ifs with hshort hblocks
    · rw [List.nil_append]
    · rw [window_of_lt hn (by omega), List.mem_append, List.mem_append, or_comm]
    · rw [window_of_lt hn (by omega), ← List.drop_drop, List.append_assoc, List.take_append_drop,
        List.mem_append, List.mem_append, or_comm]
  unfold windowMax
  rw [← hwindow, hm]
  rfl

/-- `Get` sees what is kept and what is stale. -/
theorem Holds.get_eq (hn : 1 ≤ n) {w : SWindowMax T n} {items : List T}
    (h : Holds w (stored n items) (behind n items) (taken n items.length)) :
    some w.get = (kept n items ++ stale n items).max? := by
  have hne : stored n items ≠ [] := by
    rw [← List.length_pos_iff]
    rcases Nat.lt_or_ge n items.length with hlt | hle
    · rw [stored_of_lt hlt, length_newer]
      exact taken_pos (by omega)
    · rw [stored_of_le hle, List.length_replicate]
      exact hn
  have hzero : ∀ k x, x ∈ (List.replicate n (0 : T)).take (k + 1) ↔ x ∈ [(0 : T)] := by
    intro k x
    rw [List.take_replicate, List.mem_replicate, List.mem_singleton]
    constructor
    · exact fun hx => hx.2
    · exact fun hx => ⟨by omega, hx⟩
  have htaken := taken_le hn items.length
  rw [h.get hne]
  apply max?_congr
  intro x
  unfold kept stale
  by_cases hstart : items.length ≤ n
  · rw [stored_of_le hstart, behind_of_le (by omega), if_pos hstart, if_pos hstart,
      List.nil_append, ← hzero 0, List.mem_append]
    constructor
    · rintro (hx | hx)
      · exact (hzero 0 x).2 (List.mem_singleton.2 (List.eq_of_mem_replicate hx))
      · split at hx
        · exact (hzero 0 x).2 ((hzero _ x).1 hx)
        · exact absurd hx List.not_mem_nil
    · exact fun hx => .inl (List.mem_of_mem_take hx)
  rw [stored_of_lt (Nat.not_le.1 hstart), if_neg hstart, if_neg hstart]
  by_cases hfull : taken n items.length = n
  · rw [if_neg (by omega : ¬taken n items.length < n), if_pos hfull]
    have hnil : (older n items).drop (taken n items.length) = [] := by
      apply List.drop_of_length_le
      unfold older
      rw [List.length_take]
      omega
    rw [hnil]
    split_ifs
    · rfl
    · simp
  rw [if_pos (by omega : taken n items.length < n), if_neg hfull]
  by_cases hblocks : items.length ≤ 2 * n
  · rw [behind_of_le hblocks, if_pos hblocks, if_pos hblocks, List.mem_append, List.mem_append,
      hzero]
  · rw [behind_of_lt (Nat.not_le.1 hblocks), if_neg hblocks, if_neg hblocks, List.take_add,
      List.append_assoc]
    simp only [List.mem_append]
    tauto

/-- `Get` is one of the items, or 0. -/
theorem get_mem (hn : 1 ≤ n) (items : List T) :
    ∃ w : SWindowMax T n, new.addAll items = some w ∧ (w.get = 0 ∨ w.get ∈ items) := by
  obtain ⟨w, hrun, hw⟩ := holds_addAll hn items
  refine ⟨w, hrun, ?_⟩
  have hnewer : ∀ x ∈ newer n items, x ∈ items := fun x hx => List.mem_of_mem_drop hx
  have holder : ∀ x ∈ older n items, x ∈ items := fun x hx =>
    List.mem_of_mem_drop (List.mem_of_mem_take hx)
  have hmem := (List.max?_eq_some_iff.1 (hw.get_eq hn).symm).1
  rcases List.mem_append.1 hmem with hkept | hstale
  · right
    unfold kept at hkept
    split_ifs at hkept
    · exact absurd hkept List.not_mem_nil
    · exact hnewer _ hkept
    · rcases List.mem_append.1 hkept with hx | hx
      · exact hnewer _ hx
      · exact holder _ (List.mem_of_mem_drop (List.mem_of_mem_take hx))
  · unfold stale at hstale
    split_ifs at hstale
    · exact .inl (List.mem_singleton.1 hstale)
    · exact absurd hstale List.not_mem_nil
    · exact .inl (List.mem_singleton.1 hstale)
    · exact .inr (holder _ (List.mem_of_mem_take hstale))

/-- **`Get` is the sliding maximum** exactly if what it does not see does not matter. -/
theorem swindowMax_get_iff (hn : 1 ≤ n) (items : List T) :
    ∃ w : SWindowMax T n, new.addAll items = some w ∧
      (w.get = windowMax n items ↔ Covered n items) := by
  obtain ⟨w, hrun, hw⟩ := holds_addAll hn items
  refine ⟨w, hrun, ?_⟩
  unfold Covered
  rw [← max?_append_eq_iff, ← hw.get_eq hn, ← windowMax_eq hn, Option.some_inj]

end

/-- `std::max` on `uint32_t`. -/
instance : Std.LawfulOrderMax UInt32 where
  max_le_iff a b c := by
    have hle := UInt32.le_total a b
    simp only [max, UInt32.le_iff_toNat_le] at hle ⊢
    split
    · omega
    · omega
  max_eq_or a b := by
    simp only [max]
    split
    · exact .inr rfl
    · exact .inl rfl

/-- In the fourth call of a window of three the two values not seen are small. -/
theorem swindowMax_get_covered : ∃ w : SWindowMax UInt32 3,
    new.addAll [5, 1, 2, 4] = some w ∧ w.get = windowMax 3 [5, 1, 2, 4] := by
  obtain ⟨w, hrun, hiff⟩ := swindowMax_get_iff (by decide : 1 ≤ 3) [(5 : UInt32), 1, 2, 4]
  have hkept : kept 3 [(5 : UInt32), 1, 2, 4] = [4] := by decide
  have hstale : stale 3 [(5 : UInt32), 1, 2, 4] = [0] := by decide
  have hoverlooked : overlooked 3 [(5 : UInt32), 1, 2, 4] = [1, 2] := by decide
  refine ⟨w, hrun, hiff.2 ⟨?_, ?_⟩⟩
  · rw [hkept, hstale, hoverlooked]
    simp
  · rw [hkept, hstale, hoverlooked]
    simp

/-- The first value is dropped, and in the ninth call of a window of four the maximum 9 is not
seen. -/
theorem swindowMax_get_wrong :
    (¬∀ (n : Nat) (items : List UInt32), 1 ≤ n →
      ((new : SWindowMax UInt32 n).addAll items).map get = some (windowMax n items)) ∧
      ((new : SWindowMax UInt32 32).addAll [1000]).map get = some 0 ∧
      windowMax 32 [(1000 : UInt32)] = 1000 ∧
      ((new : SWindowMax UInt32 4).addAll [0, 0, 0, 0, 1, 2, 3, 9, 5]).map get = some 5 ∧
      windowMax 4 [(0 : UInt32), 0, 0, 0, 1, 2, 3, 9, 5] = 9 := by
  refine ⟨fun h => ?_, by decide +kernel, by decide +kernel, by decide +kernel, by decide +kernel⟩
  have hget : ((new : SWindowMax UInt32 4).addAll [0, 0, 0, 0, 1, 2, 3, 9, 5]).map get =
      some 5 := by decide +kernel
  rw [h 4 _ (by decide)] at hget
  exact absurd hget (by decide +kernel)

end SWindowMax

end SwitchOc.SysClk
