import Mathlib.Tactic.Common

/-!
# Lists of strings in fixed buffers

A list of strings for a C function is an array of pointers with a null pointer at the
end.  The program here prints each string into the next slot of one character buffer
and puts a pointer to the slot into the array.  A store that leaves its buffer is an
error, so what a sequence of stores returns has stayed inside.

    Filled.put          one more string goes into the next slot
    print_full          there is no slot behind the last one
    Filled.terminate    the null pointer ends a list of the strings in the slots
-/

namespace CString

variable {ε α : Type}

def NUL : Char := Char.ofNat 0

/-! ## Stores -/

/-- The buffer with `xs` from `p` on. -/
def written (buffer : List α) (p : Nat) (xs : List α) : List α :=
  buffer.take p ++ xs ++ buffer.drop (p + xs.length)

def store (overrun : ε) (buffer : List α) (p : Nat) (xs : List α) : Except ε (List α) :=
  if p + xs.length ≤ buffer.length then .ok (written buffer p xs) else .error overrun

/-- `snprintf(p, size, "%s", text)`. -/
def snprintf (overrun : ε) (buffer : List Char) (p size : Nat) (text : List Char) :
    Except ε (List Char) :=
  store overrun buffer p (text.take (size - 1) ++ [NUL])

section
variable {buffer xs : List α} {p : Nat} (h : p + xs.length ≤ buffer.length)
include h

theorem length_written : (written buffer p xs).length = buffer.length := by
  unfold written
  simp only [List.length_append, List.length_take, List.length_drop]
  omega

/-- What is stored is there. -/
theorem written_stored : ((written buffer p xs).drop p).take xs.length = xs := by
  have hp : (buffer.take p).length = p := by
    rw [List.length_take]
    omega
  unfold written
  rw [List.append_assoc, List.drop_append_of_le_length (by omega), List.drop_eq_nil_of_le (by omega)]
  simp

/-- What is in front of the store is kept. -/
theorem written_before {q n : Nat} (hq : q + n ≤ p) :
    ((written buffer p xs).drop q).take n = (buffer.drop q).take n := by
  have hp : (buffer.take p).length = p := by
    rw [List.length_take]
    omega
  apply List.ext_getElem?
  intro i
  rw [List.getElem?_take, List.getElem?_take]
  split
  · rw [List.getElem?_drop, List.getElem?_drop]
    unfold written
    rw [List.append_assoc, List.getElem?_append_left (by omega), List.getElem?_take,
      if_pos (by omega)]
  · rfl

end

/-! ## Strings -/

/-- The string `s` and its NUL are at `p`, inside the buffer. -/
def StringAt (chars : List Char) (p : Nat) (s : List Char) : Prop :=
  (chars.drop p).take (s.length + 1) = s ++ [NUL] ∧ NUL ∉ s

/-- At one place there is one string. -/
theorem StringAt.unique {chars : List Char} {p : Nat} {s t : List Char} (hs : StringAt chars p s)
    (ht : StringAt chars p t) : s = t := by
  have hkey : ∀ {s t : List Char}, StringAt chars p s → StringAt chars p t →
      s.length ≤ t.length → s = t := by
    intro s t hs ht hle
    have hprefix : s ++ [NUL] = (t ++ [NUL]).take (s.length + 1) := by
      rw [← hs.1, ← ht.1, List.take_take, Nat.min_eq_left (by omega)]
    rcases Nat.lt_or_eq_of_le hle with hlt | heq
    · rw [List.take_append_of_le_length (by omega)] at hprefix
      have hmem : NUL ∈ t.take (s.length + 1) := by
        rw [← hprefix]
        simp
      exact absurd (List.mem_of_mem_take hmem) ht.2
    · rw [List.take_of_length_le (by simp [heq])] at hprefix
      exact List.append_cancel_right hprefix
  rcases Nat.le_total s.length t.length with hle | hle
  · exact hkey hs ht hle
  · exact (hkey ht hs hle).symm

theorem stringAt_before {chars xs : List Char} {p q : Nat} {s : List Char}
    (h : p + xs.length ≤ chars.length) (hs : StringAt chars q s) (hq : q + s.length < p) :
    StringAt (written chars p xs) q s :=
  ⟨(written_before h (by omega)).trans hs.1, hs.2⟩

/-! ## Lists -/

/-- The array and its next free entry, the buffer and its next free slot. -/
structure StringList where
  ptrs : List (Option Nat)
  chars : List Char
  ip : Nat
  sp : Nat

namespace StringList

def print (overrun : ε) (size : Nat) (text : List Char) (l : StringList) : Except ε StringList :=
  match snprintf overrun l.chars l.sp size text with
  | .error e => .error e
  | .ok chars => .ok { l with chars := chars }

/-- `*ip++ = sp;` -/
def link (overrun : ε) (l : StringList) : Except ε StringList :=
  match store overrun l.ptrs l.ip [some l.sp] with
  | .error e => .error e
  | .ok ptrs => .ok { l with ptrs := ptrs, ip := l.ip + 1 }

/-- `sp += size;` -/
def next (size : Nat) (l : StringList) : StringList := { l with sp := l.sp + size }

/-- `*ip = NULL;` -/
def terminate (overrun : ε) (l : StringList) : Except ε StringList :=
  match store overrun l.ptrs l.ip [none] with
  | .error e => .error e
  | .ok ptrs => .ok { l with ptrs := ptrs }

/-- The list of the strings `ss`, as a C function reads it. -/
structure Lists (l : StringList) (ss : List (List Char)) : Prop where
  string : ∀ i (hi : i < ss.length), ∃ p, l.ptrs[i]? = some (some p) ∧ StringAt l.chars p ss[i]
  null : l.ptrs[ss.length]? = some none

/-- An array is read in one way only. -/
theorem Lists.unique {l : StringList} {ss ts : List (List Char)} (hs : l.Lists ss)
    (ht : l.Lists ts) : ss = ts := by
  have hkey : ∀ {ss ts : List (List Char)}, l.Lists ss → l.Lists ts →
      ss.length ≤ ts.length := by
    intro ss ts hs ht
    rcases Nat.lt_or_ge ts.length ss.length with hlt | hge
    · obtain ⟨p, hp, -⟩ := hs.string ts.length hlt
      exact absurd (hp.symm.trans ht.null) nofun
    · exact hge
  apply List.ext_getElem (Nat.le_antisymm (hkey hs ht) (hkey ht hs))
  intro i hi hi'
  obtain ⟨p, hp, hstring⟩ := hs.string i hi
  obtain ⟨q, hq, hstring'⟩ := ht.string i hi'
  obtain rfl := Option.some.inj (Option.some.inj (hp.symm.trans hq))
  exact hstring.unique hstring'

/-- The first slots hold the strings `ss`, of `n` slots and `m` pointers. -/
structure Filled (size n m : Nat) (l : StringList) (ss : List (List Char)) : Prop where
  length_chars : l.chars.length = size * n
  length_ptrs : l.ptrs.length = m
  ip : l.ip = ss.length
  ptr : ∀ i, i < ss.length → l.ptrs[i]? = some (some (size * i))
  short : ∀ s ∈ ss, s.length < size
  string : ∀ i (hi : i < ss.length), StringAt l.chars (size * i) ss[i]

variable {size n m : Nat} {l : StringList} {ss : List (List Char)} {text : List Char}

/-- A pointer store changes one pointer. -/
theorem store_ptr (overrun : ε) {ptrs : List (Option Nat)} {p : Nat} (x : Option Nat)
    (h : p < ptrs.length) : ∃ ptrs', store overrun ptrs p [x] = .ok ptrs' ∧
      ptrs'.length = ptrs.length ∧ ptrs'[p]? = some x ∧ ∀ i, i < p → ptrs'[i]? = ptrs[i]? := by
  have hroom : p + [x].length ≤ ptrs.length := h
  refine ⟨written ptrs p [x], if_pos hroom, length_written hroom, ?_, ?_⟩
  · have hstored := congrArg (·[0]?) (written_stored hroom)
    simpa using hstored
  · intro i hi
    have hkept := congrArg (·[0]?) (written_before hroom (show i + 1 ≤ p from hi))
    simpa using hkept

/-- **A string that fits goes into the next slot**, and a pointer to it into the array. -/
theorem Filled.put (h : l.Filled size n m ss) (overrun overrun' : ε)
    (hsp : l.sp = size * ss.length) (hslot : ss.length < n) (hptr : ss.length < m)
    (hshort : text.length < size) (hnul : NUL ∉ text) :
    ∃ l₁ l₂, l.print overrun size text = .ok l₁ ∧ l₁.link overrun' = .ok l₂ ∧ l₂.sp = l.sp ∧
      l₂.Filled size n m (ss ++ [text]) := by
  have htext : text.take (size - 1) = text := List.take_of_length_le (by omega)
  have hend : size * ss.length + size ≤ size * n := Nat.mul_le_mul_left size hslot
  have hroom : l.sp + (text ++ [NUL]).length ≤ l.chars.length := by
    rw [h.length_chars, hsp, List.length_append, List.length_singleton]
    omega
  have hprint : l.print overrun size text =
      .ok { l with chars := written l.chars l.sp (text ++ [NUL]) } := by
    unfold print snprintf store
    rw [htext, if_pos hroom]
  obtain ⟨ptrs, hlink, hlen, hnew, hold⟩ := store_ptr overrun' (some l.sp)
    (show l.ip < l.ptrs.length by rw [h.ip, h.length_ptrs]; exact hptr)
  refine ⟨_, { l with chars := written l.chars l.sp (text ++ [NUL]), ptrs := ptrs, ip := l.ip + 1 },
    hprint, ?_, rfl, ?_⟩
  · unfold link
    dsimp only
    rw [hlink]
  · refine ⟨?_, ?_, ?_, ?_, ?_, ?_⟩
    · exact (length_written hroom).trans h.length_chars
    · exact hlen.trans h.length_ptrs
    · simp [h.ip]
    · intro i hi
      rw [List.length_append, List.length_singleton] at hi
      show ptrs[i]? = _
      rcases Nat.lt_or_eq_of_le (Nat.le_of_lt_succ hi) with hlt | rfl
      · rw [hold i (by rw [h.ip]; exact hlt), h.ptr i hlt]
      · rw [← h.ip, hnew, hsp, h.ip]
    · intro s hs
      rcases List.mem_append.1 hs with hs | hs
      · exact h.short s hs
      · rw [List.mem_singleton.1 hs]
        exact hshort
    · intro i hi
      show StringAt (written l.chars l.sp (text ++ [NUL])) (size * i) _
      rw [List.length_append, List.length_singleton] at hi
      rcases Nat.lt_or_eq_of_le (Nat.le_of_lt_succ hi) with hlt | rfl
      · -- an earlier slot ends in front of the new one
        rw [List.getElem_append_left hlt]
        have hshort' := h.short _ (List.getElem_mem hlt)
        have hslot' : size * i + size ≤ size * ss.length := Nat.mul_le_mul_left size hlt
        exact stringAt_before hroom (h.string i hlt) (by omega)
      · rw [List.getElem_concat_length rfl, ← hsp]
        refine ⟨?_, hnul⟩
        have hstored := written_stored hroom
        rwa [List.length_append, List.length_singleton] at hstored

/-- There is no room for a string, not even an empty one, behind the last slot. -/
theorem print_full (overrun : ε) (hchars : l.chars.length = size * n) (hsp : l.sp = size * n) :
    l.print overrun size text = .error overrun := by
  unfold print snprintf store
  rw [if_neg (by rw [List.length_append, List.length_singleton]; omega)]

theorem Filled.next (h : l.Filled size n m ss) : (l.next size).Filled size n m ss :=
  ⟨h.length_chars, h.length_ptrs, h.ip, h.ptr, h.short, h.string⟩

/-- The null pointer ends the list. -/
theorem Filled.terminate (h : l.Filled size n m ss) (overrun : ε) (hptr : ss.length < m) :
    ∃ l', l.terminate overrun = .ok l' ∧ l'.Lists ss := by
  obtain ⟨ptrs, hstore, -, hnull, hold⟩ := store_ptr overrun none
    (show l.ip < l.ptrs.length by rw [h.ip, h.length_ptrs]; exact hptr)
  refine ⟨{ l with ptrs := ptrs }, ?_, ?_, ?_⟩
  · unfold StringList.terminate
    rw [hstore]
  · intro i hi
    refine ⟨size * i, ?_, h.string i hi⟩
    show ptrs[i]? = _
    rw [hold i (by rw [h.ip]; exact hi), h.ptr i hi]
  · show ptrs[ss.length]? = _
    rw [← h.ip, hnull]

end StringList

end CString
