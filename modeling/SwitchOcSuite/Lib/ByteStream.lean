import Mathlib.Data.List.Basic
import Mathlib.Tactic.Common

/-!
# Byte streams

A file open for reading is its bytes and a position.  A read returns what is left
where that is less than what was asked for, and a buffer that is read into keeps its
bytes behind what was read.

    slice_congr          slices agree where the bytes do
    getElem?_overlay     a buffer after a read
    scanBlocks_iff       what a search block by block finds: the first match, if its
                         block ends before the file does
-/

namespace ByteStream

/-! ## Slices -/

variable {l l' : List UInt8} {o o' n i : Nat}

def slice (l : List UInt8) (o n : Nat) : List UInt8 := (l.drop o).take n

theorem length_slice : (slice l o n).length = min n (l.length - o) := by
  unfold slice
  rw [List.length_take, List.length_drop]

theorem getElem?_slice : (slice l o n)[i]? = if i < n then l[o + i]? else none := by
  unfold slice
  rw [List.getElem?_take]
  by_cases h : i < n
  · rw [if_pos h, if_pos h, List.getElem?_drop]
  · rw [if_neg h, if_neg h]

theorem slice_congr (h : ∀ i < n, l[o + i]? = l'[o' + i]?) : slice l o n = slice l' o' n := by
  apply List.ext_getElem?
  intro i
  rw [getElem?_slice, getElem?_slice]
  by_cases hi : i < n
  · rw [if_pos hi, if_pos hi, h i hi]
  · rw [if_neg hi, if_neg hi]

/-- `memcmp` of `pattern` with the bytes at `o`. -/
def matchesAt (pattern l : List UInt8) (o : Nat) : Bool := slice l o pattern.length == pattern

theorem lt_of_matchesAt {pattern : List UInt8} (hpos : 0 < pattern.length)
    (h : matchesAt pattern l o = true) : o < l.length := by
  have hlen := congrArg List.length (eq_of_beq h)
  rw [length_slice] at hlen
  omega

theorem matchesAt_congr {pattern : List UInt8}
    (h : ∀ i < pattern.length, l[o + i]? = l'[o' + i]?) :
    matchesAt pattern l o = matchesAt pattern l' o' := by
  unfold matchesAt
  rw [slice_congr h]

/-! ## Reading -/

/-- A `FILE*`. -/
structure File where
  content : List UInt8
  pos : Nat

/-- The bytes read, and the file behind them. -/
def File.fread (fp : File) (n : Nat) : List UInt8 × File :=
  (slice fp.content fp.pos n, { fp with pos := fp.pos + (slice fp.content fp.pos n).length })

def File.fsetpos (fp : File) (pos : Nat) : File := { fp with pos := pos }

theorem File.fread_pos {fp : File} (h : fp.pos ≤ fp.content.length) (n : Nat) :
    (fp.fread n).2.pos = min (fp.pos + n) fp.content.length := by
  unfold File.fread
  rw [length_slice]
  show fp.pos + min n (fp.content.length - fp.pos) = _
  omega

/-- A buffer after `bytes` were read to its start. -/
def overlay (buffer bytes : List UInt8) : List UInt8 := bytes ++ buffer.drop bytes.length

theorem getElem?_overlay {buffer bytes : List UInt8} (h : i < bytes.length) :
    (overlay buffer bytes)[i]? = bytes[i]? :=
  List.getElem?_append_left h

theorem length_overlay {buffer bytes : List UInt8} (h : bytes.length ≤ buffer.length) :
    (overlay buffer bytes).length = buffer.length := by
  unfold overlay
  rw [List.length_append, List.length_drop]
  omega

/-- A read that fills the buffer. -/
theorem overlay_of_length {buffer bytes : List UInt8} (h : buffer.length ≤ bytes.length) :
    overlay buffer bytes = bytes := by
  unfold overlay
  rw [List.drop_eq_nil_of_le h, List.append_nil]

/-! ## Block by block -/

theorem left_after_read {fp : File} {size : Nat} (hsize : 0 < size)
    (h : fp.pos < fp.content.length) :
    (fp.fread size).2.content.length - (fp.fread size).2.pos < fp.content.length - fp.pos := by
  rw [File.fread_pos (Nat.le_of_lt h)]
  show fp.content.length - _ < _
  omega

/-- A search through blocks of `size` bytes.  The buffer holds the block before the
position, and is scanned if there is something behind it. -/
def scanBlocks {size : Nat} (hsize : 0 < size) (scan : List UInt8 → Option Nat) (fp : File)
    (buffer : List UInt8) : Option Nat :=
  if _h : fp.pos < fp.content.length then
    match scan buffer with
    | some i => some (fp.pos + i - size)
    | none => scanBlocks hsize scan (fp.fread size).2 (overlay buffer (fp.fread size).1)
  else none
termination_by fp.content.length - fp.pos
decreasing_by exact left_after_read hsize _h

/-- Where the block of `p` ends. -/
def blockEnd (size p : Nat) : Nat := (p / size + 1) * size

theorem blockEnd_of_mem {size k p : Nat} (h : k * size ≤ p) (h' : p < (k + 1) * size) :
    blockEnd size p = (k + 1) * size := by
  unfold blockEnd
  rw [Nat.div_eq_of_lt_le h h']

theorem le_blockEnd {size k p : Nat} (hsize : 0 < size) (h : k * size ≤ p) :
    (k + 1) * size ≤ blockEnd size p :=
  Nat.mul_le_mul_right size (Nat.succ_le_succ ((Nat.le_div_iff_mul_le hsize).2 h))

section

variable {size : Nat} {scan : List UInt8 → Option Nat} {content : List UInt8} {M : Nat → Prop}

/-- The buffer holds block `k`. -/
def HoldsBlock (size : Nat) (content buffer : List UInt8) (k : Nat) : Prop :=
  ∀ j < size, buffer[j]? = content[k * size + j]?

/-- `scan` finds the first match in a block. -/
def ScansFor (size : Nat) (content : List UInt8) (M : Nat → Prop)
    (scan : List UInt8 → Option Nat) : Prop :=
  ∀ buffer k, HoldsBlock size content buffer k → ∀ i,
    scan buffer = some i ↔ i < size ∧ M (k * size + i) ∧ ∀ j < i, ¬ M (k * size + j)

theorem ScansFor.not_of_none (h : ScansFor size content M scan) {k : Nat} {buffer : List UInt8}
    (hblock : HoldsBlock size content buffer k) (hnone : scan buffer = none) :
    ∀ i < size, ¬ M (k * size + i) := by
  intro i
  induction i using Nat.strongRecOn with
  | ind i ih =>
    intro hi hM
    have hfound := (h buffer k hblock i).2 ⟨hi, hM, fun j hj => ih j hj (by omega)⟩
    rw [hnone] at hfound
    cases hfound

theorem holdsBlock_fread {k : Nat} {buffer : List UInt8}
    (h : (k + 1) * size ≤ content.length) :
    HoldsBlock size content (overlay buffer ((File.mk content (k * size)).fread size).1) k := by
  rw [Nat.succ_mul] at h
  intro j hj
  have hlen : (slice content (k * size) size).length = size := by
    rw [length_slice]
    omega
  show (overlay buffer (slice content (k * size) size))[j]? = _
  rw [getElem?_overlay (by omega), getElem?_slice, if_pos hj]

theorem fread_file {pos n : Nat} (h : pos ≤ content.length) :
    ((File.mk content pos).fread n).2 = ⟨content, min (pos + n) content.length⟩ :=
  congrArg (File.mk content) (File.fread_pos (show (File.mk content pos).pos ≤ _ from h) n)

/-- **A search block by block**, from block `k` on, when nothing matched before it. -/
theorem scanBlocks_iff (hsize : 0 < size) (hscan : ScansFor size content M scan) :
    ∀ (n k : Nat) (buffer : List UInt8), content.length - (k + 1) * size = n →
      (k + 1) * size ≤ content.length → HoldsBlock size content buffer k →
      (∀ q < k * size, ¬ M q) → ∀ p,
      scanBlocks hsize scan ⟨content, (k + 1) * size⟩ buffer = some p ↔
        M p ∧ (∀ q < p, ¬ M q) ∧ blockEnd size p < content.length := by
  intro n
  induction n using Nat.strongRecOn with
  | ind n ih =>
    intro k buffer hn hpos hblock hbefore p
    have hk : (k + 1) * size = k * size + size := Nat.succ_mul k size
    have hk' : (k + 1 + 1) * size = (k + 1) * size + size := Nat.succ_mul (k + 1) size
    -- a first match lies in block `k` or behind it
    have hfrom : M p → k * size ≤ p := fun hp => by
      by_contra hlt
      exact hbefore p (by omega) hp
    unfold scanBlocks
    by_cases hlt : (k + 1) * size < content.length
    · rw [dif_pos hlt]
      cases hfound : scan buffer with
      | some i =>
        obtain ⟨hi, hM, hfirst⟩ := (hscan buffer k hblock i).1 hfound
        have hp : (k + 1) * size + i - size = k * size + i := by omega
        have hnone : ∀ q < k * size + i, ¬ M q := fun q hq => by
          by_cases hq' : q < k * size
          · exact hbefore q hq'
          · have hrest := hfirst (q - k * size) (by omega)
            rwa [Nat.add_sub_cancel' (by omega)] at hrest
        show some _ = some p ↔ _
        rw [hp, Option.some_inj]
        constructor
        · rintro rfl
          refine ⟨hM, hnone, ?_⟩
          rw [blockEnd_of_mem (k := k) (by omega) (by omega)]
          exact hlt
        · rintro ⟨hMp, hless, -⟩
          by_contra hne
          rcases Nat.lt_or_gt_of_ne hne with h | h
          · exact hless _ h hM
          · exact hnone p h hMp
      | none =>
        have hmiss : ∀ q < (k + 1) * size, ¬ M q := fun q hq => by
          by_cases hq' : q < k * size
          · exact hbefore q hq'
          · have hrest := hscan.not_of_none hblock hfound (q - k * size) (by omega)
            rwa [Nat.add_sub_cancel' (by omega)] at hrest
        show scanBlocks hsize scan _ _ = some p ↔ _
        rw [fread_file hpos]
        by_cases hfull : (k + 1 + 1) * size ≤ content.length
        · rw [Nat.min_eq_left (by omega), ← hk']
          exact ih (content.length - (k + 1 + 1) * size) (by omega) (k + 1) _ rfl hfull
            (holdsBlock_fread hfull) hmiss p
        · rw [Nat.min_eq_right (by omega)]
          unfold scanBlocks
          rw [dif_neg (Nat.lt_irrefl _)]
          refine ⟨fun h => absurd h (by simp), fun ⟨hMp, _, hend⟩ => ?_⟩
          have hge : (k + 1) * size ≤ p := by
            by_contra hlt'
            exact hmiss p (by omega) hMp
          have := le_blockEnd hsize hge
          omega
    · rw [dif_neg hlt]
      refine ⟨fun h => absurd h (by simp), fun ⟨hMp, _, hend⟩ => ?_⟩
      have := le_blockEnd hsize (hfrom hMp)
      omega

end

end ByteStream
