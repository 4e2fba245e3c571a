import Mathlib.Data.List.TakeWhile
import Mathlib.Data.Nat.Basic
import SwitchOcSuite.Lib.StringList

/-!
# Files of lines, read by `fgets`

A place in a file is what lies ahead of it.  `fgets` with room for `size` characters
takes the line ahead with its newline, or as many characters of it as there are in front
of the final NUL; `pieces size` is all that a program sees that reads a file to its end.

    flatten_pieces          the pieces are the file
    piece_of_length_le      with less room the same piece is read, where it fits
    pieces_eq_lines         pieces of a file with short lines are the lines
    lines_append            the lines of two texts, the first of which ends its last line

A buffer is the list of its characters; a C string ends at the first NUL in it.
-/

namespace LineFile

open CString

/-- The string in a buffer. -/
def cstr (buffer : List Char) : List Char := buffer.takeWhile (· ≠ NUL)

theorem cstr_of_not_mem {s : List Char} (h : NUL ∉ s) : cstr s = s := by
  apply List.takeWhile_eq_self_iff.2
  intro c hc
  simp only [decide_eq_true_eq]
  rintro rfl
  exact h hc

/-! ## One read -/

/-- Up to `n` characters of the line ahead. -/
def piece : Nat → List Char → List Char
  | 0, _ => []
  | _ + 1, [] => []
  | n + 1, c :: s => if c = '\n' then [c] else c :: piece n s

/-- What `fgets` stores in front of the NUL, and what is ahead then; `none` for a null
pointer, at the end of the file or without room for a character. -/
def fgets (size : Nat) (ahead : List Char) : Option (List Char × List Char) :=
  let line := piece (size - 1) ahead
  if line = [] then none else some (line, ahead.drop line.length)

theorem piece_length_le (n : Nat) (s : List Char) : (piece n s).length ≤ n := by
  induction n generalizing s with
  | zero => simp [piece]
  | succ n ih =>
    cases s with
    | nil => simp [piece]
    | cons c s =>
      have hle := ih s
      simp only [piece]
      split
      · simp
      · simp only [List.length_cons]
        omega

/-- A piece stands in front. -/
theorem piece_append_drop (n : Nat) (s : List Char) :
    piece n s ++ s.drop (piece n s).length = s := by
  induction n generalizing s with
  | zero => simp [piece]
  | succ n ih =>
    cases s with
    | nil => simp [piece]
    | cons c s =>
      simp only [piece]
      split
      · simp
      · simp [ih s]

theorem piece_ne_nil {n : Nat} {s : List Char} (hn : 0 < n) (hs : s ≠ []) : piece n s ≠ [] := by
  obtain ⟨m, rfl⟩ := Nat.exists_eq_succ_of_ne_zero (Nat.ne_of_gt hn)
  cases s with
  | nil => exact absurd rfl hs
  | cons c s =>
    simp only [piece]
    split <;> simp

/-- **Less room makes no difference to a piece that fits.** -/
theorem piece_of_length_le {m n : Nat} {s : List Char} (hmn : m ≤ n)
    (hfits : (piece n s).length ≤ m) : piece m s = piece n s := by
  induction n generalizing m s with
  | zero =>
    obtain rfl : m = 0 := by omega
    rfl
  | succ n ih =>
    cases s with
    | nil => cases m <;> rfl
    | cons c s =>
      cases m with
      | zero =>
        have hne := piece_ne_nil (s := c :: s) (Nat.succ_pos n) (List.cons_ne_nil _ _)
        exact absurd (List.eq_nil_of_length_eq_zero (Nat.le_zero.1 hfits)) hne
      | succ m =>
        simp only [piece] at hfits ⊢
        split
        · rfl
        · rename_i hc
          rw [if_neg hc, List.length_cons] at hfits
          rw [ih (by omega) (by omega)]

/-- A whole line. -/
theorem piece_line {n : Nat} {body : List Char} (hbody : '\n' ∉ body) (hn : body.length < n)
    (s : List Char) : piece n (body ++ '\n' :: s) = body ++ ['\n'] := by
  induction body generalizing n with
  | nil =>
    obtain ⟨m, rfl⟩ := Nat.exists_eq_succ_of_ne_zero (Nat.ne_of_gt hn)
    simp [piece]
  | cons c body ih =>
    obtain ⟨m, rfl⟩ := Nat.exists_eq_succ_of_ne_zero (Nat.ne_of_gt (Nat.zero_lt_of_lt hn))
    rw [List.mem_cons, not_or] at hbody
    rw [List.length_cons] at hn
    simp only [List.cons_append, piece, if_neg (Ne.symm hbody.1)]
    rw [ih hbody.2 (by omega)]

/-- A last line that has no newline. -/
theorem piece_last {n : Nat} {body : List Char} (hbody : '\n' ∉ body) (hn : body.length ≤ n) :
    piece n body = body := by
  induction body generalizing n with
  | nil => cases n <;> rfl
  | cons c body ih =>
    rw [List.length_cons] at hn
    obtain ⟨m, rfl⟩ := Nat.exists_eq_succ_of_ne_zero (show n ≠ 0 by omega)
    rw [List.mem_cons, not_or] at hbody
    simp only [piece, if_neg (Ne.symm hbody.1)]
    rw [ih hbody.2 (by omega)]

theorem fgets_eq_some_iff {size : Nat} {s line rest : List Char} :
    fgets size s = some (line, rest) ↔
      line = piece (size - 1) s ∧ line ≠ [] ∧ s = line ++ rest := by
  unfold fgets
  dsimp only
  constructor
  · intro h
    split at h
    · exact absurd h nofun
    · rename_i hne
      obtain ⟨rfl, rfl⟩ := Prod.mk.inj (Option.some.inj h)
      exact ⟨rfl, hne, (piece_append_drop _ _).symm⟩
  · rintro ⟨hline, hne, hs⟩
    rw [← hline, if_neg hne]
    nth_rewrite 1 [hs]
    rw [List.drop_left]

theorem fgets_nil (size : Nat) : fgets size [] = none := by
  unfold fgets
  cases size - 1 <;> rfl

/-- With room for a character there is a piece, unless the file is at its end. -/
theorem fgets_ne_nil {size : Nat} {s : List Char} (hsize : 2 ≤ size) (hs : s ≠ []) :
    ∃ rest, fgets size s = some (piece (size - 1) s, rest) ∧ s = piece (size - 1) s ++ rest := by
  have hne := piece_ne_nil (show 0 < size - 1 by omega) hs
  refine ⟨s.drop (piece (size - 1) s).length, ?_, (piece_append_drop _ _).symm⟩
  exact fgets_eq_some_iff.2 ⟨rfl, hne, (piece_append_drop _ _).symm⟩

theorem fgets_length_lt {size : Nat} {s line rest : List Char}
    (h : fgets size s = some (line, rest)) : rest.length < s.length := by
  obtain ⟨-, hne, rfl⟩ := fgets_eq_some_iff.1 h
  have hpos := List.length_pos_iff.2 hne
  rw [List.length_append]
  omega

/-! ## Reading to the end -/

/-- All pieces of what is ahead. -/
def pieces (size : Nat) (s : List Char) : List (List Char) :=
  match _h : fgets size s with
  | none => []
  | some (line, rest) => line :: pieces size rest
termination_by s.length
decreasing_by exact fgets_length_lt _h

theorem pieces_of_none {size : Nat} {s : List Char} (h : fgets size s = none) :
    pieces size s = [] := by
  rw [pieces]
  split
  · rfl
  · rename_i h'
    exact absurd (h.symm.trans h') nofun

theorem pieces_of_some {size : Nat} {s line rest : List Char}
    (h : fgets size s = some (line, rest)) : pieces size s = line :: pieces size rest := by
  rw [pieces]
  split
  · rename_i h'
    exact absurd (h.symm.trans h') nofun
  · rename_i h'
    obtain ⟨rfl, rfl⟩ := Prod.mk.inj (Option.some.inj (h.symm.trans h'))
    rfl

@[simp] theorem pieces_nil (size : Nat) : pieces size [] = [] := pieces_of_none (fgets_nil size)

/-- Nothing is lost, and nothing is read twice. -/
theorem flatten_pieces {size : Nat} (hsize : 2 ≤ size) (s : List Char) :
    (pieces size s).flatten = s := by
  by_cases hs : s = []
  · simp [hs]
  · obtain ⟨rest, hread, hrest⟩ := fgets_ne_nil hsize hs
    have hlt := fgets_length_lt hread
    rw [pieces_of_some hread, List.flatten_cons, flatten_pieces hsize rest]
    exact hrest.symm
termination_by s.length

/-! ## Lines -/

/-- The lines of a text, each with its newline. -/
def lines : List Char → List (List Char)
  | [] => []
  | c :: s =>
    if c = '\n' then [c] :: lines s
    else
      match lines s with
      | [] => [[c]]
      | l :: ls => (c :: l) :: ls

theorem flatten_lines (s : List Char) : (lines s).flatten = s := by
  induction s with
  | nil => rfl
  | cons c s ih =>
    simp only [lines]
    split
    · simp [ih]
    · split
      · rename_i h
        rw [h] at ih
        simp [← ih]
      · rename_i l ls h
        rw [h] at ih
        simp [← ih]

theorem length_lines_le (s : List Char) : (lines s).length ≤ s.length := by
  induction s with
  | nil => simp [lines]
  | cons c s ih =>
    simp only [lines]
    split
    · simp only [List.length_cons]
      omega
    · split
      · simp
      · rename_i l ls h
        rw [h, List.length_cons] at ih
        simp only [List.length_cons]
        omega

theorem lines_line {body : List Char} (hbody : '\n' ∉ body) (s : List Char) :
    lines (body ++ '\n' :: s) = (body ++ ['\n']) :: lines s := by
  induction body with
  | nil => simp [lines]
  | cons c body ih =>
    rw [List.mem_cons, not_or] at hbody
    simp only [List.cons_append, lines, if_neg (Ne.symm hbody.1), ih hbody.2]

theorem lines_last {body : List Char} (hbody : '\n' ∉ body) (hne : body ≠ []) :
    lines body = [body] := by
  induction body with
  | nil => exact absurd rfl hne
  | cons c body ih =>
    rw [List.mem_cons, not_or] at hbody
    simp only [lines, if_neg (Ne.symm hbody.1)]
    by_cases h : body = []
    · simp [h, lines]
    · rw [ih hbody.2 h]

/-- A text is empty, a line without newline, or a line and a text. -/
theorem line_cases (s : List Char) :
    s = [] ∨ (s ≠ [] ∧ '\n' ∉ s) ∨ ∃ body rest, '\n' ∉ body ∧ s = body ++ '\n' :: rest := by
  induction s with
  | nil => exact .inl rfl
  | cons c s ih =>
    right
    by_cases hc : c = '\n'
    · exact .inr ⟨[], s, by simp, by simp [hc]⟩
    · rcases ih with rfl | ⟨-, h⟩ | ⟨body, rest, h, rfl⟩
      · exact .inl ⟨by simp, by simpa using Ne.symm hc⟩
      · exact .inl ⟨by simp, by simpa [h] using Ne.symm hc⟩
      · exact .inr ⟨c :: body, rest, by simpa [h] using Ne.symm hc, by simp⟩

/-- A text that is empty or ends with a newline. -/
def Ended (s : List Char) : Prop := s = [] ∨ s.getLast? = some '\n'

theorem Ended.of_append {s t : List Char} (h : Ended (s ++ t)) : Ended t := by
  by_cases ht : t = []
  · exact .inl ht
  · rcases h with h | h
    · exact .inl (List.append_eq_nil_iff.1 h).2
    · rw [List.getLast?_append] at h
      obtain ⟨c, hc⟩ := Option.isSome_iff_exists.1 (List.getLast?_isSome.2 ht)
      rw [hc, Option.some_or] at h
      exact .inr (hc.trans h)

/-- What follows an ended text begins with a new line. -/
theorem lines_append {s : List Char} (hs : Ended s) (t : List Char) :
    lines (s ++ t) = lines s ++ lines t := by
  rcases line_cases s with rfl | ⟨hne, h⟩ | ⟨body, rest, h, heq⟩
  · rfl
  · rcases hs with rfl | hs
    · exact absurd rfl hne
    · exact absurd (List.mem_of_getLast? hs) h
  · have hlt : rest.length < s.length := by
      rw [heq, List.length_append, List.length_cons]
      omega
    have hrest : Ended rest := by
      apply Ended.of_append (s := body ++ ['\n'])
      rwa [List.append_assoc, List.singleton_append, ← heq]
    have ih := lines_append hrest t
    rw [heq, List.append_assoc, List.cons_append, lines_line h, lines_line h, ih, List.cons_append]
termination_by s.length

/-- A newline ends the last line, or is a line. -/
theorem lines_newline (s : List Char) :
    Ended s ∧ lines (s ++ ['\n']) = lines s ++ [['\n']] ∨
      ∃ front l, lines s = front ++ [l] ∧ l.getLast? ≠ some '\n' ∧
        lines (s ++ ['\n']) = front ++ [l ++ ['\n']] := by
  rcases line_cases s with rfl | ⟨hne, h⟩ | ⟨body, rest, h, heq⟩
  · exact .inl ⟨.inl rfl, rfl⟩
  · right
    refine ⟨[], s, lines_last h hne, fun hlast => h (List.mem_of_getLast? hlast), ?_⟩
    rw [lines_line h]
    rfl
  · have hlt : rest.length < s.length := by
      rw [heq, List.length_append, List.length_cons]
      omega
    subst heq
    rw [List.append_assoc, List.cons_append, lines_line h, lines_line h]
    rcases lines_newline rest with ⟨hended, hlines⟩ | ⟨front, l, hl, hlast, hlines⟩
    · left
      refine ⟨.inr ?_, by rw [hlines, List.cons_append]⟩
      rcases hended with rfl | hended
      · exact List.getLast?_concat
      · rw [List.getLast?_append, List.getLast?_cons, hended]
        rfl
    · exact .inr ⟨(body ++ ['\n']) :: front, l, by rw [hl, List.cons_append], hlast,
        by rw [hlines, List.cons_append]⟩
termination_by s.length

/-- A text can be cut between two of its lines. -/
theorem lines_cut {s : List Char} {A B : List (List Char)} (h : lines s = A ++ B) :
    s = A.flatten ++ B.flatten ∧ lines A.flatten = A ∧ lines B.flatten = B ∧
      (B ≠ [] → Ended A.flatten) := by
  induction A generalizing s with
  | nil =>
    have hflat := flatten_lines s
    rw [List.nil_append] at h
    rw [h] at hflat
    exact ⟨hflat.symm, rfl, by rw [hflat, h], fun _ => .inl rfl⟩
  | cons l A ih =>
    rcases line_cases s with rfl | ⟨hne, hs⟩ | ⟨body, rest, hbody, rfl⟩
    · exact absurd h nofun
    · -- the last line has nothing behind it
      rw [lines_last hs hne, List.cons_append] at h
      obtain ⟨rfl, hnil⟩ := List.cons.inj h
      obtain ⟨rfl, rfl⟩ := List.append_eq_nil_iff.1 hnil.symm
      refine ⟨by simp, by simpa using lines_last hs hne, rfl, fun hB => absurd rfl hB⟩
    · rw [lines_line hbody, List.cons_append] at h
      obtain ⟨rfl, hrest⟩ := List.cons.inj h
      obtain ⟨heq, hA, hB, hended⟩ := ih hrest
      refine ⟨?_, ?_, hB, ?_⟩
      · rw [heq]
        simp
      · rw [List.flatten_cons, List.append_assoc, List.singleton_append, lines_line hbody, hA]
      · intro hne
        right
        rcases hended hne with hnil | hlast
        · rw [List.flatten_cons, hnil, List.append_nil]
          exact List.getLast?_concat
        · rw [List.flatten_cons, List.getLast?_append, hlast]
          rfl

/-- The first line is what a buffer with room for it takes. -/
theorem fgets_of_lines {size : Nat} {s l : List Char} {ls : List (List Char)}
    (h : lines s = l :: ls) (hl : l.length < size) :
    ∃ rest, fgets size s = some (l, rest) ∧ lines rest = ls ∧ s = l ++ rest := by
  rcases line_cases s with rfl | ⟨hne, hs⟩ | ⟨body, rest, hbody, rfl⟩
  · exact absurd h nofun
  · rw [lines_last hs hne] at h
    obtain ⟨rfl, rfl⟩ := List.cons.inj h
    refine ⟨[], ?_, rfl, (List.append_nil s).symm⟩
    exact fgets_eq_some_iff.2 ⟨(piece_last hs (by omega)).symm, hne, (List.append_nil s).symm⟩
  · rw [lines_line hbody] at h
    obtain ⟨rfl, rfl⟩ := List.cons.inj h
    rw [List.length_append, List.length_singleton] at hl
    refine ⟨rest, ?_, rfl, by simp⟩
    refine fgets_eq_some_iff.2 ⟨(piece_line hbody (by omega) rest).symm, by simp, by simp⟩

theorem pieces_eq_lines {size : Nat} (s : List Char) (h : ∀ l ∈ lines s, l.length < size) :
    pieces size s = lines s := by
  cases hs : lines s with
  | nil =>
    have hflat := flatten_lines s
    rw [hs] at hflat
    rw [← hflat]
    exact pieces_nil size
  | cons l ls =>
    rw [hs] at h
    obtain ⟨rest, hread, hrest, rfl⟩ := fgets_of_lines hs (h l List.mem_cons_self)
    have hlt := fgets_length_lt hread
    rw [pieces_of_some hread, pieces_eq_lines rest, hrest]
    rw [hrest]
    exact fun l' hl' => h l' (List.mem_cons_of_mem _ hl')
termination_by s.length

end LineFile
