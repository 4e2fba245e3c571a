import Mathlib.Data.List.DropRight
import SwitchOcSuite.Lib.LineFile
import SwitchOcSuite.SysClk.Types

/-!
# Strings of an INI file (`lib/minIni/dev/minIni.c`)

How `minIni` searches, strips, quotes and unquotes.  A string is the list of its
characters without the final NUL.  The functions copy within one buffer, always towards
its front, so that a copy reads nothing it has written.

    dequote_escaped       what is escaped for quotes is read back
    uncomment_escaped     between the quotes nothing is taken for a comment
    trim_newline          the blanks around a value go with the end of the line
-/

namespace SwitchOc.MinIni

open CString
open SysClk (Text)

def INI_BUFFERSIZE : Nat := 512

def INI_LINETERM : Text := ['\n']

inductive QuoteOption where
  | none | enquote | dequote
deriving DecidableEq, Repr

/-! ## Searching and stripping -/

/-- `'\0' < c && c <= ' '` -/
def isBlank (c : Char) : Bool := NUL < c && c ≤ ' '

def skipleading (str : Text) : Text := str.dropWhile isBlank

def striptrailing (str : Text) : Text := str.rdropWhile isBlank

/-- The string split at what `strchr` finds. -/
def strchr (str : Text) (c : Char) : Option (Text × Text) :=
  match str.dropWhile (· ≠ c) with
  | [] => none
  | _ :: behind => some (str.takeWhile (· ≠ c), behind)

/-- What is in front of what `strrchr` finds. -/
def strrchr (str : Text) (c : Char) : Option Text :=
  if c ∈ str then some (str.rdropWhile (· ≠ c)).dropLast else none

/-! ## Copying -/

/-- The loop of `QUOTE_ENQUOTE`, with room for `room` characters. -/
def enquote : Nat → Text → Text
  | _, [] => []
  | 0, _ => []
  | room + 1, c :: source =>
    if c = '"' then
      -- no space to store the escape character plus the one that follows it
      if room = 0 then [] else '\\' :: c :: enquote (room - 1) source
    else c :: enquote room source

/-- The loop of `QUOTE_DEQUOTE`. -/
def dequote : Nat → Text → Text
  | 0, _ => []
  | _, [] => []
  | room + 1, c :: source =>
    match source with
    | [] => [c]
    | d :: behind =>
      if (c = '"' ∨ c = '\\') ∧ d = '"' then d :: dequote room behind
      else c :: dequote room (d :: behind)

/-- What `ini_strncpy` leaves in `dest`. -/
def iniStrncpy (source : Text) (maxlen : Nat) (option : QuoteOption) : Text :=
  match (if option = .enquote ∧ maxlen < 3 then .none else option) with
  | .none => source.take (maxlen - 1)
  | .enquote => '"' :: enquote (maxlen - 3) source ++ ['"']
  | .dequote => dequote (maxlen - 1) source

/-- The loop of `cleanstring`, up to the comment. -/
def uncomment : Bool → Text → Text
  | _, [] => []
  | isstring, c :: string =>
    if (c = ';' ∨ c = '#') ∧ isstring = false then []
    else
      match string with
      | [] => [c]
      | d :: behind =>
        if c = '"' ∧ d = '"' then c :: d :: uncomment isstring behind
        else if c = '"' then c :: uncomment (!isstring) (d :: behind)
        else if c = '\\' ∧ d = '"' then c :: d :: uncomment isstring behind
        else c :: uncomment isstring (d :: behind)

/-- `cleanstring`, and `*quotes`. -/
def cleanstring (string : Text) : Text × QuoteOption :=
  let string := striptrailing (uncomment false string)
  if string.head? = some '"' ∧ string.getLast? = some '"' then (string.tail.dropLast, .dequote)
  else (string, .none)

def checkEnquote (Value : Text) : QuoteOption :=
  if Value.any (fun c => c = '"' || c = ';' || c = '#') || Value.getLast? = some ' ' then .enquote
  else .none

/-! ## Lemmas on searching -/

theorem strchr_append {s : Text} {c : Char} (h : c ∉ s) (t : Text) :
    strchr (s ++ c :: t) c = some (s, t) := by
  have hall : ∀ x ∈ s, decide (x ≠ c) = true := by
    rintro x hx
    rw [decide_eq_true_eq]
    rintro rfl
    exact h hx
  unfold strchr
  rw [List.dropWhile_append_of_pos hall, List.takeWhile_append_of_pos hall]
  simp

theorem strchr_eq_none {s : Text} {c : Char} (h : c ∉ s) : strchr s c = none := by
  have hnil : s.dropWhile (· ≠ c) = [] := by
    rw [List.dropWhile_eq_nil_iff]
    intro x hx
    rw [decide_eq_true_eq]
    rintro rfl
    exact h hx
  unfold strchr
  rw [hnil]

theorem strrchr_append {t : Text} {c : Char} (h : c ∉ t) (s : Text) :
    strrchr (s ++ c :: t) c = some s := by
  have hdrop : (s ++ c :: t).rdropWhile (· ≠ c) = s ++ [c] := by
    induction t using List.reverseRecOn with
    | nil => exact List.rdropWhile_concat_neg _ _ _ (by simp)
    | append_singleton t x ih =>
      rw [List.mem_append, not_or, List.mem_singleton] at h
      rw [← List.cons_append, ← List.append_assoc, List.rdropWhile_concat_pos]
      · exact ih h.1
      · simpa using Ne.symm h.2
  unfold strrchr
  rw [if_pos (by simp), hdrop, List.dropLast_concat]

theorem skipleading_append {s : Text} (h : skipleading s ≠ []) (t : Text) :
    skipleading (s ++ t) = skipleading s ++ t := by
  induction s with
  | nil => exact absurd rfl h
  | cons c s ih =>
    unfold skipleading at h ih ⊢
    rw [List.cons_append, List.dropWhile_cons, List.dropWhile_cons]
    rw [List.dropWhile_cons] at h
    split
    · rename_i hc
      rw [if_pos hc] at h
      exact ih h
    · rfl

/-- A string without the blanks around it. -/
def trim (s : Text) : Text := striptrailing (skipleading s)

theorem isBlank_newline : isBlank '\n' = true := by decide

theorem skipleading_eq_nil {s : Text} : skipleading s = [] ↔ ∀ c ∈ s, isBlank c = true :=
  List.dropWhile_eq_nil_iff

theorem skipleading_eq_self {s : Text} :
    skipleading s = s ↔ ∀ c, s.head? = some c → isBlank c = false := by
  cases s with
  | nil => simp [skipleading]
  | cons c s =>
    unfold skipleading
    rw [List.dropWhile_cons]
    split
    · rename_i hc
      constructor
      · intro h
        have hlen := congrArg List.length h
        have hle := List.length_dropWhile_le isBlank s
        rw [List.length_cons] at hlen
        omega
      · intro h
        exact absurd (h c rfl) (by simp [hc])
    · rename_i hc
      simpa using hc

/-- The newline at the end of a line is stripped with the blanks in front of it. -/
theorem striptrailing_newline (s : Text) : striptrailing (s ++ ['\n']) = striptrailing s :=
  List.rdropWhile_concat_pos _ _ _ isBlank_newline

theorem trim_newline (s : Text) : striptrailing (skipleading (s ++ ['\n'])) = trim s := by
  unfold trim
  by_cases h : skipleading s = []
  · have hall : skipleading (s ++ ['\n']) = [] := by
      rw [skipleading_eq_nil] at h ⊢
      intro c hc
      rcases List.mem_append.1 hc with hc | hc
      · exact h c hc
      · rw [List.mem_singleton.1 hc]
        exact isBlank_newline
    rw [h, hall]
  · rw [skipleading_append h, striptrailing_newline]

/-! ## Quotes -/

/-- A value between quotes, its own quotes escaped. -/
def escaped (s : Text) : Text := s.flatMap fun c => if c = '"' then ['\\', c] else [c]

theorem escaped_cons (c : Char) (s : Text) :
    escaped (c :: s) = (if c = '"' then ['\\', c] else [c]) ++ escaped s :=
  List.flatMap_cons

theorem length_le_escaped (s : Text) : s.length ≤ (escaped s).length := by
  induction s with
  | nil => simp
  | cons c s ih =>
    rw [escaped_cons, List.length_append, List.length_cons]
    split
    · simp only [List.length_cons, List.length_nil]
      omega
    · simp only [List.length_cons, List.length_nil]
      omega

/-- What is escaped does not begin with a quote. -/
theorem head_escaped (s : Text) : (escaped s).head? ≠ some '"' := by
  cases s with
  | nil => simp [escaped]
  | cons c s =>
    rw [escaped_cons]
    split
    · simp
    · rename_i hc
      simpa using hc

theorem escaped_eq_nil {s : Text} : escaped s = [] ↔ s = [] := by
  constructor
  · intro h
    have hle := length_le_escaped s
    rw [h, List.length_nil] at hle
    exact List.eq_nil_of_length_eq_zero (Nat.le_zero.1 hle)
  · rintro rfl
    rfl

/-- With room for all of it, `QUOTE_ENQUOTE` escapes the quotes. -/
theorem enquote_eq {room : Nat} {s : Text} (h : (escaped s).length ≤ room) :
    enquote room s = escaped s := by
  induction s generalizing room with
  | nil => cases room <;> rfl
  | cons c s ih =>
    rw [escaped_cons, List.length_append] at h
    cases room with
    | zero =>
      split at h
      · simp at h
      · simp at h
    | succ room =>
      rw [escaped_cons]
      simp only [enquote]
      split
      · rename_i hc
        rw [if_pos hc, List.length_cons, List.length_singleton] at h
        rw [if_neg (by omega), ih (by omega)]
        rfl
      · rename_i hc
        rw [if_neg hc, List.length_singleton] at h
        rw [ih (by omega)]
        rfl

theorem dequote_cons_of_head {c : Char} {s : Text} (hs : s.head? ≠ some '"') (room : Nat) :
    dequote (room + 1) (c :: s) = c :: dequote room s := by
  cases s with
  | nil => cases room <;> rfl
  | cons d s =>
    have hd : d ≠ '"' := by simpa using hs
    simp only [dequote]
    rw [if_neg (by simp [hd])]

/-- **What is escaped is read back.** -/
theorem dequote_escaped {room : Nat} {s : Text} (h : s.length ≤ room) :
    dequote room (escaped s) = s := by
  induction s generalizing room with
  | nil => cases room <;> rfl
  | cons c s ih =>
    rw [List.length_cons] at h
    obtain ⟨room, rfl⟩ := Nat.exists_eq_add_of_le' (Nat.le_trans (Nat.le_add_left 1 _) h)
    rw [escaped_cons]
    split
    · rename_i hc
      subst hc
      simp [dequote, ih (show s.length ≤ room by omega)]
    · rename_i hc
      rw [List.singleton_append, dequote_cons_of_head (head_escaped s), ih (by omega)]

/-- Text that a comment scan passes over. -/
def IsPlain (s : Text) : Prop := '"' ∉ s ∧ ';' ∉ s ∧ '#' ∉ s

theorem IsPlain.tail {c : Char} {s : Text} (h : IsPlain (c :: s)) : IsPlain s := by
  obtain ⟨h₁, h₂, h₃⟩ := h
  rw [List.mem_cons, not_or] at h₁ h₂ h₃
  exact ⟨h₁.2, h₂.2, h₃.2⟩

theorem uncomment_plain {s : Text} (h : IsPlain s) (isstring : Bool) :
    uncomment isstring s = s := by
  induction s with
  | nil => cases isstring <;> rfl
  | cons c s ih =>
    have htail := ih h.tail
    obtain ⟨h₁, h₂, h₃⟩ := h
    rw [List.mem_cons, not_or] at h₁ h₂ h₃
    have hstop : ¬((c = ';' ∨ c = '#') ∧ isstring = false) := by
      rintro ⟨hc, -⟩
      rcases hc with hc | hc
      · exact h₂.1 hc.symm
      · exact h₃.1 hc.symm
    unfold uncomment
    rw [if_neg hstop]
    cases s with
    | nil => rfl
    | cons d s =>
      have hd : d ≠ '"' := by
        rintro rfl
        exact h₁.2 List.mem_cons_self
      simp only
      rw [if_neg (by simp [hd]), if_neg (Ne.symm h₁.1), if_neg (by simp [hd]), htail]

/-- Between the quotes nothing is taken for a comment, and the quote behind the value is reached.
A backslash at the end of the value makes it one that is skipped. -/
theorem uncomment_escaped {s rest : Text} (hrest : IsPlain rest) :
    uncomment true (escaped s ++ '"' :: rest) = escaped s ++ '"' :: rest := by
  have hhead : ∀ s : Text, s ≠ [] → ∃ d t, escaped s ++ '"' :: rest = d :: t ∧ d ≠ '"' := by
    intro s hs
    cases hesc : escaped s with
    | nil => exact absurd (escaped_eq_nil.1 hesc) hs
    | cons d t =>
      have hd := head_escaped s
      rw [hesc] at hd
      exact ⟨d, t ++ '"' :: rest, rfl, by simpa using hd⟩
  induction s with
  | nil =>
    cases rest with
    | nil => simp [escaped, uncomment]
    | cons d rest =>
      have hd : d ≠ '"' := by
        rintro rfl
        exact hrest.1 List.mem_cons_self
      simp [escaped, uncomment, hd, uncomment_plain hrest]
  | cons c s ih =>
    rw [escaped_cons, List.append_assoc]
    split
    · rename_i hc
      subst hc
      simp [uncomment, ih]
    · rename_i hc
      rw [List.singleton_append]
      by_cases hs : s = []
      · -- the last character of the value stands in front of the closing quote
        subst hs
        by_cases hslash : c = '\\'
        · subst hslash
          simp [escaped, uncomment, uncomment_plain hrest]
        · simp only [escaped, List.flatMap_nil, List.nil_append] at ih ⊢
          simp [uncomment, hc, hslash, ih]
      · obtain ⟨d, t, heq, hd⟩ := hhead s hs
        rw [heq] at ih ⊢
        simp [uncomment, hc, hd, ih]

end SwitchOc.MinIni
