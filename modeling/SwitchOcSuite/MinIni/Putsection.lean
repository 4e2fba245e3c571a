import SwitchOcSuite.MinIni.Lines

/-!
# Rewriting a section (`ini_putsection` of `lib/minIni/dev/minIni.c`)

The file is copied to a temporary one.  A line that is to be copied is only counted; when
the count would reach the size of the buffer, `cache_flush` goes back to the `mark` and
reads the counted lines again, behind one another in the buffer, to write them at once.
A place in a file is what lies ahead of it; `none` stands for a function that does not
return, or has not in as many rounds as are given.

    refill_eq        lines that were counted are read again as they were
    accumulate_eq    counting a line, with or without a flush, loses nothing
    copyRest_eq      the rest of the file is copied
-/

namespace SwitchOc.MinIni

open CString LineFile
open SysClk (Text)

/-- The buffer, the file that is read with the mark in it, the length of what is to be copied from
the mark on, and what has been written. -/
structure Copy where
  LocalBuffer : Text
  rfp : Text
  mark : Text
  cachelen : Nat
  wfp : Text
deriving DecidableEq, Repr

/-- `ini_read(LocalBuffer, INI_BUFFERSIZE, &rfp)`, unless it fails. -/
def iniRead (c : Copy) : Option Copy :=
  match fgets INI_BUFFERSIZE c.rfp with
  | none => none
  | some (line, rfp) => some { c with LocalBuffer := line, rfp := rfp }

/-- `ini_tell(&rfp, &mark)` -/
def iniTell (c : Copy) : Copy := { c with mark := c.rfp }

def cacheAccum (string : Text) (size max : Nat) : Option Nat :=
  if max ≤ size + string.length then none else some (size + string.length)

/-- The loop of `cache_flush`, with `buffer` filled up to `pos`.  When the file is at its end the
buffer stays as it is, `pos` stays where it is, and the loop does not end. -/
def refill (size : Nat) (buffer ahead : Text) : Option (Text × Text) :=
  if size ≤ buffer.length then some (buffer, ahead)
  else
    match _h : fgets (INI_BUFFERSIZE - buffer.length) ahead with
    | none => none
    | some (line, ahead) =>
      refill size (buffer ++ (cstr line).take (size - buffer.length)) ahead
termination_by ahead.length
decreasing_by exact fgets_length_lt _h

/-- `cache_flush`, and whether what it has written ends with a line termination. -/
def cacheFlush (c : Copy) : Option (Bool × Copy) :=
  match refill c.cachelen [] c.mark with
  | none => none
  | some (buffer, rfp) =>
    some (decide (INI_LINETERM.length < buffer.length) && INI_LINETERM.isSuffixOf buffer,
      { LocalBuffer := if c.cachelen = 0 then c.LocalBuffer.set 0 NUL else buffer
        rfp := rfp
        mark := rfp
        cachelen := 0
        wfp := c.wfp ++ buffer })

/-- A line that is to be copied: `cache_accum`, and when that has no room, a flush, the line once
more and `cache_accum` again. -/
def accumulate (c : Copy) : Option Copy :=
  match cacheAccum (cstr c.LocalBuffer) c.cachelen INI_BUFFERSIZE with
  | some size => some { c with cachelen := size }
  | none =>
    match cacheFlush c with
    | none => none
    | some (_, c) =>
      let c := (iniRead c).getD c
      let size := cacheAccum (cstr c.LocalBuffer) c.cachelen INI_BUFFERSIZE
      some { c with cachelen := size.getD c.cachelen }

/-! ## Sections -/

/-- A character of `strnicmp`, in upper case. -/
def upper (c : Char) : Int :=
  if 'a' ≤ c ∧ c ≤ 'z' then c.toNat + (('A'.toNat : Int) - 'a'.toNat) else c.toNat

def strnicmp : Nat → Text → Text → Int
  | 0, _, _ => 0
  | _ + 1, [], [] => 0
  | n + 1, s1, s2 =>
    let c1 := upper (s1.headD NUL)
    let c2 := upper (s2.headD NUL)
    if c1 ≠ c2 then c1 - c2 else strnicmp n s1.tail s2.tail

/-- `match`: is the line the header of the section? -/
def isSection (Section line : Text) : Bool :=
  let sp := skipleading line
  match strrchr sp ']' with
  | none => false
  | some before =>
    sp.head? = some '[' && before.length = Section.length + 1 &&
      strnicmp Section.length sp.tail Section = 0

/-- `*sp == '['` -/
def startsSection (line : Text) : Bool := (skipleading line).head? = some '['

/-- `skipleading(LocalBuffer) - LocalBuffer` -/
def leading (line : Text) : Nat := (line.takeWhile isBlank).length

/-- What `putsection` writes. -/
def putsectionText (Section : Text) (pairs : List (Text × Text)) : Text :=
  if pairs = [] then []
  else writesection Section ++ pairs.flatMap (fun kv => writekey kv.1 kv.2) ++ INI_LINETERM

/-- `putsection`, which leaves the last key in the buffer. -/
def putsection (Section : Text) (pairs : List (Text × Text)) (c : Copy) : Copy :=
  match pairs.getLast? with
  | none => c
  | some (key, value) =>
    { c with LocalBuffer := writekey key value, wfp := c.wfp ++ putsectionText Section pairs }

/-! ## The three loops -/

/-- Lines are copied until the section is found.  Is it? -/
def findSection (Section : Text) : Nat → Copy → Option (Bool × Copy)
  | 0, _ => none
  | fuel + 1, c =>
    match iniRead c with
    | none => some (false, c)
    | some c =>
      if isSection Section (cstr c.LocalBuffer) then some (true, c)
      else
        match accumulate c with
        | none => none
        | some c => findSection Section fuel c

theorem iniRead_length_lt {c c' : Copy} (h : iniRead c = some c') :
    c'.rfp.length < c.rfp.length := by
  unfold iniRead at h
  split at h
  · exact absurd h nofun
  · rename_i hread
    obtain rfl := Option.some.inj h
    exact fgets_length_lt hread

/-- End of file without an entry. -/
def endSection (sp : Option Nat) (c : Copy) : Option (Option Nat × Copy) :=
  match cacheFlush c with
  | none => none
  | some (_, c) => some (sp, iniTell c)

/-- Lines are passed over until a section begins.  The result has the offset `sp` of the last line
that was looked at. -/
def skipSection (sp : Option Nat) (c : Copy) : Option (Option Nat × Copy) :=
  match _h : iniRead c with
  | none => endSection sp c
  | some c =>
    if startsSection (cstr c.LocalBuffer) then some (some (leading (cstr c.LocalBuffer)), c)
    else skipSection (some (leading (cstr c.LocalBuffer))) (iniTell c)
termination_by c.rfp.length
decreasing_by
  have hlt := iniRead_length_lt _h
  exact hlt

/-- The rest of the file is copied. -/
def copyRest : Nat → Copy → Option Copy
  | 0, _ => none
  | fuel + 1, c =>
    match iniRead c with
    | none => some c
    | some c =>
      match accumulate c with
      | none => none
      | some c => copyRest fuel c

/-- From the header of the section on, which is ahead again after the flush. -/
def replaceSection (Section : Text) (pairs : List (Text × Text)) (fuel : Nat) (sp : Option Nat)
    (c : Copy) : Option Text :=
  match cacheFlush c with
  | none => none
  | some (_, c) =>
    match skipSection sp (iniTell ((iniRead c).getD c)) with
    | none => none
    | some (sp, c) =>
      let flag := sp.any fun sp => c.LocalBuffer.getD sp NUL = '['
      match cacheFlush c with
      | none => none
      | some (_, c) =>
        let c := putsection Section pairs c
        let c := (iniRead c).getD c
        let c :=
          if flag then
            -- the new section heading needs to be copied to the output file
            let size := cacheAccum (cstr c.LocalBuffer) c.cachelen INI_BUFFERSIZE
            { c with cachelen := size.getD c.cachelen }
          else iniTell c
        match copyRest fuel c with
        | none => none
        | some c =>
          match cacheFlush c with
          | none => none
          | some (_, c) => some c.wfp

/-- What `ini_putsection` makes of the text of a file that exists.  The buffer holds the name of the
temporary file at first. -/
def rewrite (Section : Text) (pairs : List (Text × Text)) (fuel : Nat) (tempname file : Text) :
    Option Text :=
  let c : Copy :=
    { LocalBuffer := tempname, rfp := file, mark := file, cachelen := 0, wfp := [] }
  if Section = [] then replaceSection Section pairs fuel none c
  else
    match findSection Section fuel c with
    | none => none
    | some (false, c) =>
      -- failed to find section, so add one to the end
      match cacheFlush c with
      | none => none
      | some (flag, c) =>
        some (c.wfp ++ (if flag then [] else INI_LINETERM) ++ putsectionText Section pairs)
    | some (true, c) =>
      replaceSection Section pairs fuel (some (leading (cstr c.LocalBuffer))) c

/-! ## What is counted is read again -/

/-- Between the mark and `ahead` are the counted pieces. -/
structure Counted (c : Copy) (cached : List Text) (ahead : Text) : Prop where
  mark : c.mark = cached.flatten ++ ahead
  pieces : pieces INI_BUFFERSIZE c.mark = cached ++ pieces INI_BUFFERSIZE ahead
  size : c.cachelen = cached.flatten.length
  room : c.cachelen < INI_BUFFERSIZE
  nul : NUL ∉ c.mark

/-- **Pieces that fit into the buffer together are read again as they were**, each behind the
others with the room they leave. -/
theorem refill_eq {cached : List Text} {ahead rest buffer : Text} {size : Nat}
    (hahead : ahead = cached.flatten ++ rest)
    (hpieces : pieces INI_BUFFERSIZE ahead = cached ++ pieces INI_BUFFERSIZE rest)
    (hsize : buffer.length + cached.flatten.length = size) (hroom : size < INI_BUFFERSIZE)
    (hnul : NUL ∉ ahead) : refill size buffer ahead = some (buffer ++ cached.flatten, rest) := by
  induction cached generalizing ahead buffer with
  | nil =>
    rw [refill, if_pos (by simp at hsize; omega), List.flatten_nil, List.append_nil]
    rw [hahead, List.flatten_nil, List.nil_append]
  | cons line cached ih =>
    cases hread : fgets INI_BUFFERSIZE ahead with
    | none =>
      rw [pieces_of_none hread] at hpieces
      exact absurd hpieces nofun
    | some read =>
      obtain ⟨line', ahead'⟩ := read
      rw [pieces_of_some hread, List.cons_append] at hpieces
      obtain ⟨rfl, htail⟩ := List.cons.inj hpieces
      obtain ⟨hline, hne, happend⟩ := fgets_eq_some_iff.1 hread
      rw [List.flatten_cons, List.length_append] at hsize
      have hpos := List.length_pos_iff.2 hne
      -- the same piece is read with the room that is left
      have hshort : fgets (INI_BUFFERSIZE - buffer.length) ahead = some (line', ahead') := by
        refine fgets_eq_some_iff.2 ⟨?_, hne, happend⟩
        rw [piece_of_length_le (n := INI_BUFFERSIZE - 1) (by omega) (by rw [← hline]; omega)]
        exact hline
      have hline' : NUL ∉ line' := fun h => hnul (happend ▸ List.mem_append_left _ h)
      have hahead' : NUL ∉ ahead' := fun h => hnul (happend ▸ List.mem_append_right _ h)
      have htail' : ahead' = cached.flatten ++ rest := by
        rw [happend, List.flatten_cons, List.append_assoc] at hahead
        exact List.append_cancel_left hahead
      rw [refill, if_neg (by omega)]
      split
      · rename_i h
        exact absurd (hshort.symm.trans h) nofun
      · rename_i h
        obtain ⟨rfl, rfl⟩ := Prod.mk.inj (Option.some.inj (hshort.symm.trans h))
        rw [cstr_of_not_mem hline', List.take_of_length_le (by omega)]
        rw [ih htail' htail (by rw [List.length_append]; omega) hahead', List.flatten_cons,
          List.append_assoc]

/-- What was counted is written, and the file is read on behind it. -/
theorem cacheFlush_eq {c : Copy} {cached : List Text} {ahead : Text}
    (h : Counted c cached ahead) : ∃ c', cacheFlush c =
      some (decide (INI_LINETERM.length < cached.flatten.length) &&
        INI_LINETERM.isSuffixOf cached.flatten, c') ∧
      c'.LocalBuffer = (if c.cachelen = 0 then c.LocalBuffer.set 0 NUL else cached.flatten) ∧
      c'.rfp = ahead ∧ c'.wfp = c.wfp ++ cached.flatten ∧ Counted c' [] ahead := by
  have hrefill : refill c.cachelen [] c.mark = some ([] ++ cached.flatten, ahead) :=
    refill_eq h.mark h.pieces
    (by rw [List.length_nil, Nat.zero_add]; exact h.size.symm) h.room h.nul
  have hnul : NUL ∉ ahead := fun hmem => h.nul (h.mark ▸ List.mem_append_right _ hmem)
  unfold cacheFlush
  rw [hrefill, List.nil_append]
  exact ⟨_, rfl, rfl, rfl, rfl, ⟨rfl, rfl, rfl, Nat.zero_lt_succ _, hnul⟩⟩

/-! ## Reading -/

theorem iniRead_none {c : Copy} (h : pieces INI_BUFFERSIZE c.rfp = []) : iniRead c = none := by
  unfold iniRead
  cases hread : fgets INI_BUFFERSIZE c.rfp with
  | none => rfl
  | some read =>
    rw [pieces_of_some hread] at h
    exact absurd h nofun

theorem iniRead_cons {c : Copy} {line : Text} {ps : List Text}
    (h : pieces INI_BUFFERSIZE c.rfp = line :: ps) :
    ∃ rfp, iniRead c = some { c with LocalBuffer := line, rfp := rfp } ∧
      c.rfp = line ++ rfp ∧ pieces INI_BUFFERSIZE rfp = ps ∧ line.length < INI_BUFFERSIZE := by
  unfold iniRead
  cases hread : fgets INI_BUFFERSIZE c.rfp with
  | none =>
    rw [pieces_of_none hread] at h
    exact absurd h nofun
  | some read =>
    obtain ⟨line', rfp⟩ := read
    rw [pieces_of_some hread] at h
    obtain ⟨rfl, hps⟩ := List.cons.inj h
    obtain ⟨hline, -, happend⟩ := fgets_eq_some_iff.1 hread
    have hle := piece_length_le (INI_BUFFERSIZE - 1) c.rfp
    rw [← hline] at hle
    exact ⟨rfp, rfl, happend, hps, Nat.lt_of_le_of_lt hle (by decide)⟩

/-- A line read behind the counted ones is counted with them, and where there is no room for it
they are written first. -/
theorem accumulate_eq {c : Copy} {cached : List Text} {line rfp : Text}
    (hc : Counted c cached (line ++ rfp)) (hbuffer : c.LocalBuffer = line) (hrfp : c.rfp = rfp)
    (hpieces : pieces INI_BUFFERSIZE (line ++ rfp) = line :: pieces INI_BUFFERSIZE rfp) :
    ∃ c' cached', accumulate c = some c' ∧ Counted c' cached' rfp ∧ c'.rfp = rfp ∧
      c'.wfp ++ cached'.flatten = c.wfp ++ cached.flatten ++ line := by
  have hlinenul : NUL ∉ line := fun h => hc.nul (by rw [hc.mark]; simp [h])
  obtain ⟨hmark, hps, hsize, hroom, hnul⟩ := hc
  unfold accumulate
  rw [hbuffer, cstr_of_not_mem hlinenul]
  unfold cacheAccum
  by_cases hfull : INI_BUFFERSIZE ≤ c.cachelen + line.length
  · -- the counted lines are written, and the line is read a second time
    obtain ⟨c', hflush, hbuf, hrfp', hwfp, hcounted⟩ :=
      cacheFlush_eq (c := c) ⟨hmark, hps, hsize, hroom, hnul⟩
    obtain ⟨rfp', hread, happend, hrest, hshort⟩ := iniRead_cons (c := c') (hrfp' ▸ hpieces)
    rw [if_pos hfull, hflush]
    dsimp only
    rw [hread, Option.getD_some, cstr_of_not_mem hlinenul]
    have hzero : c'.cachelen = 0 := hcounted.size
    have hrfpeq : rfp' = rfp := List.append_cancel_left (happend.symm.trans hrfp')
    subst hrfpeq
    refine ⟨_, [line], rfl, ?_, rfl, ?_⟩
    · refine ⟨?_, ?_, ?_, ?_, hcounted.nul⟩
      · simpa using hcounted.mark
      · rw [hcounted.mark, List.flatten_nil, List.nil_append, hpieces]
        rfl
      · rw [hzero]
        simp [show ¬INI_BUFFERSIZE ≤ line.length by omega]
      · rw [hzero]
        simp [show ¬INI_BUFFERSIZE ≤ line.length by omega, hshort]
    · simp [hwfp]
  · rw [if_neg hfull]
    refine ⟨_, cached ++ [line], rfl, ?_, hrfp, ?_⟩
    · refine ⟨?_, ?_, ?_, ?_, hnul⟩
      · simp [hmark]
      · rw [hps, hpieces]
        simp
      · simp [hsize]
      · exact Nat.lt_of_not_le hfull
    · simp

end SwitchOc.MinIni
