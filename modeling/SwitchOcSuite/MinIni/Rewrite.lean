import SwitchOcSuite.MinIni.Putsection

/-!
# What `ini_putsection` makes of a file

A file without NUL is its pieces of at most 511 characters.  Those in front of the
section and behind it are copied as they are, however the copy is cut into flushes;
between them stands the new section.

    replaceSection_inner   a section in front of another one is replaced
    replaceSection_last    the last section is replaced, or the function does not return
    rewrite_spec           what becomes of the file, for every file and every section
    rewrite_returns_iff    when the function returns
-/

namespace SwitchOc.MinIni

open CString LineFile
open SysClk (Text)

/-! ## Copying -/

/-- One line is read and counted. -/
theorem copy_step {c : Copy} {cached : List Text} {line : Text} {ps : List Text}
    (hc : Counted c cached c.rfp) (hps : pieces INI_BUFFERSIZE c.rfp = line :: ps) :
    ∃ c₁ c₂ cached', iniRead c = some c₁ ∧ c₁.LocalBuffer = line ∧ cstr line = line ∧
      c₁.wfp = c.wfp ∧ Counted c₁ cached (line ++ c₁.rfp) ∧ pieces INI_BUFFERSIZE c₁.rfp = ps ∧
      accumulate c₁ = some c₂ ∧ Counted c₂ cached' c₂.rfp ∧ pieces INI_BUFFERSIZE c₂.rfp = ps ∧
      c₂.wfp ++ cached'.flatten = c.wfp ++ cached.flatten ++ line ∧ c.rfp = line ++ c₁.rfp := by
  obtain ⟨rfp, hread, hrfp, hrest, -⟩ := iniRead_cons hps
  obtain ⟨hmark, hpieces, hsize, hroom, hnul⟩ := hc
  have hline : NUL ∉ line := fun h => hnul (by rw [hmark, hrfp]; simp [h])
  have hcounted : Counted { c with LocalBuffer := line, rfp := rfp } cached (line ++ rfp) :=
    ⟨by rw [← hrfp]; exact hmark, by rw [← hrfp]; exact hpieces, hsize, hroom, hnul⟩
  have hahead : pieces INI_BUFFERSIZE (line ++ rfp) = line :: pieces INI_BUFFERSIZE rfp := by
    rw [← hrfp, hps, hrest]
  obtain ⟨c₂, cached', hacc, hcounted', hrfp', hwfp⟩ := accumulate_eq hcounted rfl rfl hahead
  exact ⟨_, c₂, cached', hread, rfl, cstr_of_not_mem hline, rfl, hcounted, hrest, hacc,
    hrfp' ▸ hcounted', hrfp' ▸ hrest, hwfp, hrfp⟩

/-- **The rest of the file is copied.** -/
theorem copyRest_eq {c : Copy} {cached : List Text} {ps : List Text} {fuel : Nat}
    (hc : Counted c cached c.rfp) (hps : pieces INI_BUFFERSIZE c.rfp = ps)
    (hfuel : ps.length < fuel) : ∃ c' cached', copyRest fuel c = some c' ∧
      Counted c' cached' [] ∧ c'.wfp ++ cached'.flatten = c.wfp ++ cached.flatten ++ ps.flatten := by
  induction ps generalizing c cached fuel with
  | nil =>
    obtain ⟨fuel, rfl⟩ := Nat.exists_eq_succ_of_ne_zero (Nat.ne_of_gt hfuel)
    have hnil : c.rfp = [] := by
      rw [← flatten_pieces (show 2 ≤ INI_BUFFERSIZE by decide) c.rfp, hps, List.flatten_nil]
    refine ⟨c, cached, ?_, hnil ▸ hc, by simp⟩
    rw [copyRest, iniRead_none hps]
  | cons line ps ih =>
    obtain ⟨fuel, rfl⟩ := Nat.exists_eq_succ_of_ne_zero (Nat.ne_of_gt (Nat.zero_lt_of_lt hfuel))
    obtain ⟨c₁, c₂, cached', hread, -, -, -, -, -, hacc, hc₂, hps₂, hwfp, -⟩ := copy_step hc hps
    rw [List.length_cons] at hfuel
    obtain ⟨c', cached'', hcopy, hc', hwfp'⟩ := ih hc₂ hps₂ (Nat.lt_of_succ_lt_succ hfuel)
    refine ⟨c', cached'', ?_, hc', ?_⟩
    · rw [copyRest, hread]
      dsimp only
      rw [hacc]
      exact hcopy
    · rw [hwfp', hwfp, List.flatten_cons, List.append_assoc _ line]

/-- The whole file is copied where the section is not in it. -/
theorem findSection_absent {Section : Text} {c : Copy} {cached : List Text} {ps : List Text}
    {fuel : Nat} (hc : Counted c cached c.rfp) (hps : pieces INI_BUFFERSIZE c.rfp = ps)
    (hnone : ∀ p ∈ ps, isSection Section p = false) (hfuel : ps.length < fuel) :
    ∃ c' cached', findSection Section fuel c = some (false, c') ∧ Counted c' cached' [] ∧
      c'.wfp ++ cached'.flatten = c.wfp ++ cached.flatten ++ ps.flatten := by
  induction ps generalizing c cached fuel with
  | nil =>
    obtain ⟨fuel, rfl⟩ := Nat.exists_eq_succ_of_ne_zero (Nat.ne_of_gt hfuel)
    have hnil : c.rfp = [] := by
      rw [← flatten_pieces (show 2 ≤ INI_BUFFERSIZE by decide) c.rfp, hps, List.flatten_nil]
    refine ⟨c, cached, ?_, hnil ▸ hc, by simp⟩
    rw [findSection, iniRead_none hps]
  | cons line ps ih =>
    obtain ⟨fuel, rfl⟩ := Nat.exists_eq_succ_of_ne_zero (Nat.ne_of_gt (Nat.zero_lt_of_lt hfuel))
    obtain ⟨c₁, c₂, cached', hread, hbuffer, hline, -, -, -, hacc, hc₂, hps₂, hwfp, -⟩ :=
      copy_step hc hps
    rw [List.length_cons] at hfuel
    obtain ⟨c', cached'', hfind, hc', hwfp'⟩ :=
      ih hc₂ hps₂ (fun p hp => hnone p (List.mem_cons_of_mem _ hp)) (Nat.lt_of_succ_lt_succ hfuel)
    have hno := hnone line List.mem_cons_self
    refine ⟨c', cached'', ?_, hc', ?_⟩
    · rw [findSection, hread]
      dsimp only
      rw [hbuffer, hline, hno, hacc]
      exact hfind
    · rw [hwfp', hwfp, List.flatten_cons, List.append_assoc _ line]

/-- More rounds make no difference. -/
theorem findSection_mono {Section : Text} {fuel fuel' : Nat} {c : Copy} {result : Bool × Copy}
    (hle : fuel ≤ fuel') (h : findSection Section fuel c = some result) :
    findSection Section fuel' c = some result := by
  induction fuel generalizing c fuel' with
  | zero => exact absurd h nofun
  | succ fuel ih =>
    obtain ⟨fuel', rfl⟩ := Nat.exists_eq_add_of_le' (Nat.le_trans (Nat.le_add_left 1 fuel) hle)
    rw [findSection] at h ⊢
    cases hread : iniRead c with
    | none => rwa [hread] at h
    | some c₁ =>
      rw [hread] at h
      dsimp only at h ⊢
      split
      · rename_i hmatch
        rwa [if_pos hmatch] at h
      · rename_i hmatch
        rw [if_neg hmatch] at h
        cases hacc : accumulate c₁ with
        | none =>
          rw [hacc] at h
          exact absurd h nofun
        | some c₂ =>
          rw [hacc] at h
          exact ih (Nat.le_of_succ_le_succ hle) h

theorem copyRest_mono {fuel fuel' : Nat} {c c' : Copy} (hle : fuel ≤ fuel')
    (h : copyRest fuel c = some c') : copyRest fuel' c = some c' := by
  induction fuel generalizing c fuel' with
  | zero => exact absurd h.symm (Option.some_ne_none _)
  | succ fuel ih =>
    obtain ⟨fuel', rfl⟩ := Nat.exists_eq_add_of_le' (Nat.le_trans (Nat.le_add_left 1 fuel) hle)
    rw [copyRest] at h ⊢
    cases hread : iniRead c with
    | none => rwa [hread] at h
    | some c₁ =>
      rw [hread] at h
      dsimp only at h ⊢
      cases hacc : accumulate c₁ with
      | none =>
        rw [hacc] at h
        exact absurd h.symm (Option.some_ne_none _)
      | some c₂ =>
        rw [hacc] at h
        exact ih (Nat.le_of_succ_le_succ hle) h

theorem replaceSection_mono {Section : Text} {pairs : List (Text × Text)} {fuel fuel' : Nat}
    {sp : Option Nat} {c : Copy} {text : Text} (hle : fuel ≤ fuel')
    (h : replaceSection Section pairs fuel sp c = some text) :
    replaceSection Section pairs fuel' sp c = some text := by
  have hno : ∀ {α : Type} {x : α}, (none : Option α) ≠ some x := (Option.some_ne_none _).symm
  unfold replaceSection at h ⊢
  cases hflush : cacheFlush c with
  | none =>
    rw [hflush] at h
    exact absurd h hno
  | some flushed =>
    rw [hflush] at h
    dsimp only at h ⊢
    cases hskip : skipSection sp (iniTell ((iniRead flushed.2).getD flushed.2)) with
    | none =>
      rw [hskip] at h
      exact absurd h hno
    | some skipped =>
      rw [hskip] at h
      dsimp only at h ⊢
      cases hflush₂ : cacheFlush skipped.2 with
      | none =>
        rw [hflush₂] at h
        exact absurd h hno
      | some flushed₂ =>
        rw [hflush₂] at h
        dsimp only at h ⊢
        -- only the copy of the rest counts its rounds
        split at h
        · exact absurd h hno
        · rename_i hcopy
          rw [copyRest_mono hle hcopy]
          exact h

theorem rewrite_mono {Section : Text} {pairs : List (Text × Text)} {fuel fuel' : Nat}
    {tempname file text : Text} (hle : fuel ≤ fuel')
    (h : rewrite Section pairs fuel tempname file = some text) :
    rewrite Section pairs fuel' tempname file = some text := by
  unfold rewrite at h ⊢
  dsimp only at h ⊢
  split
  · rename_i hnil
    rw [if_pos hnil] at h
    exact replaceSection_mono hle h
  · rename_i hne
    rw [if_neg hne] at h
    cases hfind : findSection Section fuel ⟨tempname, file, file, 0, []⟩ with
    | none =>
      rw [hfind] at h
      exact absurd h.symm (Option.some_ne_none _)
    | some found =>
      rw [hfind] at h
      rw [findSection_mono hle hfind]
      obtain ⟨isFound, c⟩ := found
      cases isFound with
      | false => exact h
      | true => exact replaceSection_mono hle h

/-- What is in front of the section is copied, and the header is in the buffer. -/
theorem findSection_found {Section header : Text} {c : Copy} {cached pre tail : List Text}
    {fuel : Nat} (hc : Counted c cached c.rfp)
    (hps : pieces INI_BUFFERSIZE c.rfp = pre ++ header :: tail)
    (hpre : ∀ p ∈ pre, isSection Section p = false) (hheader : isSection Section header = true)
    (hfuel : pre.length < fuel) :
    ∃ c' cached' rest, findSection Section fuel c = some (true, c') ∧ c'.LocalBuffer = header ∧
      cstr header = header ∧ Counted c' cached' (header ++ rest) ∧
      pieces INI_BUFFERSIZE (header ++ rest) = header :: tail ∧
      c'.wfp ++ cached'.flatten = c.wfp ++ cached.flatten ++ pre.flatten := by
  induction pre generalizing c cached fuel with
  | nil =>
    obtain ⟨fuel, rfl⟩ := Nat.exists_eq_succ_of_ne_zero (Nat.ne_of_gt hfuel)
    rw [List.nil_append] at hps
    obtain ⟨c₁, -, -, hread, hbuffer, hline, hwfp, hc₁, hps₁, -⟩ := copy_step hc hps
    obtain ⟨rfp, hread', hrfp, -, -⟩ := iniRead_cons hps
    obtain rfl := Option.some.inj (hread.symm.trans hread')
    refine ⟨_, cached, rfp, ?_, rfl, hline, hc₁, hrfp ▸ hps, by simp⟩
    rw [findSection, hread]
    dsimp only
    rw [hline, hheader]
    rfl
  | cons line pre ih =>
    obtain ⟨fuel, rfl⟩ := Nat.exists_eq_succ_of_ne_zero (Nat.ne_of_gt (Nat.zero_lt_of_lt hfuel))
    rw [List.cons_append] at hps
    obtain ⟨c₁, c₂, cached', hread, hbuffer, hline, -, -, -, hacc, hc₂, hps₂, hwfp, -⟩ :=
      copy_step hc hps
    rw [List.length_cons] at hfuel
    obtain ⟨c', cached'', rest, hfind, hbuffer', hheader', hc', hps', hwfp'⟩ :=
      ih hc₂ hps₂ (fun p hp => hpre p (List.mem_cons_of_mem _ hp)) (Nat.lt_of_succ_lt_succ hfuel)
    have hno := hpre line List.mem_cons_self
    refine ⟨c', cached'', rest, ?_, hbuffer', hheader', hc', hps', ?_⟩
    · rw [findSection, hread]
      dsimp only
      rw [hbuffer, hline, hno, hacc]
      exact hfind
    · rw [hwfp', hwfp, List.flatten_cons, List.append_assoc _ line]

/-! ## The old section -/

theorem skipSection_of_none {c : Copy} (h : iniRead c = none) (sp : Option Nat) :
    skipSection sp c = endSection sp c := by
  rw [skipSection]
  split
  · rfl
  · rename_i h'
    exact absurd (h'.symm.trans h) (Option.some_ne_none _)

theorem skipSection_of_some {c c' : Copy} (h : iniRead c = some c') (sp : Option Nat) :
    skipSection sp c =
      if startsSection (cstr c'.LocalBuffer) then some (some (leading (cstr c'.LocalBuffer)), c')
      else skipSection (some (leading (cstr c'.LocalBuffer))) (iniTell c') := by
  rw [skipSection]
  split
  · rename_i h'
    exact absurd (h.symm.trans h') (Option.some_ne_none _)
  · rename_i h'
    obtain rfl := Option.some.inj (h.symm.trans h')
    rfl

/-- A line of the old section is passed over, and the mark with it. -/
theorem skip_step {c : Copy} {line : Text} {ps : List Text} (hc : Counted c [] c.rfp)
    (hps : pieces INI_BUFFERSIZE c.rfp = line :: ps) :
    ∃ c', iniRead c = some c' ∧ c'.LocalBuffer = line ∧ cstr line = line ∧ c'.wfp = c.wfp ∧
      Counted c' [] (line ++ c'.rfp) ∧ Counted (iniTell c') [] (iniTell c').rfp ∧
      pieces INI_BUFFERSIZE c'.rfp = ps ∧ c.rfp = line ++ c'.rfp := by
  obtain ⟨c', -, -, hread, hbuffer, hline, hwfp, hc', hps', -, -, -, -, hrfp⟩ := copy_step hc hps
  have hnul : NUL ∉ c'.rfp := fun h => hc'.nul (by rw [hc'.mark]; simp [h])
  exact ⟨c', hread, hbuffer, hline, hwfp, hc', ⟨rfl, rfl, hc'.size, hc'.room, hnul⟩, hps',
    hrfp⟩

/-- The old section is passed over up to the next one. -/
theorem skipSection_inner {c : Copy} {body post : List Text} {next : Text}
    (sp : Option Nat) (hc : Counted c [] c.rfp)
    (hps : pieces INI_BUFFERSIZE c.rfp = body ++ next :: post)
    (hbody : ∀ p ∈ body, startsSection p = false) (hnext : startsSection next = true) :
    ∃ c', skipSection sp c = some (some (leading next), c') ∧ c'.LocalBuffer = next ∧
      c'.wfp = c.wfp ∧ Counted c' [] (next ++ c'.rfp) ∧
      pieces INI_BUFFERSIZE (next ++ c'.rfp) = next :: post := by
  induction body generalizing c sp with
  | nil =>
    obtain ⟨c', hread, hbuffer, hline, hwfp, hc', -, -, hrfp⟩ := skip_step hc hps
    refine ⟨c', ?_, hbuffer, hwfp, hc', hrfp ▸ hps⟩
    rw [skipSection_of_some hread, hbuffer, hline, if_pos hnext]
  | cons line body ih =>
    obtain ⟨c₁, hread, hbuffer, hline, hwfp, -, hc₁, hps₁, -⟩ := skip_step hc hps
    obtain ⟨c', hskip, hbuffer', hwfp', hc', hps'⟩ :=
      ih (some (leading line)) hc₁ hps₁ fun p hp => hbody p (List.mem_cons_of_mem _ hp)
    have hno := hbody line List.mem_cons_self
    refine ⟨c', ?_, hbuffer', hwfp'.trans hwfp, hc', hps'⟩
    rw [skipSection_of_some hread, hbuffer, hline, hno]
    exact hskip

/-- The old section is the last one: the buffer holds the last line of it, but for the first
character. -/
theorem skipSection_last {c : Copy} {body : List Text} (sp : Option Nat) (line : Text)
    (hc : Counted c [] c.rfp) (hps : pieces INI_BUFFERSIZE c.rfp = body)
    (hbody : ∀ p ∈ body, startsSection p = false) (hbuffer : c.LocalBuffer = line)
    (hsp : sp = some (leading line)) :
    ∃ c' last, skipSection sp c = some (some (leading last), c') ∧
      last = body.getLast?.getD line ∧ c'.LocalBuffer = last.set 0 NUL ∧ c'.wfp = c.wfp ∧
      Counted c' [] c'.rfp ∧ c'.rfp = [] := by
  induction body generalizing c sp line with
  | nil =>
    have hread := iniRead_none hps
    have hnil : c.rfp = [] := by
      rw [← flatten_pieces (show 2 ≤ INI_BUFFERSIZE by decide) c.rfp, hps, List.flatten_nil]
    obtain ⟨c', hflush, hbuffer', hrfp, hwfp, hc'⟩ := cacheFlush_eq hc
    have hzero : c.cachelen = 0 := hc.size
    refine ⟨iniTell c', line, ?_, rfl, ?_, ?_, ⟨rfl, rfl, hc'.size, hc'.room, ?_⟩, hrfp.trans hnil⟩
    · rw [skipSection_of_none hread, endSection, hflush, hsp]
    · show c'.LocalBuffer = _
      rw [hbuffer', if_pos hzero, hbuffer]
    · show c'.wfp = _
      simpa using hwfp
    · show NUL ∉ c'.rfp
      rw [hrfp, hnil]
      simp
  | cons line' body ih =>
    obtain ⟨c₁, hread, hbuffer₁, hline, hwfp, -, hc₁, hps₁, -⟩ := skip_step hc hps
    obtain ⟨c', last, hskip, hlast, hbuffer', hwfp', hc', hrfp⟩ :=
      ih (some (leading line')) line' hc₁ hps₁ (fun p hp => hbody p (List.mem_cons_of_mem _ hp))
        hbuffer₁ rfl
    have hno := hbody line' List.mem_cons_self
    refine ⟨c', last, ?_, ?_, hbuffer', hwfp'.trans hwfp, hc', hrfp⟩
    · rw [skipSection_of_some hread, hbuffer₁, hline, hno]
      exact hskip
    · rw [hlast, List.getLast?_cons, Option.getD_some]

/-- `sp` points at the first character that is not blank. -/
theorem getElem?_leading (l : Text) : l[leading l]? = (skipleading l).head? := by
  unfold leading skipleading
  rw [List.head?_eq_getElem?]
  nth_rewrite 1 [← List.takeWhile_append_dropWhile (p := isBlank) (l := l)]
  rw [List.getElem?_append_right (Nat.le_refl _), Nat.sub_self]

/-- With the first character of the buffer gone, `sp` shows a section that begins behind blanks. -/
theorem stale_section (l : Text) :
    (l.set 0 NUL).getD (leading l) NUL = '[' ↔
      startsSection l = true ∧ leading l ≠ 0 := by
  have hnul : NUL ≠ '[' := by decide
  unfold startsSection
  rw [← getElem?_leading, List.getD_eq_getElem?_getD]
  by_cases h : leading l = 0
  · cases l with
    | nil => simp [h, hnul]
    | cons c l => simp [h, hnul]
  · rw [List.getElem?_set_ne (Ne.symm h)]
    cases l[leading l]? with
    | none => simp [hnul]
    | some c => simp [h]

/-! ## The new section -/

theorem putsection_eq (Section : Text) (pairs : List (Text × Text)) (c : Copy) :
    ∃ buffer, putsection Section pairs c =
      { c with LocalBuffer := buffer, wfp := c.wfp ++ putsectionText Section pairs } ∧
      buffer = (pairs.getLast?.map fun kv => writekey kv.1 kv.2).getD c.LocalBuffer := by
  unfold putsection
  cases hlast : pairs.getLast? with
  | none =>
    refine ⟨c.LocalBuffer, ?_, rfl⟩
    rw [List.getLast?_eq_none_iff.1 hlast]
    simp [putsectionText]
  | some last => exact ⟨_, rfl, rfl⟩

theorem putsection_wfp (Section : Text) (pairs : List (Text × Text)) (c : Copy) :
    (putsection Section pairs c).wfp = c.wfp ++ putsectionText Section pairs := by
  obtain ⟨buffer, h, -⟩ := putsection_eq Section pairs c
  rw [h]

theorem putsection_rfp (Section : Text) (pairs : List (Text × Text)) (c : Copy) :
    (putsection Section pairs c).rfp = c.rfp := by
  obtain ⟨buffer, h, -⟩ := putsection_eq Section pairs c
  rw [h]

theorem Counted.putsection {c : Copy} {cached : List Text} {ahead : Text}
    (hc : Counted c cached ahead) (Section : Text) (pairs : List (Text × Text)) :
    Counted (putsection Section pairs c) cached ahead := by
  obtain ⟨buffer, h, -⟩ := putsection_eq Section pairs c
  rw [h]
  exact ⟨hc.mark, hc.pieces, hc.size, hc.room, hc.nul⟩

/-- A first line has room. -/
theorem accumulate_first {c : Copy} (hzero : c.cachelen = 0)
    (hroom : (cstr c.LocalBuffer).length < INI_BUFFERSIZE) :
    accumulate c = some { c with cachelen :=
      (cacheAccum (cstr c.LocalBuffer) c.cachelen INI_BUFFERSIZE).getD c.cachelen } := by
  unfold accumulate cacheAccum
  rw [hzero, if_neg (by omega)]
  rfl

section
variable {Section header : Text} {pairs : List (Text × Text)} {c : Copy} {cached : List Text}
  {rest : Text} {fuel : Nat}

/-- Behind the flush the header is passed over. -/
theorem header_skipped (hc : Counted c cached (header ++ rest))
    (hps : pieces INI_BUFFERSIZE (header ++ rest) = header :: pieces INI_BUFFERSIZE rest) :
    ∃ flag c' c₁, cacheFlush c = some (flag, c') ∧ iniRead c' = some c₁ ∧
      c₁.LocalBuffer = header ∧ c₁.wfp = c.wfp ++ cached.flatten ∧
      Counted (iniTell c₁) [] (iniTell c₁).rfp ∧ pieces INI_BUFFERSIZE (iniTell c₁).rfp =
        pieces INI_BUFFERSIZE rest := by
  obtain ⟨c', hflush, -, hrfp, hwfp, hc'⟩ := cacheFlush_eq hc
  obtain ⟨c₁, hread, hbuffer, -, hwfp₁, -, hc₁, hps₁, -⟩ :=
    skip_step (hrfp.symm ▸ hc') (hrfp.symm ▸ hps)
  exact ⟨_, c', c₁, hflush, hread, hbuffer, hwfp₁.trans hwfp, hc₁, hps₁⟩

/-- **A section in front of another one is replaced.** -/
theorem replaceSection_inner {body post : List Text} {next : Text} (sp : Option Nat)
    (hc : Counted c cached (header ++ rest))
    (hps : pieces INI_BUFFERSIZE (header ++ rest) = header :: pieces INI_BUFFERSIZE rest)
    (hrest : pieces INI_BUFFERSIZE rest = body ++ next :: post)
    (hbody : ∀ p ∈ body, startsSection p = false) (hnext : startsSection next = true)
    (hfuel : post.length < fuel) :
    replaceSection Section pairs fuel sp c =
      some (c.wfp ++ cached.flatten ++ putsectionText Section pairs ++ (next :: post).flatten) := by
  obtain ⟨flag, c', c₁, hflush, hread, -, hwfp₁, hc₁, hps₁⟩ := header_skipped hc hps
  obtain ⟨c₂, hskip, hbuffer₂, hwfp₂, hc₂, hps₂⟩ :=
    skipSection_inner sp hc₁ (hps₁.trans hrest) hbody hnext
  obtain ⟨c₃, hflush₃, -, hrfp₃, hwfp₃, hc₃⟩ := cacheFlush_eq hc₂
  -- the next header is ahead again, it is read behind the new section and counted
  have hrfp : (putsection Section pairs c₃).rfp = next ++ c₂.rfp :=
    (putsection_rfp Section pairs c₃).trans hrfp₃
  have hput := hrfp.symm ▸ hc₃.putsection Section pairs
  obtain ⟨c₄, c₅, cached₅, hread₄, hbuffer₄, hnext₄, -, hc₄, -, hacc, hc₅, hps₅, hwfp₅, -⟩ :=
    copy_step hput (hrfp.symm ▸ hps₂)
  obtain ⟨-, -, -, -, hroom⟩ := iniRead_cons (hrfp.symm ▸ hps₂)
  obtain ⟨c₆, cached₆, hcopy, hc₆, hwfp₆⟩ := copyRest_eq hc₅ hps₅ hfuel
  obtain ⟨c₇, hflush₇, -, -, hwfp₇, -⟩ := cacheFlush_eq hc₆
  have hflag : c₂.LocalBuffer.getD (leading next) NUL = '[' := by
    rw [hbuffer₂, List.getD_eq_getElem?_getD, getElem?_leading]
    unfold startsSection at hnext
    rw [of_decide_eq_true hnext, Option.getD_some]
  have hcounted : { c₄ with cachelen :=
      (cacheAccum (cstr c₄.LocalBuffer) c₄.cachelen INI_BUFFERSIZE).getD c₄.cachelen } = c₅ := by
    have hfirst := accumulate_first hc₄.size (by rw [hbuffer₄, hnext₄]; exact hroom)
    exact Option.some.inj (hfirst.symm.trans hacc)
  unfold replaceSection
  rw [hflush]
  dsimp only
  rw [hread, Option.getD_some, hskip]
  dsimp only
  rw [hflush₃]
  dsimp only
  rw [hread₄, Option.getD_some, Option.any_some, hflag, if_pos (decide_eq_true rfl), hcounted,
    hcopy]
  dsimp only
  rw [hflush₇]
  dsimp only
  rw [hwfp₇, hwfp₆, hwfp₅, putsection_wfp, hwfp₃, hwfp₂]
  show some ((c₁.wfp ++ [] ++ _ ++ [] ++ next) ++ post.flatten) = _
  simp [hwfp₁]

/-- The state in which the last section has been passed over and the new one written. -/
theorem last_skipped {body : List Text}
    (hc : Counted c cached (header ++ rest))
    (hps : pieces INI_BUFFERSIZE (header ++ rest) = header :: pieces INI_BUFFERSIZE rest)
    (hbody : ∀ p ∈ body, startsSection p = false) (hrest : pieces INI_BUFFERSIZE rest = body) :
    ∃ flag c' c₁ c₂ flag' c₃ last, cacheFlush c = some (flag, c') ∧ iniRead c' = some c₁ ∧
      skipSection (some (leading header)) (iniTell c₁) = some (some (leading last), c₂) ∧
      last = body.getLast?.getD header ∧ c₂.LocalBuffer = last.set 0 NUL ∧
      cacheFlush c₂ = some (flag', c₃) ∧ c₃.LocalBuffer = last.set 0 NUL ∧
      c₃.wfp = c.wfp ++ cached.flatten ∧ Counted c₃ [] [] ∧ c₃.rfp = [] := by
  obtain ⟨flag, c', c₁, hflush, hread, hbuffer, hwfp₁, hc₁, hps₁⟩ := header_skipped hc hps
  obtain ⟨c₂, last, hskip, hlast, hbuffer₂, hwfp₂, hc₂, hrfp₂⟩ :=
    skipSection_last (some (leading header)) header hc₁ (hps₁.trans hrest) hbody hbuffer rfl
  obtain ⟨c₃, hflush₃, hbuffer₃, hrfp₃, hwfp₃, hc₃⟩ := cacheFlush_eq hc₂
  have hzero : c₂.cachelen = 0 := hc₂.size
  rw [hrfp₂] at hrfp₃ hc₃
  refine ⟨flag, c', c₁, c₂, _, c₃, last, hflush, hread, hskip, hlast, hbuffer₂, hflush₃, ?_, ?_,
    hc₃, hrfp₃⟩
  · rw [hbuffer₃, if_pos hzero, hbuffer₂]
    cases last <;> rfl
  · rw [hwfp₃, hwfp₂]
    show c₁.wfp ++ [] = _
    rw [hwfp₁, List.append_nil]

/-- At the end of the file nothing is counted, neither for an empty buffer nor without a section. -/
theorem forgotten {flag : Prop} [Decidable flag] {p : Copy} (hp : Counted p [] [])
    (hrfp : p.rfp = []) (hempty : flag → cstr p.LocalBuffer = []) :
    ∃ c', (if decide flag = true then { p with cachelen :=
        (cacheAccum (cstr p.LocalBuffer) p.cachelen INI_BUFFERSIZE).getD p.cachelen }
      else iniTell p) = c' ∧ Counted c' [] c'.rfp ∧ c'.rfp = [] ∧ c'.wfp = p.wfp := by
  have hzero : p.cachelen = 0 := hp.size
  refine ⟨_, rfl, ?_⟩
  split
  · rename_i hflag
    rw [hempty (of_decide_eq_true hflag), hzero]
    exact ⟨hrfp.symm ▸ ⟨hp.mark, hp.pieces, rfl, Nat.zero_lt_succ _, hp.nul⟩, hrfp, rfl⟩
  · refine ⟨⟨rfl, rfl, hp.size, hp.room, ?_⟩, hrfp, rfl⟩
    show NUL ∉ p.rfp
    rw [hrfp]
    simp

/-- The last section begins behind blanks, has no lines, and there is a new one to write. -/
def Stale (header : Text) (body : List Text) (pairs : List (Text × Text)) : Prop :=
  body = [] ∧ leading header ≠ 0 ∧ pairs ≠ []

/-- **The last section is replaced**, unless `sp` shows the header that is gone. -/
theorem replaceSection_last {body : List Text}
    (hc : Counted c cached (header ++ rest))
    (hps : pieces INI_BUFFERSIZE (header ++ rest) = header :: pieces INI_BUFFERSIZE rest)
    (hheader : startsSection header = true) (hbody : ∀ p ∈ body, startsSection p = false)
    (hrest : pieces INI_BUFFERSIZE rest = body) (hstale : ¬Stale header body pairs)
    (hfuel : 0 < fuel) :
    replaceSection Section pairs fuel (some (leading header)) c =
      some (c.wfp ++ cached.flatten ++ putsectionText Section pairs) := by
  obtain ⟨flag, c', c₁, c₂, flag', c₃, last, hflush, hread, hskip, hlast, hbuffer₂, hflush₃,
    hbuffer₃, hwfp₃, hc₃, hrfp₃⟩ := last_skipped hc hps hbody hrest
  obtain ⟨buffer, hput, hbuffer⟩ := putsection_eq Section pairs c₃
  have hc₄ := hc₃.putsection Section pairs
  have hrfp₄ := (putsection_rfp Section pairs c₃).trans hrfp₃
  have hwfp₄ := putsection_wfp Section pairs c₃
  -- whichever way the flag is, nothing is counted
  have hempty : c₂.LocalBuffer.getD (leading last) NUL = '[' →
      cstr (putsection Section pairs c₃).LocalBuffer = [] := by
    intro hflag
    rw [hbuffer₂, stale_section] at hflag
    -- the last line begins a section, so it is the header and there is nothing to write
    have hnil : body = [] := by
      by_contra hne
      rw [List.getLast?_eq_some_getLast hne, Option.getD_some] at hlast
      have hno := hbody last (hlast ▸ List.getLast_mem hne)
      exact absurd (hflag.1.symm.trans hno) nofun
    subst hnil
    obtain rfl : last = header := hlast
    have hpairs : pairs = [] := by
      by_contra hne
      exact hstale ⟨rfl, hflag.2, hne⟩
    subst hpairs
    rw [hput, hbuffer]
    show cstr c₃.LocalBuffer = []
    rw [hbuffer₃]
    cases last with
    | nil => rfl
    | cons x last => simp [cstr]
  obtain ⟨c₅, hc₅eq, hc₅, hrfp₅, hwfp₅⟩ := forgotten hc₄ hrfp₄ hempty
  have hps₅ : pieces INI_BUFFERSIZE c₅.rfp = [] := by rw [hrfp₅, pieces_nil]
  obtain ⟨c₆, cached₆, hcopy, hc₆, hwfp₆⟩ := copyRest_eq hc₅ hps₅ hfuel
  obtain ⟨c₇, hflush₇, -, -, hwfp₇, -⟩ := cacheFlush_eq hc₆
  have hnone : iniRead (putsection Section pairs c₃) = none :=
    iniRead_none (by rw [hrfp₄, pieces_nil])
  unfold replaceSection
  rw [hflush]
  dsimp only
  rw [hread, Option.getD_some, hskip]
  dsimp only
  rw [hflush₃]
  dsimp only
  rw [hnone, Option.getD_none, Option.any_some, hc₅eq, hcopy]
  dsimp only
  rw [hflush₇]
  dsimp only
  rw [hwfp₇, hwfp₆, hwfp₅, hwfp₄, hwfp₃]
  simp

/-- **Where `sp` shows the header that is gone, the function does not return**: the line of the last
key is counted, and `cache_flush` looks for it behind the end of the file. -/
theorem replaceSection_stale (hc : Counted c cached (header ++ rest))
    (hps : pieces INI_BUFFERSIZE (header ++ rest) = header :: pieces INI_BUFFERSIZE rest)
    (hheader : startsSection header = true) (hrest : pieces INI_BUFFERSIZE rest = [])
    (hstale : Stale header [] pairs) (hkeys : ∀ kv ∈ pairs, NUL ∉ kv.1) :
    replaceSection Section pairs fuel (some (leading header)) c = none := by
  obtain ⟨flag, c', c₁, c₂, flag', c₃, last, hflush, hread, hskip, hlast, hbuffer₂, hflush₃,
    -, -, hc₃, hrfp₃⟩ := last_skipped hc hps (by simp) hrest
  obtain rfl : last = header := hlast
  obtain ⟨-, hblank, hne⟩ := hstale
  obtain ⟨buffer, hput, hbuffer⟩ := putsection_eq Section pairs c₃
  have hc₄ := hc₃.putsection Section pairs
  have hrfp₄ := (putsection_rfp Section pairs c₃).trans hrfp₃
  have hzero : (putsection Section pairs c₃).cachelen = 0 := hc₄.size
  have hmark : (putsection Section pairs c₃).mark = [] := hc₄.mark
  have hflag : c₂.LocalBuffer.getD (leading last) NUL = '[' := by
    rw [hbuffer₂, stale_section]
    exact ⟨hheader, hblank⟩
  have hnone : iniRead (putsection Section pairs c₃) = none :=
    iniRead_none (by rw [hrfp₄, pieces_nil])
  -- the buffer holds the line of the last key
  obtain ⟨kv, hkv, hbuf⟩ : ∃ kv ∈ pairs,
      (putsection Section pairs c₃).LocalBuffer = writekey kv.1 kv.2 := by
    refine ⟨pairs.getLast hne, List.getLast_mem hne, ?_⟩
    rw [hput, hbuffer, List.getLast?_eq_some_getLast hne]
    rfl
  have hshort := length_writekey_lt kv.1 kv.2
  have hpos := List.length_pos_iff.2 (cstr_writekey_ne_nil (v := kv.2) (hkeys kv hkv))
  have hle : (cstr (writekey kv.1 kv.2)).length ≤ (writekey kv.1 kv.2).length :=
    (List.takeWhile_prefix _).length_le
  unfold replaceSection
  rw [hflush]
  dsimp only
  rw [hread, Option.getD_some, hskip]
  dsimp only
  rw [hflush₃]
  dsimp only
  rw [hnone, Option.getD_none, Option.any_some, hflag, if_pos (decide_eq_true rfl), hbuf, hzero]
  unfold cacheAccum
  rw [if_neg (by omega), Option.getD_some]
  cases fuel with
  | zero => rfl
  | succ fuel =>
    have hread' : ∀ buffer mark n wfp, iniRead ⟨buffer, (putsection Section pairs c₃).rfp, mark, n,
        wfp⟩ = none := by
      intro buffer mark n wfp
      apply iniRead_none
      show pieces INI_BUFFERSIZE (putsection Section pairs c₃).rfp = []
      rw [hrfp₄, pieces_nil]
    rw [copyRest, hread']
    dsimp only
    unfold cacheFlush
    dsimp only
    rw [hmark, refill, if_neg (by rw [List.length_nil]; omega)]
    split
    · rfl
    · rename_i h
      split at h
      · exact absurd h.symm (Option.some_ne_none _)
      · rename_i h'
        rw [fgets_nil] at h'
        exact absurd h'.symm (Option.some_ne_none _)

end

/-! ## The whole file -/

theorem isSection_starts {Section line : Text} (h : isSection Section line = true) :
    startsSection line = true := by
  unfold isSection at h
  dsimp only at h
  split at h
  · exact absurd h nofun
  · rw [Bool.and_eq_true, Bool.and_eq_true] at h
    exact h.1.1

/-- What becomes of a file with the pieces `ps`; `none` when the function does not return. -/
inductive Rewritten (Section : Text) (pairs : List (Text × Text)) (ps : List Text) :
    Option Text → Prop
  /-- The section is not there: it is added behind the last line, which is ended first. -/
  | added (newline : Text) : (∀ p ∈ ps, isSection Section p = false) →
      (newline = [] ∧ ps.flatten.getLast? = some '\n' ∨ newline = INI_LINETERM) →
      Rewritten Section pairs ps
        (some (ps.flatten ++ newline ++ putsectionText Section pairs))
  /-- The section is replaced, up to the next line that begins one. -/
  | replaced (pre : List Text) (header : Text) (body post : List Text) :
      ps = pre ++ header :: (body ++ post) → (∀ p ∈ pre, isSection Section p = false) →
      isSection Section header = true → (∀ p ∈ body, startsSection p = false) →
      (∀ p, post.head? = some p → startsSection p = true) →
      (post = [] → ¬Stale header body pairs) →
      Rewritten Section pairs ps
        (some (pre.flatten ++ putsectionText Section pairs ++ post.flatten))
  /-- The header is the last line of the file and stands behind blanks. -/
  | stuck (pre : List Text) (header : Text) : ps = pre ++ [header] →
      (∀ p ∈ pre, isSection Section p = false) → isSection Section header = true →
      Stale header [] pairs → Rewritten Section pairs ps none

/-- The state in which the copy begins. -/
theorem counted_start (tempname : Text) {file : Text} (hnul : NUL ∉ file) :
    Counted ⟨tempname, file, file, 0, []⟩ [] file :=
  ⟨rfl, rfl, rfl, Nat.zero_lt_succ _, hnul⟩

section
variable {Section file : Text} {pairs : List (Text × Text)} (tempname : Text)
  (hSection : Section ≠ []) (hnul : NUL ∉ file)
include hSection hnul

/-- A section that is not in the file is added. -/
theorem rewrite_absent (hnone : ∀ p ∈ pieces INI_BUFFERSIZE file, isSection Section p = false) :
    ∃ newline, (newline = [] ∧ file.getLast? = some '\n' ∨ newline = INI_LINETERM) ∧
      ∀ fuel, (pieces INI_BUFFERSIZE file).length < fuel →
        rewrite Section pairs fuel tempname file =
          some (file ++ newline ++ putsectionText Section pairs) := by
  obtain ⟨c, cached, hfind, hc, hwfp⟩ :=
    findSection_absent (counted_start tempname hnul) rfl hnone (Nat.lt_succ_self _)
  obtain ⟨c', hflush, -, -, hwfp', -⟩ := cacheFlush_eq hc
  rw [flatten_pieces (by decide)] at hwfp
  have hfile : c'.wfp = file := hwfp'.trans hwfp
  -- the flag is about the end of the file, when there is one
  generalize hflag : (decide (INI_LINETERM.length < cached.flatten.length) &&
    INI_LINETERM.isSuffixOf cached.flatten) = flag at hflush
  refine ⟨if flag then [] else INI_LINETERM, ?_, ?_⟩
  · cases flag with
    | false => exact .inr rfl
    | true =>
      left
      refine ⟨rfl, ?_⟩
      rw [Bool.and_eq_true, List.isSuffixOf_iff_suffix] at hflag
      obtain ⟨front, hfront⟩ := hflag.2
      rw [← hfile, hwfp', ← hfront, ← List.append_assoc]
      exact List.getLast?_concat
  · intro fuel hfuel
    unfold rewrite
    dsimp only
    rw [if_neg hSection, findSection_mono hfuel hfind]
    dsimp only
    rw [hflush]
    dsimp only
    rw [hfile]

variable {pre : List Text} {header : Text}
  (hpre : ∀ p ∈ pre, isSection Section p = false) (hheader : isSection Section header = true)
include hpre hheader

/-- A section that is in the file is replaced. -/
theorem rewrite_present {body post : List Text}
    (hps : pieces INI_BUFFERSIZE file = pre ++ header :: (body ++ post))
    (hbody : ∀ p ∈ body, startsSection p = false)
    (hpost : ∀ p, post.head? = some p → startsSection p = true)
    (hstale : post = [] → ¬Stale header body pairs) {fuel : Nat}
    (hfuel : (pieces INI_BUFFERSIZE file).length < fuel) :
    rewrite Section pairs fuel tempname file =
      some (pre.flatten ++ putsectionText Section pairs ++ post.flatten) := by
  rw [hps] at hfuel
  simp only [List.length_append, List.length_cons] at hfuel
  have hshort : pre.length < fuel := by omega
  obtain ⟨c, cached, rest, hfind, hbuffer, hline, hc, hahead, hwfp⟩ :=
    findSection_found (counted_start tempname hnul) hps hpre hheader hshort
  obtain ⟨rfp, -, hrfp, hrest, -⟩ := iniRead_cons (c := ⟨[], header ++ rest, [], 0, []⟩) hahead
  obtain rfl := List.append_cancel_left hrfp
  rw [← hrest] at hahead
  unfold rewrite
  dsimp only
  rw [if_neg hSection, hfind]
  dsimp only
  rw [hbuffer, hline]
  cases post with
  | nil =>
    rw [List.append_nil] at hrest
    rw [replaceSection_last hc hahead (isSection_starts hheader) hbody hrest (hstale rfl) (by omega),
      hwfp]
    simp
  | cons next post =>
    rw [List.length_cons] at hfuel
    rw [replaceSection_inner _ hc hahead hrest hbody (hpost next rfl) (by omega), hwfp]
    simp

/-- No number of rounds is enough where `sp` shows the header that is gone. -/
theorem rewrite_stuck (hps : pieces INI_BUFFERSIZE file = pre ++ [header])
    (hstale : Stale header [] pairs) (hkeys : ∀ kv ∈ pairs, NUL ∉ kv.1) (fuel : Nat) :
    rewrite Section pairs fuel tempname file = none := by
  obtain ⟨c, cached, rest, hfind, hbuffer, hline, hc, hahead, -⟩ :=
    findSection_found (counted_start tempname hnul) hps hpre hheader (Nat.lt_succ_self _)
  obtain ⟨rfp, -, hrfp, hrest, -⟩ := iniRead_cons (c := ⟨[], header ++ rest, [], 0, []⟩) hahead
  obtain rfl := List.append_cancel_left hrfp
  rw [← hrest] at hahead
  unfold rewrite
  dsimp only
  rw [if_neg hSection]
  cases hfuel : findSection Section fuel ⟨tempname, file, file, 0, []⟩ with
  | none => rfl
  | some result =>
    -- with so many rounds and with enough of them the same is found
    have hmax := findSection_mono (Nat.le_max_left fuel (pre.length + 1)) hfuel
    rw [findSection_mono (Nat.le_max_right fuel (pre.length + 1)) hfind] at hmax
    obtain rfl := Option.some.inj hmax
    dsimp only
    rw [hbuffer, hline]
    exact replaceSection_stale hc hahead (isSection_starts hheader) hrest hstale hkeys

end

section
variable {Section file : Text} {pairs : List (Text × Text)} (tempname : Text)
  (hSection : Section ≠ []) (hnul : NUL ∉ file) (hkeys : ∀ kv ∈ pairs, NUL ∉ kv.1)
include hSection hnul hkeys

/-- **What `ini_putsection` makes of a file**: outside of the section it is copied as it is, and the
new section stands in the place of the old one, or behind the end. -/
theorem rewrite_spec : ∃ result, Rewritten Section pairs (pieces INI_BUFFERSIZE file) result ∧
    ∀ fuel, (pieces INI_BUFFERSIZE file).length < fuel →
      rewrite Section pairs fuel tempname file = result := by
  have hflat := flatten_pieces (show 2 ≤ INI_BUFFERSIZE by decide) file
  cases hfind : (pieces INI_BUFFERSIZE file).find? (isSection Section) with
  | none =>
    have hnone : ∀ p ∈ pieces INI_BUFFERSIZE file, isSection Section p = false := by
      intro p hp
      simpa using List.find?_eq_none.1 hfind p hp
    obtain ⟨newline, hnewline, hrewrite⟩ := rewrite_absent tempname hSection hnul hnone
    refine ⟨_, .added newline hnone (by rwa [hflat]), ?_⟩
    rw [hflat]
    exact hrewrite
  | some header =>
    obtain ⟨hheader, pre, tail, hps, hpre⟩ := List.find?_eq_some_iff_append.1 hfind
    have hpre' : ∀ p ∈ pre, isSection Section p = false := by
      intro p hp
      simpa using hpre p hp
    -- the lines of the section, and what is behind them
    have htail := List.takeWhile_append_dropWhile (p := fun p => !startsSection p) (l := tail)
    generalize hbody : tail.takeWhile (fun p => !startsSection p) = body at htail
    generalize hpost : tail.dropWhile (fun p => !startsSection p) = post at htail
    have hbody' : ∀ p ∈ body, startsSection p = false := by
      intro p hp
      rw [← hbody] at hp
      simpa using List.mem_takeWhile_imp hp
    have hpost' : ∀ p, post.head? = some p → startsSection p = true := by
      intro p hp
      have hnot := List.head?_dropWhile_not (fun p => !startsSection p) tail
      rw [hpost, hp] at hnot
      simpa using hnot
    rw [← htail] at hps
    by_cases hstale : post = [] ∧ Stale header body pairs
    · obtain ⟨rfl, hbodynil, hblank, hne⟩ := hstale
      subst hbodynil
      refine ⟨none, .stuck pre header hps hpre' hheader ⟨rfl, hblank, hne⟩, ?_⟩
      exact fun fuel _ => rewrite_stuck tempname hSection hnul hpre' hheader hps ⟨rfl, hblank, hne⟩
        hkeys fuel
    · have hnot : post = [] → ¬Stale header body pairs := fun h h' => hstale ⟨h, h'⟩
      refine ⟨_, .replaced pre header body post hps hpre' hheader hbody' hpost' hnot, ?_⟩
      exact fun fuel hfuel =>
        rewrite_present tempname hSection hnul hpre' hheader hps hbody' hpost' hnot hfuel

/-- **When `ini_putsection` returns**: unless its section is the last line of the file and stands
behind blanks, and there is something to write.  Then `cache_flush` looks for the line of
the last key for ever. -/
theorem rewrite_returns_iff :
    (∃ fuel text, rewrite Section pairs fuel tempname file = some text) ↔
      ∀ pre header, pieces INI_BUFFERSIZE file = pre ++ [header] →
        (∀ p ∈ pre, isSection Section p = false) → isSection Section header = true →
          leading header = 0 ∨ pairs = [] := by
  obtain ⟨result, hresult, hrewrite⟩ := rewrite_spec tempname hSection hnul hkeys
  constructor
  · rintro ⟨fuel, text, hsome⟩ pre header hps hpre hheader
    by_contra hnot
    rw [not_or] at hnot
    have hnone := rewrite_stuck tempname hSection hnul hpre hheader hps
      ⟨rfl, hnot.1, hnot.2⟩ hkeys fuel
    exact absurd (hnone.symm.trans hsome) nofun
  · intro h
    have hrun := hrewrite _ (Nat.lt_succ_self _)
    cases hresult with
    | added newline => exact ⟨_, _, hrun⟩
    | replaced pre header body post => exact ⟨_, _, hrun⟩
    | stuck pre header hps hpre hheader hstale =>
      rcases h pre header hps hpre hheader with hzero | hnil
      · exact absurd hzero hstale.2.1
      · exact absurd hnil hstale.2.2

/-- However many rounds it took. -/
theorem rewritten_of_rewrite {fuel : Nat} {text : Text}
    (h : rewrite Section pairs fuel tempname file = some text) :
    Rewritten Section pairs (pieces INI_BUFFERSIZE file) (some text) := by
  obtain ⟨result, hresult, hrewrite⟩ := rewrite_spec tempname hSection hnul hkeys
  have hmore := rewrite_mono (Nat.le_max_left fuel ((pieces INI_BUFFERSIZE file).length + 1)) h
  have hspec := hrewrite _ (Nat.lt_of_lt_of_le (Nat.lt_succ_self _)
    (Nat.le_max_right fuel ((pieces INI_BUFFERSIZE file).length + 1)))
  rwa [← hspec.symm.trans hmore]

/-- **No character outside of the section changes**, of whatever length the lines are: the new text
has the old one around the new section, in the place of the first section of that name up to the
next header.  A section that is not there comes last. -/
theorem rewrite_frame {fuel : Nat} {text : Text}
    (h : rewrite Section pairs fuel tempname file = some text) :
    ∃ before old after, pieces INI_BUFFERSIZE file = before ++ (old ++ after) ∧
      (∀ p ∈ before, isSection Section p = false) ∧
      (∀ p, old.head? = some p → isSection Section p = true) ∧
      (∀ p ∈ old.tail, startsSection p = false) ∧
      (∀ p, after.head? = some p → startsSection p = true) ∧
      (old = [] → after = []) ∧
      ∃ newline, (newline = [] ∨ old = [] ∧ newline = INI_LINETERM) ∧
        text = before.flatten ++ newline ++ putsectionText Section pairs ++ after.flatten := by
  have hrewritten := rewritten_of_rewrite tempname hSection hnul hkeys h
  cases hrewritten with
  | added newline hnone hnewline =>
    refine ⟨pieces INI_BUFFERSIZE file, [], [], by simp, hnone, by simp, by simp, by simp, fun _ => rfl,
      newline, ?_, by simp⟩
    exact hnewline.imp And.left fun h => ⟨rfl, h⟩
  | replaced before header body after hps hbefore hheader hbody hafter =>
    refine ⟨before, header :: body, after, hps, hbefore, ?_, hbody, hafter, by simp, [], .inl rfl,
      by simp⟩
    intro p hp
    obtain rfl := Option.some.inj hp
    exact hheader

end

/-- A comment, a section with one key, and one without. -/
def someFile : Text := "; kept\n[a]\nx=1\n [b]".toList

theorem pieces_someFile : pieces INI_BUFFERSIZE someFile =
    ["; kept\n".toList, "[a]\n".toList, "x=1\n".toList, " [b]".toList] := by
  rw [pieces_eq_lines someFile (by decide)]
  rfl

/-- The first section of the file is replaced; for the last one the function does not return. -/
theorem rewrite_returns_iff_someFile :
    (∃ fuel text, rewrite ['a'] [(['x'], ['3'])] fuel [] someFile = some text) ∧
      ¬∃ fuel text, rewrite ['b'] [(['x'], ['3'])] fuel [] someFile = some text := by
  have hlast : ∀ {pre : List Text} {header : Text},
      pieces INI_BUFFERSIZE someFile = pre ++ [header] → header = " [b]".toList := by
    intro pre header h
    have hgetLast := congrArg List.getLast? h
    rw [List.getLast?_concat, pieces_someFile] at hgetLast
    exact (Option.some.inj hgetLast).symm
  have hkeys : ∀ kv ∈ [((['x'] : Text), (['3'] : Text))], NUL ∉ kv.1 := by decide
  constructor
  · rw [rewrite_returns_iff [] (by decide) (by decide) hkeys]
    intro pre header hps _ hheader
    rw [hlast hps] at hheader
    exact absurd hheader (by decide)
  · rw [rewrite_returns_iff [] (by decide) (by decide) hkeys]
    intro h
    have hpre : ∀ p ∈ ["; kept\n".toList, "[a]\n".toList, "x=1\n".toList],
        isSection ['b'] p = false := by decide
    exact absurd (h _ _ pieces_someFile hpre (by decide)) (by decide)

theorem rewrite_frame_someFile : ∃ text before old after newline,
    rewrite ['a'] [(['x'], ['3'])] 5 [] someFile = some text ∧
      pieces INI_BUFFERSIZE someFile = before ++ (old ++ after) ∧
      text = before.flatten ++ newline ++ putsectionText ['a'] [(['x'], ['3'])] ++
        after.flatten := by
  have hkeys : ∀ kv ∈ [((['x'] : Text), (['3'] : Text))], NUL ∉ kv.1 := by decide
  have hpre : ∀ p ∈ ["; kept\n".toList], isSection ['a'] p = false := by decide
  have hbody : ∀ p ∈ ["x=1\n".toList], startsSection p = false := by decide
  have hpost : ∀ p, [" [b]".toList].head? = some p → startsSection p = true := by
    intro p hp
    obtain rfl := Option.some.inj hp
    decide
  have hps : pieces INI_BUFFERSIZE someFile = ["; kept\n".toList] ++ "[a]\n".toList ::
      (["x=1\n".toList] ++ [" [b]".toList]) := pieces_someFile
  have hfuel : (pieces INI_BUFFERSIZE someFile).length < 5 := by
    rw [pieces_someFile]
    decide
  have hrun : rewrite ['a'] [(['x'], ['3'])] 5 [] someFile = some _ :=
    rewrite_present [] (by decide) (by decide) hpre (by decide) hps hbody hpost (by simp) hfuel
  obtain ⟨before, old, after, hpieces, -, -, -, -, -, newline, -, htext⟩ :=
    rewrite_frame [] (by decide) (by decide) hkeys hrun
  exact ⟨_, before, old, after, newline, hrun, hpieces, htext⟩

end SwitchOc.MinIni
