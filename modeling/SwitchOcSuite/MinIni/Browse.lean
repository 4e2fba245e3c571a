import SwitchOcSuite.MinIni.Lines
import SwitchOcSuite.SysClk.MinIni

/-!
# Browsing an INI file (`ini_browse` of `lib/minIni/dev/minIni.c`)

The name of the section stands in front of the line in the one buffer, so that a line is
read with the room that the name leaves.

    browse_eq_foldl       a callback that goes on sees `entries`, in order
    writekey_roundTrip    a line that was written gives its key and its value
    entries_eq_iniBrowse  of a file whose lines fit, these are the pairs of its sections
-/

namespace SwitchOc.MinIni

open LineFile
open SysClk (Text IniSection IniFile)

section
variable {σ : Type} (Callback : Text → Text → Text → σ → Bool × σ)

/-- The loop of `ini_browse`, with `Section` in the buffer and `fp` ahead in the file. -/
def browse (Section fp : Text) (UserData : σ) : σ :=
  match _h : fgets (INI_BUFFERSIZE - (Section.length + 1)) fp with
  | none => UserData
  | some (LocalBuffer, fp) =>
    match parseLine (Section.length + 1) (cstr LocalBuffer) with
    | .ignored => browse Section fp UserData
    | .header name => browse name fp UserData
    | .setting key value =>
      match Callback Section key value UserData with
      | (false, UserData) => UserData
      | (true, UserData) => browse Section fp UserData
termination_by fp.length
decreasing_by all_goals exact fgets_length_lt _h

/-- `ini_browse` on a file, `none` if it cannot be opened. -/
def iniBrowse (file : Option Text) (UserData : σ) : Bool × σ :=
  match file with
  | none => (false, UserData)
  | some fp => (true, browse Callback [] fp UserData)

end

/-- What is reported from here on: section, key and value. -/
def entries (Section fp : Text) : List (Text × Text × Text) :=
  match _h : fgets (INI_BUFFERSIZE - (Section.length + 1)) fp with
  | none => []
  | some (LocalBuffer, fp) =>
    match parseLine (Section.length + 1) (cstr LocalBuffer) with
    | .ignored => entries Section fp
    | .header name => entries name fp
    | .setting key value => (Section, key, value) :: entries Section fp
termination_by fp.length
decreasing_by all_goals exact fgets_length_lt _h

section
variable {σ : Type} {Callback : Text → Text → Text → σ → Bool × σ}

theorem browse_of_none {Section fp : Text}
    (h : fgets (INI_BUFFERSIZE - (Section.length + 1)) fp = none) (UserData : σ) :
    browse Callback Section fp UserData = UserData := by
  rw [browse]
  split
  · rfl
  · rename_i h'
    exact absurd (h.symm.trans h') nofun

theorem entries_of_none {Section fp : Text}
    (h : fgets (INI_BUFFERSIZE - (Section.length + 1)) fp = none) : entries Section fp = [] := by
  rw [entries]
  split
  · rfl
  · rename_i h'
    exact absurd (h.symm.trans h') nofun

theorem browse_of_some {Section fp buffer rest : Text}
    (h : fgets (INI_BUFFERSIZE - (Section.length + 1)) fp = some (buffer, rest)) (UserData : σ) :
    browse Callback Section fp UserData =
      match parseLine (Section.length + 1) (cstr buffer) with
      | .ignored => browse Callback Section rest UserData
      | .header name => browse Callback name rest UserData
      | .setting key value =>
        match Callback Section key value UserData with
        | (false, UserData) => UserData
        | (true, UserData) => browse Callback Section rest UserData := by
  rw [browse]
  split
  · rename_i h'
    exact absurd (h.symm.trans h') nofun
  · rename_i h'
    obtain ⟨rfl, rfl⟩ := Prod.mk.inj (Option.some.inj (h.symm.trans h'))
    rfl

theorem entries_of_some {Section fp buffer rest : Text}
    (h : fgets (INI_BUFFERSIZE - (Section.length + 1)) fp = some (buffer, rest)) :
    entries Section fp =
      match parseLine (Section.length + 1) (cstr buffer) with
      | .ignored => entries Section rest
      | .header name => entries name rest
      | .setting key value => (Section, key, value) :: entries Section rest := by
  rw [entries]
  split
  · rename_i h'
    exact absurd (h.symm.trans h') nofun
  · rename_i h'
    obtain ⟨rfl, rfl⟩ := Prod.mk.inj (Option.some.inj (h.symm.trans h'))
    rfl

/-- **A callback that always goes on sees every entry, in order.** -/
theorem browse_eq_foldl (hgo : ∀ s k v u, (Callback s k v u).1 = true) (Section fp : Text)
    (UserData : σ) :
    browse Callback Section fp UserData =
      (entries Section fp).foldl (fun u e => (Callback e.1 e.2.1 e.2.2 u).2) UserData := by
  cases hread : fgets (INI_BUFFERSIZE - (Section.length + 1)) fp with
  | none => rw [browse_of_none hread, entries_of_none hread, List.foldl_nil]
  | some read =>
    obtain ⟨buffer, rest⟩ := read
    have hlt := fgets_length_lt hread
    rw [browse_of_some hread, entries_of_some hread]
    cases parseLine (Section.length + 1) (cstr buffer) with
    | ignored => exact browse_eq_foldl hgo Section rest UserData
    | header name => exact browse_eq_foldl hgo name rest UserData
    | setting key value =>
      have hstep := hgo Section key value UserData
      dsimp only
      rw [List.foldl_cons]
      generalize hcall : Callback Section key value UserData = result at hstep
      obtain ⟨go, u⟩ := result
      obtain rfl : go = true := hstep
      simpa only [hcall] using browse_eq_foldl hgo Section rest u
termination_by fp.length

end

/-! ## A line that was written -/

/-- **What is written is read back**: the key of a line, and its value exactly if it is quoted or
has no blanks around it. -/
theorem writekey_roundTrip (name rest : Text) {k v : Text} (hk : IsKey k) (hnewline : '\n' ∉ v)
    (hnul : CString.NUL ∉ v) (h : name.length + 1 + (keyLine k v).length < INI_BUFFERSIZE) :
    ∃ v', entries name (writekey k v ++ rest) = (name, k, v') :: entries name rest ∧
      (v' = v ↔ checkEnquote v = .enquote ∨
        ∀ c, v.head? = some c ∨ v.getLast? = some c → isBlank c = false) := by
  have hlines : lines (keyLine k v ++ rest) = keyLine k v :: lines rest := by
    rw [keyLine_eq, List.append_assoc, List.singleton_append,
      lines_line (newline_not_mem hk hnewline)]
  obtain ⟨rest', hread, -, hrest⟩ := fgets_of_lines hlines (show
    (keyLine k v).length < INI_BUFFERSIZE - (name.length + 1) by omega)
  obtain rfl : rest = rest' := List.append_cancel_left hrest
  refine ⟨readValue v, ?_, readValue_eq_self⟩
  rw [writekey_eq (by omega), entries_of_some hread, cstr_of_not_mem (nul_not_mem_keyLine hk hnul),
    parseLine_keyLine hk h]

/-- A value with a comment sign and blanks around it is kept, one with blanks alone is not. -/
theorem writekey_roundTrip_blanks :
    entries [] (writekey ['k'] " a;".toList) = [([], ['k'], " a;".toList)] ∧
      ¬entries [] (writekey ['k'] " a".toList) = [([], ['k'], " a".toList)] := by
  have hk : IsKey ['k'] := ⟨by decide, by decide, by decide, by simp; decide, by simp; decide⟩
  have hend : entries [] [] = [] := entries_of_none (fgets_nil _)
  obtain ⟨v, hquoted, hsame⟩ :=
    writekey_roundTrip [] [] hk (v := " a;".toList) (by decide) (by decide) (by decide)
  obtain ⟨w, hblank, hother⟩ :=
    writekey_roundTrip [] [] hk (v := " a".toList) (by decide) (by decide) (by decide)
  rw [List.append_nil, hend] at hquoted hblank
  constructor
  · rw [hquoted, hsame.2 (.inl (by decide))]
  · rw [hblank]
    intro hread
    obtain rfl : w = " a".toList := by simpa using hread
    rcases hother.1 rfl with hquote | hends
    · exact absurd hquote (by decide)
    · exact absurd (hends ' ' (.inl rfl)) (by decide)

/-! ## Files whose lines fit -/

/-- The section behind a line. -/
def sectionAfter (Section line : Text) : Text :=
  match parseLine (Section.length + 1) line with
  | .header name => name
  | _ => Section

/-- Every line fits into the buffer behind the name of its section. -/
def Fits : Text → List Text → Prop
  | _, [] => True
  | Section, l :: ls =>
    Section.length + 1 + l.length < INI_BUFFERSIZE ∧ Fits (sectionAfter Section l) ls

/-- The sections of a text, the first of them with the name and the pairs so far. -/
def sectionsOf (name : Text) (pairs : List (Text × Text)) : List Text → IniFile
  | [] => [⟨name, pairs⟩]
  | l :: ls =>
    match parseLine (name.length + 1) l with
    | .ignored => sectionsOf name pairs ls
    | .header name' => ⟨name, pairs⟩ :: sectionsOf name' [] ls
    | .setting key value => sectionsOf name (pairs ++ [(key, value)]) ls

/-- A text as an INI file: what stands before the first header has the empty name. -/
def parse (text : Text) : IniFile := sectionsOf [] [] (lines text)

/-- The entries of a section come from the pairs read so far and from the lines ahead. -/
theorem iniBrowse_sectionsOf (name : Text) (pairs : List (Text × Text)) (text : Text)
    (hnul : CString.NUL ∉ text) (hfits : Fits name (lines text)) :
    SysClk.iniBrowse (sectionsOf name pairs (lines text)) =
      pairs.map (fun kv => (name, kv)) ++ entries name text := by
  cases hlines : lines text with
  | nil =>
    have hnil := flatten_lines text
    rw [hlines, List.flatten_nil] at hnil
    rw [← hnil, entries_of_none (fgets_nil _)]
    simp [sectionsOf, SysClk.iniBrowse]
  | cons l ls =>
    rw [hlines] at hfits
    obtain ⟨hroom, hrest⟩ := hfits
    obtain ⟨rest, hread, hls, htext⟩ := fgets_of_lines hlines (show
      l.length < INI_BUFFERSIZE - (name.length + 1) by omega)
    have hlt := fgets_length_lt hread
    have hl : CString.NUL ∉ l := fun h => hnul (htext ▸ List.mem_append_left _ h)
    have hrestnul : CString.NUL ∉ rest := fun h => hnul (htext ▸ List.mem_append_right _ h)
    rw [entries_of_some hread, cstr_of_not_mem hl]
    unfold sectionAfter at hrest
    simp only [sectionsOf]
    rw [← hls] at hrest ⊢
    cases hparse : parseLine (name.length + 1) l with
    | ignored =>
      rw [hparse] at hrest
      exact iniBrowse_sectionsOf name pairs rest hrestnul hrest
    | header name' =>
      rw [hparse] at hrest
      have ih := iniBrowse_sectionsOf name' [] rest hrestnul hrest
      dsimp only
      rw [← List.singleton_append, SysClk.iniBrowse_append, ih]
      simp [SysClk.iniBrowse]
    | setting key value =>
      rw [hparse] at hrest
      have ih := iniBrowse_sectionsOf name (pairs ++ [(key, value)]) rest hrestnul hrest
      dsimp only
      rw [ih]
      simp
termination_by text.length

/-- **`ini_browse` reports the pairs of the sections.** -/
theorem entries_eq_iniBrowse {text : Text} (hnul : CString.NUL ∉ text)
    (hfits : Fits [] (lines text)) : entries [] text = SysClk.iniBrowse (parse text) := by
  unfold parse
  rw [iniBrowse_sectionsOf [] [] text hnul hfits, List.map_nil, List.nil_append]

end SwitchOc.MinIni
