import SwitchOcSuite.SysClk.Types

/-!
# INI files

An INI file as `minIni` sees it: sections in order, each with its key/value
pairs in order.  What stands before the first header is a section with the empty
name.  `ini_browse` reports every pair with the name of its section;
`ini_putsection` writes the first section whose name agrees up to case anew, or
adds it behind the last one, and writes nothing at all for a section without
pairs.
-/

namespace SwitchOc.SysClk

structure IniSection where
  name : Text
  pairs : List (Text × Text)
deriving DecidableEq, Repr, Inhabited

abbrev IniFile := List IniSection

/-- The calls that `ini_browse` makes: section, key and value. -/
def iniBrowse (file : IniFile) : List (Text × Text × Text) :=
  file.flatMap fun s => s.pairs.map fun kv => (s.name, kv)

/-- Equal lengths, and `strnicmp` finds no difference. -/
def sameName (a b : Text) : Bool := a.map Char.toUpper = b.map Char.toUpper

/-- `putsection`. -/
def putSection (name : Text) (pairs : List (Text × Text)) : IniFile :=
  if pairs = [] then [] else [⟨name, pairs⟩]

/-- `ini_putsection` on a file that can be written. -/
def iniPutSection (name : Text) (pairs : List (Text × Text)) : IniFile → IniFile
  | [] => putSection name pairs
  | s :: file =>
    if sameName s.name name then putSection name pairs ++ file
    else s :: iniPutSection name pairs file

/-- What `ini_putsection` leaves as it is. -/
def otherSections (name : Text) (file : IniFile) : IniFile :=
  file.eraseP fun s => sameName s.name name

/-- The rewritten file is the old one with a gap, and the new section in it. -/
theorem iniPutSection_split (name : Text) (pairs : List (Text × Text)) (file : IniFile) :
    ∃ pre post, iniPutSection name pairs file = pre ++ putSection name pairs ++ post ∧
      otherSections name file = pre ++ post := by
  induction file with
  | nil => exact ⟨[], [], by simp [iniPutSection, otherSections]⟩
  | cons s file ih =>
    by_cases h : sameName s.name name = true
    · exact ⟨[], file, by simp [iniPutSection, otherSections, h]⟩
    · obtain ⟨pre, post, hput, hothers⟩ := ih
      refine ⟨s :: pre, post, ?_, ?_⟩
      · simp [iniPutSection, h, hput]
      · simpa [otherSections, h] using hothers

theorem iniBrowse_append (file file' : IniFile) :
    iniBrowse (file ++ file') = iniBrowse file ++ iniBrowse file' :=
  List.flatMap_append

theorem iniBrowse_putSection (name : Text) (pairs : List (Text × Text)) :
    iniBrowse (putSection name pairs) = pairs.map fun kv => (name, kv) := by
  unfold putSection
  split
  · rename_i h
    rw [h]
    rfl
  · simp [iniBrowse]

/-! ## What a save relies on -/

/-- `after` reports the pairs written for the section, in order, and of the other
sections nothing that `before` does not report. -/
structure Replaces (name : Text) (pairs : List (Text × Text))
    (before after : List (Text × Text × Text)) : Prop where
  named : (after.filter fun e => e.1 = name) = pairs.map fun kv => (name, kv)
  others : ∀ e ∈ after, e.1 ≠ name → e ∈ before

/-- In a file without another section of the name, `ini_putsection` replaces it. -/
theorem iniPutSection_replaces {name : Text} (pairs : List (Text × Text)) {file : IniFile}
    (h : ∀ s ∈ otherSections name file, s.name ≠ name) :
    Replaces name pairs (iniBrowse file) (iniBrowse (iniPutSection name pairs file)) := by
  obtain ⟨pre, post, hput, hothers⟩ := iniPutSection_split name pairs file
  have hnone : ∀ file' : IniFile, (∀ s ∈ file', s.name ≠ name) →
      (iniBrowse file').filter (fun e => e.1 = name) = [] := by
    intro file' hfile'
    rw [List.filter_eq_nil_iff]
    intro e he
    obtain ⟨s, hs, hmem⟩ := List.mem_flatMap.1 he
    obtain ⟨kv, -, rfl⟩ := List.mem_map.1 hmem
    simpa using hfile' s hs
  rw [hothers] at h
  have hpre := hnone pre fun s hs => h s (List.mem_append_left _ hs)
  have hpost := hnone post fun s hs => h s (List.mem_append_right _ hs)
  rw [hput, iniBrowse_append, iniBrowse_append, iniBrowse_putSection]
  constructor
  · rw [List.filter_append, List.filter_append, hpre, hpost, List.nil_append, List.append_nil,
      List.filter_eq_self]
    intro e he
    obtain ⟨kv, -, rfl⟩ := List.mem_map.1 he
    exact decide_eq_true rfl
  · intro e he hne
    have hmem : e ∈ iniBrowse (pre ++ post) := by
      rw [iniBrowse_append]
      simp only [List.mem_append, List.mem_map] at he ⊢
      rcases he with (he | ⟨kv, -, rfl⟩) | he
      · exact .inl he
      · exact absurd rfl hne
      · exact .inr he
    obtain ⟨s, hs, hkv⟩ := List.mem_flatMap.1 hmem
    rw [← hothers] at hs
    exact List.mem_flatMap.2 ⟨s, List.mem_of_mem_eraseP hs, hkv⟩

end SwitchOc.SysClk
