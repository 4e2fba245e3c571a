import SwitchOcSuite.MinIni.Refines

/-!
# Runs of saves

A file whose headers are not indented is rewritten whatever the section is, so that any
number of saves comes to an end; what they leave reads as the sections do after the
same saves.

    rewrite_tidy         one save returns
    rewrite_refines      and reads as the section put among the old ones
    rewrite_idempotent   a second one changes no character
    saveAll_tidy         any number of saves
-/

namespace SwitchOc.MinIni

open CString LineFile
open SysClk (Text IniFile sameName)

/-- `ini_putsection`: the text of the file afterwards, where `file` is `none` for one that cannot be
opened, and `canWrite` says whether a file can be opened for writing.  The second `none` is that of
a failure. -/
def iniPutsection (canWrite : Bool) (tempname : Text) (fuel : Nat) (Section : Text)
    (pairs : List (Text × Text)) : Option Text → Option (Option Text)
  | none =>
    -- if the .ini file doesn't exist, make a new file
    if canWrite then some (some (putsectionText Section pairs)) else some none
  | some file =>
    if canWrite then (rewrite Section pairs fuel tempname file).map some else some none

/-- A readable file in which no header is indented. -/
structure Tidy (W : Nat) (file : Text) : Prop extends Readable W file where
  margin : ∀ l ∈ lines file, startsSection l = true → leading l = 0

/-- No header of the new section is indented. -/
theorem margin_putsectionText {W : Nat} {Section : Text} {pairs : List (Text × Text)}
    (h : Writable W Section pairs) :
    ∀ l ∈ lines (putsectionText Section pairs), startsSection l = true → leading l = 0 := by
  by_cases hne : pairs = []
  · simp [putsectionText, hne, lines]
  · rw [lines_putsectionText h hne]
    intro l hl hstart
    rcases List.mem_cons.1 hl with rfl | hl
    · unfold leading sectionLine
      rw [List.takeWhile_cons_of_neg (by decide)]
      rfl
    · rcases List.mem_append.1 hl with hl | hl
      · obtain ⟨kv, hkv, rfl⟩ := List.mem_map.1 hl
        rw [startsSection_keyLine (h.key kv hkv)] at hstart
        exact absurd hstart Bool.false_ne_true
      · rw [List.mem_singleton.1 hl] at hstart
        exact absurd hstart (by decide)

section
variable {W : Nat} {Section file : Text} {pairs : List (Text × Text)}
  (hw : Writable W Section pairs) (tempname : Text)
include hw

/-- The function returns for a file without indented headers, which it stays. -/
theorem rewrite_tidy (ht : Tidy W file) : ∃ text, Tidy W text ∧
    parse text = SysClk.iniPutSection Section (readPairs pairs) (parse file) ∧
    ∀ fuel, (lines file).length < fuel → rewrite Section pairs fuel tempname file = some text := by
  have hr := ht.toReadable
  have hkeys : ∀ kv ∈ pairs, NUL ∉ kv.1 := fun kv hkv => (hw.key kv hkv).nul
  obtain ⟨result, hresult, hrewrite⟩ := rewrite_spec tempname hw.nonempty hr.nul hkeys
  cases result with
  | none =>
    cases hresult with
    | stuck pre header hps _ hheader hstale =>
      have hmem : header ∈ lines file := by
        rw [← hr.pieces, hps]
        simp
      exact absurd (ht.margin header hmem (isSection_starts hheader)) hstale.2.1
  | some text =>
    refine ⟨text, ⟨rewritten_readable hw hr hresult, ?_⟩, rewritten_parse hw hr hresult, ?_⟩
    · intro l hl hstart
      rcases rewritten_lines hr hresult hl with hold | hnew | rfl | ⟨l₀, hold, -, rfl⟩
      · exact ht.margin l hold hstart
      · exact margin_putsectionText hw l hnew hstart
      · exact absurd hstart (by decide)
      · obtain ⟨hstart', hleading, -⟩ := startsSection_newline hstart
        rw [hleading]
        exact ht.margin l₀ hold hstart'
    · intro fuel hfuel
      exact hrewrite fuel (by rwa [hr.pieces])

/-- **What is saved is what is read**: whenever the function returns, `ini_browse` reports of the
new text the entries of the old sections with the new one in its place. -/
theorem rewrite_refines (hr : Readable W file) {fuel : Nat} {text : Text}
    (h : rewrite Section pairs fuel tempname file = some text) :
    Readable W text ∧
      parse text = SysClk.iniPutSection Section (readPairs pairs) (parse file) ∧
      entries [] text =
        SysClk.iniBrowse (SysClk.iniPutSection Section (readPairs pairs) (parse file)) := by
  have hkeys : ∀ kv ∈ pairs, NUL ∉ kv.1 := fun kv hkv => (hw.key kv hkv).nul
  have hrewritten := rewritten_of_rewrite tempname hw.nonempty hr.nul hkeys h
  have hr' := rewritten_readable hw hr hrewritten
  have hparse := rewritten_parse hw hr hrewritten
  refine ⟨hr', hparse, ?_⟩
  rw [← hparse]
  exact hr'.entries

/-- **Saving once more changes no character.** -/
theorem rewrite_idempotent (hne : pairs ≠ []) (hr : Readable W file) {fuel₀ : Nat} {text : Text}
    (hrun : rewrite Section pairs fuel₀ tempname file = some text) {fuel : Nat}
    (hfuel : (lines text).length < fuel) : rewrite Section pairs fuel tempname text = some text := by
  have hkeys : ∀ kv ∈ pairs, NUL ∉ kv.1 := fun kv hkv => (hw.key kv hkv).nul
  have h := rewritten_of_rewrite tempname hw.nonempty hr.nul hkeys hrun
  have hr' := rewritten_readable hw hr h
  have hlen : (sectionLine Section).length = Section.length + 3 := by
    simp [sectionLine, INI_LINETERM]
  have hroom := hw.room
  -- the new section is the first one with its name, and begins in front of its keys
  obtain ⟨pre, post, hlines, hpre, hpost⟩ : ∃ pre post,
      lines text = pre ++ (lines (putsectionText Section pairs) ++ post) ∧
      (∀ l ∈ pre, isSection Section l = false) ∧
      ∀ l, post.head? = some l → startsSection l = true := by
    rcases rewritten_cases hr h with ⟨newline, hnewline, hnone, hlines, -⟩ |
      ⟨pre, header, body, post, -, hpre, -, -, hpost, hlines, -⟩
    · refine ⟨lines (file ++ newline), [], by rw [hlines, List.append_nil], ?_, by simp⟩
      intro l hl
      rcases mem_lines_ended hnewline hl with hold | rfl | ⟨l₀, hold, -, rfl⟩
      · exact hnone l hold
      · rw [← List.nil_append ['\n'], isSection_newline]
        rfl
      · rw [isSection_newline]
        exact hnone l₀ hold
    · exact ⟨pre, post, hlines, hpre, hpost⟩
  have hheader : isSection Section (sectionLine Section) = true := by
    refine isSection_iff.2 ⟨Section, ?_, decide_eq_true rfl⟩
    exact (parseLine_header_iff (by omega) 0).1 (parseLine_sectionLine (by omega) 0)
  have hbody : ∀ l ∈ pairs.map (fun kv => keyLine kv.1 kv.2) ++ [INI_LINETERM],
      startsSection l = false := by
    intro l hl
    rcases List.mem_append.1 hl with hl | hl
    · obtain ⟨kv, hkv, rfl⟩ := List.mem_map.1 hl
      exact startsSection_keyLine (hw.key kv hkv) kv.2
    · rw [List.mem_singleton.1 hl]
      decide
  have hps : pieces INI_BUFFERSIZE text = pre ++ sectionLine Section ::
      ((pairs.map (fun kv => keyLine kv.1 kv.2) ++ [INI_LINETERM]) ++ post) := by
    rw [hr'.pieces, hlines, lines_putsectionText hw hne, List.cons_append]
  rw [rewrite_present tempname hw.nonempty hr'.nul hpre hheader hps hbody hpost]
  · have hflat := flatten_lines text
    rw [hlines, List.flatten_append, List.flatten_append, flatten_lines] at hflat
    rw [List.append_assoc, hflat]
  · rintro - ⟨hnil, -⟩
    exact absurd hnil (by simp)
  · rwa [hr'.pieces]

end

/-! ## A file -/

/-- A comment, a section with a key, one with a value in quotes, and no newline at the end. -/
def keptFile : Text := "; kept\n[a]\nx = 1\n[b]\ny=\" 2;\"".toList

theorem tidy_keptFile : Tidy 16 keptFile := by
  have hlines : lines keptFile = ["; kept\n".toList, "[a]\n".toList, "x = 1\n".toList,
      "[b]\n".toList, "y=\" 2;\"".toList] := rfl
  have hall : ∀ l ∈ lines keptFile, 17 + (ended l).length < INI_BUFFERSIZE ∧
      (startsSection l = true → leading l = 0 ∧ (headerName (skipleading l)).isSome = true ∧
        ((headerName (skipleading l)).getD []).length ≤ 16) := by
    rw [hlines]
    decide +kernel
  refine ⟨⟨by decide, ?_⟩, fun l hl hstart => ((hall l hl).2 hstart).1⟩
  intro l hl
  refine ⟨(hall l hl).1, fun hstart => ?_⟩
  obtain ⟨-, hsome, hlen⟩ := (hall l hl).2 hstart
  obtain ⟨name, hname⟩ := Option.isSome_iff_exists.1 hsome
  rw [hname] at hlen
  exact ⟨name, hname, hlen⟩

/-- A section with a value in quotes. -/
theorem writable_keptFile : Writable 16 ['A'] [(['x'], " 3;".toList)] := by
  refine ⟨by decide, by decide, by decide, by decide, by decide, ?_, by decide, by decide⟩
  intro kv hkv
  obtain rfl := List.mem_singleton.1 hkv
  exact ⟨by decide, by decide, by decide, by simp; decide, by simp; decide⟩

theorem rewrite_refines_keptFile : ∃ text,
    rewrite ['A'] [(['x'], " 3;".toList)] 6 [] keptFile = some text ∧
      entries [] text = SysClk.iniBrowse
        (SysClk.iniPutSection ['A'] [(['x'], " 3;".toList)] (parse keptFile)) := by
  obtain ⟨text, -, -, hrun⟩ := rewrite_tidy writable_keptFile [] tidy_keptFile
  have hrun₆ := hrun 6 (by decide)
  exact ⟨text, hrun₆,
    (rewrite_refines writable_keptFile [] tidy_keptFile.toReadable hrun₆).2.2⟩

theorem rewrite_idempotent_keptFile : ∃ text,
    rewrite ['A'] [(['x'], " 3;".toList)] 6 [] keptFile = some text ∧
      rewrite ['A'] [(['x'], " 3;".toList)] ((lines text).length + 1) [] text = some text := by
  obtain ⟨text, -, -, hrun⟩ := rewrite_tidy writable_keptFile [] tidy_keptFile
  have hrun₆ := hrun 6 (by decide)
  exact ⟨text, hrun₆, rewrite_idempotent writable_keptFile [] (by decide)
    tidy_keptFile.toReadable hrun₆ (Nat.lt_succ_self _)⟩

/-! ## Any number of saves -/

/-- The sections after some saves. -/
def sectionsAfter (saves : List (Text × List (Text × Text))) (file : IniFile) : IniFile :=
  saves.foldl (fun file save => SysClk.iniPutSection save.1 (readPairs save.2) file) file

/-- The file after some saves, each of them in at most `fuel` rounds. -/
def saveAll (tempname : Text) (fuel : Nat) (saves : List (Text × List (Text × Text)))
    (file : Text) : Option Text :=
  saves.foldlM (fun file save => rewrite save.1 save.2 fuel tempname file) file

/-- **Any number of saves**: each of them returns, and the file reads as the sections after them. -/
theorem saveAll_tidy {W : Nat} (tempname : Text) {saves : List (Text × List (Text × Text))}
    (hw : ∀ save ∈ saves, Writable W save.1 save.2) {file : Text} (ht : Tidy W file) :
    ∃ text rounds, (∀ fuel, rounds ≤ fuel → saveAll tempname fuel saves file = some text) ∧
      Tidy W text ∧ parse text = sectionsAfter saves (parse file) ∧
      entries [] text = SysClk.iniBrowse (sectionsAfter saves (parse file)) := by
  induction saves generalizing file with
  | nil => exact ⟨file, 0, fun _ _ => rfl, ht, rfl, ht.toReadable.entries⟩
  | cons save saves ih =>
    obtain ⟨text, ht', hparse, hrewrite⟩ :=
      rewrite_tidy (hw save List.mem_cons_self) tempname ht
    obtain ⟨text', rounds, hrest, ht'', hparse', hentries⟩ :=
      ih (fun save' h => hw save' (List.mem_cons_of_mem _ h)) ht'
    rw [hparse] at hparse' hentries
    refine ⟨text', max ((lines file).length + 1) rounds, ?_, ht'', hparse', hentries⟩
    intro fuel hfuel
    have hfirst := hrewrite fuel (Nat.lt_of_succ_le (Nat.le_trans (Nat.le_max_left _ _) hfuel))
    unfold saveAll
    rw [List.foldlM_cons, hfirst]
    exact hrest fuel (Nat.le_trans (Nat.le_max_right _ _) hfuel)

/-- The same section is written twice. -/
theorem saveAll_tidy_keptFile : ∃ text rounds,
    (∀ fuel, rounds ≤ fuel → saveAll [] fuel
      [(['A'], [(['x'], " 3;".toList)]), (['A'], [(['x'], " 3;".toList)])] keptFile = some text) ∧
      Tidy 16 text := by
  have hw : ∀ save ∈ [((['A'] : Text), [((['x'] : Text), " 3;".toList)]),
      (['A'], [(['x'], " 3;".toList)])], Writable 16 save.1 save.2 := by
    intro save hsave
    simp only [List.mem_cons, List.not_mem_nil, or_false, or_self] at hsave
    rw [hsave]
    exact writable_keptFile
  obtain ⟨text, rounds, hrun, htidy, -, -⟩ := saveAll_tidy [] hw tidy_keptFile
  exact ⟨text, rounds, hrun, htidy⟩

end SwitchOc.MinIni
