import SwitchOcSuite.MinIni.Browse
import SwitchOcSuite.MinIni.Rewrite

/-!
# The file as a list of sections

`ini_putsection` on the text of a file is `iniPutSection` on its sections: what it makes
of a file whose lines are not too long reads as the old sections with the one replaced.

    isSection_iff        the header of the section is a header with its name up to case
    Readable             lines that fit, and no `[` at the front of a line that is no header
    rewritten_readable   the new file is as readable as the old one
    rewritten_parse      and has the sections of the old one, with the one replaced
-/

namespace SwitchOc.MinIni

open CString LineFile
open SysClk (Text IniSection IniFile sameName)

/-! ## Names -/

theorem upper_eq (c : Char) : upper c = c.toUpper.toNat := by
  unfold upper Char.toUpper
  by_cases h : 'a'.val ≤ c.val ∧ c.val ≤ 'z'.val
  · have hlo : 97 ≤ c.val.toNat := h.1
    have hhi : c.val.toNat ≤ 122 := h.2
    rw [if_pos (show 'a' ≤ c ∧ c ≤ 'z' from h), dif_pos h]
    show (c.val.toNat : Int) + ((65 : Nat) - (97 : Nat)) =
      ((c.val + ('A'.val - 'a'.val)).toNat : Int)
    rw [UInt32.toNat_add, show ('A'.val - 'a'.val).toNat = 4294967264 by decide]
    omega
  · rw [if_neg (show ¬('a' ≤ c ∧ c ≤ 'z') from h), dif_neg h]

theorem upper_inj {c d : Char} : upper c = upper d ↔ c.toUpper = d.toUpper := by
  rw [upper_eq, upper_eq]
  constructor
  · intro h
    exact Char.toNat_inj.1 (by omega)
  · intro h
    rw [h]

theorem strnicmp_cons (n : Nat) (c d : Char) (s t : Text) : strnicmp (n + 1) (c :: s) (d :: t) =
    if upper c ≠ upper d then upper c - upper d else strnicmp n s t := rfl

theorem strnicmp_eq_zero {a b : Text} (rest : Text) (h : a.length = b.length) :
    strnicmp b.length (a ++ rest) b = 0 ↔ sameName a b = true := by
  unfold sameName
  rw [decide_eq_true_eq]
  induction a generalizing b with
  | nil =>
    obtain rfl := List.eq_nil_of_length_eq_zero h.symm
    simp [strnicmp]
  | cons c a ih =>
    cases b with
    | nil => exact absurd h nofun
    | cons d b =>
      have hlen : a.length = b.length := Nat.succ.inj h
      rw [List.length_cons, List.cons_append, strnicmp_cons, List.map_cons, List.map_cons,
        List.cons.injEq, ← upper_inj]
      by_cases hc : upper c = upper d
      · rw [if_neg (not_not.2 hc), ih hlen]
        simp [hc]
      · rw [if_pos hc]
        simp only [hc, false_and, iff_false]
        omega

theorem strrchr_cons {c d : Char} (h : c ≠ d) (s : Text) :
    strrchr (c :: s) d = (strrchr s d).map (c :: ·) := by
  by_cases hd : d ∈ s
  · obtain ⟨back, front, hrev, hback⟩ := List.eq_append_cons_of_mem (List.mem_reverse.2 hd)
    have hs : s = front.reverse ++ d :: back.reverse := by
      rw [← List.reverse_reverse s, hrev]
      simp
    have hback' : d ∉ back.reverse := by simpa using hback
    rw [hs, ← List.cons_append, strrchr_append hback', strrchr_append hback']
    rfl
  · unfold strrchr
    rw [if_neg hd, if_neg (by simp [hd, Ne.symm h])]
    rfl

/-- The last bracket, and what is on both sides of it. -/
theorem strrchr_eq_some {s before : Text} {c : Char} (h : strrchr s c = some before) :
    ∃ behind, s = before ++ c :: behind := by
  have hmem : c ∈ s := by
    by_contra hnot
    unfold strrchr at h
    rw [if_neg hnot] at h
    exact absurd h nofun
  obtain ⟨back, front, hrev, hback⟩ := List.eq_append_cons_of_mem (List.mem_reverse.2 hmem)
  have hs : s = front.reverse ++ c :: back.reverse := by
    rw [← List.reverse_reverse s, hrev]
    simp
  rw [hs, strrchr_append (by simpa using hback)] at h
  obtain rfl := Option.some.inj h
  exact ⟨_, hs⟩

/-! ## Headers -/

/-- A header is one whatever is in front of it in the buffer. -/
theorem parseLine_header_iff {l name : Text} (hl : l.length < INI_BUFFERSIZE) (lenSec : Nat) :
    parseLine lenSec l = .header name ↔ headerName (skipleading l) = some name := by
  have hshort : ∀ name, headerName (skipleading l) = some name →
      iniStrncpy name INI_BUFFERSIZE .none = name := by
    intro name h
    unfold headerName at h
    split at h
    · obtain ⟨behind, hsplit⟩ := strrchr_eq_some h
      have hle := List.length_dropWhile_le isBlank l
      have htail : (skipleading l).tail.length ≤ (skipleading l).length := by simp
      rw [hsplit, List.length_append, List.length_cons] at htail
      unfold skipleading at htail
      unfold iniStrncpy
      rw [if_neg (by simp)]
      exact List.take_of_length_le (by omega)
    · exact absurd h nofun
  unfold parseLine
  dsimp only
  constructor
  · intro h
    split at h
    · exact absurd h nofun
    · cases hname : headerName (skipleading l) with
      | some name' =>
        rw [hname] at h
        dsimp only at h
        rw [hshort name' hname] at h
        rw [Line.header.inj h]
      | none =>
        rw [hname] at h
        dsimp only at h
        split at h <;> exact absurd h nofun
  · intro h
    rw [if_neg, h]
    · dsimp only
      rw [hshort name h]
    · unfold headerName at h
      split at h
      · rename_i hhead
        rw [hhead]
        rintro (hnil | hc | hc)
        · rw [hnil] at hhead
          exact absurd hhead nofun
        · exact absurd hc (by decide)
        · exact absurd hc (by decide)
      · exact absurd h nofun

theorem headerName_starts {l name : Text} (h : headerName (skipleading l) = some name) :
    startsSection l = true := by
  unfold headerName at h
  split at h
  · rename_i hhead
    exact decide_eq_true hhead
  · exact absurd h nofun

/-- **The header of the section is a header with its name, up to case.** -/
theorem isSection_iff {Section l : Text} : isSection Section l = true ↔
    ∃ name, headerName (skipleading l) = some name ∧ sameName name Section = true := by
  unfold isSection headerName
  dsimp only
  by_cases hhead : (skipleading l).head? = some '['
  · obtain ⟨sp, hsp⟩ : ∃ sp, skipleading l = '[' :: sp := by
      cases hl : skipleading l with
      | nil =>
        rw [hl] at hhead
        exact absurd hhead nofun
      | cons c sp =>
        rw [hl] at hhead
        exact ⟨sp, by rw [Option.some.inj hhead]⟩
    rw [hsp, strrchr_cons (by decide), if_pos (show ('[' :: sp).head? = some '[' from rfl),
      List.tail_cons]
    cases hname : strrchr sp ']' with
    | none => simp
    | some name =>
      obtain ⟨behind, rfl⟩ := strrchr_eq_some hname
      simp only [Option.map_some, List.head?_cons, decide_true, Bool.true_and, Bool.and_eq_true,
        decide_eq_true_eq, List.length_cons, Option.some.injEq, exists_eq_left']
      constructor
      · rintro ⟨hlen, hcmp⟩
        exact (strnicmp_eq_zero _ (Nat.succ.inj hlen)).1 hcmp
      · intro hsame
        have hlen : name.length = Section.length := by
          have hmap := congrArg List.length (of_decide_eq_true hsame)
          simpa using hmap
        exact ⟨by omega, (strnicmp_eq_zero _ hlen).2 hsame⟩
  · rw [if_neg hhead]
    cases strrchr (skipleading l) ']' with
    | none => simp
    | some before => simp [hhead]

/-! ## Sections of lines -/

/-- The sections that the lines close, and the one that they leave open. -/
def scan (name : Text) (pairs : List (Text × Text)) : List Text → IniFile × IniSection
  | [] => ([], ⟨name, pairs⟩)
  | l :: ls =>
    match parseLine (name.length + 1) l with
    | .ignored => scan name pairs ls
    | .header name' => (⟨name, pairs⟩ :: (scan name' [] ls).1, (scan name' [] ls).2)
    | .setting key value => scan name (pairs ++ [(key, value)]) ls

theorem sectionsOf_append (A B : List Text) (name : Text) (pairs : List (Text × Text)) :
    sectionsOf name pairs (A ++ B) = (scan name pairs A).1 ++
      sectionsOf (scan name pairs A).2.name (scan name pairs A).2.pairs B := by
  induction A generalizing name pairs with
  | nil => rfl
  | cons l A ih =>
    simp only [List.cons_append, sectionsOf, scan]
    cases parseLine (name.length + 1) l with
    | ignored => exact ih _ _
    | header name' =>
      dsimp only
      rw [ih]
      rfl
    | setting key value => exact ih _ _

theorem sectionsOf_eq_scan (A : List Text) (name : Text) (pairs : List (Text × Text)) :
    sectionsOf name pairs A = (scan name pairs A).1 ++ [(scan name pairs A).2] := by
  have h := sectionsOf_append A [] name pairs
  rwa [List.append_nil] at h

theorem scan_append (A B : List Text) (name : Text) (pairs : List (Text × Text)) :
    scan name pairs (A ++ B) =
      ((scan name pairs A).1 ++ (scan (scan name pairs A).2.name (scan name pairs A).2.pairs B).1,
        (scan (scan name pairs A).2.name (scan name pairs A).2.pairs B).2) := by
  induction A generalizing name pairs with
  | nil => rfl
  | cons l A ih =>
    simp only [List.cons_append, scan]
    cases parseLine (name.length + 1) l with
    | ignored => exact ih _ _
    | header name' =>
      dsimp only
      rw [ih]
      rfl
    | setting key value => exact ih _ _

/-- An end added to the last line, or an empty line, changes no section. -/
theorem scan_newline (s name : Text) (pairs : List (Text × Text)) :
    scan name pairs (lines (s ++ ['\n'])) = scan name pairs (lines s) := by
  have hempty : ∀ lenSec, parseLine lenSec ['\n'] = .ignored := by
    intro lenSec
    rw [← List.nil_append ['\n'], parseLine_newline]
    rfl
  rcases lines_newline s with ⟨-, h⟩ | ⟨front, l, h, -, h'⟩
  · rw [h, scan_append]
    simp [scan, hempty]
  · rw [h, h', scan_append, scan_append]
    simp only [scan, parseLine_newline]

/-- The name of a section is that of a header, or the one before the first header. -/
theorem scan_names {A : List Text} (hA : ∀ l ∈ A, l.length < INI_BUFFERSIZE) (name : Text)
    (pairs : List (Text × Text)) : ∀ s ∈ (scan name pairs A).1 ++ [(scan name pairs A).2],
      s.name = name ∨ ∃ l ∈ A, headerName (skipleading l) = some s.name := by
  induction A generalizing name pairs with
  | nil =>
    intro s hs
    obtain rfl := List.mem_singleton.1 hs
    exact .inl rfl
  | cons l A ih =>
    have hA' : ∀ l ∈ A, l.length < INI_BUFFERSIZE := fun l hl => hA l (List.mem_cons_of_mem _ hl)
    have hlater : ∀ s : IniSection, (∃ l ∈ A, headerName (skipleading l) = some s.name) →
        ∃ l' ∈ l :: A, headerName (skipleading l') = some s.name := by
      rintro s ⟨l', hl', h⟩
      exact ⟨l', List.mem_cons_of_mem _ hl', h⟩
    intro s hs
    simp only [scan] at hs
    split at hs
    · exact (ih hA' name pairs s hs).imp_right (hlater s)
    · rename_i name' hheader
      have hname := (parseLine_header_iff (hA l List.mem_cons_self) _).1 hheader
      rcases List.mem_cons.1 hs with rfl | hs
      · exact .inl rfl
      · rcases ih hA' name' [] s hs with h | h
        · exact .inr ⟨l, List.mem_cons_self, by rw [h, hname]⟩
        · exact .inr (hlater s h)
    · exact (ih hA' name _ s hs).imp_right (hlater s)

/-- Lines that begin no section belong to the one they are in. -/
theorem scan_body {A : List Text} (hA : ∀ l ∈ A, l.length < INI_BUFFERSIZE)
    (hstart : ∀ l ∈ A, startsSection l = false) (name : Text) (pairs : List (Text × Text)) :
    (scan name pairs A).1 = [] ∧ (scan name pairs A).2.name = name := by
  induction A generalizing name pairs with
  | nil => exact ⟨rfl, rfl⟩
  | cons l A ih =>
    have ih' := ih (fun l hl => hA l (List.mem_cons_of_mem _ hl))
      (fun l hl => hstart l (List.mem_cons_of_mem _ hl))
    simp only [scan]
    split
    · exact ih' _ _
    · rename_i name' hheader
      have hname := (parseLine_header_iff (hA l List.mem_cons_self) _).1 hheader
      exact absurd (headerName_starts hname) (by rw [hstart l List.mem_cons_self]; simp)
    · exact ih' _ _

/-- What begins with a header closes any section. -/
theorem sectionsOf_header {l name : Text} (hl : l.length < INI_BUFFERSIZE)
    (hname : headerName (skipleading l) = some name) (B : List Text) (name' : Text)
    (pairs : List (Text × Text)) :
    sectionsOf name' pairs (l :: B) = ⟨name', pairs⟩ :: sectionsOf name [] B := by
  rw [sectionsOf, (parseLine_header_iff hl _).2 hname]

theorem iniPutSection_append {name : Text} {pairs : List (Text × Text)} {P : IniFile}
    (h : ∀ s ∈ P, sameName s.name name = false) (Q : IniFile) :
    SysClk.iniPutSection name pairs (P ++ Q) = P ++ SysClk.iniPutSection name pairs Q := by
  induction P with
  | nil => rfl
  | cons s P ih =>
    have hs := h s List.mem_cons_self
    rw [List.cons_append, SysClk.iniPutSection, hs, ih fun s hs => h s (List.mem_cons_of_mem _ hs)]
    rfl

/-! ## What is written -/

/-- A line with its newline. -/
def ended (l : Text) : Text := if l.getLast? = some '\n' then l else l ++ ['\n']

/-- A line that fits behind every section name of up to `W` characters, and that is a header, with
such a name, if it begins with `[`. -/
structure LineOk (W : Nat) (l : Text) : Prop where
  fits : W + 1 + (ended l).length < INI_BUFFERSIZE
  header : startsSection l = true → ∃ name, headerName (skipleading l) = some name ∧ name.length ≤ W

/-- A file that `ini_browse` and `ini_putsection` read line by line, and in the same way. -/
structure Readable (W : Nat) (file : Text) : Prop where
  nul : NUL ∉ file
  line : ∀ l ∈ lines file, LineOk W l

/-- A section to be written. -/
structure Writable (W : Nat) (Section : Text) (pairs : List (Text × Text)) : Prop where
  nonempty : Section ≠ []
  newline : '\n' ∉ Section
  nul : NUL ∉ Section
  width : Section.length ≤ W
  room : W + 1 + (sectionLine Section).length < INI_BUFFERSIZE
  key : ∀ kv ∈ pairs, IsKey kv.1
  value : ∀ kv ∈ pairs, '\n' ∉ kv.2 ∧ NUL ∉ kv.2
  fits : ∀ kv ∈ pairs, W + 1 + (keyLine kv.1 kv.2).length < INI_BUFFERSIZE

theorem LineOk.length_lt {W : Nat} {l : Text} (h : LineOk W l) : l.length < INI_BUFFERSIZE := by
  have hfits := h.fits
  unfold ended at hfits
  split at hfits
  · omega
  · rw [List.length_append] at hfits
    omega

/-- What is read back of the pairs. -/
def readPairs (pairs : List (Text × Text)) : List (Text × Text) :=
  pairs.map fun kv => (kv.1, readValue kv.2)

theorem startsSection_keyLine {k : Text} (hk : IsKey k) (v : Text) :
    startsSection (keyLine k v) = false := by
  unfold startsSection
  rw [skipleading_keyLine hk]
  exact decide_eq_false fun hc => (head_keyLine hk hc).2.2.2 rfl

section
variable {W : Nat} {Section : Text} {pairs : List (Text × Text)} (h : Writable W Section pairs)
include h

/-- The lines of the new section. -/
theorem lines_putsectionText (hne : pairs ≠ []) : lines (putsectionText Section pairs) =
    sectionLine Section :: (pairs.map (fun kv => keyLine kv.1 kv.2) ++ [INI_LINETERM]) := by
  have hroom := h.room
  have hwidth := List.length_pos_iff.2 h.nonempty
  have hW := h.width
  have hsection : writesection Section = sectionLine Section :=
    writesection_eq h.nonempty (by omega)
  have hkeys : ∀ ps : List (Text × Text), (∀ kv ∈ ps, kv ∈ pairs) →
      lines (ps.flatMap (fun kv => writekey kv.1 kv.2) ++ INI_LINETERM) =
        ps.map (fun kv => keyLine kv.1 kv.2) ++ [INI_LINETERM] := by
    intro ps
    induction ps with
    | nil => exact fun _ => rfl
    | cons kv ps ih =>
      intro hps
      have hkv := hps kv List.mem_cons_self
      have hfits := h.fits kv hkv
      have hline := newline_not_mem (h.key kv hkv) (h.value kv hkv).1
      rw [List.flatMap_cons, writekey_eq (by omega), List.append_assoc, keyLine_eq,
        List.append_assoc, List.singleton_append, lines_line hline,
        ih fun kv' h' => hps kv' (List.mem_cons_of_mem _ h'), List.map_cons, keyLine_eq,
        List.cons_append]
  unfold putsectionText
  rw [if_neg hne, hsection]
  have hnewline : '\n' ∉ '[' :: (Section ++ [']']) := by
    simp [h.newline]
  rw [List.append_assoc, sectionLine_eq, List.append_assoc, List.singleton_append,
    lines_line hnewline, hkeys pairs fun _ h => h]

theorem nul_putsectionText : NUL ∉ putsectionText Section pairs := by
  by_cases hne : pairs = []
  · simp [putsectionText, hne]
  · have hflat := flatten_lines (putsectionText Section pairs)
    rw [lines_putsectionText h hne] at hflat
    rw [← hflat]
    intro hmem
    obtain ⟨l, hl, hmem⟩ := List.mem_flatten.1 hmem
    rcases List.mem_cons.1 hl with rfl | hl
    · have hnul := h.nul
      simp [sectionLine, INI_LINETERM, hnul, show NUL ≠ '[' by decide, show NUL ≠ ']' by decide,
        show NUL ≠ '\n' by decide] at hmem
    · rcases List.mem_append.1 hl with hl | hl
      · obtain ⟨kv, hkv, rfl⟩ := List.mem_map.1 hl
        rcases List.mem_append.1 hmem with hmem | hmem
        · exact (h.key kv hkv).nul hmem
        · rcases List.mem_cons.1 hmem with hmem | hmem
          · exact absurd hmem (by decide)
          · rcases List.mem_append.1 hmem with hmem | hmem
            · exact (h.value kv hkv).2 (quoted_mem (by decide) (by decide) hmem)
            · exact absurd hmem (by decide)
      · rw [List.mem_singleton.1 hl] at hmem
        exact absurd hmem (by decide)

/-- The new lines fit as well. -/
theorem lineOk_putsectionText : ∀ l ∈ lines (putsectionText Section pairs), LineOk W l := by
  have hended : ∀ l : Text, l.getLast? = some '\n' → ended l = l := fun l hl => if_pos hl
  by_cases hne : pairs = []
  · simp [putsectionText, hne, lines]
  · rw [lines_putsectionText h hne]
    have hroom := h.room
    have hlen : (sectionLine Section).length = Section.length + 3 := by
      simp [sectionLine, INI_LINETERM]
    intro l hl
    rcases List.mem_cons.1 hl with rfl | hl
    · have hlast : (sectionLine Section).getLast? = some '\n' := by
        rw [sectionLine_eq]
        exact List.getLast?_concat
      refine ⟨by rw [hended _ hlast]; exact hroom, fun _ => ⟨Section, ?_, h.width⟩⟩
      exact (parseLine_header_iff (by omega) 0).1 (parseLine_sectionLine (by omega) 0)
    · rcases List.mem_append.1 hl with hl | hl
      · obtain ⟨kv, hkv, rfl⟩ := List.mem_map.1 hl
        have hlast : (keyLine kv.1 kv.2).getLast? = some '\n' := by
          rw [keyLine_eq]
          exact List.getLast?_concat
        refine ⟨by rw [hended _ hlast]; exact h.fits kv hkv, fun hstart => ?_⟩
        rw [startsSection_keyLine (h.key kv hkv)] at hstart
        exact absurd hstart Bool.false_ne_true
      · rw [List.mem_singleton.1 hl]
        refine ⟨?_, fun hstart => absurd hstart (by decide)⟩
        have hone : (ended INI_LINETERM).length = 1 := by decide
        omega

/-- The sections of the new lines, and of what is behind them. -/
theorem sectionsOf_putsectionText (hne : pairs ≠ []) (B : List Text) (name : Text)
    (pairs' : List (Text × Text)) :
    sectionsOf name pairs' (lines (putsectionText Section pairs) ++ B) =
      ⟨name, pairs'⟩ :: sectionsOf Section (readPairs pairs) B := by
  have hroom := h.room
  have hlen : (sectionLine Section).length = Section.length + 3 := by
    simp [sectionLine, INI_LINETERM]
  have hkeys : ∀ (ps pairs' : List (Text × Text)) (B : List Text), (∀ kv ∈ ps, kv ∈ pairs) →
      sectionsOf Section pairs' (ps.map (fun kv => keyLine kv.1 kv.2) ++ B) =
        sectionsOf Section (pairs' ++ readPairs ps) B := by
    intro ps
    induction ps with
    | nil => exact fun pairs' B _ => by simp [readPairs]
    | cons kv ps ih =>
      intro pairs' B hps
      have hkv := hps kv List.mem_cons_self
      have hfits := h.fits kv hkv
      have hwidth := h.width
      rw [List.map_cons, List.cons_append, sectionsOf,
        parseLine_keyLine (h.key kv hkv) (by omega)]
      dsimp only
      rw [ih _ B fun kv' h' => hps kv' (List.mem_cons_of_mem _ h')]
      simp [readPairs]
  have hempty : sectionsOf Section (readPairs pairs) (INI_LINETERM :: B) =
      sectionsOf Section (readPairs pairs) B := by
    have hline : parseLine (Section.length + 1) INI_LINETERM = .ignored :=
      parseLine_newline _ []
    rw [sectionsOf, hline]
  have hname : headerName (skipleading (sectionLine Section)) = some Section :=
    (parseLine_header_iff (by omega) 0).1 (parseLine_sectionLine (by omega) 0)
  rw [lines_putsectionText h hne, List.cons_append, sectionsOf_header (by omega) hname,
    List.append_assoc, List.singleton_append, hkeys pairs [] _ fun _ h => h, List.nil_append,
    hempty]

end

/-! ## The new file -/

theorem Readable.pieces {W : Nat} {file : Text} (h : Readable W file) :
    pieces INI_BUFFERSIZE file = lines file :=
  pieces_eq_lines file fun l hl => (h.line l hl).length_lt

/-- The lines of a readable file fit behind the names of their sections. -/
theorem fits_of_lineOk {W : Nat} {ls : List Text} (h : ∀ l ∈ ls, LineOk W l) {name : Text}
    (hname : name.length ≤ W) : Fits name ls := by
  induction ls generalizing name with
  | nil => trivial
  | cons l ls ih =>
    have hl := h l List.mem_cons_self
    have hfits := hl.fits
    have hle : l.length ≤ (ended l).length := by
      unfold ended
      split <;> simp
    refine ⟨by omega, ih (fun l hl => h l (List.mem_cons_of_mem _ hl)) ?_⟩
    unfold sectionAfter
    split
    · rename_i name' hheader
      have hname' := (parseLine_header_iff hl.length_lt _).1 hheader
      obtain ⟨name'', hname'', hwidth⟩ := hl.header (headerName_starts hname')
      obtain rfl := Option.some.inj (hname'.symm.trans hname'')
      exact hwidth
    · exact hname

/-- **`ini_browse` reports the pairs of the sections** of a readable file. -/
theorem Readable.entries {W : Nat} {file : Text} (h : Readable W file) :
    entries [] file = SysClk.iniBrowse (parse file) :=
  entries_eq_iniBrowse h.nul (fits_of_lineOk h.line (Nat.zero_le W))

/-- A new end of the last line makes no new section, and no other one. -/
theorem startsSection_newline {l : Text} (h : startsSection (l ++ ['\n']) = true) :
    startsSection l = true ∧ leading (l ++ ['\n']) = leading l ∧
      headerName (skipleading (l ++ ['\n'])) = headerName (skipleading l) := by
  unfold startsSection at h ⊢
  rcases skipleading_newline l with ⟨-, hskip⟩ | ⟨hne, hskip⟩
  · rw [hskip] at h
    exact absurd h (by decide)
  · have hhead : (skipleading l ++ ['\n']).head? = (skipleading l).head? := by
      obtain ⟨c, sp, hsp⟩ := List.exists_cons_of_ne_nil hne
      rw [hsp]
      rfl
    have hold := congrArg List.length (List.takeWhile_append_dropWhile (p := isBlank) (l := l))
    have hnew := congrArg List.length
      (List.takeWhile_append_dropWhile (p := isBlank) (l := l ++ ['\n']))
    refine ⟨by rwa [hskip, hhead] at h, ?_, by rw [hskip, headerName_newline hne]⟩
    unfold skipleading at hskip
    rw [List.length_append] at hold
    rw [List.length_append, hskip, List.length_append, List.length_append] at hnew
    unfold leading
    omega

/-- A line that gets its end is as good as before. -/
theorem LineOk.newline {W : Nat} {l : Text} (h : LineOk W l) (hlast : l.getLast? ≠ some '\n') :
    LineOk W (l ++ ['\n']) := by
  have hended : ended (l ++ ['\n']) = ended l := by
    unfold ended
    rw [if_pos List.getLast?_concat, if_neg hlast]
  refine ⟨by rw [hended]; exact h.fits, fun hstart => ?_⟩
  obtain ⟨hold, -, hname⟩ := startsSection_newline hstart
  rw [hname]
  exact h.header hold

/-- A line of a text whose last line gets an end. -/
theorem mem_lines_ended {s newline l : Text} (hnewline : newline = [] ∨ newline = ['\n'])
    (hl : l ∈ lines (s ++ newline)) : l ∈ lines s ∨ l = ['\n'] ∨
      ∃ l₀ ∈ lines s, l₀.getLast? ≠ some '\n' ∧ l = l₀ ++ ['\n'] := by
  rcases hnewline with rfl | rfl
  · rw [List.append_nil] at hl
    exact .inl hl
  · rcases lines_newline s with ⟨-, heq⟩ | ⟨front, last, heq, hlast, heq'⟩
    · rw [heq] at hl
      rcases List.mem_append.1 hl with hl | hl
      · exact .inl hl
      · exact .inr (.inl (List.mem_singleton.1 hl))
    · rw [heq'] at hl
      rcases List.mem_append.1 hl with hl | hl
      · exact .inl (by rw [heq]; exact List.mem_append_left _ hl)
      · exact .inr (.inr ⟨last, by rw [heq]; simp, hlast, List.mem_singleton.1 hl⟩)

theorem isSection_newline (Section l : Text) :
    isSection Section (l ++ ['\n']) = isSection Section l := by
  have hname : headerName (skipleading (l ++ ['\n'])) = headerName (skipleading l) := by
    rcases skipleading_newline l with ⟨h, h'⟩ | ⟨hne, hskip⟩
    · rw [h, h']
    · rw [hskip, headerName_newline hne]
  rw [Bool.eq_iff_iff, isSection_iff, isSection_iff, hname]

theorem lineOk_empty {W : Nat} (hW : W + 2 < INI_BUFFERSIZE) : LineOk W ['\n'] := by
  have hone : (ended ['\n']).length = 1 := by decide
  exact ⟨by omega, fun hstart => absurd hstart (by decide)⟩

section
variable {W : Nat} {Section file : Text} {pairs : List (Text × Text)}
  (hw : Writable W Section pairs) (hr : Readable W file)
include hw hr

/-- The names in front of the section are other names. -/
theorem names_differ {A : List Text} (hA : ∀ l ∈ A, l ∈ lines file)
    (hother : ∀ l ∈ A, isSection Section l = false) :
    ∀ s ∈ (scan [] [] A).1 ++ [(scan [] [] A).2], sameName s.name Section = false := by
  intro s hs
  have hshort : ∀ l ∈ A, l.length < INI_BUFFERSIZE := fun l hl => (hr.line l (hA l hl)).length_lt
  rcases scan_names hshort [] [] s hs with hnil | ⟨l, hl, hname⟩
  · have hne := hw.nonempty
    rw [hnil]
    apply decide_eq_false
    intro hsame
    exact hne (List.map_eq_nil_iff.1 hsame.symm)
  · have hno := hother l hl
    by_contra hsame
    rw [isSection_iff.2 ⟨s.name, hname, Bool.not_eq_false _ ▸ hsame⟩] at hno
    exact absurd hno nofun

/-- The sections of the file, with the one replaced that is found. -/
theorem parse_replaced {pre body post : List Text} {header : Text}
    (hps : lines file = pre ++ header :: (body ++ post))
    (hpre : ∀ l ∈ pre, isSection Section l = false) (hheader : isSection Section header = true)
    (hbody : ∀ l ∈ body, startsSection l = false)
    (hpost : ∀ l, post.head? = some l → startsSection l = true) :
    sectionsOf [] [] (pre ++ (lines (putsectionText Section pairs) ++ post)) =
      SysClk.iniPutSection Section (readPairs pairs) (parse file) := by
  have hmem : ∀ l, l ∈ pre ∨ l = header ∨ l ∈ body ∨ l ∈ post → LineOk W l := by
    intro l hl
    apply hr.line
    rw [hps]
    simpa using hl
  -- what is behind the section begins with a header, and so does not depend on it
  obtain ⟨Q, hQ⟩ : ∃ Q, ∀ name pairs, sectionsOf name pairs post = ⟨name, pairs⟩ :: Q := by
    cases post with
    | nil => exact ⟨[], fun _ _ => rfl⟩
    | cons l post =>
      have hl := hmem l (.inr (.inr (.inr List.mem_cons_self)))
      obtain ⟨name, hname, -⟩ := hl.header (hpost l rfl)
      exact ⟨_, sectionsOf_header hl.length_lt hname post⟩
  obtain ⟨name, hname, hsame⟩ := isSection_iff.1 hheader
  have hnames := names_differ hw hr (fun l hl => by rw [hps]; exact List.mem_append_left _ hl) hpre
  have hopen := scan_body (fun l hl => (hmem l (.inr (.inr (.inl hl)))).length_lt) hbody name []
  have hold : parse file = ((scan [] [] pre).1 ++ [(scan [] [] pre).2]) ++
      ⟨name, (scan name [] body).2.pairs⟩ :: Q := by
    unfold parse
    rw [hps, sectionsOf_append,
      sectionsOf_header (hmem header (.inr (.inl rfl))).length_lt hname, sectionsOf_append,
      hopen.1, hopen.2, hQ, List.append_assoc]
    rfl
  rw [sectionsOf_append, hold, iniPutSection_append hnames, SysClk.iniPutSection, if_pos hsame]
  by_cases hne : pairs = []
  · subst hne
    rw [putsectionText, if_pos rfl]
    show _ ++ sectionsOf _ _ post = _
    rw [hQ]
    simp [readPairs, SysClk.putSection]
  · rw [sectionsOf_putsectionText hw hne, hQ]
    simp [readPairs, SysClk.putSection, hne]

/-- The sections of the file, with one added that is not found. -/
theorem parse_added (hnone : ∀ l ∈ lines file, isSection Section l = false) :
    sectionsOf [] [] (lines file ++ lines (putsectionText Section pairs)) =
      SysClk.iniPutSection Section (readPairs pairs) (parse file) := by
  have hnames := names_differ hw hr (fun l hl => hl) hnone
  have hput : SysClk.iniPutSection Section (readPairs pairs) (_ ++ []) = _ :=
    iniPutSection_append hnames []
  rw [List.append_nil] at hput
  unfold parse
  rw [sectionsOf_append, sectionsOf_eq_scan (lines file), hput, SysClk.iniPutSection]
  by_cases hne : pairs = []
  · subst hne
    simp [putsectionText, readPairs, SysClk.putSection, lines, sectionsOf]
  · have hsections := sectionsOf_putsectionText hw hne []
    rw [List.append_nil] at hsections
    rw [hsections]
    simp [readPairs, SysClk.putSection, hne, sectionsOf]

omit hw in
/-- The lines of the new file: those in front of the section, those of the section, and those behind
it. -/
theorem rewritten_cases {text : Text}
    (h : Rewritten Section pairs (pieces INI_BUFFERSIZE file) (some text)) :
    (∃ newline, (newline = [] ∨ newline = ['\n']) ∧
      (∀ l ∈ lines file, isSection Section l = false) ∧
      lines text = lines (file ++ newline) ++ lines (putsectionText Section pairs) ∧
      text = file ++ newline ++ putsectionText Section pairs) ∨
    ∃ pre header body post, lines file = pre ++ header :: (body ++ post) ∧
      (∀ l ∈ pre, isSection Section l = false) ∧ isSection Section header = true ∧
      (∀ l ∈ body, startsSection l = false) ∧
      (∀ l, post.head? = some l → startsSection l = true) ∧
      lines text = pre ++ (lines (putsectionText Section pairs) ++ post) ∧
      text = pre.flatten ++ putsectionText Section pairs ++ post.flatten := by
  rw [hr.pieces] at h
  cases h with
  | added newline hnone hnewline =>
    rw [flatten_lines] at hnewline ⊢
    left
    refine ⟨newline, hnewline.imp_left And.left, hnone, lines_append ?_ _, rfl⟩
    rcases hnewline with ⟨rfl, hlast⟩ | rfl
    · rw [List.append_nil]
      exact .inr hlast
    · exact .inr List.getLast?_concat
  | replaced pre header body post hps hpre hheader hbody hpost hstale =>
    right
    refine ⟨pre, header, body, post, hps, hpre, hheader, hbody, hpost, ?_, rfl⟩
    obtain ⟨-, hprelines, -, hended⟩ := lines_cut hps
    obtain ⟨-, -, hpostlines, -⟩ := lines_cut (s := file) (A := pre ++ header :: body) (B := post)
      (by rw [hps]; simp)
    have hnewended : Ended (putsectionText Section pairs) := by
      unfold putsectionText
      split
      · exact .inl rfl
      · exact .inr List.getLast?_concat
    rw [List.append_assoc, lines_append (hended (by simp)), lines_append hnewended, hprelines,
      hpostlines]

omit hw in
/-- A line of the new file is one of the old file, or the last one with an end, or new. -/
theorem rewritten_lines {text : Text}
    (h : Rewritten Section pairs (pieces INI_BUFFERSIZE file) (some text)) {l : Text}
    (hl : l ∈ lines text) : l ∈ lines file ∨ l ∈ lines (putsectionText Section pairs) ∨
      l = ['\n'] ∨ ∃ l₀ ∈ lines file, l₀.getLast? ≠ some '\n' ∧ l = l₀ ++ ['\n'] := by
  rcases rewritten_cases hr h with ⟨newline, hnewline, -, hlines, -⟩ |
    ⟨pre, header, body, post, hfile, -, -, -, -, hlines, -⟩
  · rw [hlines] at hl
    rcases List.mem_append.1 hl with hl | hl
    · exact (mem_lines_ended hnewline hl).imp_right .inr
    · exact .inr (.inl hl)
  · rw [hlines] at hl
    rcases List.mem_append.1 hl with hl | hl
    · exact .inl (by rw [hfile]; exact List.mem_append_left _ hl)
    · rcases List.mem_append.1 hl with hl | hl
      · exact .inr (.inl hl)
      · exact .inl (by rw [hfile]; simp [hl])

/-- **The new file is as readable as the old one.** -/
theorem rewritten_readable {text : Text}
    (h : Rewritten Section pairs (pieces INI_BUFFERSIZE file) (some text)) : Readable W text := by
  have hroom := hw.room
  have hlen : (sectionLine Section).length = Section.length + 3 := by
    simp [sectionLine, INI_LINETERM]
  constructor
  · intro hmem
    rw [← flatten_lines text] at hmem
    obtain ⟨l, hl, hmem⟩ := List.mem_flatten.1 hmem
    have hfile : ∀ l ∈ lines file, NUL ∉ l := fun l hl hmem =>
      hr.nul (by rw [← flatten_lines file]; exact List.mem_flatten.2 ⟨l, hl, hmem⟩)
    rcases rewritten_lines hr h hl with hold | hnew | rfl | ⟨l₀, hold, -, rfl⟩
    · exact hfile l hold hmem
    · refine nul_putsectionText hw ?_
      rw [← flatten_lines (putsectionText Section pairs)]
      exact List.mem_flatten.2 ⟨l, hnew, hmem⟩
    · exact absurd hmem (by decide)
    · rcases List.mem_append.1 hmem with hmem | hmem
      · exact hfile l₀ hold hmem
      · exact absurd hmem (by decide)
  · intro l hl
    rcases rewritten_lines hr h hl with hold | hnew | rfl | ⟨l₀, hold, hlast, rfl⟩
    · exact hr.line l hold
    · exact lineOk_putsectionText hw l hnew
    · exact lineOk_empty (by omega)
    · exact (hr.line l₀ hold).newline hlast

/-- **The file with a section added or replaced reads as its sections with that one added or
replaced.** -/
theorem rewritten_parse {text : Text}
    (h : Rewritten Section pairs (pieces INI_BUFFERSIZE file) (some text)) :
    parse text = SysClk.iniPutSection Section (readPairs pairs) (parse file) := by
  rcases rewritten_cases hr h with ⟨newline, hnewline, hnone, hlines, -⟩ |
    ⟨pre, header, body, post, hfile, hpre, hheader, hbody, hpost, hlines, -⟩
  · have hscan : scan [] [] (lines (file ++ newline)) = scan [] [] (lines file) := by
      rcases hnewline with rfl | rfl
      · rw [List.append_nil]
      · exact scan_newline file [] []
    rw [← parse_added hw hr hnone]
    unfold parse
    rw [hlines, sectionsOf_append, hscan, ← sectionsOf_append]
  · unfold parse
    rw [hlines]
    exact parse_replaced hw hr hfile hpre hheader hbody hpost

end

end SwitchOc.MinIni
