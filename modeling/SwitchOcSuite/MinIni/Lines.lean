import SwitchOcSuite.MinIni.Strings

/-!
# Lines of an INI file (`lib/minIni/dev/minIni.c`)

What `minIni` writes for a section, for a key and its value, and what `ini_browse`
makes of a line.

    parseLine_keyLine       the line of a key gives the key and its value
    readValue_eq_self       the value is as it was written, exactly if it is quoted or has
                            no blanks around it
    parseLine_sectionLine   the line of a section gives its name
-/

namespace SwitchOc.MinIni

open CString
open SysClk (Text)

/-! ## Writing a line -/

def writesection (Section : Text) : Text :=
  if Section = [] then []
  else '[' :: iniStrncpy Section (INI_BUFFERSIZE - 4) .none ++ [']'] ++ INI_LINETERM

def writekey (Key Value : Text) : Text :=
  let key := iniStrncpy Key (INI_BUFFERSIZE - 3) .none ++ ['=']
  key ++ iniStrncpy Value (INI_BUFFERSIZE - key.length - 2) (checkEnquote Value) ++ INI_LINETERM

/-! ## Reading a line -/

/-- What a line is to `ini_browse`. -/
inductive Line where
  | ignored
  | header (name : Text)
  | setting (key value : Text)
deriving DecidableEq, Repr

/-- The test for a new section: what stands between `[` and the last `]`. -/
def headerName (sp : Text) : Option Text :=
  if sp.head? = some '[' then strrchr sp.tail ']' else none

/-- The test for the equal sign or colon. -/
def splitSetting (sp : Text) : Option (Text × Text) := (strchr sp '=').or (strchr sp ':')

/-- The body of the loop of `ini_browse` up to the callback, with the name of the section in the
first `lenSec` characters of the buffer. -/
def parseLine (lenSec : Nat) (line : Text) : Line :=
  let sp := skipleading line
  -- empty strings and comments
  if sp = [] ∨ sp.head? = some ';' ∨ sp.head? = some '#' then .ignored
  else
    match headerName sp with
    | some name => .header (iniStrncpy name INI_BUFFERSIZE .none)
    | none =>
      match splitSetting sp with
      | none => .ignored
      | some (key, ep) =>
        let key := iniStrncpy (striptrailing key) (INI_BUFFERSIZE - lenSec) .none
        let lenKey := key.length + 1
        let clean := cleanstring (skipleading ep)
        .setting key (iniStrncpy clean.1 (INI_BUFFERSIZE - lenSec - lenKey) clean.2)

/-! ## The line of a key -/

/-- A value as it stands in the file. -/
def quoted (v : Text) : Text :=
  if checkEnquote v = .enquote then '"' :: escaped v ++ ['"'] else v

def keyLine (k v : Text) : Text := k ++ '=' :: (quoted v ++ INI_LINETERM)

theorem keyLine_eq (k v : Text) : keyLine k v = (k ++ '=' :: quoted v) ++ ['\n'] := by
  simp [keyLine, INI_LINETERM]

/-- What `ini_browse` makes of a value that was written. -/
def readValue (v : Text) : Text := if checkEnquote v = .enquote then v else trim v

/-- A key that is read back, and that is not taken for a comment or a section. -/
structure IsKey (k : Text) : Prop where
  equals : '=' ∉ k
  newline : '\n' ∉ k
  nul : NUL ∉ k
  leading : ∀ c, k.head? = some c → isBlank c = false ∧ c ≠ ';' ∧ c ≠ '#' ∧ c ≠ '['
  trailing : ∀ c, k.getLast? = some c → isBlank c = false

theorem quoted_mem {v : Text} {c : Char} (hquote : c ≠ '"') (hslash : c ≠ '\\') (h : c ∈ quoted v) :
    c ∈ v := by
  unfold quoted at h
  split at h
  · simp only [List.mem_append, List.mem_cons] at h
    rcases h with (rfl | h) | h
    · exact absurd rfl hquote
    · unfold escaped at h
      obtain ⟨d, hd, hc⟩ := List.mem_flatMap.1 h
      split at hc
      · simp only [List.mem_cons, List.not_mem_nil, or_false] at hc
        rcases hc with hc | hc
        · exact absurd hc hslash
        · exact hc ▸ hd
      · exact List.mem_singleton.1 hc ▸ hd
    · exact absurd (by simpa using h) hquote
  · exact h

/-- A key and a value stand on one line. -/
theorem newline_not_mem {k v : Text} (hk : IsKey k) (hv : '\n' ∉ v) :
    '\n' ∉ k ++ '=' :: quoted v := by
  intro hmem
  rcases List.mem_append.1 hmem with hmem | hmem
  · exact hk.newline hmem
  · rcases List.mem_cons.1 hmem with hmem | hmem
    · exact absurd hmem (by decide)
    · exact hv (quoted_mem (by decide) (by decide) hmem)

theorem nul_not_mem_keyLine {k v : Text} (hk : IsKey k) (hv : NUL ∉ v) : NUL ∉ keyLine k v := by
  intro hmem
  rw [keyLine_eq] at hmem
  rcases List.mem_append.1 hmem with hmem | hmem
  · rcases List.mem_append.1 hmem with hmem | hmem
    · exact hk.nul hmem
    · rcases List.mem_cons.1 hmem with hmem | hmem
      · exact absurd hmem (by decide)
      · exact hv (quoted_mem (by decide) (by decide) hmem)
  · exact absurd (List.mem_singleton.1 hmem) (by decide)

theorem striptrailing_eq_self {s : Text} :
    striptrailing s = s ↔ ∀ c, s.getLast? = some c → isBlank c = false := by
  unfold striptrailing
  rw [List.rdropWhile_eq_self_iff]
  constructor
  · intro h c hc
    have hne : s ≠ [] := by
      rintro rfl
      exact absurd hc nofun
    rw [List.getLast?_eq_some_getLast hne] at hc
    obtain rfl := Option.some.inj hc
    exact Bool.not_eq_true _ ▸ h hne
  · intro h hne hblank
    have hlast := h _ (List.getLast?_eq_some_getLast hne)
    exact absurd (hblank.symm.trans hlast) nofun

theorem checkEnquote_of_plain {v : Text} (h : checkEnquote v ≠ .enquote) : IsPlain v := by
  unfold checkEnquote at h
  split at h
  · exact absurd rfl h
  · rename_i hany
    rw [Bool.or_eq_true, not_or, List.any_eq_true] at hany
    refine ⟨?_, ?_, ?_⟩
    all_goals
      intro hmem
      exact hany.1 ⟨_, hmem, by decide⟩

theorem checkEnquote_cases (v : Text) : checkEnquote v = .enquote ∨ checkEnquote v = .none := by
  unfold checkEnquote
  split
  · exact .inl rfl
  · exact .inr rfl

theorem ne_nil_of_checkEnquote {v : Text} (h : checkEnquote v = .enquote) : v ≠ [] := by
  rintro rfl
  exact absurd h (by decide)

/-- A quoted value, as it stands in front of the end of the line. -/
theorem cleanstring_quoted {v : Text} (h : checkEnquote v = .enquote) :
    cleanstring (skipleading (quoted v ++ INI_LINETERM)) = (escaped v, .dequote) := by
  have hline : quoted v ++ INI_LINETERM = '"' :: (escaped v ++ '"' :: ['\n']) := by
    unfold quoted INI_LINETERM
    rw [if_pos h]
    simp
  have hskip : skipleading ('"' :: (escaped v ++ '"' :: ['\n'])) =
      '"' :: (escaped v ++ '"' :: ['\n']) := by
    rw [skipleading_eq_self]
    intro c hc
    obtain rfl := Option.some.inj hc
    decide
  have hclean : uncomment false ('"' :: (escaped v ++ '"' :: ['\n'])) =
      '"' :: (escaped v ++ '"' :: ['\n']) := by
    have hinner : uncomment true (escaped v ++ '"' :: ['\n']) = escaped v ++ '"' :: ['\n'] :=
      uncomment_escaped ⟨by decide, by decide, by decide⟩
    have hhead := head_escaped v
    cases hesc : escaped v with
    | nil => exact absurd (escaped_eq_nil.1 hesc) (ne_nil_of_checkEnquote h)
    | cons d t =>
      rw [hesc] at hinner hhead
      have hd : d ≠ '"' := by simpa using hhead
      rw [List.cons_append] at hinner ⊢
      simp [uncomment, hd, hinner]
  have hstrip : striptrailing ('"' :: (escaped v ++ '"' :: ['\n'])) =
      '"' :: (escaped v ++ ['"']) := by
    have hcons : '"' :: (escaped v ++ '"' :: ['\n']) = '"' :: (escaped v ++ ['"']) ++ ['\n'] := by
      simp
    rw [hcons, striptrailing_newline, striptrailing_eq_self]
    intro c hc
    rw [← List.cons_append, List.getLast?_concat] at hc
    obtain rfl := Option.some.inj hc
    decide
  unfold cleanstring
  rw [hline, hskip, hclean]
  dsimp only
  rw [hstrip, if_pos]
  · rw [List.tail_cons, List.dropLast_concat]
  · constructor
    · rfl
    · rw [← List.cons_append, List.getLast?_concat]

theorem IsPlain.skipleading {s : Text} (h : IsPlain s) : IsPlain (skipleading s) := by
  have hsuffix := List.dropWhile_suffix isBlank (l := s)
  exact ⟨fun hc => h.1 (hsuffix.subset hc), fun hc => h.2.1 (hsuffix.subset hc),
    fun hc => h.2.2 (hsuffix.subset hc)⟩

/-- A value that is not quoted loses the blanks around it. -/
theorem cleanstring_plain {v : Text} (h : checkEnquote v ≠ .enquote) :
    cleanstring (skipleading (quoted v ++ INI_LINETERM)) = (trim v, .none) := by
  have hplain : IsPlain (v ++ ['\n']) := by
    obtain ⟨h₁, h₂, h₃⟩ := checkEnquote_of_plain h
    exact ⟨by simp [h₁], by simp [h₂], by simp [h₃]⟩
  have hskip := hplain.skipleading
  unfold quoted INI_LINETERM cleanstring
  rw [if_neg h, uncomment_plain hskip]
  dsimp only
  rw [trim_newline, if_neg]
  rintro ⟨hquote, -⟩
  -- the string in the buffer has no quotes, and so its front has none
  rw [← trim_newline] at hquote
  exact hskip.1 ((List.rdropWhile_prefix isBlank _).subset (List.mem_of_mem_head? hquote))

theorem writekey_eq {k v : Text} (h : (keyLine k v).length + 2 ≤ INI_BUFFERSIZE) :
    writekey k v = keyLine k v := by
  have hlen : (keyLine k v).length = k.length + 1 + (quoted v).length + 1 := by
    unfold keyLine INI_LINETERM
    simp only [List.length_append, List.length_cons, List.length_nil]
    omega
  have hkey : iniStrncpy k (INI_BUFFERSIZE - 3) .none = k := by
    unfold iniStrncpy
    rw [if_neg (by simp)]
    exact List.take_of_length_le (by omega)
  have hvalue : iniStrncpy v (INI_BUFFERSIZE - (k ++ ['=']).length - 2) (checkEnquote v) =
      quoted v := by
    rw [List.length_append, List.length_singleton]
    unfold iniStrncpy quoted at *
    by_cases hq : checkEnquote v = .enquote
    · rw [if_pos hq] at hlen
      simp only [List.length_append, List.length_cons, List.length_nil] at hlen
      rw [if_neg (by rintro ⟨-, hmax⟩; omega), hq, if_pos rfl]
      dsimp only
      rw [enquote_eq (by omega)]
    · have hnone := (checkEnquote_cases v).resolve_left hq
      rw [if_neg hq] at hlen
      rw [hnone, if_neg (by simp), if_neg (by simp)]
      exact List.take_of_length_le (by omega)
  unfold writekey
  dsimp only
  rw [hkey, hvalue]
  simp [keyLine]

theorem length_enquote_le (room : Nat) (s : Text) : (enquote room s).length ≤ room := by
  induction s generalizing room with
  | nil => cases room <;> simp [enquote]
  | cons c s ih =>
    cases room with
    | zero => simp [enquote]
    | succ room =>
      simp only [enquote]
      split
      · split
        · simp
        · have hle := ih (room - 1)
          simp only [List.length_cons]
          omega
      · have hle := ih room
        simp only [List.length_cons]
        omega

/-- A line that is written has room in the buffer, whatever the key and the value are. -/
theorem length_writekey_lt (k v : Text) : (writekey k v).length + 1 < INI_BUFFERSIZE := by
  have hsize : INI_BUFFERSIZE = 512 := rfl
  have hterm : INI_LINETERM.length = 1 := rfl
  have hkey : (iniStrncpy k (INI_BUFFERSIZE - 3) .none).length ≤ INI_BUFFERSIZE - 4 := by
    unfold iniStrncpy
    rw [if_neg (by simp)]
    exact List.length_take_le _ _
  have hvalue : ∀ n, 0 < n → (iniStrncpy v n (checkEnquote v)).length < n := by
    intro n hn
    have hle := length_enquote_le (n - 3) v
    have htake := List.length_take_le (n - 1) v
    unfold iniStrncpy
    rcases checkEnquote_cases v with hq | hq
    · rw [hq]
      by_cases hshort : n < 3
      · rw [if_pos ⟨rfl, hshort⟩]
        dsimp only
        omega
      · rw [if_neg (by simp [hshort])]
        simp only [List.length_append, List.length_cons, List.length_nil]
        omega
    · rw [hq, if_neg (by simp)]
      dsimp only
      omega
  unfold writekey
  simp only [List.length_append, List.length_cons, List.length_nil]
  have hn := hvalue (INI_BUFFERSIZE -
    ((iniStrncpy k (INI_BUFFERSIZE - 3) .none).length + (0 + 1)) - 2) (by omega)
  omega

/-- A key that is written begins with a character that is not NUL. -/
theorem cstr_writekey_ne_nil {k v : Text} (hk : NUL ∉ k) :
    LineFile.cstr (writekey k v) ≠ [] := by
  unfold writekey iniStrncpy
  rw [if_neg (by simp)]
  dsimp only
  cases k with
  | nil => simp [LineFile.cstr, show ('=' : Char) ≠ NUL by decide]
  | cons c k =>
    have hc : c ≠ NUL := fun h => hk (h ▸ List.mem_cons_self)
    simp [LineFile.cstr, INI_BUFFERSIZE, hc]

theorem length_trim_le (s : Text) : (trim s).length ≤ s.length :=
  Nat.le_trans (List.rdropWhile_prefix isBlank _).length_le
    (List.length_dropWhile_le isBlank s)

/-- The first character of the line is the first one of the key, or the equal sign. -/
theorem head_keyLine {k v : Text} (hk : IsKey k) {c : Char} (hc : (keyLine k v).head? = some c) :
    isBlank c = false ∧ c ≠ ';' ∧ c ≠ '#' ∧ c ≠ '[' := by
  cases k with
  | nil =>
    obtain rfl := Option.some.inj hc
    decide
  | cons d k => exact hk.leading c hc

theorem skipleading_keyLine {k : Text} (hk : IsKey k) (v : Text) :
    skipleading (keyLine k v) = keyLine k v :=
  skipleading_eq_self.2 fun _ hc => (head_keyLine hk hc).1

/-- **The line of a key is read back**: the value as it was if it is quoted, else without the
blanks around it. -/
theorem parseLine_keyLine {k v : Text} {lenSec : Nat} (hk : IsKey k)
    (h : lenSec + (keyLine k v).length < INI_BUFFERSIZE) :
    parseLine lenSec (keyLine k v) = .setting k (readValue v) := by
  have hlen : (keyLine k v).length = k.length + 1 + (quoted v).length + 1 := by
    unfold keyLine INI_LINETERM
    simp only [List.length_append, List.length_cons, List.length_nil]
    omega
  have hkey : iniStrncpy (striptrailing k) (INI_BUFFERSIZE - lenSec) .none = k := by
    rw [striptrailing_eq_self.2 hk.trailing]
    unfold iniStrncpy
    rw [if_neg (by simp)]
    exact List.take_of_length_le (by omega)
  have hheader : headerName (keyLine k v) = none :=
    if_neg fun hc => (head_keyLine hk hc).2.2.2 rfl
  have hcut : splitSetting (keyLine k v) = some (k, quoted v ++ INI_LINETERM) := by
    unfold splitSetting
    have hstrchr : strchr (keyLine k v) '=' = some (k, quoted v ++ INI_LINETERM) :=
      strchr_append hk.equals _
    rw [hstrchr, Option.some_or]
  unfold parseLine
  dsimp only
  rw [skipleading_keyLine hk, if_neg, hheader]
  · dsimp only
    rw [hcut]
    dsimp only
    rw [hkey]
    unfold readValue quoted at *
    by_cases hq : checkEnquote v = .enquote
    · have hclean := cleanstring_quoted hq
      unfold quoted at hclean
      have hle := length_le_escaped v
      rw [if_pos hq] at hlen
      simp only [List.length_append, List.length_cons, List.length_nil] at hlen
      rw [hclean, if_pos hq]
      unfold iniStrncpy
      rw [if_neg (by simp)]
      dsimp only
      rw [dequote_escaped (by omega)]
    · have hclean := cleanstring_plain hq
      unfold quoted at hclean
      have hle := length_trim_le v
      rw [if_neg hq] at hlen
      rw [hclean, if_neg hq]
      unfold iniStrncpy
      rw [if_neg (by simp)]
      dsimp only
      rw [List.take_of_length_le (by omega)]
  · rintro (hnil | hc | hc)
    · rw [hnil] at hlen
      simp at hlen
    · exact (head_keyLine hk hc).2.1 rfl
    · exact (head_keyLine hk hc).2.2.1 rfl

/-- **A value survives the file exactly if it is quoted or has no blanks around it.** -/
theorem readValue_eq_self {v : Text} :
    readValue v = v ↔ checkEnquote v = .enquote ∨
      ∀ c, v.head? = some c ∨ v.getLast? = some c → isBlank c = false := by
  unfold readValue
  split
  · rename_i h
    simp [h]
  · rename_i h
    constructor
    · intro htrim
      right
      -- stripping at one end and at the other removes nothing
      have hle := (List.rdropWhile_prefix isBlank (skipleading v)).length_le
      have hsuffix := List.dropWhile_suffix isBlank (l := v)
      have hlen := congrArg List.length htrim
      have hskip : skipleading v = v := by
        apply hsuffix.eq_of_length_le
        unfold trim striptrailing at hlen
        unfold skipleading at hle hlen
        omega
      unfold trim at htrim
      rw [hskip] at htrim
      rintro c (hc | hc)
      · exact skipleading_eq_self.1 hskip c hc
      · exact striptrailing_eq_self.1 htrim c hc
    · rintro (hq | hends)
      · exact absurd hq h
      · unfold trim
        rw [skipleading_eq_self.2 fun c hc => hends c (.inl hc),
          striptrailing_eq_self.2 fun c hc => hends c (.inr hc)]

/-! ## The line of a section -/

def sectionLine (name : Text) : Text := '[' :: (name ++ ']' :: INI_LINETERM)

theorem sectionLine_eq (name : Text) : sectionLine name = '[' :: (name ++ [']']) ++ ['\n'] := by
  simp [sectionLine, INI_LINETERM]

theorem writesection_eq {name : Text} (hne : name ≠ [])
    (h : (sectionLine name).length + 2 ≤ INI_BUFFERSIZE) : writesection name = sectionLine name := by
  have hlen : (sectionLine name).length = name.length + 3 := by
    unfold sectionLine INI_LINETERM
    simp
  unfold writesection iniStrncpy
  rw [if_neg hne, if_neg (by simp)]
  dsimp only
  rw [List.take_of_length_le (by omega)]
  simp [sectionLine]

/-- **The line of a section is read back.** -/
theorem parseLine_sectionLine {name : Text} (h : name.length < INI_BUFFERSIZE) (lenSec : Nat) :
    parseLine lenSec (sectionLine name) = .header name := by
  have hskip : skipleading (sectionLine name) = sectionLine name := by
    rw [skipleading_eq_self]
    intro c hc
    obtain rfl := Option.some.inj hc
    decide
  have hcut : headerName (sectionLine name) = some name :=
    (if_pos rfl).trans (strrchr_append (by decide) name)
  unfold parseLine
  dsimp only
  rw [hskip, if_neg (by simp [sectionLine]), hcut]
  unfold iniStrncpy
  rw [if_neg (by simp)]
  dsimp only
  rw [List.take_of_length_le (by omega)]

/-! ## The end of a line -/

theorem uncomment_newline (isstring : Bool) (s : Text) :
    uncomment isstring (s ++ ['\n']) = uncomment isstring s ∨
      uncomment isstring (s ++ ['\n']) = uncomment isstring s ++ ['\n'] := by
  fun_induction uncomment isstring s with
  | case1 isstring => cases isstring <;> exact .inr rfl
  | case2 isstring c string hstop =>
    left
    unfold uncomment
    exact if_pos hstop
  | case3 isstring c hgo =>
    right
    unfold uncomment
    rw [List.singleton_append]
    dsimp only
    rw [if_neg hgo]
    by_cases hquote : c = '"' <;> cases isstring <;> simp [uncomment, hquote]
  | case4 isstring c hgo d behind hpair ih =>
    rw [List.cons_append, List.cons_append, uncomment, if_neg hgo, if_pos hpair]
    simpa using ih
  | case5 isstring d behind hgo hpair ih =>
    rw [List.cons_append, List.cons_append, uncomment, if_neg hgo, if_neg hpair, if_pos rfl]
    simpa using ih
  | case6 isstring c hgo d behind hpair hquote hslash ih =>
    rw [List.cons_append, List.cons_append, uncomment, if_neg hgo, if_neg hpair, if_neg hquote,
      if_pos hslash]
    simpa using ih
  | case7 isstring c hgo d behind hpair hquote hslash ih =>
    rw [List.cons_append, List.cons_append, uncomment, if_neg hgo, if_neg hpair, if_neg hquote,
      if_neg hslash]
    simpa using ih

theorem skipleading_newline (s : Text) :
    skipleading s = [] ∧ skipleading (s ++ ['\n']) = [] ∨
      skipleading s ≠ [] ∧ skipleading (s ++ ['\n']) = skipleading s ++ ['\n'] := by
  by_cases h : skipleading s = []
  · left
    refine ⟨h, ?_⟩
    rw [skipleading_eq_nil] at h ⊢
    intro c hc
    rcases List.mem_append.1 hc with hc | hc
    · exact h c hc
    · rw [List.mem_singleton.1 hc]
      exact isBlank_newline
  · exact .inr ⟨h, skipleading_append h _⟩

theorem cleanstring_newline (s : Text) :
    cleanstring (skipleading (s ++ ['\n'])) = cleanstring (skipleading s) := by
  rcases skipleading_newline s with ⟨h, h'⟩ | ⟨-, h'⟩
  · rw [h, h']
  · unfold cleanstring
    rw [h']
    rcases uncomment_newline false (skipleading s) with hclean | hclean
    · rw [hclean]
    · rw [hclean, striptrailing_newline]

theorem strchr_newline (s : Text) {c : Char} (hc : c ≠ '\n') :
    strchr (s ++ ['\n']) c = (strchr s c).map fun r => (r.1, r.2 ++ ['\n']) := by
  by_cases h : c ∈ s
  · obtain ⟨front, back, rfl, hfront⟩ := List.eq_append_cons_of_mem h
    rw [List.append_assoc, List.cons_append, strchr_append hfront, strchr_append hfront]
    rfl
  · rw [strchr_eq_none h, strchr_eq_none]
    · rfl
    · simp [h, hc]

theorem strrchr_newline (s : Text) : strrchr (s ++ ['\n']) ']' = strrchr s ']' := by
  unfold strrchr
  rw [List.rdropWhile_concat_pos _ _ _ (by decide)]
  simp

theorem headerName_newline {sp : Text} (h : sp ≠ []) :
    headerName (sp ++ ['\n']) = headerName sp := by
  obtain ⟨c, sp, rfl⟩ := List.exists_cons_of_ne_nil h
  unfold headerName
  rw [List.cons_append, List.tail_cons, List.tail_cons, strrchr_newline]
  rfl

theorem splitSetting_newline (sp : Text) :
    splitSetting (sp ++ ['\n']) = (splitSetting sp).map fun r => (r.1, r.2 ++ ['\n']) := by
  unfold splitSetting
  rw [strchr_newline _ (by decide), strchr_newline _ (by decide)]
  cases strchr sp '=' <;> rfl

/-- **The end of a line makes no difference** to what it is. -/
theorem parseLine_newline (lenSec : Nat) (l : Text) :
    parseLine lenSec (l ++ ['\n']) = parseLine lenSec l := by
  unfold parseLine
  rcases skipleading_newline l with ⟨h, h'⟩ | ⟨h, h'⟩
  · rw [h, h']
  · have hhead : (skipleading l ++ ['\n']).head? = (skipleading l).head? := by
      obtain ⟨c, sp, hsp⟩ := List.exists_cons_of_ne_nil h
      rw [hsp]
      rfl
    dsimp only
    rw [h', headerName_newline h, splitSetting_newline, hhead]
    split
    · rename_i hignored
      rw [if_pos (hignored.imp_left fun hnil => absurd hnil (by simp))]
    · rename_i hkept
      rw [if_neg fun hignored => hkept (hignored.imp_left fun hnil => absurd hnil h)]
      cases headerName (skipleading l) with
      | some name => rfl
      | none =>
        cases splitSetting (skipleading l) with
        | none => rfl
        | some cut =>
          obtain ⟨key, ep⟩ := cut
          simp only [Option.map_some]
          rw [cleanstring_newline]

end SwitchOc.MinIni
