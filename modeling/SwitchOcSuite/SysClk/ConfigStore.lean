import SwitchOcSuite.MinIni.Saves
import SwitchOcSuite.SysClk.ConfigValues
import SwitchOcSuite.SysClk.ProfileBuffers
import SwitchOcSuite.SysClk.ProfileCount

/-!
# The configuration and its file

`SetProfiles` and `SetConfigValues` save to the INI file first and change the maps in
memory then; `Load` drops the maps and reads the file.  With the functions of `minIni`
as they are, a reload finds what is in memory, however many saves there were.

    writable_profiles, writable_values   what is saved is written and read as it is
    call_consistent                      one call keeps file and memory the same
    reload_changes_nothing               after any calls a reload changes nothing
-/

namespace SwitchOc.SysClk

open CText CString LineFile MinIni

/-! ## Keys and values -/

/-- A value of digits, with or without a sign. -/
def IsInteger (s : Text) : Prop := ∀ c ∈ s, (∃ d, digitValue c = some d) ∨ c = '-'

theorem isInteger_printInt (x : UInt32) : IsInteger (printInt x) := by
  have hdigits : ∀ n, ∀ c ∈ Nat.toDigits 10 n, ∃ d, digitValue c = some d := by
    intro n c hc
    obtain ⟨d, -, hd⟩ := isNumeral_decimal n c hc
    exact ⟨d, hd⟩
  unfold printInt
  split
  · exact fun c hc => .inl (hdigits _ c hc)
  · rintro c hc
    rcases List.mem_cons.1 hc with rfl | hc
    · exact .inr rfl
    · exact .inl (hdigits _ c hc)

theorem isInteger_printLong (x : UInt64) : IsInteger (printLong x) := by
  have hdigits : ∀ n, ∀ c ∈ Nat.toDigits 10 n, ∃ d, digitValue c = some d := by
    intro n c hc
    obtain ⟨d, -, hd⟩ := isNumeral_decimal n c hc
    exact ⟨d, hd⟩
  unfold printLong
  split
  · exact fun c hc => .inl (hdigits _ c hc)
  · rintro c hc
    rcases List.mem_cons.1 hc with rfl | hc
    · exact .inr rfl
    · exact .inl (hdigits _ c hc)

theorem length_printLong_le (x : UInt64) : (printLong x).length ≤ 20 := by
  have hx := x.toNat_lt
  have hdigits : ∀ n < 2 ^ 63 + 1, (Nat.toDigits 10 n).length ≤ 19 := by
    intro n hn
    exact (Nat.length_toDigits_le_iff (by omega) (by omega)).2 (by omega)
  unfold printLong
  split
  · have hle := hdigits x.toNat (by omega)
    omega
  · have hle := hdigits (2 ^ 64 - x.toNat) (by omega)
    rw [List.length_cons]
    omega

section
variable {v : Text} (h : IsInteger v)
include h

theorem IsInteger.ne {c d : Char} (hc : c ∈ v) (hd : digitValue d = none) (hminus : d ≠ '-') :
    c ≠ d := by
  rintro rfl
  rcases h c hc with ⟨n, hn⟩ | rfl
  · exact absurd (hd.symm.trans hn) nofun
  · exact hminus rfl

theorem IsInteger.not_mem {d : Char} (hd : digitValue d = none) (hminus : d ≠ '-') : d ∉ v :=
  fun hmem => h.ne hmem hd hminus rfl

theorem IsInteger.not_blank {c : Char} (hc : c ∈ v) : isBlank c = false := by
  rcases h c hc with ⟨n, hn⟩ | rfl
  · -- the digits are above the blanks
    unfold isBlank
    rw [Bool.and_eq_false_iff]
    right
    apply decide_eq_false
    intro hle
    unfold digitValue at hn
    have hle' : c.toNat ≤ 32 := hle
    have hlow : ∀ d : Char, 33 ≤ d.toNat → ¬d ≤ c := fun d hd hdc =>
      absurd (show d.toNat ≤ c.toNat from hdc) (by omega)
    rw [if_neg fun hc => hlow '0' (by decide) hc.1, if_neg fun hc => hlow 'A' (by decide) hc.1,
      if_neg fun hc => hlow 'a' (by decide) hc.1] at hn
    exact absurd hn nofun
  · decide

/-- **A number is written without quotes and read as it is.** -/
theorem IsInteger.read : readValue v = v ∧ quoted v = v := by
  have hplain : checkEnquote v ≠ .enquote := by
    unfold checkEnquote
    rw [if_neg]
    · nofun
    · rw [Bool.or_eq_true, List.any_eq_true, decide_eq_true_eq]
      rintro (⟨c, hc, hspecial⟩ | hlast)
      · simp only [Bool.or_eq_true, decide_eq_true_eq] at hspecial
        rcases hspecial with (hspecial | hspecial) | hspecial
        · exact h.ne hc (by decide) (by decide) hspecial
        · exact h.ne hc (by decide) (by decide) hspecial
        · exact h.ne hc (by decide) (by decide) hspecial
      · exact h.ne (List.mem_of_getLast? hlast) (by decide) (by decide) rfl
  refine ⟨readValue_eq_self.2 (.inr ?_), if_neg hplain⟩
  rintro c (hc | hc)
  · exact h.not_blank (List.mem_of_mem_head? hc)
  · exact h.not_blank (List.mem_of_getLast? hc)

end

instance (k : Text) : Decidable (IsKey k) :=
  decidable_of_iff ('=' ∉ k ∧ '\n' ∉ k ∧ NUL ∉ k ∧
      (k.head?.all fun c => !isBlank c && c != ';' && c != '#' && c != '[') = true ∧
      (k.getLast?.all fun c => !isBlank c) = true) <| by
    constructor
    · rintro ⟨h₁, h₂, h₃, h₄, h₅⟩
      refine ⟨h₁, h₂, h₃, ?_, ?_⟩
      · intro c hc
        rw [hc] at h₄
        simpa [and_assoc] using h₄
      · intro c hc
        rw [hc] at h₅
        simpa using h₅
    · rintro ⟨h₁, h₂, h₃, h₄, h₅⟩
      refine ⟨h₁, h₂, h₃, ?_, ?_⟩
      · cases hc : k.head? with
        | none => rfl
        | some c => simpa [and_assoc] using h₄ c hc
      · cases hc : k.getLast? with
        | none => rfl
        | some c => simpa using h₅ c hc

theorem isKey_profileKey (profile : SysClkProfile) (module : SysClkModule) :
    IsKey (Config.profileKey profile module) := by
  cases profile <;> cases module <;> decide +kernel

theorem isKey_governor : IsKey Config.CONFIG_KEY_TITLE_GOVERNOR_CONFIG := by decide +kernel

theorem isKey_configValue (kval : SysClkConfigValue) :
    IsKey (sysclkFormatConfigValue kval) ∧ (sysclkFormatConfigValue kval).length ≤ 22 := by
  cases kval <;> decide +kernel

/-- Room for the sections of titles, and for lines of 85 characters behind them. -/
def IsWidth (W : Nat) : Prop := 16 ≤ W ∧ W ≤ 400

/-- A pair that the configuration saves. -/
structure IsSaved (kv : Text × Text) : Prop where
  key : IsKey kv.1
  short : kv.1.length < 64
  integer : IsInteger kv.2
  fits : kv.2.length ≤ 20

theorem writable_of {W : Nat} (hW : IsWidth W) {Section : Text} {pairs : List (Text × Text)}
    (hne : Section ≠ []) (hlen : Section.length ≤ 16) (hnewline : '\n' ∉ Section)
    (hnul : NUL ∉ Section) (hpairs : ∀ kv ∈ pairs, IsSaved kv) :
    Writable W Section pairs ∧ readPairs pairs = pairs := by
  obtain ⟨hlow, hhigh⟩ := hW
  have hsize : INI_BUFFERSIZE = 512 := rfl
  have hsection : (sectionLine Section).length = Section.length + 3 := by
    simp [sectionLine, INI_LINETERM]
  refine ⟨⟨hne, hnewline, hnul, by omega, by omega, fun kv hkv => (hpairs kv hkv).key, ?_, ?_⟩, ?_⟩
  · intro kv hkv
    have hint := (hpairs kv hkv).integer
    exact ⟨hint.not_mem (by decide) (by decide), hint.not_mem (by decide) (by decide)⟩
  · intro kv hkv
    obtain ⟨hkey, hshort, hint, hfits⟩ := hpairs kv hkv
    have hline : (keyLine kv.1 kv.2).length = kv.1.length + kv.2.length + 2 := by
      unfold keyLine INI_LINETERM
      rw [hint.read.2]
      simp only [List.length_append, List.length_cons, List.length_nil]
      omega
    omega
  · unfold readPairs
    have hcongr := List.map_congr_left (g := id) fun (kv : Text × Text) hkv =>
      show (kv.1, readValue kv.2) = id kv by rw [(hpairs kv hkv).integer.read.1]; rfl
    rw [hcongr, List.map_id]

theorem isSaved_profileEntries (profiles : SysClkTitleProfileList) :
    ∀ kv ∈ Config.profileEntries profiles, IsSaved kv := by
  intro kv hkv
  have hint : ∀ x : UInt32, IsInteger (printInt x) ∧ (printInt x).length ≤ 20 := fun x =>
    ⟨isInteger_printInt x,
      Nat.le_of_lt (Nat.lt_of_lt_of_le (ProfileBuffers.printInt_fits x).1 (by decide))⟩
  unfold Config.profileEntries at hkv
  rcases List.mem_append.1 hkv with hkv | hkv
  · obtain ⟨slot, -, hslot⟩ := List.mem_filterMap.1 hkv
    dsimp only at hslot
    split at hslot
    · obtain rfl := Option.some.inj hslot
      exact ⟨isKey_profileKey _ _, (ProfileBuffers.profileKey_fits _ _).1, (hint _).1, (hint _).2⟩
    · exact absurd hslot nofun
  · split at hkv
    · obtain rfl := List.mem_singleton.1 hkv
      exact ⟨isKey_governor, ProfileBuffers.governorKey_fits.1, (hint _).1, (hint _).2⟩
    · exact absurd hkv (List.not_mem_nil)

theorem isSaved_configValueEntries (values : SysClkConfigValue → UInt64) :
    ∀ kv ∈ Config.configValueEntries values, IsSaved kv := by
  intro kv hkv
  obtain ⟨kval, -, hkval⟩ := List.mem_filterMap.1 hkv
  split at hkval
  · exact absurd hkval nofun
  · obtain rfl := Option.some.inj hkval
    obtain ⟨hkey, hlen⟩ := isKey_configValue kval
    exact ⟨hkey, Nat.lt_of_le_of_lt hlen (by decide), isInteger_printLong _, length_printLong_le _⟩

/-- **Profiles are written and read as they are.** -/
theorem writable_profiles {W : Nat} (hW : IsWidth W) (tid : UInt64)
    (profiles : SysClkTitleProfileList) :
    Writable W (printHex16 tid) (Config.profileEntries profiles) ∧
      readPairs (Config.profileEntries profiles) = Config.profileEntries profiles := by
  have hnumeral := isNumeral_hex16 tid
  have hlen := length_printHex16 tid
  refine writable_of hW ?_ (by omega) ?_ (ProfileBuffers.nul_notMem_of_numeral hnumeral)
    (isSaved_profileEntries profiles)
  · rintro hnil
    rw [hnil] at hlen
    exact absurd hlen (by decide)
  · intro hmem
    obtain ⟨d, -, hd⟩ := hnumeral '\n' hmem
    exact absurd hd nofun

/-- **Configuration values are written and read as they are.** -/
theorem writable_values {W : Nat} (hW : IsWidth W) (values : SysClkConfigValue → UInt64) :
    Writable W Config.CONFIG_VAL_SECTION (Config.configValueEntries values) ∧
      readPairs (Config.configValueEntries values) = Config.configValueEntries values :=
  writable_of hW (by decide) (by decide) (by decide) (by decide) (isSaved_configValueEntries values)

/-! ## Sections of titles -/

theorem toUpper_toUpper (c : Char) : c.toUpper.toUpper = c.toUpper := by
  have hle : ∀ d : Char, ('a' ≤ d ∧ d ≤ 'z') ↔ 97 ≤ d.toNat ∧ d.toNat ≤ 122 := fun d => Iff.rfl
  have hupper := upper_eq c
  have htwice := upper_eq c.toUpper
  unfold upper at hupper htwice
  rw [show (('A'.toNat : Nat) : Int) - ('a'.toNat : Nat) = -32 by decide] at hupper htwice
  apply Char.toNat_inj.1
  split at hupper
  · rename_i hc
    rw [hle] at hc
    rw [if_neg (by rw [hle]; omega)] at htwice
    omega
  · rename_i hc
    rw [hle] at hc
    rw [if_neg (by rw [hle]; omega)] at htwice
    omega

theorem map_toUpper_printHex16 (x : UInt64) : (printHex16 x).map Char.toUpper = printHex16 x := by
  unfold printHex16
  simp only [List.map_append, List.map_replicate, List.map_map]
  congr 1
  exact List.map_congr_left fun c _ => toUpper_toUpper c

theorem sameName_printHex16 {a b : UInt64} (h : sameName (printHex16 a) (printHex16 b) = true) :
    a = b := by
  have hmap := of_decide_eq_true h
  rw [map_toUpper_printHex16, map_toUpper_printHex16] at hmap
  rw [← strtoul_hex16 a, hmap, strtoul_hex16]

theorem length_of_sameName {a b : Text} (h : sameName a b = true) : a.length = b.length := by
  have hmap := congrArg List.length (of_decide_eq_true h)
  simpa using hmap

/-- No two sections have one name up to case, and the section of a title has the name that
`SetProfiles` would give it. -/
structure Canonical (file : IniFile) : Prop where
  title : ∀ s ∈ file, ∀ tid, Config.sectionTitle s.name = some tid → s.name = printHex16 tid
  once : file.Pairwise fun s t => sameName s.name t.name = false

theorem iniPutSection_cases (name : Text) (pairs : List (Text × Text)) (file : IniFile) :
    (∃ pre s post, file = pre ++ s :: post ∧ sameName s.name name = true ∧
      iniPutSection name pairs file = pre ++ (putSection name pairs ++ post)) ∨
    (∀ s ∈ file, sameName s.name name = false) ∧
      iniPutSection name pairs file = file ++ putSection name pairs := by
  induction file with
  | nil => exact .inr ⟨by simp, by simp [iniPutSection]⟩
  | cons s file ih =>
    by_cases h : sameName s.name name = true
    · exact .inl ⟨[], s, file, rfl, h, by simp [iniPutSection, h]⟩
    · rcases ih with ⟨pre, t, post, rfl, ht, hput⟩ | ⟨hnone, hput⟩
      · exact .inl ⟨s :: pre, t, post, rfl, ht, by simp [iniPutSection, h, hput]⟩
      · refine .inr ⟨?_, by simp [iniPutSection, h, hput]⟩
        intro t ht
        rcases List.mem_cons.1 ht with rfl | ht
        · exact Bool.not_eq_true _ ▸ h
        · exact hnone t ht

theorem mem_putSection {name : Text} {pairs : List (Text × Text)} {s : IniSection}
    (h : s ∈ putSection name pairs) : s = ⟨name, pairs⟩ := by
  unfold putSection at h
  split at h
  · exact absurd h (List.not_mem_nil)
  · exact List.mem_singleton.1 h

section
variable {name : Text} {pairs : List (Text × Text)} {file : IniFile}

/-- Entries that neither the old nor the new section has. -/
theorem filterMap_iniPutSection {β : Type} {f : Text × Text × Text → Option β}
    (hnew : ∀ kv, f (name, kv) = none)
    (hold : ∀ s ∈ file, sameName s.name name = true → ∀ kv, f (s.name, kv) = none) :
    (iniBrowse (iniPutSection name pairs file)).filterMap f = (iniBrowse file).filterMap f := by
  have hput : (iniBrowse (putSection name pairs)).filterMap f = [] := by
    rw [iniBrowse_putSection, List.filterMap_eq_nil_iff]
    intro e he
    obtain ⟨kv, -, rfl⟩ := List.mem_map.1 he
    exact hnew kv
  rcases iniPutSection_cases name pairs file with ⟨pre, s, post, rfl, hs, hcase⟩ | ⟨-, hcase⟩
  · have hgone : (iniBrowse [s]).filterMap f = [] := by
      rw [List.filterMap_eq_nil_iff]
      intro e he
      have he' : e ∈ s.pairs.map fun kv => (s.name, kv) := by simpa [iniBrowse] using he
      obtain ⟨kv, -, rfl⟩ := List.mem_map.1 he'
      exact hold s (by simp) hs kv
    have hcons : s :: post = [s] ++ post := rfl
    rw [hcase, hcons]
    simp only [iniBrowse_append, List.filterMap_append, hput, hgone]
  · rw [hcase, iniBrowse_append, List.filterMap_append, hput, List.append_nil]

variable (hc : Canonical file)
include hc

theorem Canonical.put (hname : ∀ tid, Config.sectionTitle name = some tid → name = printHex16 tid) :
    Canonical (iniPutSection name pairs file) := by
  obtain ⟨htitle, honce⟩ := hc
  have hcongr : ∀ {a b c : Text}, sameName b c = true → sameName a b = false →
      sameName a c = false := by
    intro a b c hbc hab
    unfold sameName at hab hbc ⊢
    rw [decide_eq_true_eq] at hbc
    rwa [← hbc]
  have hsymm : ∀ {a b : Text}, sameName a b = sameName b a := by
    intro a b
    unfold sameName
    rw [decide_eq_decide]
    exact eq_comm
  rcases iniPutSection_cases name pairs file with ⟨pre, s, post, rfl, hs, hput⟩ | ⟨hnone, hput⟩
  · rw [hput]
    constructor
    · intro t ht tid htid
      rcases List.mem_append.1 ht with ht | ht
      · exact htitle t (by simp [ht]) tid htid
      · rcases List.mem_append.1 ht with ht | ht
        · obtain rfl := mem_putSection ht
          exact hname tid htid
        · exact htitle t (by simp [ht]) tid htid
    · rw [List.pairwise_append, List.pairwise_cons] at honce
      obtain ⟨hpre, ⟨hpost, hposts⟩, hcross⟩ := honce
      have hsection : (putSection name pairs).Pairwise
          fun s t => sameName s.name t.name = false := by
        unfold putSection
        split <;> simp
      rw [List.pairwise_append, List.pairwise_append]
      refine ⟨hpre, ⟨hsection, hposts, ?_⟩, ?_⟩
      · intro a ha b hb
        obtain rfl := mem_putSection ha
        rw [hsymm]
        exact hcongr hs (hsymm.trans (hpost b hb))
      · intro a ha b hb
        rcases List.mem_append.1 hb with hb | hb
        · obtain rfl := mem_putSection hb
          exact hcongr hs (hcross a ha s List.mem_cons_self)
        · exact hcross a ha b (List.mem_cons_of_mem _ hb)
  · rw [hput]
    constructor
    · intro t ht tid htid
      rcases List.mem_append.1 ht with ht | ht
      · exact htitle t ht tid htid
      · obtain rfl := mem_putSection ht
        exact hname tid htid
    · rw [List.pairwise_append]
      refine ⟨honce, ?_, ?_⟩
      · unfold putSection
        split <;> simp
      · intro a ha b hb
        obtain rfl := mem_putSection hb
        exact hnone a ha

/-- The section is the only one with its name. -/
theorem Canonical.replaces (pairs : List (Text × Text)) :
    Replaces name pairs (iniBrowse file) (iniBrowse (iniPutSection name pairs file)) := by
  apply iniPutSection_replaces
  intro t ht hname
  have hsame : sameName t.name name = true := by
    rw [hname]
    exact decide_eq_true rfl
  unfold otherSections at ht
  obtain ⟨s, pre, post, hpre, hs, hfile, herase⟩ :=
    List.exists_of_eraseP (p := fun s => sameName s.name name) (List.mem_of_mem_eraseP ht) hsame
  rw [herase] at ht
  rcases List.mem_append.1 ht with ht | ht
  · exact hpre t ht hsame
  · have honce := hc.once
    rw [hfile, List.pairwise_append, List.pairwise_cons] at honce
    have hdiffer := honce.2.1.1 t ht
    rw [hname] at hdiffer
    exact absurd (hdiffer.symm.trans hs) nofun

end

/-! ## Calls -/

/-- The configuration in memory and the text of its file, `none` without a file. -/
structure ConfigStore where
  config : Config
  file : Option Text

namespace ConfigStore

/-- The name of the temporary file. -/
def tempname : Text := "/config/sys-clk-oc/config.in~".toList

/-- `ini_putsection` on the file, in as many rounds as it has characters and one more; `none` for a
failure. -/
def putsection (canWrite : Bool) (file : Option Text) (Section : Text)
    (pairs : List (Text × Text)) : Option Text :=
  (iniPutsection canWrite tempname ((file.getD []).length + 1) Section pairs file).join

/-- What `ini_browse` reports of the file. -/
def fileEntries (file : Option Text) : List (Text × Text × Text) :=
  MinIni.entries [] (file.getD [])

/-- What another thread can have the configuration do: save, with a file that can be written or
not, and load the file that has changed. -/
inductive Call where
  | setProfiles (canWrite : Bool) (tid : UInt64) (profiles : SysClkTitleProfileList)
  | setConfigValues (canWrite : Bool) (values : SysClkConfigValue → UInt64)
  | load (mtime : Int)

def call (maxMemFreq : UInt32) (s : ConfigStore) : Call → Except Fault ConfigStore
  | .setProfiles canWrite tid profiles =>
    match s.config.setProfiles (putsection canWrite s.file) tid profiles with
    | .error fault => .error fault
    | .ok (saved, config) => .ok ⟨config, saved.or s.file⟩
  | .setConfigValues canWrite values =>
    let result := s.config.setConfigValues (putsection canWrite s.file) values
    .ok ⟨result.2, result.1.or s.file⟩
  | .load mtime => .ok ⟨s.config.load maxMemFreq mtime (fileEntries s.file), s.file⟩

/-- A call that the clients make: a title, frequencies that a load keeps, governor flags, and no
more strings than there are buffers for. -/
def Call.Valid (maxMemFreq : UInt32) : Call → Prop
  | .setProfiles _ tid profiles => tid ≠ 0 ∧
      (∀ profile, profiles.mhzMap profile .mem ≤ 1600 ∨
        profiles.mhzMap profile .mem = maxMemFreq / 1000000) ∧
      profiles.governorConfig &&& SysClkOcGovernorConfig_Default = profiles.governorConfig ∧
      ¬(Config.numProfiles profiles = 15 ∧
        profiles.governorConfig ≠ SysClkOcGovernorConfig_Default)
  | .setConfigValues _ _ => True
  | .load mtime => mtime ≠ 0

/-- Titles that the functions of `Config` do not tell apart. -/
def SameTitle (t t' : Title) : Prop :=
  t.mhz = t'.mhz ∧ t.count.getD 0 = t'.count.getD 0 ∧ t.governor = t'.governor

/-- The title, and the values, that a load would find. -/
def loadedTitle (maxMemFreq : UInt32) (file : IniFile) (tid : UInt64) : Title :=
  (Config.titleLines tid (iniBrowse file)).foldl (Title.browse maxMemFreq) Title.empty

def loadedValues (file : IniFile) : SysClkConfigValue → UInt64 :=
  Config.setValues (((iniBrowse file).filter fun e => e.1 = Config.CONFIG_VAL_SECTION).map Prod.snd)
    sysclkDefaultConfigValue

/-- The file can be rewritten and read, and has what is in memory. -/
structure Consistent (W : Nat) (maxMemFreq : UInt32) (s : ConfigStore) : Prop where
  loaded : s.config.loaded = true
  tidy : Tidy W (s.file.getD [])
  canonical : Canonical (parse (s.file.getD []))
  title : ∀ tid, SameTitle (loadedTitle maxMemFreq (parse (s.file.getD [])) tid)
    (s.config.title tid)
  values : loadedValues (parse (s.file.getD [])) = s.config.configValues

section
variable {W : Nat} {Section : Text} {pairs : List (Text × Text)} {file : Option Text}

theorem putsection_closed : putsection false file Section pairs = none := by
  cases file <;> rfl

/-- A section goes into a file that is there, or into a new one. -/
theorem putsection_open (hw : Writable W Section pairs) (ht : Tidy W (file.getD [])) :
    ∃ text, putsection true file Section pairs = some text ∧ Tidy W text ∧
      parse text = iniPutSection Section (readPairs pairs) (parse (file.getD [])) := by
  cases file with
  | none =>
    have hempty : Readable W [] := ⟨by simp, by simp [lines]⟩
    refine ⟨putsectionText Section pairs, rfl, ⟨⟨nul_putsectionText hw, lineOk_putsectionText hw⟩,
      margin_putsectionText hw⟩, ?_⟩
    exact parse_added hw hempty (by simp [lines])
  | some file =>
    obtain ⟨text, htidy, hparse, hrewrite⟩ := rewrite_tidy hw tempname ht
    refine ⟨text, ?_, htidy, hparse⟩
    have hrun : rewrite Section pairs (file.length + 1) tempname file = some text :=
      hrewrite (file.length + 1) (Nat.lt_succ_of_le (length_lines_le file))
    show ((rewrite Section pairs (file.length + 1) tempname file).map some).join = some text
    rw [hrun]
    rfl

end

/-! ## One call -/

theorem valueLines_eq (entries : List (Text × Text × Text)) :
    (entries.filter fun e => e.1 = Config.CONFIG_VAL_SECTION).map Prod.snd =
      entries.filterMap fun e => if e.1 = Config.CONFIG_VAL_SECTION then some e.2 else none := by
  induction entries with
  | nil => rfl
  | cons e entries ih => by_cases h : e.1 = Config.CONFIG_VAL_SECTION <;> simp [h, ih]

theorem SameTitle.refl (t : Title) : SameTitle t t := ⟨rfl, rfl, rfl⟩

section
variable {W : Nat} {maxMemFreq : UInt32} {s : ConfigStore}

/-- A load makes memory what the file says. -/
theorem consistent_load (ht : Tidy W (s.file.getD []))
    (hcanonical : Canonical (parse (s.file.getD []))) {mtime : Int} (hmtime : mtime ≠ 0) :
    Consistent W maxMemFreq ⟨s.config.load maxMemFreq mtime (fileEntries s.file), s.file⟩ := by
  have hentries : fileEntries s.file = iniBrowse (parse (s.file.getD [])) := ht.toReadable.entries
  refine ⟨rfl, ht, hcanonical, ?_, ?_⟩
  · intro tid
    dsimp only
    rw [Config.title_load maxMemFreq hmtime, hentries]
    exact SameTitle.refl _
  · dsimp only
    rw [Config.configValues_load maxMemFreq hmtime, hentries]
    rfl

variable (hs : Consistent W maxMemFreq s) (hW : IsWidth W)
include hs hW

/-- Saving profiles changes one title, in the file and in memory. -/
theorem setProfiles_consistent {canWrite : Bool} {tid : UInt64}
    {profiles : SysClkTitleProfileList}
    (hvalid : (Call.setProfiles canWrite tid profiles).Valid maxMemFreq) :
    ∃ s', s.call maxMemFreq (.setProfiles canWrite tid profiles) = .ok s' ∧
      Consistent W maxMemFreq s' := by
  obtain ⟨htid, hmem, hmask, hfits⟩ := hvalid
  obtain ⟨hw, hread⟩ := writable_profiles hW tid profiles
  obtain ⟨hloaded, htidy, hcanonical, htitle, hvalues⟩ := hs
  have hroom := Config.profileEntries_fits hfits
  unfold call Config.setProfiles
  dsimp only
  rw [if_neg (Nat.not_lt.2 hroom)]
  cases canWrite with
  | false =>
    rw [putsection_closed]
    exact ⟨s, rfl, hloaded, htidy, hcanonical, htitle, hvalues⟩
  | true =>
    obtain ⟨text, hput, htidy', hparse⟩ := putsection_open hw htidy
    rw [hread] at hparse
    rw [hput]
    have hname : ∀ tid', Config.sectionTitle (printHex16 tid) = some tid' →
        printHex16 tid = printHex16 tid' := by
      intro tid' h
      rw [Config.sectionTitle_printHex16 htid] at h
      rw [Option.some.inj h]
    refine ⟨⟨s.config.applyProfiles tid profiles, some text⟩, rfl, hloaded, htidy', ?_, ?_, ?_⟩
    · show Canonical (parse text)
      rw [hparse]
      exact hcanonical.put hname
    · intro tid'
      show SameTitle (loadedTitle maxMemFreq (parse text) tid') _
      rw [hparse]
      by_cases heq : tid' = tid
      · -- the title that is saved
        subst heq
        have halias : ∀ e ∈ iniBrowse (parse (s.file.getD [])), e.1 ≠ printHex16 tid' →
            Config.sectionTitle e.1 ≠ some tid' := by
          intro e he hne hsome
          obtain ⟨t, ht, hmem⟩ := List.mem_flatMap.1 he
          obtain ⟨kv, -, rfl⟩ := List.mem_map.1 hmem
          exact hne (hcanonical.title t ht tid' hsome)
        have hloaded := Config.title_load_of_replaces htid
          (hcanonical.replaces (Config.profileEntries profiles)) halias hmem hmask
          (show (1 : Int) ≠ 0 by decide) s.config s.config
        rw [Config.title_load maxMemFreq (by decide)] at hloaded
        exact hloaded
      · -- any other title
        have hsame : Config.titleLines tid' (iniBrowse (iniPutSection (printHex16 tid)
            (Config.profileEntries profiles) (parse (s.file.getD [])))) =
              Config.titleLines tid' (iniBrowse (parse (s.file.getD []))) := by
          apply filterMap_iniPutSection
          · intro kv
            rw [Config.sectionTitle_printHex16 htid, if_neg]
            exact fun h => heq (Option.some.inj h).symm
          · intro t ht hsame kv
            apply if_neg
            intro h
            rw [hcanonical.title t ht tid' h] at hsame
            exact heq (sameName_printHex16 hsame)
        unfold loadedTitle
        rw [hsame, Config.title_applyProfiles_of_ne _ heq]
        exact htitle tid'
    · show loadedValues (parse text) = s.config.configValues
      rw [hparse, ← hvalues]
      have hlen : ∀ name, name.length ≠ 16 → name ≠ printHex16 tid := by
        rintro name hname rfl
        exact hname (length_printHex16 tid)
      unfold loadedValues
      rw [valueLines_eq, valueLines_eq]
      apply congrArg (Config.setValues · _)
      apply filterMap_iniPutSection
      · intro kv
        exact if_neg (hlen Config.CONFIG_VAL_SECTION (by decide)).symm
      · intro t ht hsame kv
        apply if_neg
        intro h
        have hlength := length_of_sameName hsame
        rw [length_printHex16, show t.name = Config.CONFIG_VAL_SECTION from h] at hlength
        exact absurd hlength (by decide)

/-- Saving configuration values changes no title. -/
theorem setConfigValues_consistent (canWrite : Bool) (values : SysClkConfigValue → UInt64) :
    ∃ s', s.call maxMemFreq (.setConfigValues canWrite values) = .ok s' ∧
      Consistent W maxMemFreq s' := by
  obtain ⟨hw, hread⟩ := writable_values hW values
  obtain ⟨hloaded, htidy, hcanonical, htitle, hvalues⟩ := hs
  unfold call Config.setConfigValues
  dsimp only
  cases canWrite with
  | false =>
    rw [putsection_closed]
    exact ⟨s, rfl, hloaded, htidy, hcanonical, htitle, hvalues⟩
  | true =>
    obtain ⟨text, hput, htidy', hparse⟩ := putsection_open hw htidy
    rw [hread] at hparse
    rw [hput]
    have hnone : ∀ name : Text, name.length = 6 → Config.sectionTitle name = none := by
      intro name hname
      unfold Config.sectionTitle
      dsimp only
      exact if_pos (.inr (by omega))
    refine ⟨_, rfl, hloaded, htidy', ?_, ?_, ?_⟩
    · show Canonical (parse text)
      rw [hparse]
      apply hcanonical.put
      intro tid h
      rw [hnone Config.CONFIG_VAL_SECTION (by decide)] at h
      exact absurd h nofun
    · intro tid
      have hsame : Config.titleLines tid (iniBrowse (iniPutSection Config.CONFIG_VAL_SECTION
          (Config.configValueEntries values) (parse (s.file.getD [])))) =
            Config.titleLines tid (iniBrowse (parse (s.file.getD []))) := by
        apply filterMap_iniPutSection
        · intro kv
          rw [hnone Config.CONFIG_VAL_SECTION (by decide), if_neg nofun]
        · intro t ht hsame kv
          rw [hnone _ (length_of_sameName hsame), if_neg nofun]
      have hloadedTitle := htitle tid
      show SameTitle (loadedTitle maxMemFreq (parse text) tid) (s.config.title tid)
      unfold loadedTitle at hloadedTitle ⊢
      rwa [hparse, hsame]
    · show loadedValues (parse text) = Config.savedValue values
      unfold loadedValues
      rw [hparse, (hcanonical.replaces (Config.configValueEntries values)).named, List.map_map,
        ← Config.setValues_configValueEntries]
      exact congrArg (Config.setValues · _) (List.map_id _)

/-- **One call** keeps the file and the memory the same. -/
theorem call_consistent {c : Call} (hvalid : c.Valid maxMemFreq) :
    ∃ s', s.call maxMemFreq c = .ok s' ∧ Consistent W maxMemFreq s' := by
  cases c with
  | setProfiles canWrite tid profiles => exact setProfiles_consistent hs hW hvalid
  | setConfigValues canWrite values => exact setConfigValues_consistent hs hW canWrite values
  | load mtime => exact ⟨_, rfl, consistent_load hs.tidy hs.canonical hvalid⟩

end

/-! ## Runs -/

def run (maxMemFreq : UInt32) (s : ConfigStore) (calls : List Call) : Except Fault ConfigStore :=
  calls.foldlM (call maxMemFreq) s

section
variable {W : Nat} {maxMemFreq : UInt32}

theorem run_consistent (hW : IsWidth W) {calls : List Call}
    (hvalid : ∀ c ∈ calls, c.Valid maxMemFreq) {s : ConfigStore}
    (hs : Consistent W maxMemFreq s) :
    ∃ s', s.run maxMemFreq calls = .ok s' ∧ Consistent W maxMemFreq s' := by
  induction calls generalizing s with
  | nil => exact ⟨s, rfl, hs⟩
  | cons c calls ih =>
    obtain ⟨s₁, hcall, hs₁⟩ := call_consistent hs hW (hvalid c List.mem_cons_self)
    obtain ⟨s₂, hrun, hs₂⟩ := ih (fun c hc => hvalid c (List.mem_cons_of_mem _ hc)) hs₁
    refine ⟨s₂, ?_, hs₂⟩
    unfold run at hrun ⊢
    rw [List.foldlM_cons, hcall]
    exact hrun

/-- What a load by anyone finds in a file that has what the memory has. -/
theorem Consistent.reload {s : ConfigStore} (hs : Consistent W maxMemFreq s) (fresh : Config)
    {mtime : Int} (hmtime : mtime ≠ 0) :
    let reloaded := fresh.load maxMemFreq mtime (fileEntries s.file)
    (∀ tid, reloaded.getProfiles tid = s.config.getProfiles tid ∧
      reloaded.getProfileCount tid = s.config.getProfileCount tid ∧
      reloaded.getTitleGovernorConfig tid = s.config.getTitleGovernorConfig tid) ∧
    reloaded.configValues = s.config.configValues := by
  have hentries : fileEntries s.file = iniBrowse (parse (s.file.getD [])) :=
    hs.tidy.toReadable.entries
  constructor
  · intro tid
    obtain ⟨hmhz, hcount, hgovernor⟩ : SameTitle
        ((fresh.load maxMemFreq mtime (fileEntries s.file)).title tid) (s.config.title tid) := by
      rw [Config.title_load maxMemFreq hmtime, hentries]
      exact hs.title tid
    have hfresh : (fresh.load maxMemFreq mtime (fileEntries s.file)).loaded = true := rfl
    have hgov : (fresh.load maxMemFreq mtime (fileEntries s.file)).profileGovernorMap tid =
        s.config.profileGovernorMap tid := hgovernor
    have hslot : ∀ slot, (fresh.load maxMemFreq mtime (fileEntries s.file)).profileMhzMap
        (tid, slot) = s.config.profileMhzMap (tid, slot) := congrFun hmhz
    refine ⟨?_, hcount, ?_⟩
    · unfold Config.getProfiles Config.findClockMhz
      simp only [hfresh, hs.loaded, hgov, hslot]
    · unfold Config.getTitleGovernorConfig
      rw [hfresh, hs.loaded, hgov]
  · rw [Config.configValues_load maxMemFreq hmtime, hentries]
    exact hs.values

/-- **A reload changes nothing.**  However many saves and loads there have been since a load, the
file has what the memory has: a load by anyone else finds the same profiles, the same counts, the
same governors and the same values. -/
theorem reload_changes_nothing (hW : IsWidth W) {file : Option Text}
    (htidy : Tidy W (file.getD [])) (hcanonical : Canonical (parse (file.getD [])))
    {calls : List Call} (hvalid : ∀ c ∈ calls, c.Valid maxMemFreq)
    {mtime₀ : Int} (hmtime₀ : mtime₀ ≠ 0) (c₀ : Config) :
    ∃ s, run maxMemFreq ⟨c₀.load maxMemFreq mtime₀ (fileEntries file), file⟩ calls = .ok s ∧
      Tidy W (s.file.getD []) ∧
      ∀ (fresh : Config) (mtime : Int), mtime ≠ 0 →
        let reloaded := fresh.load maxMemFreq mtime (fileEntries s.file)
        (∀ tid, reloaded.getProfiles tid = s.config.getProfiles tid ∧
          reloaded.getProfileCount tid = s.config.getProfileCount tid ∧
          reloaded.getTitleGovernorConfig tid = s.config.getTitleGovernorConfig tid) ∧
        reloaded.configValues = s.config.configValues := by
  have hstart : Consistent W maxMemFreq
      ⟨c₀.load maxMemFreq mtime₀ (fileEntries file), file⟩ :=
    consistent_load (s := ⟨c₀, file⟩) htidy hcanonical hmtime₀
  obtain ⟨s, hrun, hs⟩ := run_consistent hW hvalid hstart
  exact ⟨s, hrun, hs.tidy, fun fresh mtime hmtime => hs.reload fresh hmtime⟩

theorem tidy_nil (W : Nat) : Tidy W [] := ⟨⟨by simp, by simp [lines]⟩, by simp [lines]⟩

theorem canonical_parse_nil : Canonical (parse []) := by
  have hparse : parse [] = [⟨[], []⟩] := by simp [parse, sectionsOf, lines]
  rw [hparse]
  refine ⟨?_, List.pairwise_singleton _ _⟩
  intro t ht tid htid
  obtain rfl := List.mem_singleton.1 ht
  exact absurd htid (by simp [Config.sectionTitle])

theorem valid_oneClock (canWrite : Bool) {tid : UInt64} (htid : tid ≠ 0) (maxMemFreq : UInt32) :
    (Call.setProfiles canWrite tid Config.oneClock).Valid maxMemFreq := by
  refine ⟨htid, fun profile => .inl ?_, by decide, by decide +kernel⟩
  cases profile <;> decide

/-- Profiles go into a new file, then the values, then the profiles of another title, which are not
written the first time. -/
def someCalls : List Call :=
  [.setProfiles true 1 Config.oneClock, .setConfigValues true Config.someValues, .load 7,
    .setProfiles false 2 Config.oneClock, .setProfiles true 2 Config.oneClock]

theorem reload_changes_nothing_someCalls :
    ∃ s, run 0 ⟨Config.new.load 0 1 (fileEntries none), none⟩ someCalls = .ok s ∧
      Tidy 32 (s.file.getD []) ∧
      ∀ (fresh : Config) (mtime : Int), mtime ≠ 0 →
        let reloaded := fresh.load 0 mtime (fileEntries s.file)
        (∀ tid, reloaded.getProfiles tid = s.config.getProfiles tid ∧
          reloaded.getProfileCount tid = s.config.getProfileCount tid ∧
          reloaded.getTitleGovernorConfig tid = s.config.getTitleGovernorConfig tid) ∧
        reloaded.configValues = s.config.configValues := by
  have hwidth : IsWidth 32 := ⟨by decide, by decide⟩
  have hempty : Tidy 32 ((none : Option Text).getD []) := tidy_nil 32
  refine reload_changes_nothing hwidth hempty canonical_parse_nil ?_ (by decide) Config.new
  intro c hc
  simp only [someCalls, List.mem_cons, List.not_mem_nil, or_false] at hc
  rcases hc with rfl | rfl | rfl | rfl | rfl
  · exact valid_oneClock true (by decide) 0
  · trivial
  · show (7 : Int) ≠ 0
    decide
  · exact valid_oneClock false (by decide) 0
  · exact valid_oneClock true (by decide) 0

end

end ConfigStore

end SwitchOc.SysClk
