import SwitchOcSuite.SysClk.Titles

/-!
# Saving the profiles of a title

`SetProfiles` prints what `BrowseIniFunc` parses (`parseProfileKey_profileKey`,
`strtoul_decimal`, `strtoul_hex16`), so a load of the saved file leaves the same
profiles as the save itself (`setProfiles_roundTrip`).  The load takes every section
name of 16 characters that `strtoul` reads as the title id for the title, though, and
the save replaces only one of them (`setProfiles_roundTrip_alias`).
-/

namespace SwitchOc.SysClk

open CText Function

namespace Config

/-! ## What is printed is parsed -/

theorem parseProfileKey_profileKey (profile : SysClkProfile) (module : SysClkModule) :
    parseProfileKey (profileKey profile module) = some (profile, module) := by
  cases profile <;> cases module <;> decide +kernel

theorem profileKey_ne_governor (profile : SysClkProfile) (module : SysClkModule) :
    profileKey profile module ≠ CONFIG_KEY_TITLE_GOVERNOR_CONFIG := by
  cases profile <;> cases module <;> decide +kernel

theorem sectionTitle_printHex16 {tid : UInt64} (h : tid ≠ 0) :
    sectionTitle (printHex16 tid) = some tid := by
  unfold sectionTitle
  dsimp only
  rw [strtoul_hex16, if_neg]
  rintro (h0 | hlen)
  · exact h h0
  · exact hlen (length_printHex16 tid)

/-- A governor setting that is not the default is one digit. -/
theorem strtoul_governor {config : SysClkOcGovernorConfig}
    (hmask : config &&& SysClkOcGovernorConfig_Default = config)
    (hdefault : config ≠ SysClkOcGovernorConfig_Default) :
    strtoul (printInt config) 0 &&& SysClkOcGovernorConfig_Mask = strtoul (printInt config) 0 ∧
      (strtoul (printInt config) 0).toUInt32 = config := by
  have hle : config.toNat ≤ 3 := by
    rw [← hmask, UInt32.toNat_and]
    exact Nat.and_le_right
  have hcases : config = 0 ∨ config = 1 ∨ config = 2 ∨ config = 3 := by
    have : config.toNat = 0 ∨ config.toNat = 1 ∨ config.toNat = 2 ∨ config.toNat = 3 := by omega
    simpa [← UInt32.toNat_inj] using this
  rcases hcases with rfl | rfl | rfl | rfl
  · decide
  · decide
  · decide
  · exact absurd rfl hdefault

/-! ## The lines that are saved -/

/-- A slot with its clock, if that is set. -/
def setClock (profiles : SysClkTitleProfileList) (slot : Slot) : Option (Slot × UInt32) :=
  if profiles.mhzMap slot.1 slot.2 ≠ 0 then some (slot, profiles.mhzMap slot.1 slot.2) else none

theorem filterMap_clockLine_profileEntries {maxMemFreq : UInt32} {profiles : SysClkTitleProfileList}
    (hmem : ∀ profile, profiles.mhzMap profile .mem ≤ 1600 ∨
      profiles.mhzMap profile .mem = maxMemFreq / 1000000) :
    (profileEntries profiles).filterMap (clockLine maxMemFreq) =
      profileSlots.filterMap (setClock profiles) := by
  have hclock : ∀ slot : Slot, profiles.mhzMap slot.1 slot.2 ≠ 0 →
      clockLine maxMemFreq (profileKey slot.1 slot.2, printInt (profiles.mhzMap slot.1 slot.2)) =
        some (slot, profiles.mhzMap slot.1 slot.2) := by
    rintro ⟨profile, module⟩ hne
    have hclamp : clampMemMhz maxMemFreq module (profiles.mhzMap profile module) =
        profiles.mhzMap profile module := by
      unfold clampMemMhz
      split
      · rename_i hlarge
        obtain ⟨rfl, hlarge⟩ := hlarge
        rcases hmem profile with hle | heq
        · exact absurd hle (UInt32.not_le.2 hlarge)
        · exact heq.symm
      · rfl
    unfold clockLine
    rw [if_neg (profileKey_ne_governor profile module), parseProfileKey_profileKey]
    dsimp only
    rw [strtoul_decimal, if_neg hne, hclamp]
  have hgovernor : ∀ value, clockLine maxMemFreq (CONFIG_KEY_TITLE_GOVERNOR_CONFIG, value) = none :=
    fun _ => if_pos rfl
  unfold profileEntries
  rw [List.filterMap_append, List.filterMap_filterMap]
  have hlast : List.filterMap (clockLine maxMemFreq)
      (if profiles.governorConfig ≠ SysClkOcGovernorConfig_Default then
        [(CONFIG_KEY_TITLE_GOVERNOR_CONFIG, printInt profiles.governorConfig)] else []) = [] := by
    split
    · rw [List.filterMap_cons_none (hgovernor _), List.filterMap_nil]
    · rfl
  rw [hlast, List.append_nil]
  refine List.filterMap_congr fun slot _ => ?_
  unfold setClock
  dsimp only
  by_cases hne : profiles.mhzMap slot.1 slot.2 ≠ 0
  · rw [if_pos hne, if_pos hne]
    exact hclock slot hne
  · rw [if_neg hne, if_neg hne]
    rfl

theorem filterMap_governorLine_profileEntries {profiles : SysClkTitleProfileList}
    (hmask : profiles.governorConfig &&& SysClkOcGovernorConfig_Default = profiles.governorConfig) :
    (profileEntries profiles).filterMap governorLine =
      if profiles.governorConfig = SysClkOcGovernorConfig_Default then []
      else [profiles.governorConfig] := by
  have hclock : ∀ slot : Slot, ∀ value,
      governorLine (profileKey slot.1 slot.2, value) = none :=
    fun slot _ => if_neg (profileKey_ne_governor slot.1 slot.2)
  unfold profileEntries
  rw [List.filterMap_append, List.filterMap_filterMap]
  have hfirst : ∀ slots : List Slot, slots.filterMap (fun slot =>
      ((if profiles.mhzMap slot.1 slot.2 ≠ 0 then
        some (profileKey slot.1 slot.2, printInt (profiles.mhzMap slot.1 slot.2)) else none).bind
          governorLine)) = [] := by
    intro slots
    rw [List.filterMap_eq_nil_iff]
    intro slot _
    split
    · exact hclock slot _
    · rfl
  rw [hfirst, List.nil_append]
  by_cases hdefault : profiles.governorConfig = SysClkOcGovernorConfig_Default
  · rw [if_neg (not_not.2 hdefault), if_pos hdefault]
    rfl
  · obtain ⟨hvalid, hvalue⟩ := strtoul_governor hmask hdefault
    have hline : governorLine (CONFIG_KEY_TITLE_GOVERNOR_CONFIG, printInt profiles.governorConfig) =
        some profiles.governorConfig := by
      unfold governorLine
      rw [if_pos rfl]
      dsimp only
      rw [if_pos hvalid, hvalue]
    rw [if_pos hdefault, if_neg hdefault, List.filterMap_cons_some hline, List.filterMap_nil]

theorem storeClocks_setClock (profiles : SysClkTitleProfileList) (slots : List Slot)
    (map : Slot → Option UInt32) (slot : Slot) :
    storeClocks (slots.filterMap (setClock profiles)) map slot =
        if slot ∈ slots ∧ profiles.mhzMap slot.1 slot.2 ≠ 0 then
          some (profiles.mhzMap slot.1 slot.2)
        else map slot := by
  induction slots generalizing map with
  | nil => simp
  | cons slot' slots ih =>
    by_cases hne : profiles.mhzMap slot'.1 slot'.2 ≠ 0
    · have hset : setClock profiles slot' = some (slot', profiles.mhzMap slot'.1 slot'.2) :=
        if_pos hne
      rw [List.filterMap_cons_some hset, storeClocks_cons, ih]
      by_cases heq : slot = slot'
      · subst heq
        simp [hne]
      · simp [heq]
    · rw [List.filterMap_cons_none (show setClock profiles slot' = none from if_neg hne), ih]
      by_cases heq : slot = slot'
      · subst heq
        simp [not_not.1 hne]
      · simp [heq]

theorem mem_profileSlots (slot : Slot) : slot ∈ profileSlots :=
  List.mem_flatMap.2 ⟨slot.1, SysClkProfile.mem_all _,
    List.mem_map.2 ⟨slot.2, SysClkModule.mem_all _, rfl⟩⟩

theorem length_setClock (profiles : SysClkTitleProfileList) :
    (profileSlots.filterMap (setClock profiles)).length = numProfiles profiles := by
  have hcount : ∀ slots : List Slot, (slots.filterMap (setClock profiles)).length =
      slots.countP fun slot => profiles.mhzMap slot.1 slot.2 ≠ 0 := by
    intro slots
    rw [List.length_filterMap_eq_countP]
    refine List.countP_congr fun slot _ => ?_
    unfold setClock
    split <;> simp_all
  exact hcount profileSlots

/-! ## The maps after a save -/

/-- A save sets the slots of its title and keeps the other titles. -/
theorem title_applyProfiles (c : Config) (tid : UInt64) (profiles : SysClkTitleProfileList) :
    (c.applyProfiles tid profiles).title tid =
      { mhz := fun slot => if profiles.mhzMap slot.1 slot.2 ≠ 0 then
          some (profiles.mhzMap slot.1 slot.2) else none
        count := some (UInt8.ofNat (numProfiles profiles))
        governor := if profiles.governorConfig = SysClkOcGovernorConfig_Default then none
          else some profiles.governorConfig } := by
  have hfold : ∀ (slots : List Slot) (map : UInt64 × Slot → Option UInt32) slot,
      slots.foldl (fun map slot => update map (tid, slot)
        (if profiles.mhzMap slot.1 slot.2 ≠ 0 then some (profiles.mhzMap slot.1 slot.2) else none))
          map (tid, slot) =
        if slot ∈ slots then
          if profiles.mhzMap slot.1 slot.2 ≠ 0 then some (profiles.mhzMap slot.1 slot.2) else none
        else map (tid, slot) := by
    intro slots
    induction slots with
    | nil => simp
    | cons slot' slots ih =>
      intro map slot
      rw [List.foldl_cons, ih]
      by_cases heq : slot = slot'
      · subst heq
        simp
      · simp [heq]
  unfold title applyProfiles
  simp only [update_self, Title.mk.injEq, and_true]
  funext slot
  rw [hfold profileSlots _ slot, if_pos (mem_profileSlots slot)]

theorem titleLines_of_replaces {tid : UInt64} (htid : tid ≠ 0) {pairs : List (Text × Text)}
    {before after : List (Text × Text × Text)} (h : Replaces (printHex16 tid) pairs before after)
    (halias : ∀ e ∈ before, e.1 ≠ printHex16 tid → sectionTitle e.1 ≠ some tid) :
    titleLines tid after = pairs := by
  have hfilter : titleLines tid after =
      titleLines tid (after.filter fun e => e.1 = printHex16 tid) := by
    unfold titleLines
    rw [List.filterMap_filter]
    refine List.filterMap_congr fun e he => ?_
    by_cases hname : e.1 = printHex16 tid
    · simp [hname]
    · simp [hname, halias e (h.others e he hname) hname]
  rw [hfilter, h.named]
  unfold titleLines
  rw [List.filterMap_map, Function.comp_def]
  simp [sectionTitle_printHex16 htid]

/-- What a saved title is when it is loaded again. -/
theorem title_load_of_replaces {maxMemFreq : UInt32} {tid : UInt64} (htid : tid ≠ 0)
    {profiles : SysClkTitleProfileList} {before after : List (Text × Text × Text)}
    (h : Replaces (printHex16 tid) (profileEntries profiles) before after)
    (halias : ∀ e ∈ before, e.1 ≠ printHex16 tid → sectionTitle e.1 ≠ some tid)
    (hmem : ∀ profile, profiles.mhzMap profile .mem ≤ 1600 ∨
      profiles.mhzMap profile .mem = maxMemFreq / 1000000)
    (hmask : profiles.governorConfig &&& SysClkOcGovernorConfig_Default = profiles.governorConfig)
    {mtime : Int} (hmtime : mtime ≠ 0) (c c' : Config) :
    let loaded := (c.load maxMemFreq mtime after).title tid
    let saved := (c'.applyProfiles tid profiles).title tid
    loaded.mhz = saved.mhz ∧ loaded.count.getD 0 = saved.count.getD 0 ∧
      loaded.governor = saved.governor := by
  intro loaded saved
  have hloaded : loaded = (profileEntries profiles).foldl (Title.browse maxMemFreq) Title.empty := by
    rw [← titleLines_of_replaces htid h halias]
    exact title_load maxMemFreq hmtime after c tid
  have hsaved := title_applyProfiles c' tid profiles
  refine ⟨?_, ?_, ?_⟩
  · rw [hloaded, Title.browse_mhz, filterMap_clockLine_profileEntries hmem]
    funext slot
    rw [storeClocks_setClock, show saved.mhz = _ from congrArg Title.mhz hsaved]
    simp [mem_profileSlots, Title.empty]
  · rw [hloaded, Title.browse_count, filterMap_clockLine_profileEntries hmem, length_setClock,
      show saved.count = _ from congrArg Title.count hsaved]
    simp [Title.empty]
  · rw [hloaded, Title.browse_governor, filterMap_governorLine_profileEntries hmask,
      show saved.governor = _ from congrArg Title.governor hsaved]
    split
    · rfl
    · rfl

/-! ## Round trip -/

theorem length_clockEntries (profiles : SysClkTitleProfileList) :
    (profileSlots.filterMap fun slot =>
      if profiles.mhzMap slot.1 slot.2 ≠ 0 then
        some (profileKey slot.1 slot.2, printInt (profiles.mhzMap slot.1 slot.2))
      else none).length = numProfiles profiles := by
  rw [List.length_filterMap_eq_countP]
  refine List.countP_congr fun slot _ => ?_
  split <;> simp_all

theorem length_profileEntries (profiles : SysClkTitleProfileList) :
    (profileEntries profiles).length = numProfiles profiles +
      if profiles.governorConfig ≠ SysClkOcGovernorConfig_Default then 1 else 0 := by
  unfold profileEntries
  rw [List.length_append, length_clockEntries]
  split <;> rfl

theorem profileEntries_fits {profiles : SysClkTitleProfileList}
    (h : ¬ (numProfiles profiles = 15 ∧
      profiles.governorConfig ≠ SysClkOcGovernorConfig_Default)) :
    (profileEntries profiles).length ≤ 15 := by
  have hle : numProfiles profiles ≤ 15 := List.countP_le_length
  rw [length_profileEntries]
  split
  · rename_i hdefault
    have hlt : numProfiles profiles ≠ 15 := fun heq => h ⟨heq, hdefault⟩
    omega
  · omega

/-- **Profiles are loaded as they were saved**, provided that no other section of the file is
taken for the title.  `hini` is what the call relies on of `minIni`. -/
theorem setProfiles_roundTrip {F : Type} {ini_putsection : Text → List (Text × Text) → Option F}
    {ini_browse : F → List (Text × Text × Text)} {before : List (Text × Text × Text)}
    {c : Config} (hloaded : c.loaded = true) {tid : UInt64} (htid : tid ≠ 0)
    {profiles : SysClkTitleProfileList} {maxMemFreq : UInt32}
    (hini : ∀ file, ini_putsection (printHex16 tid) (profileEntries profiles) = some file →
      Replaces (printHex16 tid) (profileEntries profiles) before (ini_browse file))
    (hmem : ∀ profile, profiles.mhzMap profile .mem ≤ 1600 ∨
      profiles.mhzMap profile .mem = maxMemFreq / 1000000)
    (hmask : profiles.governorConfig.toUInt64 &&& SysClkOcGovernorConfig_Mask =
      profiles.governorConfig.toUInt64)
    (hfits : ¬ (numProfiles profiles = 15 ∧
      profiles.governorConfig ≠ SysClkOcGovernorConfig_Default))
    (halias : ∀ e ∈ before, e.1 ≠ printHex16 tid → sectionTitle e.1 ≠ some tid) :
    ∃ saved c', c.setProfiles ini_putsection tid profiles = .ok (saved, c') ∧
      (saved = none → c'.profileMhzMap = c.profileMhzMap ∧
        c'.profileCountMap = c.profileCountMap ∧ c'.profileGovernorMap = c.profileGovernorMap) ∧
      ∀ file, saved = some file → ∀ (fresh : Config) (mtime : Int), mtime ≠ 0 →
        (fresh.load maxMemFreq mtime (ini_browse file)).getProfiles tid = c'.getProfiles tid ∧
        (fresh.load maxMemFreq mtime (ini_browse file)).getProfileCount tid =
          c'.getProfileCount tid ∧
        (fresh.load maxMemFreq mtime (ini_browse file)).getTitleGovernorConfig tid =
          c'.getTitleGovernorConfig tid := by
  have hmask32 : profiles.governorConfig &&& SysClkOcGovernorConfig_Default =
      profiles.governorConfig := by
    have h32 := congrArg UInt64.toUInt32 hmask
    rwa [UInt64.toUInt32_and, UInt32.toUInt32_toUInt64] at h32
  unfold setProfiles
  dsimp only
  rw [if_neg (Nat.not_lt.2 (profileEntries_fits hfits))]
  cases hput : ini_putsection (printHex16 tid) (profileEntries profiles) with
  | none => exact ⟨none, c, rfl, fun _ => ⟨rfl, rfl, rfl⟩, nofun⟩
  | some file =>
    refine ⟨some file, c.applyProfiles tid profiles, rfl, nofun, ?_⟩
    rintro file' hfile fresh mtime hmtime
    obtain rfl : file = file' := Option.some.inj hfile
    obtain ⟨hmhz, hcount, hgovernor⟩ := title_load_of_replaces htid (hini file hput) halias hmem
      hmask32 hmtime fresh c
    have hfresh : (fresh.load maxMemFreq mtime (ini_browse file)).loaded = true := rfl
    have hsaved : (c.applyProfiles tid profiles).loaded = true := hloaded
    have hgov : (fresh.load maxMemFreq mtime (ini_browse file)).profileGovernorMap tid =
        (c.applyProfiles tid profiles).profileGovernorMap tid := hgovernor
    refine ⟨?_, hcount, ?_⟩
    · unfold getProfiles findClockMhz
      rw [hfresh, hsaved, hgov]
      have hslot : ∀ slot, (fresh.load maxMemFreq mtime (ini_browse file)).profileMhzMap (tid, slot) =
          (c.applyProfiles tid profiles).profileMhzMap (tid, slot) := congrFun hmhz
      simp only [hslot]
    · unfold getTitleGovernorConfig
      rw [hfresh, hsaved, hgov]

/-- Clocks in two profiles, and the governor of the CPU alone. -/
def someClocks : SysClkTitleProfileList where
  mhzMap profile module :=
    match profile, module with
    | .docked, .gpu => 921
    | .docked, .mem => 1600
    | .handheld, .cpu => 1020
    | _, _ => 0
  governorConfig := 1

/-- An old section of title 1 between the values and another title. -/
def twoTitles : IniFile :=
  [⟨"values".toList, [("poll_interval_ms".toList, "300".toList)]⟩,
    ⟨"0000000000000001".toList, [("docked_cpu".toList, "1785".toList)]⟩,
    ⟨"0100000000010000".toList, [("handheld_gpu".toList, "460".toList),
      ("governor_config".toList, "2".toList)]⟩]

def twoTitlesLoaded : Config := Config.new.load 1600000000 1 (iniBrowse twoTitles)

theorem setProfiles_roundTrip_twoTitles :
    ∃ saved c', twoTitlesLoaded.setProfiles
        (fun name pairs => some (iniPutSection name pairs twoTitles)) 1 someClocks =
          .ok (saved, c') ∧
      (saved = none → c'.profileMhzMap = twoTitlesLoaded.profileMhzMap ∧
        c'.profileCountMap = twoTitlesLoaded.profileCountMap ∧
        c'.profileGovernorMap = twoTitlesLoaded.profileGovernorMap) ∧
      ∀ file, saved = some file → ∀ (fresh : Config) (mtime : Int), mtime ≠ 0 →
        (fresh.load 1600000000 mtime (iniBrowse file)).getProfiles 1 = c'.getProfiles 1 ∧
        (fresh.load 1600000000 mtime (iniBrowse file)).getProfileCount 1 =
          c'.getProfileCount 1 ∧
        (fresh.load 1600000000 mtime (iniBrowse file)).getTitleGovernorConfig 1 =
          c'.getTitleGovernorConfig 1 := by
  have hini : ∀ file,
      some (iniPutSection (printHex16 1) (profileEntries someClocks) twoTitles) = some file →
        Replaces (printHex16 1) (profileEntries someClocks) (iniBrowse twoTitles)
          (iniBrowse file) := by
    intro file hfile
    rw [← Option.some.inj hfile]
    exact iniPutSection_replaces (profileEntries someClocks) (by decide +kernel)
  have hmem : ∀ profile, someClocks.mhzMap profile .mem ≤ 1600 ∨
      someClocks.mhzMap profile .mem = 1600000000 / 1000000 := by
    intro profile
    cases profile <;> exact .inl (by decide)
  have halias : ∀ e ∈ iniBrowse twoTitles, e.1 ≠ printHex16 1 → sectionTitle e.1 ≠ some 1 := by
    decide +kernel
  exact setProfiles_roundTrip rfl (by decide) hini hmem (by decide) (by decide) halias

/-! ## A second section of the same title -/

def oneClock : SysClkTitleProfileList where
  mhzMap profile module := if profile = .handheld ∧ module = .cpu then 1020 else 0
  governorConfig := SysClkOcGovernorConfig_Default

/-- `strtoul` reads the name as title 1, whose own section is `0000000000000001`. -/
def aliasFile : IniFile :=
  [⟨"0x00000000000001".toList, [("docked_cpu".toList, "1785".toList)]⟩]

/-- The save leaves the other section alone, and a load counts its clock as well. -/
theorem setProfiles_roundTrip_alias :
    Replaces (printHex16 1) (profileEntries oneClock) (iniBrowse aliasFile)
        (iniBrowse (iniPutSection (printHex16 1) (profileEntries oneClock) aliasFile)) ∧
      ∃ file c', (Config.new.load 0 1 (iniBrowse aliasFile)).setProfiles
          (fun name pairs => some (iniPutSection name pairs aliasFile)) 1 oneClock =
            .ok (some file, c') ∧
        (Config.new.load 0 1 (iniBrowse file)).getProfileCount 1 ≠ c'.getProfileCount 1 :=
  ⟨iniPutSection_replaces _ (by decide +kernel), _, _, rfl, by decide +kernel⟩

end Config

end SwitchOc.SysClk
