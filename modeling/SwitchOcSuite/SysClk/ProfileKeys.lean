import SwitchOcSuite.Lib.Search
import SwitchOcSuite.SysClk.Profiles

/-!
# The keys of a title's section

`BrowseIniFunc` looks for a profile code in front of the key, with an underscore behind
it, and then for a module code up to the end.  The codes of the handheld profiles are in
front of each other and hold underscores themselves, and the two loops keep the last
match.  A key still names one clock only, the one it is printed for
(`parseProfileKey_eq_some_iff`), and a key that names none changes nothing
(`browseIniFunc_profileKeys`).
-/

namespace SwitchOc.SysClk

open CText Function

namespace Config

theorem profileKeyMatches_iff (key : Text) (profile : SysClkProfile) (module : SysClkModule) :
    profileKeyMatches key profile module = true ↔ key = profileKey profile module := by
  unfold profileKeyMatches profileKey
  simp only [Bool.and_eq_true, decide_eq_true_eq, and_assoc]
  rw [isPrefixOf_getElem?_none_iff, ← and_assoc, isPrefixOf_getElem?_iff]
  constructor
  · rintro ⟨hkey, hsubkey⟩
    rw [hsubkey] at hkey
    exact hkey
  · intro hkey
    have hsubkey : key.drop ((sysclkFormatProfile profile).length + 1) =
        sysclkFormatModule module := by
      rw [hkey]
      simp
    exact ⟨by rw [hsubkey]; exact hkey, hsubkey⟩

/-- **A key is the clock of a slot exactly if it is printed for it.** -/
theorem parseProfileKey_eq_some_iff (key : Text) (slot : Slot) :
    parseProfileKey key = some slot ↔ key = profileKey slot.1 slot.2 := by
  constructor
  · intro h
    have hmatch := Search.of_foldl_lastMatch
      (fun slot : Slot => profileKeyMatches key slot.1 slot.2) profileSlots h
    exact (profileKeyMatches_iff key slot.1 slot.2).1 hmatch
  · rintro rfl
    exact parseProfileKey_profileKey slot.1 slot.2

/-- Two slots that match the same key are one. -/
theorem profileKey_injective {slot slot' : Slot}
    (h : profileKey slot.1 slot.2 = profileKey slot'.1 slot'.2) : slot = slot' := by
  have hslot := (parseProfileKey_eq_some_iff _ slot).2 rfl
  rw [h, (parseProfileKey_eq_some_iff _ slot').2 rfl] at hslot
  exact (Option.some.inj hslot).symm

/-- A key of a title's section that is printed for a slot sets its clock. -/
theorem browseIniFunc_profileKey {section_ : Text} {tid : UInt64}
    (hvalues : section_ ≠ CONFIG_VAL_SECTION) (htid : sectionTitle section_ = some tid)
    (maxMemFreq : UInt32) (c : Config) (profile : SysClkProfile) (module : SysClkModule)
    (value : Text) :
    browseIniFunc maxMemFreq c (section_, profileKey profile module, value) =
      c.browseProfile maxMemFreq tid profile module value := by
  unfold browseIniFunc
  dsimp only
  rw [if_neg hvalues, htid]
  dsimp only
  rw [if_neg (profileKey_ne_governor profile module), parseProfileKey_profileKey]

/-- A key that is printed for no slot and is not the governor's leaves the three maps alone. -/
theorem browseIniFunc_other (maxMemFreq : UInt32) (c : Config) (section_ key value : Text)
    (hgovernor : key ≠ CONFIG_KEY_TITLE_GOVERNOR_CONFIG)
    (hkey : ∀ slot : Slot, key ≠ profileKey slot.1 slot.2) :
    (browseIniFunc maxMemFreq c (section_, key, value)).profileMhzMap = c.profileMhzMap ∧
      (browseIniFunc maxMemFreq c (section_, key, value)).profileCountMap = c.profileCountMap ∧
      (browseIniFunc maxMemFreq c (section_, key, value)).profileGovernorMap =
        c.profileGovernorMap := by
  have hnone : parseProfileKey key = none := by
    cases hparse : parseProfileKey key with
    | none => rfl
    | some slot => exact absurd ((parseProfileKey_eq_some_iff key slot).1 hparse) (hkey slot)
  unfold browseIniFunc
  dsimp only
  by_cases hvalues : section_ = CONFIG_VAL_SECTION
  · rw [if_pos hvalues]
    unfold browseConfigValue
    split
    · exact ⟨rfl, rfl, rfl⟩
    · exact ⟨rfl, rfl, rfl⟩
  · rw [if_neg hvalues]
    cases sectionTitle section_ with
    | none => exact ⟨rfl, rfl, rfl⟩
    | some tid =>
      dsimp only
      rw [if_neg hgovernor, hnone]
      exact ⟨rfl, rfl, rfl⟩

/-- **The keys of the clocks are unambiguous**: a key is recognised for a slot exactly if it
is the profile code, an underscore and the module code, for one slot at most, and any
other key but the governor's changes none of the three maps. -/
theorem browseIniFunc_profileKeys :
    (∀ (key : Text) (profile : SysClkProfile) (module : SysClkModule),
      parseProfileKey key = some (profile, module) ↔
        key = sysclkFormatProfile profile ++ '_' :: sysclkFormatModule module) ∧
      (∀ (key : Text) (slot slot' : Slot), profileKeyMatches key slot.1 slot.2 = true →
        profileKeyMatches key slot'.1 slot'.2 = true → slot = slot') ∧
      (∀ (section_ : Text) (tid : UInt64), section_ ≠ CONFIG_VAL_SECTION →
        sectionTitle section_ = some tid → ∀ (maxMemFreq : UInt32) (c : Config)
          (profile : SysClkProfile) (module : SysClkModule) (value : Text),
          browseIniFunc maxMemFreq c (section_, profileKey profile module, value) =
            c.browseProfile maxMemFreq tid profile module value) ∧
      ∀ (maxMemFreq : UInt32) (c : Config) (section_ key value : Text),
        key ≠ CONFIG_KEY_TITLE_GOVERNOR_CONFIG →
        (∀ (profile : SysClkProfile) (module : SysClkModule), key ≠ profileKey profile module) →
        (browseIniFunc maxMemFreq c (section_, key, value)).profileMhzMap = c.profileMhzMap ∧
          (browseIniFunc maxMemFreq c (section_, key, value)).profileCountMap =
            c.profileCountMap ∧
          (browseIniFunc maxMemFreq c (section_, key, value)).profileGovernorMap =
            c.profileGovernorMap := by
  refine ⟨fun key profile module => parseProfileKey_eq_some_iff key (profile, module), ?_, ?_, ?_⟩
  · intro key slot slot' h h'
    rw [profileKeyMatches_iff] at h h'
    exact profileKey_injective (h.symm.trans h')
  · intro section_ tid hvalues htid maxMemFreq c profile module value
    exact browseIniFunc_profileKey hvalues htid maxMemFreq c profile module value
  · intro maxMemFreq c section_ key value hgovernor hkey
    exact browseIniFunc_other maxMemFreq c section_ key value hgovernor
      fun slot => hkey slot.1 slot.2

/-- The longest code wins nothing from the shorter ones, and a code alone is no key. -/
theorem browseIniFunc_profileKeys_charging : ∀ (maxMemFreq : UInt32) (c : Config),
    parseProfileKey "handheld_charging_usb_gpu".toList = some (.handheldChargingUSB, .gpu) ∧
      (browseIniFunc maxMemFreq c
        ("0100000000001000".toList, "handheld_charging_usb".toList, "921".toList)).profileMhzMap =
        c.profileMhzMap := by
  intro maxMemFreq c
  obtain ⟨hparse, -, -, hother⟩ := browseIniFunc_profileKeys
  refine ⟨(hparse _ _ _).2 (by decide +kernel), ?_⟩
  refine (hother maxMemFreq c _ _ _ (by decide +kernel) ?_).1
  intro profile module
  cases profile <;> cases module <;> decide +kernel

end Config

end SwitchOc.SysClk
