import Mathlib.Logic.Function.Basic
import SwitchOcSuite.Lib.CText
import SwitchOcSuite.SysClk.MinIni

/-!
# sys-clk configuration (`sysmodule/src/config.cpp`)

The three maps of a `Config` are functions into `Option`, `none` for a key that
is not in the map.  Log lines and locks are left out.
-/

namespace SwitchOc.SysClk

open CText Function

structure Config where
  profileMhzMap : UInt64 × SysClkProfile × SysClkModule → Option UInt32
  profileCountMap : UInt64 → Option UInt8
  profileGovernorMap : UInt64 → Option SysClkOcGovernorConfig
  loaded : Bool
  mtime : Int
  enabled : Bool
  overrideFreqs : SysClkModule → UInt32
  configValues : SysClkConfigValue → UInt64

namespace Config

/-- The constructor. -/
def new : Config where
  profileMhzMap _ := none
  profileCountMap _ := none
  profileGovernorMap _ := none
  loaded := false
  mtime := 0
  enabled := false
  overrideFreqs _ := 0
  configValues := sysclkDefaultConfigValue

/-! ## Reading the maps -/

def findClockMhz (c : Config) (tid : UInt64) (module : SysClkModule) (profile : SysClkProfile) :
    UInt32 :=
  if c.loaded then (c.profileMhzMap (tid, profile, module)).getD 0 else 0

/-- The first profile of the list with a frequency, in Hz. -/
def findClockHzFromProfiles (c : Config) (tid : UInt64) (module : SysClkModule) :
    List SysClkProfile → UInt32
  | [] => 0
  | profile :: profiles =>
    let mhz := c.findClockMhz tid module profile
    if mhz ≠ 0 then mhz * 1000000 else c.findClockHzFromProfiles tid module profiles

def getAutoClockHz (c : Config) (tid : UInt64) (module : SysClkModule) (profile : SysClkProfile) :
    UInt32 :=
  match profile with
  | .handheld => c.findClockHzFromProfiles tid module [.handheld]
  | .handheldCharging
  | .handheldChargingUSB =>
    c.findClockHzFromProfiles tid module [.handheldChargingUSB, .handheldCharging, .handheld]
  | .handheldChargingOfficial =>
    c.findClockHzFromProfiles tid module [.handheldChargingOfficial, .handheldCharging, .handheld]
  | .docked => c.findClockHzFromProfiles tid module [.docked]

def getTitleGovernorConfig (c : Config) (tid : UInt64) : SysClkOcGovernorConfig :=
  if c.loaded then (c.profileGovernorMap tid).getD SysClkOcGovernorConfig_Default
  else SysClkOcGovernorConfig_Default

def getProfiles (c : Config) (tid : UInt64) : SysClkTitleProfileList where
  mhzMap profile module := c.findClockMhz tid module profile
  governorConfig := (c.profileGovernorMap tid).getD SysClkOcGovernorConfig_Default

def getProfileCount (c : Config) (tid : UInt64) : UInt8 := (c.profileCountMap tid).getD 0

/-! ## Loading the INI file -/

def CONFIG_VAL_SECTION : Text := "values".toList

def CONFIG_KEY_TITLE_GOVERNOR_CONFIG : Text := "governor_config".toList

/-- The profile code, an underscore and the module code. -/
def profileKeyMatches (key : Text) (profile : SysClkProfile) (module : SysClkModule) : Bool :=
  let profileCode := sysclkFormatProfile profile
  let subkey := key.drop (profileCode.length + 1)
  profileCode.isPrefixOf key && key[profileCode.length]? = some '_' &&
    (sysclkFormatModule module).isPrefixOf subkey &&
    subkey[(sysclkFormatModule module).length]? = none

/-- The slot that a key names: the last one of the two loops that matches. -/
def parseProfileKey (key : Text) : Option (SysClkProfile × SysClkModule) :=
  profileSlots.foldl
    (fun parsed slot => if profileKeyMatches key slot.1 slot.2 then some slot else parsed) none

/-- The title that a section is about: `tid` is not zero and the name has 16 characters. -/
def sectionTitle (name : Text) : Option UInt64 :=
  let tid := strtoul name 16
  if tid = 0 ∨ name.length ≠ 16 then none else some tid

/-- The `values` section: the first value whose code is the key. -/
def browseConfigValue (c : Config) (key value : Text) : Config :=
  match SysClkConfigValue.all.find? fun kval => key = sysclkFormatConfigValue kval with
  | none => c
  | some kval =>
    let input := strtoul value 0
    let input :=
      if sysclkValidConfigValue kval input then input else sysclkDefaultConfigValue kval
    { c with configValues := update c.configValues kval input }

def browseGovernor (c : Config) (tid : UInt64) (value : Text) : Config :=
  let input := strtoul value 0
  let input :=
    if input &&& SysClkOcGovernorConfig_Mask = input then input.toUInt32
    else SysClkOcGovernorConfig_Default
  { c with profileGovernorMap := update c.profileGovernorMap tid (some input) }

/-- A memory frequency above 1600 MHz stands for the maximum one. -/
def clampMemMhz (maxMemFreq : UInt32) (module : SysClkModule) (mhz : UInt32) : UInt32 :=
  if module = .mem ∧ 1600 < mhz then maxMemFreq / 1000000 else mhz

def browseProfile (maxMemFreq : UInt32) (c : Config) (tid : UInt64) (profile : SysClkProfile)
    (module : SysClkModule) (value : Text) : Config :=
  let mhz := (strtoul value 10).toUInt32
  if mhz = 0 then c
  else
    { c with
      profileMhzMap :=
        update c.profileMhzMap (tid, profile, module) (some (clampMemMhz maxMemFreq module mhz))
      profileCountMap :=
        update c.profileCountMap tid (some (match c.profileCountMap tid with
          | none => 1
          | some count => count + 1)) }

/-- One call of `BrowseIniFunc`: section, key and value. -/
def browseIniFunc (maxMemFreq : UInt32) (c : Config) (entry : Text × Text × Text) : Config :=
  if entry.1 = CONFIG_VAL_SECTION then c.browseConfigValue entry.2.1 entry.2.2
  else
    match sectionTitle entry.1 with
    | none => c
    | some tid =>
      if entry.2.1 = CONFIG_KEY_TITLE_GOVERNOR_CONFIG then c.browseGovernor tid entry.2.2
      else
        match parseProfileKey entry.2.1 with
        | none => c
        | some slot => c.browseProfile maxMemFreq tid slot.1 slot.2 entry.2.2

def close (c : Config) : Config :=
  { c with
    loaded := false
    profileMhzMap := fun _ => none
    profileCountMap := fun _ => none
    profileGovernorMap := fun _ => none
    configValues := sysclkDefaultConfigValue }

/-- `Load`: `mtime` is the modification time, `0` if there is no file, and
`entries` what `ini_browse` reports. -/
def load (maxMemFreq : UInt32) (mtime : Int) (entries : List (Text × Text × Text)) (c : Config) :
    Config :=
  let c := { c.close with mtime := mtime }
  let c := if mtime = 0 then c else entries.foldl (browseIniFunc maxMemFreq) c
  { c with loaded := true }

def needsLoad (c : Config) (mtime : Int) : Bool := !c.loaded || c.mtime != mtime

/-- `Refresh`, which says whether it has loaded the file. -/
def refresh (maxMemFreq : UInt32) (mtime : Int) (entries : List (Text × Text × Text))
    (c : Config) : Bool × Config :=
  if c.needsLoad mtime then (true, c.load maxMemFreq mtime entries) else (false, c)

/-- Loading keeps what is not in the file. -/
theorem load_kept (maxMemFreq : UInt32) (mtime : Int)
    (entries : List (Text × Text × Text)) (c : Config) :
    (c.load maxMemFreq mtime entries).enabled = c.enabled ∧
      (c.load maxMemFreq mtime entries).overrideFreqs = c.overrideFreqs := by
  have hentry : ∀ (c : Config) entry, (browseIniFunc maxMemFreq c entry).enabled = c.enabled ∧
      (browseIniFunc maxMemFreq c entry).overrideFreqs = c.overrideFreqs := by
    intro c entry
    unfold browseIniFunc browseConfigValue browseGovernor browseProfile
    grind
  have hfold : ∀ (entries : List (Text × Text × Text)) (c : Config),
      (entries.foldl (browseIniFunc maxMemFreq) c).enabled = c.enabled ∧
        (entries.foldl (browseIniFunc maxMemFreq) c).overrideFreqs = c.overrideFreqs := by
    intro entries
    induction entries with
    | nil => exact fun c => ⟨rfl, rfl⟩
    | cons entry entries ih =>
      intro c
      obtain ⟨h₁, h₂⟩ := ih (browseIniFunc maxMemFreq c entry)
      exact ⟨h₁.trans (hentry c entry).1, h₂.trans (hentry c entry).2⟩
  unfold Config.load
  dsimp only
  split
  · exact ⟨rfl, rfl⟩
  · exact hfold entries _

/-! ## Saving -/

def profileKey (profile : SysClkProfile) (module : SysClkModule) : Text :=
  sysclkFormatProfile profile ++ '_' :: sysclkFormatModule module

/-- `iniKeys` and `iniValues`: the clocks that are set, and the governor unless it is the default. -/
def profileEntries (profiles : SysClkTitleProfileList) : List (Text × Text) :=
  (profileSlots.filterMap fun slot =>
      let mhz := profiles.mhzMap slot.1 slot.2
      if mhz ≠ 0 then some (profileKey slot.1 slot.2, printInt mhz) else none) ++
    if profiles.governorConfig ≠ SysClkOcGovernorConfig_Default then
      [(CONFIG_KEY_TITLE_GOVERNOR_CONFIG, printInt profiles.governorConfig)]
    else []

def numProfiles (profiles : SysClkTitleProfileList) : Nat :=
  profileSlots.countP fun slot => profiles.mhzMap slot.1 slot.2 ≠ 0

/-- The maps after a successful save. -/
def applyProfiles (c : Config) (tid : UInt64) (profiles : SysClkTitleProfileList) : Config where
  profileMhzMap := profileSlots.foldl (fun map slot =>
    let mhz := profiles.mhzMap slot.1 slot.2
    update map (tid, slot) (if mhz ≠ 0 then some mhz else none)) c.profileMhzMap
  profileCountMap := update c.profileCountMap tid (some (UInt8.ofNat (numProfiles profiles)))
  profileGovernorMap :=
    update c.profileGovernorMap tid
      (if profiles.governorConfig = SysClkOcGovernorConfig_Default then none
        else some profiles.governorConfig)
  loaded := c.loaded
  mtime := c.mtime
  enabled := c.enabled
  overrideFreqs := c.overrideFreqs
  configValues := c.configValues

/-- `SetProfiles(tid, profiles, true)` with what `ini_putsection` makes of the
file, or `none` where that fails.  `keysStr` and `valuesStr` have room for
fifteen strings. -/
def setProfiles {F : Type} (ini_putsection : Text → List (Text × Text) → Option F) (c : Config)
    (tid : UInt64) (profiles : SysClkTitleProfileList) : Except Fault (Option F × Config) :=
  let entries := profileEntries profiles
  if 15 < entries.length then .error .stringBufferOverrun
  else
    match ini_putsection (printHex16 tid) entries with
    | none => .ok (none, c)
    | some file => .ok (some file, c.applyProfiles tid profiles)

def configValueEntries (values : SysClkConfigValue → UInt64) : List (Text × Text) :=
  SysClkConfigValue.all.filterMap fun kval =>
    if !sysclkValidConfigValue kval (values kval) || values kval = sysclkDefaultConfigValue kval
    then none
    else some (sysclkFormatConfigValue kval, printLong (values kval))

/-- `SetConfigValues(values, true)`. -/
def setConfigValues {F : Type} (ini_putsection : Text → List (Text × Text) → Option F)
    (c : Config) (values : SysClkConfigValue → UInt64) : Option F × Config :=
  match ini_putsection CONFIG_VAL_SECTION (configValueEntries values) with
  | none => (none, c)
  | some file =>
    (some file, { c with
      configValues := fun kval =>
        if sysclkValidConfigValue kval (values kval) then values kval
        else sysclkDefaultConfigValue kval })

end Config

end SwitchOc.SysClk
