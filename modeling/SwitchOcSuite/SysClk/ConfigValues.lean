import Mathlib.Data.List.Basic
import SwitchOcSuite.SysClk.Config

/-!
# Saving the configuration values

`SetConfigValues` leaves out what is not valid and what is the default; a load
starts from the defaults, so it finds what the save has put into memory
(`setConfigValues_roundTrip`).  Only lines of the section `values` matter
(`configValues_load`), and each of them sets the value that its key names.
-/

namespace SwitchOc.SysClk

open CText Function

namespace Config

/-! ## The lines of the section -/

/-- The key of a value names this value and no other. -/
theorem find_sysclkFormatConfigValue (kval : SysClkConfigValue) :
    SysClkConfigValue.all.find?
      (fun kval' => sysclkFormatConfigValue kval = sysclkFormatConfigValue kval') = some kval := by
  cases kval <;> decide +kernel

/-- The value that a line sets, and what is stored for it. -/
def valueLine (line : Text × Text) : Option (SysClkConfigValue × UInt64) :=
  match SysClkConfigValue.all.find? fun kval => line.1 = sysclkFormatConfigValue kval with
  | none => none
  | some kval =>
    let input := strtoul line.2 0
    some (kval, if sysclkValidConfigValue kval input then input else sysclkDefaultConfigValue kval)

theorem configValues_browseConfigValue (c : Config) (line : Text × Text) :
    (c.browseConfigValue line.1 line.2).configValues =
      match valueLine line with
      | none => c.configValues
      | some value => update c.configValues value.1 value.2 := by
  unfold browseConfigValue valueLine
  cases SysClkConfigValue.all.find? fun kval => line.1 = sysclkFormatConfigValue kval with
  | none => rfl
  | some kval => rfl

/-- The sections of titles have no values. -/
theorem configValues_browseIniFunc (maxMemFreq : UInt32) (c : Config) (entry : Text × Text × Text) :
    (browseIniFunc maxMemFreq c entry).configValues =
      if entry.1 = CONFIG_VAL_SECTION then
        (c.browseConfigValue entry.2.1 entry.2.2).configValues
      else c.configValues := by
  unfold browseIniFunc
  by_cases h : entry.1 = CONFIG_VAL_SECTION
  · rw [if_pos h, if_pos h]
  · rw [if_neg h, if_neg h]
    unfold browseGovernor browseProfile
    grind

/-- What the lines set, in order. -/
def setValues (lines : List (Text × Text)) (values : SysClkConfigValue → UInt64) :
    SysClkConfigValue → UInt64 :=
  (lines.filterMap valueLine).foldl (fun values value => update values value.1 value.2) values

theorem configValues_foldl_browse (maxMemFreq : UInt32) (entries : List (Text × Text × Text))
    (c : Config) :
    (entries.foldl (browseIniFunc maxMemFreq) c).configValues =
      setValues ((entries.filter fun e => e.1 = CONFIG_VAL_SECTION).map Prod.snd)
        c.configValues := by
  induction entries generalizing c with
  | nil => rfl
  | cons entry entries ih =>
    rw [List.foldl_cons, ih, configValues_browseIniFunc]
    by_cases h : entry.1 = CONFIG_VAL_SECTION
    · rw [if_pos h, configValues_browseConfigValue, List.filter_cons, if_pos (decide_eq_true h),
        List.map_cons]
      unfold setValues
      cases hline : valueLine entry.2 with
      | none => rw [List.filterMap_cons_none hline]
      | some value => rw [List.filterMap_cons_some hline, List.foldl_cons]
    · rw [if_neg h, List.filter_cons, decide_eq_false h, if_neg Bool.false_ne_true]

/-- **Loading**, seen from the values. -/
theorem configValues_load (maxMemFreq : UInt32) {mtime : Int} (hmtime : mtime ≠ 0)
    (entries : List (Text × Text × Text)) (c : Config) :
    (c.load maxMemFreq mtime entries).configValues =
      setValues ((entries.filter fun e => e.1 = CONFIG_VAL_SECTION).map Prod.snd)
        sysclkDefaultConfigValue := by
  unfold load
  dsimp only
  rw [if_neg hmtime]
  exact configValues_foldl_browse maxMemFreq entries _

/-! ## The lines that are saved -/

/-- The value that a save leaves. -/
def savedValue (values : SysClkConfigValue → UInt64) (kval : SysClkConfigValue) : UInt64 :=
  if sysclkValidConfigValue kval (values kval) then values kval else sysclkDefaultConfigValue kval

/-- A line that is saved sets its value. -/
theorem valueLine_saved {values : SysClkConfigValue → UInt64} {kval : SysClkConfigValue}
    (hvalid : sysclkValidConfigValue kval (values kval) = true) :
    valueLine (sysclkFormatConfigValue kval, printLong (values kval)) =
      some (kval, values kval) := by
  unfold valueLine
  rw [find_sysclkFormatConfigValue]
  dsimp only
  rw [strtoul_long, if_pos hvalid]

/-- The value, if a line is saved for it. -/
def changedValue (values : SysClkConfigValue → UInt64) (kval : SysClkConfigValue) :
    Option (SysClkConfigValue × UInt64) :=
  if !sysclkValidConfigValue kval (values kval) || values kval = sysclkDefaultConfigValue kval
  then none else some (kval, values kval)

theorem filterMap_valueLine_configValueEntries (values : SysClkConfigValue → UInt64) :
    (configValueEntries values).filterMap valueLine =
      SysClkConfigValue.all.filterMap (changedValue values) := by
  unfold configValueEntries
  rw [List.filterMap_filterMap]
  refine List.filterMap_congr fun kval _ => ?_
  unfold changedValue
  by_cases h : (!sysclkValidConfigValue kval (values kval) ||
      decide (values kval = sysclkDefaultConfigValue kval)) = true
  · rw [if_pos h, if_pos h]
    rfl
  · rw [if_neg h, if_neg h]
    refine valueLine_saved ?_
    simp only [Bool.or_eq_true, not_or, Bool.not_eq_true'] at h
    exact Bool.not_eq_false _ ▸ h.1

theorem foldl_changedValue (values : SysClkConfigValue → UInt64) (kvals : List SysClkConfigValue)
    (acc : SysClkConfigValue → UInt64) (kval : SysClkConfigValue) :
    (kvals.filterMap (changedValue values)).foldl
      (fun acc value => update acc value.1 value.2) acc kval =
        if kval ∈ kvals ∧ changedValue values kval ≠ none then values kval else acc kval := by
  induction kvals generalizing acc with
  | nil => simp
  | cons kval' kvals ih =>
    cases hchanged : changedValue values kval' with
    | none =>
      rw [List.filterMap_cons_none hchanged, ih]
      by_cases heq : kval = kval'
      · subst heq
        simp [hchanged]
      · simp [heq]
    | some value =>
      obtain rfl : value = (kval', values kval') := by
        unfold changedValue at hchanged
        split at hchanged
        · cases hchanged
        · exact (Option.some.inj hchanged).symm
      rw [List.filterMap_cons_some hchanged, List.foldl_cons, ih]
      by_cases heq : kval = kval'
      · subst heq
        simp [hchanged]
      · simp [heq]

/-- Loading the lines that are saved. -/
theorem setValues_configValueEntries (values : SysClkConfigValue → UInt64) :
    setValues (configValueEntries values) sysclkDefaultConfigValue = savedValue values := by
  funext kval
  unfold setValues
  rw [filterMap_valueLine_configValueEntries, foldl_changedValue]
  have hmem : kval ∈ SysClkConfigValue.all := by cases kval <;> decide
  unfold changedValue savedValue
  by_cases hvalid : sysclkValidConfigValue kval (values kval) = true
  · by_cases hdefault : values kval = sysclkDefaultConfigValue kval
    · simp [hdefault]
    · simp [hvalid, hdefault, hmem]
  · simp [hvalid]

/-! ## Round trip -/

/-- **Configuration values are loaded as they were saved**: each is the one given, if that is
valid, and the default otherwise.  `hini` is what the call relies on of `minIni`. -/
theorem setConfigValues_roundTrip {F : Type} (ini_putsection : Text → List (Text × Text) → Option F)
    (ini_browse : F → List (Text × Text × Text)) {before : List (Text × Text × Text)}
    (c : Config) (values : SysClkConfigValue → UInt64)
    (hini : ∀ file, ini_putsection CONFIG_VAL_SECTION (configValueEntries values) = some file →
      Replaces CONFIG_VAL_SECTION (configValueEntries values) before (ini_browse file)) :
    ((c.setConfigValues ini_putsection values).1 = none →
        (c.setConfigValues ini_putsection values).2.configValues = c.configValues) ∧
      ∀ file, (c.setConfigValues ini_putsection values).1 = some file →
        (c.setConfigValues ini_putsection values).2.configValues = savedValue values ∧
        ∀ (fresh : Config) (maxMemFreq : UInt32) (mtime : Int), mtime ≠ 0 →
          (fresh.load maxMemFreq mtime (ini_browse file)).configValues = savedValue values := by
  unfold setConfigValues
  cases hput : ini_putsection CONFIG_VAL_SECTION (configValueEntries values) with
  | none => exact ⟨fun _ => rfl, nofun⟩
  | some file =>
    refine ⟨nofun, ?_⟩
    rintro file' hfile
    obtain rfl : file = file' := Option.some.inj hfile
    refine ⟨rfl, fun fresh maxMemFreq mtime hmtime => ?_⟩
    rw [configValues_load maxMemFreq hmtime, (hini file hput).named, List.map_map,
      ← setValues_configValueEntries]
    exact congrArg (setValues · _) (List.map_id _)

def someValues : SysClkConfigValue → UInt64
  | .pollingIntervalMs => 0
  | .tempLogIntervalMs => 0xFFFFFFFFFFFFFFFF
  | .chargingCurrentLimit => 2000
  | _ => 1

/-- One value is not valid, one is printed with a sign, one is the default. -/
theorem setConfigValues_roundTrip_someValues :
    (Config.new.setConfigValues (fun name pairs => some (iniPutSection name pairs []))
        someValues).2.configValues = savedValue someValues ∧
      (Config.new.load 0 1 (iniBrowse (iniPutSection CONFIG_VAL_SECTION
        (configValueEntries someValues) []))).configValues = savedValue someValues := by
  have hini : ∀ file, some (iniPutSection CONFIG_VAL_SECTION (configValueEntries someValues) []) =
      some file → Replaces CONFIG_VAL_SECTION (configValueEntries someValues) (iniBrowse [])
        (iniBrowse file) := by
    intro file hfile
    rw [← Option.some.inj hfile]
    refine iniPutSection_replaces (configValueEntries someValues) ?_
    intro s hs
    cases hs
  obtain ⟨hsaved, hloaded⟩ := (setConfigValues_roundTrip
    (fun name pairs => some (iniPutSection name pairs [])) iniBrowse Config.new someValues hini).2 _ rfl
  exact ⟨hsaved, hloaded Config.new 0 1 (by decide)⟩

end Config

end SwitchOc.SysClk
