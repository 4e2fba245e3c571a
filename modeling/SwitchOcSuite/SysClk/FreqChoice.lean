import SwitchOcSuite.SysClk.FrequencyTable
import SwitchOcSuite.SysClk.Profiles
import SwitchOcSuite.SysClk.RequestedClock

/-!
# Choosing a clock in the overlay (`overlay/src/ui/gui/freq_choice_gui.cpp`)

The overlay lists the clocks of a range in whole MHz and stores the one that is chosen
in the profiles of the title.  The fraction is lost, and the search for the clock,
which rounds up, brings it back as long as no other clock has the same whole MHz.

    listUI_getTable    what the overlay lists
    chosen_clock       the clock that is chosen is the one that is set
-/

namespace SwitchOc.SysClk

open CText Search

/-! ## The list -/

/-- The MHz of the items: none, and the clocks of the table up to the first zero. -/
def listUI (hzTable : List UInt32) : List UInt32 :=
  0 :: ((hzTable.take FREQ_TABLE_MAX_ENTRY_COUNT).takeWhile (· ≠ 0)).map (· / 1000000)

/-- A click on an item in the profiles of a title. -/
def SysClkTitleProfileList.choose (profiles : SysClkTitleProfileList) (profile : SysClkProfile)
    (module : SysClkModule) (mhz : UInt32) : SysClkTitleProfileList :=
  { profiles with
    mhzMap := fun p m => if p = profile ∧ m = module then mhz else profiles.mhzMap p m }

namespace Clocks

variable {c : Clocks} {module : SysClkModule}

/-- For the table that the sysmodule sends, the items are the clocks of the range. -/
theorem listUI_getTable {moduleWord profileWord : UInt32} {profile : SysClkProfile}
    (h : c.UpToDate) (hm : SysClkModule.ofWord moduleWord = some module)
    (hp : SysClkProfile.ofWord profileWord = some profile)
    (hne : ∀ f ∈ c.rangeEntries module profile, f ≠ 0) {hzTable : List UInt32}
    (htable : c.getTable moduleWord profileWord = .ok hzTable) :
    listUI hzTable = 0 :: (c.rangeEntries module profile).map (· / 1000000) := by
  rw [getTable_of_ok h hm hp] at htable
  split at htable
  · rename_i hroom
    obtain rfl := Except.ok.inj htable
    have hlen : (c.rangeEntries module profile).length ≤ FREQ_TABLE_MAX_ENTRY_COUNT := by
      unfold rangeEntries
      rw [Table.length_entries]
      omega
    unfold listUI
    rw [List.take_of_length_le (by rw [List.length_append, List.length_replicate]; omega)]
    rw [List.takeWhile_append_of_pos (by simpa using hne)]
    simp
  · exact absurd htable nofun

/-! ## The clock that is found -/

/-- The table of the module begins with `l`, whose clocks ascend in whole MHz. -/
structure AscendsInMhz (c : Clocks) (module : SysClkModule) (l : List UInt32) : Prop where
  entry : ∀ i (hi : i < l.length), c.freqTable (tableHead module + i) = l[i]
  increasing : l.Pairwise (· < ·)
  mhz_ne : l.Pairwise fun f g => f / 1000000 ≠ g / 1000000

/-- The whole MHz of a clock, in Hz. -/
theorem toNat_whole_mhz (f : UInt32) :
    (f / 1000000 * 1000000).toNat = f.toNat / 1000000 * 1000000 := by
  have hf := f.toNat_lt
  have hdiv : (f / 1000000).toNat = f.toNat / 1000000 := UInt32.toNat_div f 1000000
  rw [toNat_mhz_mul (by omega), hdiv]

/-- The whole MHz of a clock are more than every clock in front of it. -/
theorem AscendsInMhz.lt_mhz {l : List UInt32} (h : c.AscendsInMhz module l) {j i : Nat}
    (hji : j < i) (hi : i < l.length) :
    c.hz (tableHead module + j) < (l[i] / 1000000 * 1000000).toNat := by
  have hlt := UInt32.lt_iff_toNat_lt.1
    (List.pairwise_iff_getElem.1 h.increasing j i (by omega) hi hji)
  have hne : l[j].toNat / 1000000 ≠ l[i].toNat / 1000000 := by
    intro heq
    apply List.pairwise_iff_getElem.1 h.mhz_ne j i (by omega) hi hji
    exact UInt32.toNat_inj.1 (by simpa using heq)
  unfold hz
  rw [h.entry j (by omega), toNat_whole_mhz]
  omega

/-- A request for the whole MHz of a clock of the range is answered with the clock. -/
theorem AscendsInMhz.getNearestHz_mhz {l : List UInt32} (h : c.AscendsInMhz module l)
    (hrange : c.UpToDate) {profile : SysClkProfile} {i : Nat} (hi : i < l.length)
    (hmin : (c.freqRange module).min ≤ tableHead module + i)
    (hmax : tableHead module + i ≤ (c.freqRange module).max profile) :
    c.getNearestHz module profile (l[i] / 1000000 * 1000000) = .ok l[i] := by
  have hhead := tableHead_le_min hrange module
  have hfirst := getNearestHzPtr_first c (l[i] / 1000000 * 1000000) (Nat.le_trans hmin hmax)
  have hmul : (l[i] / 1000000 * 1000000).toNat ≤ c.hz (tableHead module + i) := by
    unfold hz
    rw [h.entry i hi, toNat_whole_mhz]
    exact Nat.div_mul_le_self _ _
  have hfound := hfirst.eq_of_before hmin hmax hmul fun p hlo hhi => by
    obtain ⟨j, rfl⟩ := Nat.exists_eq_add_of_le (Nat.le_trans hhead hlo)
    exact h.lt_mhz (by omega) hi
  unfold getNearestHz
  rw [getRange_ok hrange module profile]
  dsimp only
  rw [hfound, h.entry i hi]

end Clocks

/-! ## The clock that is chosen -/

namespace Config

variable {c c' : Config} {tid : UInt64} {module : SysClkModule} {profile : SysClkProfile}

theorem findClockMhz_applyProfiles (hloaded : c.loaded = true) (tid : UInt64)
    (profiles : SysClkTitleProfileList) (module : SysClkModule) (profile : SysClkProfile) :
    (c.applyProfiles tid profiles).findClockMhz tid module profile =
      profiles.mhzMap profile module := by
  have hslot : (c.applyProfiles tid profiles).profileMhzMap (tid, profile, module) = _ :=
    congrFun (congrArg Title.mhz (title_applyProfiles c tid profiles)) (profile, module)
  unfold findClockMhz
  rw [show (c.applyProfiles tid profiles).loaded = true from hloaded, if_pos rfl, hslot]
  dsimp only
  split
  · rfl
  · rename_i hzero
    exact (not_not.1 hzero).symm

theorem firstSet_cons (mhz : UInt32) (rest : List UInt32) :
    firstSet (mhz :: rest) = if mhz ≠ 0 then mhz else firstSet rest := rfl

theorem firstSet_of_zero {l : List UInt32} (h : ∀ mhz ∈ l, mhz = 0) : firstSet l = 0 := by
  induction l with
  | nil => rfl
  | cons mhz l ih =>
    rw [firstSet_cons, if_neg (not_not.2 (h mhz List.mem_cons_self))]
    exact ih fun mhz' hmem => h mhz' (List.mem_cons_of_mem _ hmem)

/-- The profiles of the title that decide instead of the one that is chosen: in front of it
`handheldChargingUSB`, and behind it all, if the choice is 0 MHz, which is none. -/
def Overruled (profiles : SysClkTitleProfileList) (module : SysClkModule)
    (profile : SysClkProfile) (mhz : UInt32) : Prop :=
  (profile = .handheldCharging ∧ profiles.mhzMap .handheldChargingUSB module ≠ 0) ∨
    (mhz = 0 ∧ ∃ p ∈ fallback profile, p ≠ profile ∧ profiles.mhzMap p module ≠ 0)

instance (profiles : SysClkTitleProfileList) (module : SysClkModule) (profile : SysClkProfile)
    (mhz : UInt32) : Decidable (Overruled profiles module profile mhz) :=
  inferInstanceAs (Decidable (_ ∨ _))

/-- A choice that is not overruled is what the lookup finds. -/
theorem autoClockMhz_choose (hloaded : c.loaded = true) {profiles : SysClkTitleProfileList}
    {mhz : UInt32} (h : ¬ Overruled profiles module profile mhz) :
    (c.applyProfiles tid (profiles.choose profile module mhz)).autoClockMhz tid module profile =
      mhz := by
  obtain ⟨husb, hnone⟩ := not_or.1 h
  have hchosen : ∀ p, (profiles.choose profile module mhz).mhzMap p module =
      if p = profile then mhz else profiles.mhzMap p module := by
    intro p
    simp [SysClkTitleProfileList.choose]
  unfold autoClockMhz
  rw [List.map_congr_left fun p _ =>
    (findClockMhz_applyProfiles hloaded tid _ module p).trans (hchosen p)]
  by_cases hzero : mhz = 0
  · subst hzero
    apply firstSet_of_zero
    intro mhz hmem
    obtain ⟨p, hp, rfl⟩ := List.mem_map.1 hmem
    split
    · rfl
    · rename_i hne
      exact not_not.1 fun hset => hnone ⟨rfl, p, hp, hne, hset⟩
  · cases profile with
    | handheldCharging =>
      have husb' := not_not.1 (not_and.1 husb rfl)
      simp [fallback, firstSet, husb', hzero]
    | _ => simp [fallback, firstSet, hzero]

end Config

/-- **The clock that is chosen for a title is the one that its profile gives**, unless another
profile of the title overrules the choice. -/
theorem chosen_clock {F : Type} {ini_putsection : Text → List (Text × Text) → Option F} {file : F}
    {config config' : Config} {tid : UInt64} {profiles : SysClkTitleProfileList} {c : Clocks}
    {module : SysClkModule} {profile realProfile : SysClkProfile} {l : List UInt32} {i : Nat}
    (htable : c.AscendsInMhz module l) (hrange : c.UpToDate) (hi : i < l.length)
    (hmin : (c.freqRange module).min ≤ tableHead module + i)
    (hmax : tableHead module + i ≤ (c.freqRange module).max realProfile)
    (hloaded : config.loaded = true)
    (hstore : config.setProfiles ini_putsection tid
      (profiles.choose profile module (l[i] / 1000000)) = .ok (some file, config'))
    (hchoice : ¬ Config.Overruled profiles module profile (l[i] / 1000000)) :
    c.getNearestHz module realProfile (config'.getAutoClockHz tid module profile) = .ok l[i] := by
  have hsaved : config' = config.applyProfiles tid
      (profiles.choose profile module (l[i] / 1000000)) := by
    unfold Config.setProfiles at hstore
    dsimp only at hstore
    split at hstore
    · exact absurd hstore nofun
    · split at hstore
      · exact absurd (congrArg Prod.fst (Except.ok.inj hstore)) nofun
      · exact (congrArg Prod.snd (Except.ok.inj hstore)).symm
  rw [hsaved, Config.getAutoClockHz_eq, Config.autoClockMhz_choose hloaded hchoice]
  exact htable.getNearestHz_mhz hrange hi hmin hmax

theorem Clocks.ascendsInMhz_of_holds {c : Clocks} {module : SysClkModule} {l : List UInt32}
    (h : c.HoldsTable module l) (hne : l.Pairwise fun f g => f / 1000000 ≠ g / 1000000) :
    c.updateFreqRange.AscendsInMhz module l where
  entry i hi := (h.entry i hi).trans (List.getD_eq_getElem _ _ hi)
  increasing := h.increasing
  mhz_ne := hne

theorem Clocks.marikoClocks_ascendsInMhz :
    marikoClocks.updateFreqRange.AscendsInMhz .gpu (marikoTable .gpu) :=
  ascendsInMhz_of_holds (marikoClocks_holds .gpu) (by simp [marikoTable])

def loadedConfig : Config := Config.new.load 0 0 []

/-- `ini_putsection` into a new file. -/
def saveNew (name : Text) (pairs : List (Text × Text)) : Option IniFile :=
  some (iniPutSection name pairs [])

def noProfiles : SysClkTitleProfileList where
  mhzMap _ _ := 0
  governorConfig := SysClkOcGovernorConfig_Default

/-- 460.8 MHz are chosen as 460 MHz. -/
theorem chosen_clock_gpu :
    Clocks.marikoClocks.updateFreqRange.getNearestHz .gpu .docked
      ((loadedConfig.applyProfiles 1 (noProfiles.choose .docked .gpu 460)).getAutoClockHz 1 .gpu
        .docked) = .ok 460800000 := by
  have hmhz : (Clocks.marikoTable .gpu)[0] / 1000000 = 460 := by decide
  have hstore : loadedConfig.setProfiles saveNew 1
      (noProfiles.choose .docked .gpu ((Clocks.marikoTable .gpu)[0] / 1000000)) =
        .ok (some (iniPutSection (printHex16 1)
          (Config.profileEntries (noProfiles.choose .docked .gpu 460)) []),
          loadedConfig.applyProfiles 1 (noProfiles.choose .docked .gpu 460)) := by
    rw [hmhz]
    rfl
  have hchosen := chosen_clock Clocks.marikoClocks_ascendsInMhz
    (Clocks.upToDate_updateFreqRange _) (by decide) (Nat.le_refl _)
    (Clocks.gpuMax_first Clocks.marikoClocks .docked).lo_le rfl hstore (by decide)
  exact hchosen

/-- A GPU table with an entry below 1 MHz. -/
def slowTable : SysClkModule → List UInt32
  | .gpu => [500000, 460800000, 921600000]
  | module => Clocks.marikoTable module

def slowClocks : Clocks :=
  { Clocks.marikoClocks with
    freqTable := tablesOfLists (slowTable .cpu) (slowTable .gpu) (slowTable .mem) }

theorem slowClocks_ascendsInMhz : slowClocks.updateFreqRange.AscendsInMhz .gpu (slowTable .gpu) := by
  apply Clocks.ascendsInMhz_of_holds
  · apply Clocks.holdsTable_of_lists rfl <;> simp [slowTable, FREQ_TABLE_MAX_ENTRY_COUNT]
  · simp [slowTable]

/-- The GPU clock that a profile of title 1 gives after `f` is chosen for it. -/
def gpuHzOfChoice (c : Clocks) (profiles : SysClkTitleProfileList) (profile : SysClkProfile)
    (f : UInt32) : Except Fault UInt32 :=
  c.getNearestHz .gpu profile
    ((loadedConfig.applyProfiles 1 (profiles.choose profile .gpu (f / 1000000))).getAutoClockHz 1
      .gpu profile)

/-- For the charger's profile the clock of the USB charger comes first; and a clock below 1 MHz is
no choice, so the handheld clock is used. -/
theorem chosen_clock_overruled :
    (¬ ∀ (profiles : SysClkTitleProfileList) (c : Clocks) (profile : SysClkProfile)
      (l : List UInt32) (i : Nat) (hi : i < l.length), c.AscendsInMhz .gpu l → c.UpToDate →
      (c.freqRange .gpu).min ≤ tableHead .gpu + i →
      tableHead .gpu + i ≤ (c.freqRange .gpu).max profile → 1000000 ≤ l[i] →
      gpuHzOfChoice c profiles profile l[i] = .ok l[i]) ∧
    ¬ ∀ (profiles : SysClkTitleProfileList) (c : Clocks) (profile : SysClkProfile)
      (l : List UInt32) (i : Nat) (hi : i < l.length), c.AscendsInMhz .gpu l → c.UpToDate →
      (c.freqRange .gpu).min ≤ tableHead .gpu + i →
      tableHead .gpu + i ≤ (c.freqRange .gpu).max profile → profile ≠ .handheldCharging →
      gpuHzOfChoice c profiles profile l[i] = .ok l[i] := by
  constructor
  · intro hall
    have h := hall (noProfiles.choose .handheldChargingUSB .gpu 998) _ .handheldCharging _ 0
      (by decide) Clocks.marikoClocks_ascendsInMhz (Clocks.upToDate_updateFreqRange _)
      (Nat.le_refl _) (Clocks.gpuMax_first Clocks.marikoClocks .handheldCharging).lo_le (by decide)
    exact absurd h (by decide +kernel)
  · intro hall
    have h := hall (noProfiles.choose .handheld .gpu 921) _ .handheldChargingOfficial _ 0
      (by decide) slowClocks_ascendsInMhz (Clocks.upToDate_updateFreqRange _)
      (Nat.le_refl _) (Clocks.gpuMax_first slowClocks .handheldChargingOfficial).lo_le (by decide)
    exact absurd h (by decide +kernel)

end SwitchOc.SysClk
