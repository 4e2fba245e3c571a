import SwitchOcSuite.Lib.Table
import SwitchOcSuite.SysClk.FreqRange

/-!
# The `GetFrequencyTable` request

A client sends the module and the profile as words, and neither is checked against
the enumerations.  `GetRange` throws for a module that it does not know and takes any
profile for an index into `max[]`; its test of the range compares a number of entries
with a number of bytes.

    frequencyTable_right_iff    when a request is answered as it should be
-/

namespace SwitchOc.SysClk

open Table

/-! ## The request -/

structure SysClkIpc_GetFrequencyTable_Args where
  module : UInt32
  profile : UInt32
deriving DecidableEq, Repr

/-- The two results of the server, the exception, and two accesses that are out of bounds. -/
inductive FrequencyTableError where
  | generic
  | internalFrequencyTableError
  /-- `No such PcvModule: %u` -/
  | noSuchPcvModule (module : UInt32)
  /-- A read of `max[]` behind its five pointers. -/
  | maxOutOfBounds
  /-- A write behind the 31 slots of `out_table`. -/
  | outTableOverrun
deriving DecidableEq, Repr

/-- The request has failed; anything else is no answer at all. -/
def FrequencyTableError.IsFailure : FrequencyTableError → Prop
  | .generic
  | .internalFrequencyTableError
  | .noSuchPcvModule _ => True
  | .maxOutOfBounds
  | .outTableOverrun => False

def SysClkModule.ofWord (module : UInt32) : Option SysClkModule :=
  if module = 0 then some .cpu
  else if module = 1 then some .gpu
  else if module = 2 then some .mem
  else none

def SysClkProfile.ofWord (profile : UInt32) : Option SysClkProfile :=
  if profile = 0 then some .handheld
  else if profile = 1 then some .handheldCharging
  else if profile = 2 then some .handheldChargingUSB
  else if profile = 3 then some .handheldChargingOfficial
  else if profile = 4 then some .docked
  else none

namespace Clocks

variable {c : Clocks}

/-- `GetRange` of two words. -/
def getRangeOfWords (c : Clocks) (module profile : UInt32) :
    Except FrequencyTableError (Nat × Nat) :=
  match SysClkModule.ofWord module with
  | none => .error (.noSuchPcvModule module)
  | some module =>
    match SysClkProfile.ofWord profile with
    | none => .error .maxOutOfBounds
    | some profile =>
      match c.getRange module profile with
      | none => .error .internalFrequencyTableError
      | some range => .ok range

/-- `GetTable`: what is in `out_table` at the end. -/
def getTable (c : Clocks) (module profile : UInt32) : Except FrequencyTableError (List UInt32) :=
  match c.getRangeOfWords module profile with
  | .error e => .error e
  | .ok (min, max) =>
    let out_table := List.replicate FREQ_TABLE_MAX_ENTRY_COUNT 0
    match copyTo c.freqTable min 0 (max + 1 - min) out_table with
    | none => .error .outTableOverrun
    | some out_table => .ok out_table

/-- The handler: `none` is a request with less data than the arguments have. -/
def handleGetFrequencyTable (c : Clocks) (data : Option SysClkIpc_GetFrequencyTable_Args) :
    Except FrequencyTableError (List UInt32) :=
  match data with
  | none => .error .generic
  | some args => c.getTable args.module args.profile

/-! ## Requests that are in bounds -/

/-- The clocks from the least to the greatest one of a range. -/
def rangeEntries (c : Clocks) (module : SysClkModule) (profile : SysClkProfile) : List UInt32 :=
  let min := (c.freqRange module).min
  let max := (c.freqRange module).max profile
  entries c.freqTable min (max + 1 - min)

/-- The request fails, or is answered with the range and zeros behind it.  The exception of
`GetRange`, which nothing catches, counts as failing. -/
def FrequencyTableRight (c : Clocks) (data : Option SysClkIpc_GetFrequencyTable_Args) : Prop :=
  match c.handleGetFrequencyTable data with
  | .error e => e.IsFailure
  | .ok out_table => ∃ args module profile, data = some args ∧
      SysClkModule.ofWord args.module = some module ∧
      SysClkProfile.ofWord args.profile = some profile ∧
      out_table.length = FREQ_TABLE_MAX_ENTRY_COUNT ∧
      ∃ n, out_table = c.rangeEntries module profile ++ List.replicate n 0

/-- For a module there is, the profile is one of the five and the range has 31 clocks at most. -/
def RequestInBounds (c : Clocks) (data : Option SysClkIpc_GetFrequencyTable_Args) : Prop :=
  ∀ args module, data = some args → SysClkModule.ofWord args.module = some module →
    ∃ profile, SysClkProfile.ofWord args.profile = some profile ∧
      (c.freqRange module).max profile - (c.freqRange module).min < FREQ_TABLE_MAX_ENTRY_COUNT

theorem getTable_of_no_module {module : UInt32} (profile : UInt32)
    (hm : SysClkModule.ofWord module = none) :
    c.getTable module profile = .error (.noSuchPcvModule module) := by
  unfold getTable getRangeOfWords
  rw [hm]

/-- Any other profile is an index behind the five pointers. -/
theorem getTable_of_no_profile {module profile : UInt32} {m : SysClkModule}
    (hm : SysClkModule.ofWord module = some m) (hp : SysClkProfile.ofWord profile = none) :
    c.getTable module profile = .error .maxOutOfBounds := by
  unfold getTable getRangeOfWords
  rw [hm, hp]

/-- A copy that fits leaves zeros behind the range; one that does not fit writes out of bounds. -/
theorem getTable_of_ok {module profile : UInt32} {m : SysClkModule} {p : SysClkProfile}
    (h : c.UpToDate) (hm : SysClkModule.ofWord module = some m)
    (hp : SysClkProfile.ofWord profile = some p) :
    c.getTable module profile =
      if (c.freqRange m).max p - (c.freqRange m).min < FREQ_TABLE_MAX_ENTRY_COUNT then
        .ok (c.rangeEntries m p ++
          List.replicate (FREQ_TABLE_MAX_ENTRY_COUNT - (c.rangeEntries m p).length) 0)
      else .error .outTableOverrun := by
  obtain ⟨hle, -⟩ := range_bounds h m p
  unfold getTable getRangeOfWords
  rw [hm, hp]
  dsimp only
  rw [getRange_ok h m p]
  dsimp only
  rw [copyTo_eq _ _ _ _ _ (Nat.zero_le _), List.length_replicate]
  unfold rangeEntries
  dsimp only
  by_cases hroom : (c.freqRange m).max p - (c.freqRange m).min < FREQ_TABLE_MAX_ENTRY_COUNT
  · rw [if_pos hroom, if_pos (by omega), length_entries]
    simp
  · rw [if_neg hroom, if_neg (by omega)]

/-- **A request is answered right exactly in bounds.** -/
theorem frequencyTable_right_iff (h : c.UpToDate)
    (data : Option SysClkIpc_GetFrequencyTable_Args) :
    c.FrequencyTableRight data ↔ c.RequestInBounds data := by
  unfold FrequencyTableRight RequestInBounds handleGetFrequencyTable
  cases data with
  | none => exact iff_of_true trivial nofun
  | some args =>
    dsimp only
    cases hm : SysClkModule.ofWord args.module with
    | none =>
      rw [getTable_of_no_module args.profile hm]
      refine iff_of_true trivial ?_
      intro args' m hargs hsome
      obtain rfl := Option.some.inj hargs
      exact absurd (hm.symm.trans hsome) nofun
    | some m =>
      cases hp : SysClkProfile.ofWord args.profile with
      | none =>
        rw [getTable_of_no_profile hm hp]
        refine iff_of_false id fun hall => ?_
        obtain ⟨p, hsome, -⟩ := hall args m rfl hm
        exact absurd (hp.symm.trans hsome) nofun
      | some p =>
        rw [getTable_of_ok h hm hp]
        by_cases hroom : (c.freqRange m).max p - (c.freqRange m).min < FREQ_TABLE_MAX_ENTRY_COUNT
        · rw [if_pos hroom]
          refine iff_of_true ⟨args, m, p, rfl, hm, hp, ?_, _, rfl⟩ ?_
          · rw [List.length_append, List.length_replicate]
            unfold rangeEntries
            rw [length_entries]
            omega
          · intro args' m' hargs hm'
            obtain rfl := Option.some.inj hargs
            obtain rfl := Option.some.inj (hm.symm.trans hm')
            exact ⟨p, hp, hroom⟩
        · rw [if_neg hroom]
          refine iff_of_false id fun hall => ?_
          obtain ⟨p', hp', hlt⟩ := hall args m rfl hm
          obtain rfl := Option.some.inj (hp.symm.trans hp')
          exact hroom hlt

/-- With a zero behind each table, the five profiles are in bounds. -/
theorem requestInBounds_of_tables {table : SysClkModule → List UInt32}
    (h : ∀ module, c.HoldsTable module (table module)) {args : SysClkIpc_GetFrequencyTable_Args}
    {profile : SysClkProfile} (hp : SysClkProfile.ofWord args.profile = some profile) :
    c.updateFreqRange.RequestInBounds (some args) := by
  intro args' module hargs _
  obtain rfl := Option.some.inj hargs
  have hordered := (ranges_ordered h).range module
  refine ⟨profile, hp, ?_⟩
  have hmin := Nat.le_trans hordered.head_le_first hordered.first_le_min
  have hmax := hordered.max_le_last profile
  have hlast := hordered.last_eq
  have hlen := (h module).length_le
  have hpos := List.length_pos_iff.2 (h module).ne_nil
  omega

/-- A full GPU table below its cap runs on into the memory table. -/
theorem gpuRange_of_full {profile : SysClkProfile}
    (hfull : ∀ i, i < FREQ_TABLE_MAX_ENTRY_COUNT → c.freqTable (tableHead .gpu + i) ≠ 0 ∧
      c.freqTable (tableHead .gpu + i) < c.gpuTarget profile)
    (hmem : c.freqTable (tableHead .mem) ≠ 0) :
    (c.updateFreqRange.freqRange .gpu).max profile =
      (c.updateFreqRange.freqRange .gpu).min + FREQ_TABLE_MAX_ENTRY_COUNT := by
  have hlast : (c.initDefault .gpu).last = tableHead .gpu + FREQ_TABLE_MAX_ENTRY_COUNT := by
    refine lastEntry_eq (fun i hi hle => ?_) (Nat.le_refl _) (.inl rfl)
    rcases Nat.lt_or_eq_of_le hle with hlt | rfl
    · exact (hfull i hlt).1
    · exact hmem
  have hfirst := gpuMax_first c profile
  rw [hlast] at hfirst
  show _ = tableHead .gpu + FREQ_TABLE_MAX_ENTRY_COUNT
  rcases Nat.lt_or_eq_of_le hfirst.le_hi with hlt | heq
  · -- an entry in front of the last one would have to reach the cap
    obtain ⟨i, hi⟩ := Nat.exists_eq_add_of_le hfirst.lo_le
    have hat := hfirst.atLeast hlt
    rw [hi] at hat hlt
    exact absurd hat (Nat.not_le.2 (hfull i (by omega)).2)
  · exact heq

theorem frequencyTable_right_marikoClocks :
    marikoClocks.updateFreqRange.FrequencyTableRight (some ⟨0, 4⟩) :=
  (frequencyTable_right_iff (upToDate_updateFreqRange _) _).2
    (requestInBounds_of_tables marikoClocks_holds
      (show SysClkProfile.ofWord 4 = some .docked from rfl))

/-- A GPU table with all its entries used, the last one 844.8 MHz. -/
def fullGpuTable : List UInt32 :=
  (List.range FREQ_TABLE_MAX_ENTRY_COUNT).map fun i => 76800000 + 25600000 * UInt32.ofNat i

def fullClocks : Clocks :=
  { marikoClocks with
    freqTable := tablesOfLists (marikoTable .cpu) fullGpuTable (marikoTable .mem) }

theorem fullClocks_full : ∀ i, i < FREQ_TABLE_MAX_ENTRY_COUNT →
    fullClocks.freqTable (tableHead .gpu + i) ≠ 0 ∧
      fullClocks.freqTable (tableHead .gpu + i) < fullClocks.gpuTarget .docked := by
  decide +kernel

/-- There is no sixth profile, and no slot for a thirty-second clock. -/
theorem frequencyTable_not_right :
    ¬ marikoClocks.updateFreqRange.FrequencyTableRight (some ⟨0, 5⟩) ∧
      ¬ fullClocks.updateFreqRange.FrequencyTableRight (some ⟨1, 4⟩) := by
  refine ⟨id, ?_⟩
  have hspan := gpuRange_of_full fullClocks_full (by decide)
  unfold FrequencyTableRight handleGetFrequencyTable
  dsimp only
  rw [getTable_of_ok (upToDate_updateFreqRange _) (m := .gpu) (p := .docked) rfl rfl,
    if_neg (by omega)]
  exact id

end Clocks

end SwitchOc.SysClk
