import SwitchOcSuite.Lib.StringList
import SwitchOcSuite.SysClk.Profiles

/-!
# The buffers of `SetProfiles`

The keys and the values of a title go into two lists of strings, `iniKeys` over
`keysStr` and `iniValues` over `valuesStr`.  The arrays have an entry for every clock,
one for the governor and one for the null pointer; the character buffers have a slot
for every clock only.

    setProfiles_buffers_iff    when all strings lie inside the buffers
    setProfiles_of_build       `setProfiles` saves the strings of the two lists
-/

namespace SwitchOc.SysClk

open CString CText

/-! ## The stack frame -/

def sizeofKey : Nat := 0x40
def sizeofValue : Nat := 0x10

/-- The clocks of a title: `SysClkProfile_EnumMax * SysClkModule_EnumMax`. -/
def numClocks : Nat := 15

inductive ProfileBuffer where
  | iniKeys
  | iniValues
  | keysStr
  | valuesStr
  | sectionStr
deriving DecidableEq, Repr

/-- The arrays as they are declared, with what was on the stack. -/
structure ProfileStack where
  iniKeys : List (Option Nat)
  iniValues : List (Option Nat)
  keysStr : List Char
  valuesStr : List Char
  length_iniKeys : iniKeys.length = numClocks + 1 + 1
  length_iniValues : iniValues.length = numClocks + 1 + 1
  length_keysStr : keysStr.length = sizeofKey * numClocks
  length_valuesStr : valuesStr.length = sizeofValue * numClocks

/-- `iniKeys`, `keysStr`, `ik` and `sk`; `iniValues`, `valuesStr`, `iv` and `sv`; and `section`. -/
structure ProfileBuffers where
  keys : StringList
  values : StringList
  sectionStr : List Char

namespace ProfileBuffers

/-! ## Building the lists -/

def init (stack : ProfileStack) : ProfileBuffers where
  keys := { ptrs := stack.iniKeys, chars := stack.keysStr, ip := 0, sp := 0 }
  values := { ptrs := stack.iniValues, chars := stack.valuesStr, ip := 0, sp := 0 }
  sectionStr := List.replicate 17 NUL

def printSection (tid : UInt64) (b : ProfileBuffers) : Except ProfileBuffer ProfileBuffers := do
  let sectionStr ← snprintf .sectionStr b.sectionStr 0 17 (printHex16 tid)
  return { b with sectionStr := sectionStr }

/-- Both strings, and then both pointers. -/
def putPair (key value : Text) (b : ProfileBuffers) : Except ProfileBuffer ProfileBuffers := do
  let keys ← b.keys.print .keysStr sizeofKey key
  let values ← b.values.print .valuesStr sizeofValue value
  let keys ← keys.link .iniKeys
  let values ← values.link .iniValues
  return { b with keys := keys, values := values }

/-- One pass of the loop over the clocks. -/
def putClock (profiles : SysClkTitleProfileList) (b : ProfileBuffers) (slot : Slot) :
    Except ProfileBuffer ProfileBuffers := do
  let mhz := profiles.mhzMap slot.1 slot.2
  if mhz ≠ 0 then
    let b ← b.putPair (Config.profileKey slot.1 slot.2) (printInt mhz)
    return { b with keys := b.keys.next sizeofKey, values := b.values.next sizeofValue }
  else return b

def putGovernor (profiles : SysClkTitleProfileList) (b : ProfileBuffers) :
    Except ProfileBuffer ProfileBuffers :=
  if profiles.governorConfig ≠ SysClkOcGovernorConfig_Default then
    b.putPair Config.CONFIG_KEY_TITLE_GOVERNOR_CONFIG (printInt profiles.governorConfig)
  else .ok b

def terminate (b : ProfileBuffers) : Except ProfileBuffer ProfileBuffers := do
  let keys ← b.keys.terminate .iniKeys
  let values ← b.values.terminate .iniValues
  return { b with keys := keys, values := values }

/-- `SetProfiles` up to the call of `ini_putsection`. -/
def build (stack : ProfileStack) (tid : UInt64) (profiles : SysClkTitleProfileList) :
    Except ProfileBuffer ProfileBuffers := do
  let b ← (init stack).printSection tid
  let b ← profileSlots.foldlM (putClock profiles) b
  let b ← b.putGovernor profiles
  b.terminate

/-- What `ini_putsection` gets: the title, and as many keys as values, a pair for each clock that
is set and one for a governor that is not the default. -/
structure Right (b : ProfileBuffers) (tid : UInt64) (profiles : SysClkTitleProfileList) :
    Prop where
  sectionStr : StringAt b.sectionStr 0 (printHex16 tid)
  keys : b.keys.Lists ((Config.profileEntries profiles).map Prod.fst)
  values : b.values.Lists ((Config.profileEntries profiles).map Prod.snd)
  count : (Config.profileEntries profiles).length = Config.numProfiles profiles +
    if profiles.governorConfig ≠ SysClkOcGovernorConfig_Default then 1 else 0

/-! ## What fits -/

theorem nul_notMem_of_numeral {base : Nat} {s : List Char} (h : IsNumeral base s) : NUL ∉ s := by
  intro hmem
  obtain ⟨d, -, hd⟩ := h NUL hmem
  exact absurd hd nofun

/-- A 32-bit word has ten digits at most, and a sign. -/
theorem printInt_fits (x : UInt32) : (printInt x).length < sizeofValue ∧ NUL ∉ printInt x := by
  have hx := x.toNat_lt
  have hdigits : ∀ n < 2 ^ 32, (Nat.toDigits 10 n).length ≤ 10 ∧ NUL ∉ Nat.toDigits 10 n := by
    intro n hn
    refine ⟨(Nat.length_toDigits_le_iff (by omega) (by omega)).2 (by omega), ?_⟩
    exact nul_notMem_of_numeral (isNumeral_decimal n)
  unfold printInt sizeofValue
  split
  · obtain ⟨hlen, hnul⟩ := hdigits x.toNat hx
    exact ⟨by omega, hnul⟩
  · obtain ⟨hlen, hnul⟩ := hdigits (2 ^ 32 - x.toNat) (by omega)
    refine ⟨by rw [List.length_cons]; omega, ?_⟩
    rw [List.mem_cons, not_or]
    exact ⟨by decide, hnul⟩

theorem profileKey_fits (profile : SysClkProfile) (module : SysClkModule) :
    (Config.profileKey profile module).length < sizeofKey ∧
      NUL ∉ Config.profileKey profile module := by
  cases profile <;> cases module <;> decide +kernel

theorem governorKey_fits : Config.CONFIG_KEY_TITLE_GOVERNOR_CONFIG.length < sizeofKey ∧
    NUL ∉ Config.CONFIG_KEY_TITLE_GOVERNOR_CONFIG := by
  decide +kernel

/-! ## The loop -/

/-- The pair that a slot adds. -/
def clockPair (profiles : SysClkTitleProfileList) (slot : Slot) : Option (Text × Text) :=
  let mhz := profiles.mhzMap slot.1 slot.2
  if mhz ≠ 0 then some (Config.profileKey slot.1 slot.2, printInt mhz) else none

/-- The pairs are in the buffers, the first ones in the slots. -/
structure Holds (b : ProfileBuffers) (pairs : List (Text × Text)) : Prop where
  keys : b.keys.Filled sizeofKey numClocks (numClocks + 1 + 1) (pairs.map Prod.fst)
  values : b.values.Filled sizeofValue numClocks (numClocks + 1 + 1) (pairs.map Prod.snd)

/-- The next strings go behind the pairs. -/
structure Ready (b : ProfileBuffers) (pairs : List (Text × Text)) : Prop extends Holds b pairs where
  sk : b.keys.sp = sizeofKey * pairs.length
  sv : b.values.sp = sizeofValue * pairs.length

variable {b : ProfileBuffers} {pairs : List (Text × Text)} {profiles : SysClkTitleProfileList}

theorem Ready.putPair (h : Ready b pairs) (hslot : pairs.length < numClocks) {key value : Text}
    (hkey : key.length < sizeofKey ∧ NUL ∉ key) (hvalue : value.length < sizeofValue ∧ NUL ∉ value) :
    ∃ b', b.putPair key value = .ok b' ∧ Holds b' (pairs ++ [(key, value)]) ∧
      b'.keys.sp = b.keys.sp ∧ b'.values.sp = b.values.sp ∧ b'.sectionStr = b.sectionStr := by
  obtain ⟨k₁, k₂, hk₁, hk₂, hksp, hk⟩ := h.keys.put ProfileBuffer.keysStr
    ProfileBuffer.iniKeys (by simpa using h.sk) (by simpa using hslot)
    (by rw [List.length_map]; omega) hkey.1 hkey.2
  obtain ⟨v₁, v₂, hv₁, hv₂, hvsp, hv⟩ := h.values.put ProfileBuffer.valuesStr
    ProfileBuffer.iniValues (by simpa using h.sv) (by simpa using hslot)
    (by rw [List.length_map]; omega) hvalue.1 hvalue.2
  refine ⟨{ b with keys := k₂, values := v₂ }, ?_, ⟨?_, ?_⟩, hksp, hvsp, rfl⟩
  · unfold ProfileBuffers.putPair
    rw [hk₁, hv₁]
    simp only [bind, Except.bind, hk₂, hv₂]
    rfl
  · simpa using hk
  · simpa using hv

/-- One pass adds the pair of the slot, if its clock is set. -/
theorem Ready.putClock (h : Ready b pairs) (hslot : pairs.length < numClocks)
    (profiles : SysClkTitleProfileList) (slot : Slot) :
    ∃ b', b.putClock profiles slot = .ok b' ∧
      Ready b' (pairs ++ (clockPair profiles slot).toList) ∧ b'.sectionStr = b.sectionStr := by
  unfold ProfileBuffers.putClock clockPair
  dsimp only
  by_cases hset : profiles.mhzMap slot.1 slot.2 ≠ 0
  · obtain ⟨b', hput, hholds, hsk, hsv, hsection⟩ := h.putPair hslot
      (profileKey_fits slot.1 slot.2) (printInt_fits (profiles.mhzMap slot.1 slot.2))
    rw [if_pos hset, if_pos hset, hput]
    refine ⟨_, rfl, ⟨⟨hholds.keys.next, hholds.values.next⟩, ?_, ?_⟩, hsection⟩
    · show b'.keys.sp + sizeofKey = _
      rw [hsk, h.sk]
      simp [Nat.mul_add]
    · show b'.values.sp + sizeofValue = _
      rw [hsv, h.sv]
      simp [Nat.mul_add]
  · rw [if_neg hset, if_neg hset]
    refine ⟨b, rfl, ?_, rfl⟩
    rwa [Option.toList_none, List.append_nil]

/-- The loop adds the pairs of all slots. -/
theorem Ready.putClocks (profiles : SysClkTitleProfileList) (slots : List Slot) :
    ∀ {b : ProfileBuffers} {pairs : List (Text × Text)}, Ready b pairs →
    pairs.length + slots.length ≤ numClocks →
    ∃ b', slots.foldlM (ProfileBuffers.putClock profiles) b = .ok b' ∧
      Ready b' (pairs ++ slots.filterMap (clockPair profiles)) ∧ b'.sectionStr = b.sectionStr := by
  induction slots with
  | nil =>
    intro b pairs h _
    refine ⟨b, rfl, ?_, rfl⟩
    rwa [List.filterMap_nil, List.append_nil]
  | cons slot slots ih =>
    intro b pairs h hle
    rw [List.length_cons] at hle
    obtain ⟨b₁, hput, h₁, hsection₁⟩ := h.putClock (by omega) profiles slot
    have hone : (clockPair profiles slot).toList.length ≤ 1 := by
      cases clockPair profiles slot <;> simp
    obtain ⟨b₂, hrun, h₂, hsection₂⟩ := ih h₁ (by rw [List.length_append]; omega)
    refine ⟨b₂, ?_, ?_, hsection₂.trans hsection₁⟩
    · rw [List.foldlM_cons, hput]
      exact hrun
    · have hpairs : (slot :: slots).filterMap (clockPair profiles) =
          (clockPair profiles slot).toList ++ slots.filterMap (clockPair profiles) := by
        cases hpair : clockPair profiles slot with
        | none => rw [List.filterMap_cons_none hpair, Option.toList_none, List.nil_append]
        | some pair => rw [List.filterMap_cons_some hpair]; rfl
      rw [hpairs, ← List.append_assoc]
      exact h₂

/-! ## The buffers -/

theorem profileEntries_eq (profiles : SysClkTitleProfileList) :
    Config.profileEntries profiles = profileSlots.filterMap (clockPair profiles) ++
      if profiles.governorConfig ≠ SysClkOcGovernorConfig_Default then
        [(Config.CONFIG_KEY_TITLE_GOVERNOR_CONFIG, printInt profiles.governorConfig)]
      else [] := rfl

theorem length_clockPairs (profiles : SysClkTitleProfileList) :
    (profileSlots.filterMap (clockPair profiles)).length = Config.numProfiles profiles :=
  Config.length_clockEntries profiles

theorem numProfiles_le (profiles : SysClkTitleProfileList) :
    Config.numProfiles profiles ≤ numClocks :=
  List.countP_le_length

theorem init_ready (stack : ProfileStack) : Ready (init stack) [] where
  keys := ⟨stack.length_keysStr, stack.length_iniKeys, rfl, nofun, nofun, nofun⟩
  values := ⟨stack.length_valuesStr, stack.length_iniValues, rfl, nofun, nofun, nofun⟩
  sk := rfl
  sv := rfl

/-- The title is printed in full. -/
theorem printSection_ok (stack : ProfileStack) (tid : UInt64) :
    ∃ b, (init stack).printSection tid = .ok b ∧ Ready b [] ∧
      StringAt b.sectionStr 0 (printHex16 tid) := by
  have hlen := length_printHex16 tid
  have hroom : 0 + (printHex16 tid ++ [NUL]).length ≤ (List.replicate 17 NUL).length := by
    simp [hlen]
  have hprint : snprintf ProfileBuffer.sectionStr (init stack).sectionStr 0 17 (printHex16 tid) =
      .ok (written (List.replicate 17 NUL) 0 (printHex16 tid ++ [NUL])) := by
    unfold snprintf
    rw [List.take_of_length_le (by omega)]
    exact if_pos hroom
  refine ⟨{ init stack with
    sectionStr := written (List.replicate 17 NUL) 0 (printHex16 tid ++ [NUL]) }, ?_, ?_, ?_, ?_⟩
  · unfold printSection
    rw [hprint]
    rfl
  · exact ⟨⟨(init_ready stack).keys, (init_ready stack).values⟩, rfl, rfl⟩
  · have hstored := written_stored hroom
    rwa [List.length_append, List.length_singleton] at hstored
  · exact nul_notMem_of_numeral (isNumeral_hex16 tid)

/-- After the loop the pairs of the clocks are in the buffers. -/
theorem clocks_built (stack : ProfileStack) (tid : UInt64) (profiles : SysClkTitleProfileList) :
    ∃ b, build stack tid profiles = b.putGovernor profiles >>= terminate ∧
      Ready b (profileSlots.filterMap (clockPair profiles)) ∧
      StringAt b.sectionStr 0 (printHex16 tid) := by
  obtain ⟨b₀, hsection, h₀, htitle⟩ := printSection_ok stack tid
  obtain ⟨b, hrun, h, hkept⟩ := h₀.putClocks profiles profileSlots (Nat.le_refl _)
  refine ⟨b, ?_, h, ?_⟩
  · unfold build
    rw [hsection]
    simp only [bind, Except.bind] at hrun ⊢
    rw [hrun]
  · rw [hkept]
    exact htitle

/-- The null pointers end lists of the pairs. -/
theorem Holds.terminate (h : Holds b pairs) (hle : pairs.length ≤ numClocks + 1) :
    ∃ b', b.terminate = .ok b' ∧ b'.keys.Lists (pairs.map Prod.fst) ∧
      b'.values.Lists (pairs.map Prod.snd) ∧ b'.sectionStr = b.sectionStr := by
  have hlt : pairs.length < numClocks + 1 + 1 := by omega
  obtain ⟨keys, hkeys, hk⟩ := h.keys.terminate ProfileBuffer.iniKeys
    (by rwa [List.length_map])
  obtain ⟨values, hvalues, hv⟩ := h.values.terminate ProfileBuffer.iniValues
    (by rwa [List.length_map])
  refine ⟨{ b with keys := keys, values := values }, ?_, hk, hv, rfl⟩
  unfold ProfileBuffers.terminate
  rw [hkeys, hvalues]
  rfl

/-- With a slot left for the governor all strings are inside. -/
theorem build_right (stack : ProfileStack) (tid : UInt64) {profiles : SysClkTitleProfileList}
    (h : ¬ (Config.numProfiles profiles = numClocks ∧
      profiles.governorConfig ≠ SysClkOcGovernorConfig_Default)) :
    ∃ b, build stack tid profiles = .ok b ∧ b.Right tid profiles := by
  obtain ⟨b₀, hbuild, hready, htitle⟩ := clocks_built stack tid profiles
  have hlen := length_clockPairs profiles
  have hle := numProfiles_le profiles
  have hholds : ∃ b, b₀.putGovernor profiles = .ok b ∧ Holds b (Config.profileEntries profiles) ∧
      b.sectionStr = b₀.sectionStr := by
    rw [profileEntries_eq]
    unfold putGovernor
    by_cases hgovernor : profiles.governorConfig ≠ SysClkOcGovernorConfig_Default
    · have hne : Config.numProfiles profiles ≠ numClocks := fun heq => h ⟨heq, hgovernor⟩
      obtain ⟨b, hput, hb, -, -, hkept⟩ := hready.putPair (by omega) governorKey_fits
        (printInt_fits profiles.governorConfig)
      rw [if_pos hgovernor, if_pos hgovernor]
      exact ⟨b, hput, hb, hkept⟩
    · rw [if_neg hgovernor, if_neg hgovernor, List.append_nil]
      exact ⟨b₀, rfl, hready.toHolds, rfl⟩
  obtain ⟨b, hput, hb, hkept⟩ := hholds
  have hcount := Config.length_profileEntries profiles
  obtain ⟨b', hend, hkeys, hvalues, hkept'⟩ := hb.terminate (by
    rw [hcount]
    split <;> omega)
  refine ⟨b', ?_, ?_, hkeys, hvalues, hcount⟩
  · rw [hbuild, hput]
    exact hend
  · rw [hkept', hkept]
    exact htitle

/-- With all clocks set the name of the governor's key leaves `keysStr`. -/
theorem build_overrun (stack : ProfileStack) (tid : UInt64) {profiles : SysClkTitleProfileList}
    (hall : Config.numProfiles profiles = numClocks)
    (hgovernor : profiles.governorConfig ≠ SysClkOcGovernorConfig_Default) :
    build stack tid profiles = .error .keysStr := by
  obtain ⟨b, hbuild, hready, -⟩ := clocks_built stack tid profiles
  have hfull : b.keys.sp = sizeofKey * numClocks := by
    rw [hready.sk, length_clockPairs, hall]
  rw [hbuild]
  unfold putGovernor putPair
  rw [if_pos hgovernor, StringList.print_full _ hready.keys.length_chars hfull]
  rfl

theorem numProfiles_eq_iff (profiles : SysClkTitleProfileList) :
    Config.numProfiles profiles = numClocks ↔
      ∀ profile module, profiles.mhzMap profile module ≠ 0 := by
  have hslots : numClocks = profileSlots.length := rfl
  unfold Config.numProfiles
  rw [hslots, List.countP_eq_length]
  constructor
  · intro hall profile module
    simpa using hall (profile, module) (Config.mem_profileSlots _)
  · intro hall slot _
    simpa using hall slot.1 slot.2

/-- **All strings lie inside the buffers, and the lists are right**, unless all fifteen clocks are
set and the governor is not the default. -/
theorem setProfiles_buffers_iff (stack : ProfileStack) (tid : UInt64)
    (profiles : SysClkTitleProfileList) :
    (∃ b, build stack tid profiles = .ok b ∧ b.Right tid profiles) ↔
      ¬ ((∀ profile module, profiles.mhzMap profile module ≠ 0) ∧
        profiles.governorConfig ≠ SysClkOcGovernorConfig_Default) := by
  rw [← numProfiles_eq_iff]
  constructor
  · rintro ⟨b, hbuild, -⟩ ⟨hall, hgovernor⟩
    rw [build_overrun stack tid hall hgovernor] at hbuild
    exact absurd hbuild nofun
  · exact build_right stack tid

/-! ## `setProfiles` -/

variable {F : Type} {ini_putsection : Text → List (Text × Text) → Option F} {stack : ProfileStack}
  {tid : UInt64}

/-- What `ini_putsection` reads in the buffers is what is saved. -/
theorem setProfiles_of_build (h : build stack tid profiles = .ok b) (c : Config)
    {title : Text} {keys values : List Text} (htitle : StringAt b.sectionStr 0 title)
    (hkeys : b.keys.Lists keys) (hvalues : b.values.Lists values) :
    c.setProfiles ini_putsection tid profiles =
      match ini_putsection title (keys.zip values) with
      | none => .ok (none, c)
      | some file => .ok (some file, c.applyProfiles tid profiles) := by
  have hfits : ¬ (Config.numProfiles profiles = numClocks ∧
      profiles.governorConfig ≠ SysClkOcGovernorConfig_Default) := by
    rintro ⟨hall, hgovernor⟩
    rw [build_overrun stack tid hall hgovernor] at h
    exact absurd h nofun
  obtain ⟨b', hbuild, hright⟩ := build_right stack tid hfits
  obtain rfl := Except.ok.inj (h.symm.trans hbuild)
  rw [htitle.unique hright.sectionStr, hkeys.unique hright.keys, hvalues.unique hright.values]
  have hzip : ((Config.profileEntries profiles).map Prod.fst).zip
      ((Config.profileEntries profiles).map Prod.snd) = Config.profileEntries profiles := by
    rw [← List.unzip_fst, ← List.unzip_snd, List.zip_unzip]
  rw [hzip]
  exact if_neg (Nat.not_lt.2 (Config.profileEntries_fits hfits))

/-- A string behind the buffers is what the model of `SetProfiles` faults on. -/
theorem setProfiles_of_overrun {e : ProfileBuffer} (h : build stack tid profiles = .error e)
    (c : Config) :
    c.setProfiles ini_putsection tid profiles = .error .stringBufferOverrun := by
  have hfull : Config.numProfiles profiles = numClocks ∧
      profiles.governorConfig ≠ SysClkOcGovernorConfig_Default := by
    by_contra hfits
    obtain ⟨b, hbuild, -⟩ := build_right stack tid hfits
    exact absurd (h.symm.trans hbuild) nofun
  obtain ⟨hall, hgovernor⟩ := hfull
  unfold Config.setProfiles
  dsimp only
  rw [if_pos]
  rw [Config.length_profileEntries, hall, if_pos hgovernor]
  decide

/-! ## A title with all clocks set -/

def zeroStack : ProfileStack where
  iniKeys := List.replicate 17 none
  iniValues := List.replicate 17 none
  keysStr := List.replicate 960 NUL
  valuesStr := List.replicate 240 NUL
  length_iniKeys := List.length_replicate
  length_iniValues := List.length_replicate
  length_keysStr := List.length_replicate
  length_valuesStr := List.length_replicate

/-- Fifteen clocks, and both governors off. -/
def allClocks : SysClkTitleProfileList where
  mhzMap _ _ := 1020
  governorConfig := SysClkOcGovernorConfig_AllDisabled

theorem setProfiles_buffers_overrun :
    ¬ ∀ (stack : ProfileStack) (tid : UInt64) (profiles : SysClkTitleProfileList),
      ∃ b, build stack tid profiles = .ok b ∧ b.Right tid profiles := by
  intro hall
  obtain ⟨b, hbuild, -⟩ := hall zeroStack 1 allClocks
  rw [build_overrun zeroStack 1 (by decide) (by decide)] at hbuild
  exact absurd hbuild nofun

end ProfileBuffers

end SwitchOc.SysClk
