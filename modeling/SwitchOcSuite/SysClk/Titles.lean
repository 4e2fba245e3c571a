import Mathlib.Data.List.Basic
import SwitchOcSuite.SysClk.Config

/-!
# What the configuration says of one title

The three maps of a `Config` at one title id are its `Title`.  `BrowseIniFunc` is a
function of it for the sections of the title, and keeps it for all others, so a load
leaves what the lines of the title make of an empty one (`title_load`): the clocks of
`clockLine`, in order, each counted.
-/

namespace SwitchOc.SysClk

open CText Function

abbrev Slot := SysClkProfile × SysClkModule

structure Title where
  mhz : Slot → Option UInt32
  count : Option UInt8
  governor : Option SysClkOcGovernorConfig

def Title.empty : Title := { mhz := fun _ => none, count := none, governor := none }

/-- The clocks stored one after the other. -/
def storeClocks (clocks : List (Slot × UInt32)) (map : Slot → Option UInt32) :
    Slot → Option UInt32 :=
  clocks.foldl (fun map clock => update map clock.1 (some clock.2)) map

@[simp] theorem storeClocks_nil (map : Slot → Option UInt32) : storeClocks [] map = map := rfl

@[simp] theorem storeClocks_cons (clock : Slot × UInt32) (clocks : List (Slot × UInt32))
    (map : Slot → Option UInt32) :
    storeClocks (clock :: clocks) map =
      storeClocks clocks (update map clock.1 (some clock.2)) := rfl

/-- The slot that a line sets, and the frequency stored for it. -/
def clockLine (maxMemFreq : UInt32) (line : Text × Text) : Option (Slot × UInt32) :=
  if line.1 = Config.CONFIG_KEY_TITLE_GOVERNOR_CONFIG then none
  else
    match Config.parseProfileKey line.1 with
    | none => none
    | some slot =>
      let mhz := (strtoul line.2 10).toUInt32
      if mhz = 0 then none else some (slot, Config.clampMemMhz maxMemFreq slot.2 mhz)

/-- The governors that a line sets. -/
def governorLine (line : Text × Text) : Option SysClkOcGovernorConfig :=
  if line.1 = Config.CONFIG_KEY_TITLE_GOVERNOR_CONFIG then
    let input := strtoul line.2 0
    some (if input &&& SysClkOcGovernorConfig_Mask = input then input.toUInt32
      else SysClkOcGovernorConfig_Default)
  else none

namespace Title

def setClock (t : Title) (clock : Slot × UInt32) : Title :=
  { t with
    mhz := update t.mhz clock.1 (some clock.2)
    count := some (match t.count with
      | none => 1
      | some count => count + 1) }

/-- One line of a section of the title. -/
def browse (maxMemFreq : UInt32) (t : Title) (line : Text × Text) : Title :=
  match governorLine line with
  | some config => { t with governor := some config }
  | none =>
    match clockLine maxMemFreq line with
    | some clock => t.setClock clock
    | none => t

end Title

namespace Config

def title (c : Config) (tid : UInt64) : Title where
  mhz slot := c.profileMhzMap (tid, slot)
  count := c.profileCountMap tid
  governor := c.profileGovernorMap tid

theorem title_browseGovernor (c : Config) (tid tid' : UInt64) (value : Text) :
    (c.browseGovernor tid' value).title tid =
      if tid' = tid then { c.title tid with
        governor := some (if strtoul value 0 &&& SysClkOcGovernorConfig_Mask = strtoul value 0 then
          (strtoul value 0).toUInt32 else SysClkOcGovernorConfig_Default) }
      else c.title tid := by
  unfold browseGovernor title
  by_cases h : tid' = tid
  · subst h
    simp
  · simp [h, Ne.symm h]

theorem title_browseProfile (maxMemFreq : UInt32) (c : Config) (tid tid' : UInt64) (slot : Slot)
    (value : Text) :
    (c.browseProfile maxMemFreq tid' slot.1 slot.2 value).title tid =
      if tid' = tid ∧ (strtoul value 10).toUInt32 ≠ 0 then
        (c.title tid).setClock (slot, clampMemMhz maxMemFreq slot.2 (strtoul value 10).toUInt32)
      else c.title tid := by
  unfold browseProfile
  dsimp only
  by_cases hzero : (strtoul value 10).toUInt32 = 0
  · simp [hzero]
  · rw [if_neg hzero]
    by_cases h : tid' = tid
    · subst h
      rw [if_pos ⟨rfl, hzero⟩]
      unfold title Title.setClock
      refine (Title.mk.injEq _ _ _ _ _ _).mpr ⟨funext fun slot' => ?_, update_self _ _ _, rfl⟩
      by_cases hs : slot' = slot
      · subst hs
        simp
      · have hkey : (tid', slot') ≠ (tid', slot.1, slot.2) := fun heq => hs (Prod.mk.inj heq).2
        refine (update_of_ne hkey _ _).trans (Eq.symm ?_)
        exact update_of_ne hs _ _
    · rw [if_neg fun hand => h hand.1]
      unfold title
      simp only [update_of_ne (Ne.symm h), Title.mk.injEq, and_true]
      funext slot'
      exact update_of_ne (fun heq => h (Prod.mk.inj heq).1.symm) _ _

/-- A line is one of the title whose section it stands in. -/
theorem title_browseIniFunc (maxMemFreq : UInt32) (c : Config) (tid : UInt64)
    (entry : Text × Text × Text) :
    (browseIniFunc maxMemFreq c entry).title tid =
      if sectionTitle entry.1 = some tid then (c.title tid).browse maxMemFreq entry.2
      else c.title tid := by
  unfold browseIniFunc
  by_cases hval : entry.1 = CONFIG_VAL_SECTION
  · have hnone : sectionTitle entry.1 = none := by
      rw [hval]
      decide
    rw [if_pos hval, hnone, if_neg nofun]
    unfold browseConfigValue title
    split <;> rfl
  · rw [if_neg hval]
    cases hsection : sectionTitle entry.1 with
    | none => simp
    | some tid' =>
      dsimp only
      unfold Title.browse governorLine clockLine
      by_cases hkey : entry.2.1 = CONFIG_KEY_TITLE_GOVERNOR_CONFIG
      · rw [if_pos hkey, if_pos hkey, title_browseGovernor]
        simp
      · rw [if_neg hkey, if_neg hkey, if_neg hkey]
        cases hparse : parseProfileKey entry.2.1 with
        | none => simp
        | some slot =>
          dsimp only
          rw [title_browseProfile]
          by_cases hzero : (strtoul entry.2.2 10).toUInt32 = 0 <;> simp [hzero]

/-- The lines of the sections of a title. -/
def titleLines (tid : UInt64) (entries : List (Text × Text × Text)) : List (Text × Text) :=
  entries.filterMap fun entry => if sectionTitle entry.1 = some tid then some entry.2 else none

theorem title_foldl_browse (maxMemFreq : UInt32) (tid : UInt64)
    (entries : List (Text × Text × Text)) (c : Config) :
    (entries.foldl (browseIniFunc maxMemFreq) c).title tid =
      (titleLines tid entries).foldl (Title.browse maxMemFreq) (c.title tid) := by
  induction entries generalizing c with
  | nil => rfl
  | cons entry entries ih =>
    rw [List.foldl_cons, ih, title_browseIniFunc]
    unfold titleLines
    by_cases h : sectionTitle entry.1 = some tid
    · simp [h]
    · simp [h]

/-- **Loading**, seen from one title. -/
theorem title_load (maxMemFreq : UInt32) {mtime : Int} (hmtime : mtime ≠ 0)
    (entries : List (Text × Text × Text)) (c : Config) (tid : UInt64) :
    (c.load maxMemFreq mtime entries).title tid =
      (titleLines tid entries).foldl (Title.browse maxMemFreq) Title.empty := by
  unfold load
  dsimp only
  rw [if_neg hmtime]
  exact title_foldl_browse maxMemFreq tid entries _

end Config

/-! ## The lines of a title, in order -/

namespace Title

/-- A line that sets a clock sets no governors. -/
theorem browse_of_clock {maxMemFreq : UInt32} {line : Text × Text} {clock : Slot × UInt32}
    (h : clockLine maxMemFreq line = some clock) (t : Title) :
    t.browse maxMemFreq line = t.setClock clock := by
  have hkey : line.1 ≠ Config.CONFIG_KEY_TITLE_GOVERNOR_CONFIG := by
    intro hkey
    unfold clockLine at h
    rw [if_pos hkey] at h
    cases h
  unfold browse governorLine
  rw [if_neg hkey, h]

/-- A line that sets no clock leaves them and their number alone. -/
theorem browse_of_none {maxMemFreq : UInt32} {line : Text × Text}
    (h : clockLine maxMemFreq line = none) (t : Title) :
    (t.browse maxMemFreq line).mhz = t.mhz ∧ (t.browse maxMemFreq line).count = t.count := by
  unfold browse
  rw [h]
  cases governorLine line with
  | some config => exact ⟨rfl, rfl⟩
  | none => exact ⟨rfl, rfl⟩

theorem browse_mhz (maxMemFreq : UInt32) (lines : List (Text × Text)) (t : Title) :
    (lines.foldl (browse maxMemFreq) t).mhz =
      storeClocks (lines.filterMap (clockLine maxMemFreq)) t.mhz := by
  induction lines generalizing t with
  | nil => rfl
  | cons line lines ih =>
    rw [List.foldl_cons, ih]
    cases h : clockLine maxMemFreq line with
    | none => rw [(browse_of_none h t).1, List.filterMap_cons_none h]
    | some clock => rw [browse_of_clock h, List.filterMap_cons_some h, storeClocks_cons, setClock]

/-- Every clock counts, in eight bits. -/
theorem browse_count (maxMemFreq : UInt32) (lines : List (Text × Text)) (t : Title) :
    (lines.foldl (browse maxMemFreq) t).count.getD 0 =
      t.count.getD 0 + UInt8.ofNat (lines.filterMap (clockLine maxMemFreq)).length := by
  induction lines generalizing t with
  | nil => simp
  | cons line lines ih =>
    rw [List.foldl_cons, ih]
    cases h : clockLine maxMemFreq line with
    | none => rw [(browse_of_none h t).2, List.filterMap_cons_none h]
    | some clock =>
      rw [browse_of_clock h, List.filterMap_cons_some h, List.length_cons]
      dsimp only [setClock]
      rw [UInt8.ofNat_add, ← UInt8.add_assoc]
      cases t.count with
      | none =>
        show 1 + _ = 0 + _ + UInt8.ofNat 1
        rw [UInt8.zero_add, UInt8.add_comm]
        rfl
      | some count =>
        show count + 1 + _ = count + _ + UInt8.ofNat 1
        rw [UInt8.add_assoc, UInt8.add_assoc, UInt8.add_comm 1]
        rfl

/-- The last line about the governors decides. -/
theorem browse_governor (maxMemFreq : UInt32) (lines : List (Text × Text)) (t : Title) :
    (lines.foldl (browse maxMemFreq) t).governor =
      (lines.filterMap governorLine).foldl (fun _ config => some config) t.governor := by
  induction lines generalizing t with
  | nil => rfl
  | cons line lines ih =>
    rw [List.foldl_cons, ih]
    unfold browse
    cases hgov : governorLine line with
    | some config => rw [List.filterMap_cons_some hgov, List.foldl_cons]
    | none =>
      rw [List.filterMap_cons_none hgov]
      cases clockLine maxMemFreq line <;> rfl

end Title

end SwitchOc.SysClk
