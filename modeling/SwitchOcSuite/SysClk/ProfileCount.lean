import SwitchOcSuite.SysClk.ClockManager
import SwitchOcSuite.SysClk.Profiles

/-!
# The number of profiles of a title

`GetProfileCount` is kept next to the map of the clocks: the parser adds one for
every line that sets a clock, a save writes the number anew.  The two agree as long
as no file that is loaded sets a clock twice (`profiles_stay_consistent`, over whole
sessions of loads, refreshes and saves).
-/

namespace SwitchOc.SysClk.Config

open Function Traced
open Traced.Prog (getState gets sets ofExcept)

/-! ## Sessions -/

inductive ConfigCall where
  /-- `mtime` and `entries` are those of the file at the time of the call. -/
  | load (mtime : Int) (entries : List (Text × Text × Text))
  | refresh (mtime : Int) (entries : List (Text × Text × Text))
  | setProfiles (tid : UInt64) (profiles : SysClkTitleProfileList) (saved : Bool)

def serveConfig (maxMemFreq : UInt32) : ConfigCall → Prog Fault Config Empty Unit
  | .load mtime entries => sets fun c => c.load maxMemFreq mtime entries
  | .refresh mtime entries => sets fun c => (c.refresh maxMemFreq mtime entries).2
  | .setProfiles tid profiles saved => do
    let c ← getState
    let result ← ofExcept (c.setProfiles (savedAs saved) tid profiles)
    sets fun _ => result.2

/-! ## Consistency -/

/-- The keys that are stored for a title. -/
def storedKeys (c : Config) (tid : UInt64) : Nat :=
  profileSlots.countP fun slot => (c.profileMhzMap (tid, slot)).isSome

/-- No clock is `0`, and the number of profiles is that of the keys, for every title. -/
def ProfilesConsistent (c : Config) : Prop :=
  (∀ key, c.profileMhzMap key ≠ some 0) ∧ ∀ tid, (c.getProfileCount tid).toNat = c.storedKeys tid

/-- The lines of a title set every clock at most once, and none to `0`: a memory clock above
1600 MHz stands for the maximum one, which may be below 1 MHz. -/
def SetsOnce (maxMemFreq : UInt32) (entries : List (Text × Text × Text)) : Prop :=
  ∀ tid, (((titleLines tid entries).filterMap (clockLine maxMemFreq)).map Prod.fst).Nodup ∧
    ∀ clock ∈ (titleLines tid entries).filterMap (clockLine maxMemFreq), clock.2 ≠ 0

theorem setsOnce_iff {maxMemFreq : UInt32} {entries : List (Text × Text × Text)} :
    SetsOnce maxMemFreq entries ↔ ∀ tid ∈ entries.filterMap fun entry => sectionTitle entry.1,
      (((titleLines tid entries).filterMap (clockLine maxMemFreq)).map Prod.fst).Nodup ∧
        ∀ clock ∈ (titleLines tid entries).filterMap (clockLine maxMemFreq), clock.2 ≠ 0 := by
  refine ⟨fun h tid _ => h tid, fun h tid => ?_⟩
  by_cases htid : tid ∈ entries.filterMap fun entry => sectionTitle entry.1
  · exact h tid htid
  · have hlines : titleLines tid entries = [] := by
      refine List.filterMap_eq_nil_iff.2 fun entry hentry => ?_
      exact if_neg fun htitle => htid (List.mem_filterMap.2 ⟨entry, hentry, htitle⟩)
    rw [hlines]
    exact ⟨List.nodup_nil, nofun⟩

instance (maxMemFreq : UInt32) (entries : List (Text × Text × Text)) :
    Decidable (SetsOnce maxMemFreq entries) :=
  -- over the titles of the file, not over all there can be
  @decidable_of_iff _ _ setsOnce_iff.symm (List.decidableBAll _ _)

/-- The file that a call loads, if it does, is such a file. -/
def LoadsSetOnce (maxMemFreq : UInt32) (c : Config) : ConfigCall → Prop
  | .load mtime entries => mtime ≠ 0 → SetsOnce maxMemFreq entries
  | .refresh mtime entries =>
    c.needsLoad mtime = true → mtime ≠ 0 → SetsOnce maxMemFreq entries
  | .setProfiles _ _ _ => True

/-! ## One title -/

/-- A key that is new is one more. -/
theorem countP_update {map : Slot → Option UInt32} {slot : Slot} (hnone : map slot = none)
    (mhz : UInt32) {slots : List Slot} (hnd : slots.Nodup) :
    slots.countP (fun slot' => (update map slot (some mhz) slot').isSome) =
      slots.countP (fun slot' => (map slot').isSome) + if slot ∈ slots then 1 else 0 := by
  induction slots with
  | nil => rfl
  | cons slot' slots ih =>
    obtain ⟨hnotin, hnd⟩ := List.nodup_cons.1 hnd
    rw [List.countP_cons, List.countP_cons, ih hnd]
    by_cases heq : slot' = slot
    · subst heq
      simp [hnone, hnotin]
    · simp only [update_of_ne heq, List.mem_cons, Ne.symm heq, false_or]
      omega

theorem countP_storeClocks {clocks : List (Slot × UInt32)} (hnd : (clocks.map Prod.fst).Nodup)
    {map : Slot → Option UInt32} (hnone : ∀ clock ∈ clocks, map clock.1 = none) :
    profileSlots.countP (fun slot => (storeClocks clocks map slot).isSome) =
      profileSlots.countP (fun slot => (map slot).isSome) + clocks.length := by
  induction clocks generalizing map with
  | nil => rfl
  | cons clock clocks ih =>
    rw [List.map_cons] at hnd
    obtain ⟨hnotin, hnd⟩ := List.nodup_cons.1 hnd
    have hslots : profileSlots.Nodup := by decide
    have hkept : ∀ clock' ∈ clocks, update map clock.1 (some clock.2) clock'.1 = none := by
      intro clock' hclock'
      have hne : clock'.1 ≠ clock.1 := by
        intro heq
        rw [← heq] at hnotin
        exact hnotin (List.mem_map_of_mem hclock')
      rw [update_of_ne hne]
      exact hnone clock' (List.mem_cons_of_mem _ hclock')
    rw [storeClocks_cons, ih hnd hkept, countP_update (hnone clock List.mem_cons_self) _ hslots,
      if_pos (mem_profileSlots _), List.length_cons]
    omega

theorem storeClocks_ne_zero {clocks : List (Slot × UInt32)} (h : ∀ clock ∈ clocks, clock.2 ≠ 0)
    {map : Slot → Option UInt32} {slot : Slot} (hmap : map slot ≠ some 0) :
    storeClocks clocks map slot ≠ some 0 := by
  induction clocks generalizing map with
  | nil => exact hmap
  | cons clock clocks ih =>
    rw [storeClocks_cons]
    refine ih (fun clock' hclock' => h clock' (List.mem_cons_of_mem _ hclock')) ?_
    by_cases heq : slot = clock.1
    · subst heq
      rw [update_self]
      exact fun hzero => h clock List.mem_cons_self (Option.some.inj hzero)
    · rwa [update_of_ne heq]

/-! ## One call -/

/-- Consistency, title by title. -/
theorem profilesConsistent_iff {c : Config} :
    ProfilesConsistent c ↔ ∀ tid, (∀ slot, (c.title tid).mhz slot ≠ some 0) ∧
      ((c.title tid).count.getD 0).toNat =
        profileSlots.countP fun slot => ((c.title tid).mhz slot).isSome := by
  constructor
  · rintro ⟨hzero, hcount⟩ tid
    exact ⟨fun slot => hzero (tid, slot), hcount tid⟩
  · intro h
    exact ⟨fun ⟨tid, slot⟩ => (h tid).1 slot, fun tid => (h tid).2⟩

theorem profilesConsistent_load {maxMemFreq : UInt32} {mtime : Int}
    {entries : List (Text × Text × Text)} (h : mtime ≠ 0 → SetsOnce maxMemFreq entries)
    (c : Config) : ProfilesConsistent (c.load maxMemFreq mtime entries) := by
  refine profilesConsistent_iff.2 fun tid => ?_
  by_cases hmtime : mtime = 0
  · have hempty : (c.load maxMemFreq mtime entries).title tid = Title.empty := by
      unfold load
      dsimp only
      rw [if_pos hmtime]
      rfl
    rw [hempty]
    exact ⟨nofun, by decide⟩
  · obtain ⟨hnd, hne⟩ := h hmtime tid
    rw [title_load maxMemFreq hmtime, Title.browse_mhz, Title.browse_count]
    have hkeys : profileSlots.countP (fun slot =>
        (storeClocks ((titleLines tid entries).filterMap (clockLine maxMemFreq))
          Title.empty.mhz slot).isSome) =
        profileSlots.countP (fun slot => (Title.empty.mhz slot).isSome) + _ :=
      countP_storeClocks hnd fun _ _ => rfl
    refine ⟨fun slot => storeClocks_ne_zero hne nofun, ?_⟩
    -- at most fifteen clocks are set, so the eight bits of the counter are enough
    have hfits : profileSlots.countP (fun slot =>
        (storeClocks ((titleLines tid entries).filterMap (clockLine maxMemFreq))
          Title.empty.mhz slot).isSome) ≤ 15 := List.countP_le_length
    have hnone : profileSlots.countP (fun slot => (Title.empty.mhz slot).isSome) = 0 := by decide
    rw [hkeys, hnone, Nat.zero_add] at hfits
    rw [hkeys, hnone, Nat.zero_add]
    show (0 + UInt8.ofNat _).toNat = _
    rw [UInt8.zero_add, UInt8.toNat_ofNat']
    omega

/-- A save keeps the other titles. -/
theorem title_applyProfiles_of_ne (c : Config) {tid tid' : UInt64} (h : tid' ≠ tid)
    (profiles : SysClkTitleProfileList) :
    (c.applyProfiles tid profiles).title tid' = c.title tid' := by
  have hfold : ∀ (slots : List Slot) (map : UInt64 × Slot → Option UInt32) slot,
      slots.foldl (fun map slot => update map (tid, slot)
        (if profiles.mhzMap slot.1 slot.2 ≠ 0 then some (profiles.mhzMap slot.1 slot.2) else none))
          map (tid', slot) = map (tid', slot) := by
    intro slots
    induction slots with
    | nil => exact fun _ _ => rfl
    | cons slot' slots ih =>
      intro map slot
      rw [List.foldl_cons, ih, update_of_ne fun heq => h (Prod.mk.inj heq).1]
  unfold title applyProfiles
  simp only [update_of_ne h, Title.mk.injEq, and_true]
  funext slot
  exact hfold profileSlots _ slot

theorem profilesConsistent_applyProfiles {c : Config} (h : ProfilesConsistent c) (tid : UInt64)
    (profiles : SysClkTitleProfileList) : ProfilesConsistent (c.applyProfiles tid profiles) := by
  refine profilesConsistent_iff.2 fun tid' => ?_
  by_cases heq : tid' = tid
  · subst heq
    rw [title_applyProfiles]
    refine ⟨fun slot => ?_, ?_⟩
    · dsimp only
      split
      · rename_i hne
        exact fun hzero => hne (Option.some.inj hzero)
      · exact nofun
    · have hle : numProfiles profiles ≤ 15 := List.countP_le_length
      show (UInt8.ofNat (numProfiles profiles)).toNat = _
      rw [UInt8.toNat_ofNat', Nat.mod_eq_of_lt (by omega)]
      refine List.countP_congr fun slot _ => ?_
      dsimp only
      split <;> simp_all
  · rw [title_applyProfiles_of_ne c heq]
    exact profilesConsistent_iff.1 h tid'

/-- `SetProfiles` leaves the maps alone or applies the profiles. -/
theorem setProfiles_cases {F : Type} {ini_putsection : Text → List (Text × Text) → Option F}
    {c : Config} {tid : UInt64} {profiles : SysClkTitleProfileList} {result : Option F × Config}
    (h : c.setProfiles ini_putsection tid profiles = .ok result) :
    result.2 = c ∨ result.2 = c.applyProfiles tid profiles := by
  unfold setProfiles at h
  dsimp only at h
  split at h
  · cases h
  · split at h
    · rw [← Except.ok.inj h]
      exact .inl rfl
    · rw [← Except.ok.inj h]
      exact .inr rfl

/-- What one call preserves. -/
theorem profilesConsistent_serveConfig {maxMemFreq : UInt32} {c : Config} {call : ConfigCall}
    (h : ProfilesConsistent c) (hfile : LoadsSetOnce maxMemFreq c call) :
    ProfilesConsistent (serveConfig maxMemFreq call c).state := by
  cases call with
  | load mtime entries => exact profilesConsistent_load hfile c
  | refresh mtime entries =>
    show ProfilesConsistent (c.refresh maxMemFreq mtime entries).2
    unfold refresh
    split
    · rename_i hload
      exact profilesConsistent_load (hfile hload) c
    · exact h
  | setProfiles tid profiles saved =>
    show ProfilesConsistent ((getState >>= _) c).state
    rw [getState_bind_run]
    cases hset : c.setProfiles (savedAs saved) tid profiles with
    | error fault =>
      rw [bind_of_error (show (ofExcept _ c).result = .error fault from rfl)]
      exact h
    | ok result =>
      rw [bind_of_ok (show (ofExcept _ c).result = .ok result from rfl)]
      show ProfilesConsistent result.2
      rcases setProfiles_cases hset with heq | heq
      · rw [heq]
        exact h
      · rw [heq]
        exact profilesConsistent_applyProfiles h tid profiles

theorem profilesConsistent_new : ProfilesConsistent Config.new := by
  refine profilesConsistent_iff.2 fun tid => ?_
  rw [show Config.new.title tid = Title.empty from rfl]
  exact ⟨nofun, by decide⟩

/-- **The number of profiles stays that of the stored clocks** in every session whose calls
load no file that sets a clock twice, or to `0`. -/
theorem profiles_stay_consistent (maxMemFreq : UInt32) (calls : List ConfigCall)
    (h : ∀ v ∈ visits (serveConfig maxMemFreq) Config.new calls, LoadsSetOnce maxMemFreq v.1 v.2) :
    ∀ v ∈ visits (serveConfig maxMemFreq) Config.new calls,
      ProfilesConsistent v.1 ∧ ProfilesConsistent (serveConfig maxMemFreq v.2 v.1).state := by
  have hstart := visits_invariant_of
    (fun _ _ hI hfile _ => profilesConsistent_serveConfig hI hfile) profilesConsistent_new calls h
  exact fun v hv => ⟨hstart v hv, profilesConsistent_serveConfig (hstart v hv) (h v hv)⟩

def editedTitle : Text := "0100000000001000".toList

def clockFile (mhz : List Text) : List (Text × Text × Text) :=
  mhz.map fun value => (editedTitle, "handheld_cpu".toList, value)

/-- The title in two sections with a further title between them, a memory clock above
1600 MHz and a line that sets no clock. -/
def repeatedSections : List (Text × Text × Text) :=
  [(editedTitle, "handheld_cpu".toList, "1020".toList),
    (editedTitle, "docked_gpu".toList, "768".toList),
    ("0100000000010000".toList, "handheld_cpu".toList, "1224".toList),
    (editedTitle, "docked_mem".toList, "1862".toList),
    (editedTitle, "governor_config".toList, "1".toList)]

theorem profiles_stay_consistent_repeatedSections :
    (visits (serveConfig 1600000000) Config.new
        [.load 1 repeatedSections, .setProfiles 0x0100000000001000 someClocks true,
          .refresh 2 (clockFile ["1122".toList]), .refresh 2 [],
          .setProfiles 0x0100000000001000 oneClock false]).Forall fun v =>
      ProfilesConsistent v.1 ∧ ProfilesConsistent (serveConfig 1600000000 v.2 v.1).state := by
  have hrepeated : SetsOnce 1600000000 repeatedSections := by decide +kernel
  have hedited : SetsOnce 1600000000 (clockFile ["1122".toList]) := by decide +kernel
  refine List.forall_iff_forall_mem.2 (profiles_stay_consistent 1600000000 _ fun v hv => ?_)
  obtain ⟨c, call⟩ := v
  have hcall := call_mem_of_visits hv
  simp only [List.mem_cons, List.not_mem_nil, or_false] at hcall
  rcases hcall with rfl | rfl | rfl | rfl | rfl
  · exact fun _ => hrepeated
  · trivial
  · exact fun _ _ => hedited
  · exact fun _ _ => setsOnce_iff.2 nofun
  · trivial

/-- A file that sets the clock of one slot twice. -/
theorem repeatedKey_counts_twice :
    ¬ ∀ v ∈ visits (serveConfig 1600000000) Config.new
        [.load 1 (clockFile ["1020".toList, "1224".toList])],
      ProfilesConsistent v.1 ∧ ProfilesConsistent (serveConfig 1600000000 v.2 v.1).state := by
  intro h
  have hcount := (h _ List.mem_cons_self).2.2 0x0100000000001000
  revert hcount
  decide +kernel

end SwitchOc.SysClk.Config
