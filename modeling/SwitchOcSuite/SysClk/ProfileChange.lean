import SwitchOcSuite.SysClk.Charging
import SwitchOcSuite.SysClk.Refresh

/-!
# A change of the real profile

`RefreshContext` raises its flag when the real profile has changed, and then
overwrites it with what `Refresh` says of the configuration.  So the change is
seen only along with another one (`profile_change_noticed_iff`, over whole
sessions).  The nominal profile, which ReverseNX can hold, is not enough.
-/

namespace SwitchOc.SysClk.ClockManager

open Traced

variable {H : Type} {P : Hardware H}

/-- The readings of the call are those of another real profile than the stored one. -/
def RealProfileChanges (s : ClockManager H) (E : Environment) : Prop :=
  getCurrentProfile E ≠ s.oc.realProfile

instance (s : ClockManager H) (E : Environment) : Decidable (RealProfileChanges s E) :=
  inferInstanceAs (Decidable (getCurrentProfile E ≠ s.oc.realProfile))

/-- A call of `RefreshContext` that returns says that something has changed. -/
def ReportsChange (P : Hardware H) (s : ClockManager H) (E : Environment) : Prop :=
  ∀ hasChanged, (refreshContext P E s).result = .ok hasChanged → hasChanged = true

/-- The flag that is returned does not depend on the stored real profile. -/
theorem reportsChange_iff (s : ClockManager H) (E : Environment) :
    ReportsChange P s E ↔
      ((∃ hasChanged, (refreshContext P E s).result = .ok hasChanged) →
        noticedChange P s E = true) := by
  constructor
  · rintro h ⟨hasChanged, hres⟩
    rw [← (refreshContext_ok hres).1]
    exact h hasChanged hres
  · intro h hasChanged hres
    rw [(refreshContext_ok hres).1]
    exact h ⟨hasChanged, hres⟩

/-- **A new real profile is noticed** by every tick of a session iff every tick that
finds one finds one of the following too: a configuration file to load, another
state of `enabled`, another title, another performance configuration, another
nominal profile, a clock that has moved by itself, or another override. -/
theorem profile_change_noticed_iff (P : Hardware H) (s : ClockManager H) (cs : List (Call H)) :
    (∀ v ∈ visits (serve P) s cs, ∀ E, v.2 = .tick E → RealProfileChanges v.1 E →
        ReportsChange P v.1 E) ↔
      ∀ v ∈ visits (serve P) s cs, ∀ E, v.2 = .tick E → RealProfileChanges v.1 E →
        (∃ hasChanged, (refreshContext P E v.1).result = .ok hasChanged) →
          noticedChange P v.1 E = true :=
  forall₂_congr fun v _ => forall₂_congr fun E _ => imp_congr_right fun _ => reportsChange_iff v.1 E

/-! ## Unplugged while ReverseNX holds the docked mode -/

/-- With a configuration file, so that ReverseNX is in sync. -/
def withConfigFile (E : Environment) : Environment := { E with iniModificationTime := 1 }

def unplugged : Environment :=
  { onCharger 0 with
    chargeInfo := { unk_x14 := 0, chargerType := PsmInfoChargerType_None }
    chargerType := .unconnected }

def unpluggedInDockedMode : List (Call (SysClkModule → UInt32)) :=
  [.setEnabled true, .tick (withConfigFile (onCharger 0x100)),
    .waitForNextTick (withConfigFile (onCharger 0x100)), .setReverseNXRTMode .docked,
    .tick (withConfigFile (onCharger 0x100)), .waitForNextTick (withConfigFile (onCharger 0x100)),
    .tick (withConfigFile unplugged)]

/-- The last tick finds the console off its charger, and nothing else that is new. -/
theorem unplugged_not_noticed :
    ¬ ∀ v ∈ visits (serve Hardware.exact) (new stockClocks false false stockHardware)
        unpluggedInDockedMode, ∀ E, v.2 = .tick E → RealProfileChanges v.1 E →
      ReportsChange Hardware.exact v.1 E := by
  intro h
  have hmem : ∃ v ∈ visits (serve Hardware.exact) (new stockClocks false false stockHardware)
      unpluggedInDockedMode, v.2.tickWith fun E => RealProfileChanges v.1 E ∧
        (refreshContext Hardware.exact E v.1).result = .ok false := by
    decide +kernel
  obtain ⟨v, hv, htick⟩ := hmem
  obtain ⟨E, hE, hmissed⟩ := Call.exists_of_tickWith htick
  obtain ⟨hchange, hfalse⟩ := of_decide_eq_true hmissed
  cases h v hv E hE hchange false hfalse

end SwitchOc.SysClk.ClockManager
