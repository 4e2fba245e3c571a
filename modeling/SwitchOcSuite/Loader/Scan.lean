import Mathlib.Tactic.Common
import SwitchOcSuite.Loader.Lookback

/-!
# The scan and the bounds of the image

The cursors of a scan, each with the image as the ones before have left it.

    patch_inImage_iff      the whole scan is inside the image iff every cursor is
-/

namespace SwitchOc

open Traced

/-! ## Cursors -/

theorem neverFails_tryEntries {soc : Soc} {C : CustomizeTable} (ht : TablesPresent soc C)
    (ptr : Int) : ∀ (es : List PatcherEntry) (i : Nat), (∀ entry ∈ es, entry ∈ patches soc C) →
      NeverFails (tryEntries ptr i es) := by
  intro es
  induction es with
  | nil => exact fun i _ => neverFails_pure ()
  | cons entry es ih =>
    intro i hes s
    have hrest := ih (i + 1) fun e he => hes e (by simp [he])
    have hstate := searchAndApply_state (hes entry (by simp)) ht ptr i s
    unfold tryEntries Prog.attempt
    cases h : (entry.searchAndApply i ptr s).result with
    | ok u => exact ⟨u, by simp [h]⟩
    | error e =>
      obtain ⟨u, hu⟩ := hrest (entry.searchAndApply i ptr s).state
      exact ⟨u, by simp [h, (hstate e h).1, hu]⟩

theorem neverFails_patchAt {soc : Soc} {C : CustomizeTable} (ht : TablesPresent soc C)
    (ptr : Int) : NeverFails (patchAt soc C ptr) :=
  neverFails_tryEntries ht ptr _ 0 fun _ h => h

/-- The image when the scan that started from `s` reaches `ptr`. -/
def arrival (soc : Soc) (C : CustomizeTable) (ptr : Nat) (s : Store Device) : Store Device :=
  (Prog.forEach (List.range ptr) (fun p : Nat => patchAt soc C p) s).state

/-- The counts are looked at without touching the image. -/
theorem traces_checkResults {P : Access → Prop} (es : List PatcherEntry) :
    ∀ (i : Nat) (s : Store Device), Traces P (checkResults i es) s := by
  induction es with
  | nil => exact fun _ s => traces_pure () s
  | cons entry es ih =>
    intro i s
    unfold checkResults Traces
    dsimp only
    split
    · exact ih (i + 1) s
    · exact traces_fail _ s

theorem traces_patch {P : Access → Prop} {soc : Soc} {C : CustomizeTable} {nsoSize : Nat}
    {s : Store Device} : Traces P (patch soc C nsoSize) s ↔ Traces P (scan soc C nsoSize) s := by
  unfold patch
  rw [traces_bind]
  exact and_iff_left fun _ _ => traces_checkResults _ 0 _

/-! ## The whole scan -/

/-- Accesses that lie inside an image of `nsoSize` bytes. -/
def InImage (nsoSize : Nat) (a : Access) : Prop := 0 ≤ a.addr ∧ 4 * a.addr + 4 ≤ nsoSize

theorem inImage_eq (nsoSize : Nat) : InImage nsoSize = Inside ((nsoSize / 4 : Nat) : Int) := by
  ext a
  show 0 ≤ a.addr ∧ 4 * a.addr + 4 ≤ nsoSize ↔ 0 ≤ a.addr ∧ a.addr < ((nsoSize / 4 : Nat) : Int)
  omega

/-- **Every access of a scan is inside the image iff each cursor has, in the image as it
finds it, as many words before it as the entries tried there look back.** -/
theorem patch_inImage_iff (soc : Soc) (C : CustomizeTable) (nsoSize : Nat) (s : Store Device)
    (hsafe : safetyCheck C = .ok ()) :
    Traces (InImage nsoSize) (patch soc C nsoSize) s ↔
      ∀ ptr : Nat, 4 * (ptr + soc.mtcTableWords) ≤ nsoSize →
        lookback soc C (arrival soc C ptr s).mem ptr ≤ ptr := by
  have ht := tablesPresent_of_safetyCheck hsafe soc
  have hcursor : ∀ ptr : Nat, 4 * (ptr + soc.mtcTableWords) ≤ nsoSize →
      (Traces (InImage nsoSize) (patchAt soc C ptr) (arrival soc C ptr s) ↔
        lookback soc C (arrival soc C ptr s).mem ptr ≤ ptr) := by
    intro ptr hptr
    rw [inImage_eq]
    exact traces_patchAt_iff ht (by omega) (by omega)
  rw [traces_patch]
  unfold scan
  rw [traces_forEach_range fun ptr : Nat => neverFails_patchAt ht ptr]
  constructor
  · intro h ptr hptr
    exact (hcursor ptr hptr).1 (h ptr (List.mem_range.1 (mem_cursors.2 hptr)))
  · intro h ptr hlt
    have hptr := mem_cursors.1 (List.mem_range.2 hlt)
    exact (hcursor ptr hptr).2 (h ptr hptr)

/-- An image of zeros. -/
def zeroImage : Store Device := ⟨fun _ => 0, ⟨true, fun _ => 0, fun _ => 0⟩⟩

/-- With room for one cursor there is nothing to look back at. -/
theorem patch_inImage_iff_zeroImage :
    Traces (InImage 4300) (patch .mariko customizeTable 4300) zeroImage :=
  (patch_inImage_iff .mariko customizeTable 4300 zeroImage safetyCheck_customizeTable).2
    fun ptr hptr => by
      have hW : Soc.mariko.mtcTableWords = 1075 := rfl
      obtain rfl : ptr = 0 := by omega
      decide

/-- An image that starts with the official CPU voltage. -/
def voltFirstImage : Store Device :=
  { zeroImage with mem := fun w => if w = 0 then Mariko.cpuVoltOfficial else 0 }

/-- `cpuVoltRange` reads the word before the image. -/
theorem patch_voltFirstImage_not_inImage :
    ¬ ∀ (soc : Soc) (C : CustomizeTable) (nsoSize : Nat) (s : Store Device),
      safetyCheck C = .ok () → Traces (InImage nsoSize) (patch soc C nsoSize) s := by
  intro h
  have ht := tablesPresent_of_safetyCheck safetyCheck_customizeTable .mariko
  have hscan := traces_patch.1 (h .mariko customizeTable 4300 voltFirstImage
    safetyCheck_customizeTable)
  unfold scan at hscan
  rw [traces_forEach_range fun ptr : Nat => neverFails_patchAt ht ptr] at hscan
  have hfirst := hscan 0 (by decide)
  rw [inImage_eq] at hfirst
  have hback := (traces_patchAt_iff ht (by decide) (by decide)).1 hfirst
  exact absurd hback (by decide)

end SwitchOc
