import Mathlib.Tactic.Common
import SwitchOcSuite.Lib.Bytes
import SwitchOcSuite.Lib.JsNumber
import SwitchOcSuite.Lib.Traced

/-!
# The web configurator (`main.ts`)

`Cust.load` finds the customize table of a loader image and reads its entries,
`Cust.save` takes the entries' values from the form, validates them all and writes
them back.  The three tables are the source's; what their entries change while the
page runs (`value` and `offset`) is kept in `Cust`, by the entry's id.  The document
itself is left out: a form is the number in each input element, and `fault` is the
tooltip that `validate` shows.
-/

namespace SwitchOc.Web

open Traced Bytes

/-! ## Entries -/

structure CustEntry where
  id : String
  name : String
  size : Nat
  defval : Nat
  min : Nat := 0
  max : Nat := 1000000
  step : Nat := 1
  zeroable : Bool := true

/-- The tooltips of `validate`. -/
inductive ToolTip where
  | notANumber
  | expectedRange (min max : Nat) (got : JsNumber)
  | notMultiple (value : JsNumber) (step : Nat)

/-- The tooltip that `validate` shows; there is none iff it returns true. -/
def CustEntry.fault (i : CustEntry) : Option JsNumber → Option ToolTip
  | none => some .notANumber
  | some value =>
    if value = .nan then some .notANumber
    else if i.zeroable && value.isZero then none
    else if value.lt (.ofNat i.min) || (JsNumber.ofNat i.max).lt value then
      some (.expectedRange i.min i.max value)
    else if ¬ (value.rem (.ofNat i.step)).isZero then some (.notMultiple value i.step)
    else none

def CustEntry.validate (i : CustEntry) (value : Option JsNumber) : Bool := (i.fault value).isNone

/-- `new GpuEntry(id, name)`. -/
def gpuEntry (id name : String) : CustEntry :=
  { id, name, size := 4, defval := 610, min := 610, max := 1000, step := 5, zeroable := false }

def custTable : List CustEntry :=
  [{ id := "mtcConf", name := "DRAM Timing", size := 4, defval := 0, min := 0, max := 2 },
   { id := "commonCpuBoostClock", name := "Boost Clock in kHz", size := 4, defval := 1785000,
     min := 1020000, max := 3000000, zeroable := false },
   { id := "commonEmcMemVolt", name := "EMC Vdd2 Voltage in uV", size := 4, defval := 0,
     min := 1100000, max := 1250000, step := 12500 },
   { id := "eristaCpuMaxVolt", name := "Erista CPU Max Voltage in mV", size := 4, defval := 1235,
     min := 1120, max := 1300 },
   { id := "eristaEmcMaxClock", name := "Erista RAM Max Clock in kHz", size := 4,
     defval := 1862400, min := 1600000, max := 2131200, step := 3200 },
   { id := "marikoCpuMaxVolt", name := "Mariko CPU Max Voltage in mV", size := 4, defval := 1235,
     min := 1120, max := 1300, step := 5 },
   { id := "marikoEmcMaxClock", name := "Mariko RAM Max Clock in kHz", size := 4,
     defval := 1996800, min := 1600000, max := 2502400, step := 3200 },
   { id := "marikoEmcVddqVolt", name := "EMC Vddq (Mariko Only) Voltage in uV", size := 4,
     defval := 0, min := 550000, max := 650000, step := 5000 },
   { id := "marikoCpuUV", name := "Enable Mariko CPU Undervolt", size := 4, defval := 0,
     min := 0, max := 2 },
   { id := "marikoGpuUV", name := "Enable Mariko GPU Undervolt", size := 4, defval := 0,
     min := 0, max := 3 },
   { id := "commonGpuVoltOffset", name := "GPU Volt Offset", size := 4, defval := 0,
     min := 0, max := 100 }]

def advTable : List CustEntry :=
  [{ id := "marikoEmcDvbShift", name := "Step up Mariko EMC DVB Table", size := 4, defval := 0,
     min := 0, max := 9 },
   { id := "ramTimingPresetOne", name := "Primary RAM Timing Preset", size := 4, defval := 1,
     min := 0, max := 6 },
   { id := "ramTimingPresetTwo", name := "Secondary RAM Timing Preset", size := 4, defval := 1,
     min := 0, max := 5 },
   { id := "ramTimingPresetThree", name := "Secondary RAM Timing Preset", size := 4, defval := 1,
     min := 0, max := 6 },
   { id := "ramTimingPresetFour", name := "Secondary RAM Timing Preset", size := 4, defval := 1,
     min := 0, max := 6 },
   { id := "ramTimingPresetFive", name := "Secondary RAM Timing Preset", size := 4, defval := 1,
     min := 0, max := 6 },
   { id := "ramTimingPresetSix", name := "Tertiary RAM Timing Preset", size := 4, defval := 1,
     min := 0, max := 5 },
   { id := "ramTimingPresetSeven", name := "Latency Decrement", size := 4, defval := 0,
     min := 0, max := 6 }]

def gpuTable : List CustEntry :=
  [gpuEntry "0" "76.8", gpuEntry "1" "153.6", gpuEntry "2" "230.4", gpuEntry "3" "307.2",
   gpuEntry "4" "384.0", gpuEntry "5" "460.8", gpuEntry "6" "537.6", gpuEntry "7" "614.4",
   gpuEntry "8" "691.2", gpuEntry "9" "768.0", gpuEntry "10" "844.8", gpuEntry "11" "921.6",
   gpuEntry "12" "998.4", gpuEntry "13" "1075.2", gpuEntry "14" "1152.0",
   gpuEntry "15" "1228.8", gpuEntry "16" "1267.2"]

/-! ## The page -/

/-- What `throw` is given. -/
inductive JsError where
  | invalid (name : String)
  | noOffset (name : String)
  | unknownSize (name : String)
  | invalidFile
  | unsupportedRev (got : Nat)
  | rangeError
  deriving DecidableEq

def custRevAdv : Nat := 11

def JsError.message : JsError → String
  | .invalid name => s!"Invalid {name}"
  | .noOffset name => s!"Failed to get offset for {name}"
  | .unknownSize name => s!"Unknown size at {name}"
  | .invalidFile => "Invalid loader.kip file"
  | .unsupportedRev got => s!"Unsupported custRev, expected: {custRevAdv}, got {got}"
  | .rangeError => "Offset is outside the bounds of the DataView"

structure Cust where
  buffer : List UInt8
  beginOffset : Nat := 0
  rev : Nat := 0
  value : String → Option JsNumber := fun _ => none
  offset : String → Option Nat := fun _ => none
  /-- `storage.storage`. -/
  storage : List (String × Option JsNumber) := []
  /-- What `localStorage` holds under `last_saved`, before it is made a string. -/
  lastSaved : Option (List (String × Option JsNumber)) := none
  /-- The file that is offered for download. -/
  download : Option (List UInt8) := none

abbrev Js (α : Type) := Prog JsError Cust Empty α

/-- The number in the input element with an id: `NaN` where there is none. -/
abbrev Form := String → JsNumber

def magic : Nat := 0x54535543

def magicLen : Nat := 4

/-- Sizes that `mapper` knows. -/
def mapperSizes : List Nat := [2, 4]

/-- `this.mapper[size].get(offset)`. -/
def mapperGet (size offset : Nat) : Js Nat := do
  let buffer ← Prog.gets (·.buffer)
  Prog.require (offset + size ≤ buffer.length) .rangeError
  pure (getLE buffer offset size)

/-- `this.mapper[size].set(offset, value)`. -/
def mapperSet (size offset : Nat) (value : JsNumber) : Js Unit := do
  let buffer ← Prog.gets (·.buffer)
  Prog.require (offset + size ≤ buffer.length) .rangeError
  Prog.sets fun s => { s with buffer := setLE s.buffer offset size value.toUint32.toNat }

/-! ## Reading -/

/-- The first of the offsets where the magic is. -/
def findFrom : List Nat → Js Unit
  | [] => Prog.fail .invalidFile
  | offset :: offsets => do
    let got ← mapperGet magicLen offset
    if got = magic then Prog.sets fun s => { s with beginOffset := offset }
    else findFrom offsets

/-- The offsets below `byteLength` in steps of `magicLen`. -/
def magicOffsets (byteLength : Nat) : List Nat :=
  (List.range ((byteLength + magicLen - 1) / magicLen)).map fun k => magicLen * k

def findMagicOffset : Js Unit := do
  let byteLength ← Prog.gets (·.buffer.length)
  findFrom (magicOffsets byteLength)

/-- `loadValue`; the tooltip of `i.validate()` is not looked at. -/
def loadValue (offset : Nat) (i : CustEntry) : Js Unit := do
  Prog.sets fun s => { s with offset := Function.update s.offset i.id (some offset) }
  Prog.require (i.size ∈ mapperSizes) (.unknownSize i.name)
  let value ← mapperGet i.size offset
  Prog.sets fun s => { s with value := Function.update s.value i.id (some (.ofNat value)) }

/-- `forEach(loadValue)`, with the offset after the last entry. -/
def loadTable (offset : Nat) : List CustEntry → Js Nat
  | [] => pure offset
  | i :: table => do
    loadValue offset i
    loadTable (offset + i.size) table

def parse : Js Unit := do
  let beginOffset ← Prog.gets (·.beginOffset)
  let offset := beginOffset + magicLen
  let rev ← mapperGet 4 offset
  Prog.sets fun s => { s with rev }
  Prog.require (rev = custRevAdv) (.unsupportedRev rev)
  let offset ← loadTable (offset + 4) custTable
  let offset ← loadTable offset advTable
  let _ ← loadTable offset gpuTable

/-- What `load` tries; an error ends in an alert. -/
def load (buffer : List UInt8) : Js Unit := do
  Prog.sets fun s => { s with buffer }
  findMagicOffset
  parse

/-! ## Writing -/

/-- `update` of `updateFromTable`. -/
def updateValue (form : Form) (i : CustEntry) : Js Unit := do
  Prog.sets fun s => { s with value := Function.update s.value i.id (some (form i.id)) }
  let value ← Prog.gets (·.value i.id)
  Prog.require (i.validate value = true) (.invalid i.name)

def updateFromTable (form : Form) : Js Unit := do
  Prog.forEach custTable (updateValue form)
  Prog.forEach advTable (updateValue form)
  Prog.forEach gpuTable (updateValue form)
  Prog.sets fun s =>
    { s with storage := (custTable ++ advTable).map fun i => (i.id, s.value i.id) }

/-- `saveValue`: an offset that is missing or 0 is refused. -/
def saveValue (i : CustEntry) : Js Unit := do
  let offset ← Prog.gets fun s => (s.offset i.id).getD 0
  Prog.require (offset ≠ 0) (.noOffset i.name)
  Prog.require (i.size ∈ mapperSizes) (.unknownSize i.name)
  let value ← Prog.gets fun s => (s.value i.id).getD .nan
  mapperSet i.size offset value

def save (form : Form) : Js Unit := do
  updateFromTable form
  Prog.forEach custTable saveValue
  Prog.forEach advTable saveValue
  Prog.forEach gpuTable saveValue
  Prog.sets fun s => { s with lastSaved := some s.storage, download := some s.buffer }

end SwitchOc.Web
