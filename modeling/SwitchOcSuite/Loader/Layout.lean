import Mathlib.Tactic.Common
import SwitchOcSuite.Lib.Bytes
import SwitchOcSuite.Loader.Customize

/-!
# Memory layout of the customize table (`customize.hpp`)

`CustomizeTable.ofBytes b p` is the table that the loader sees in the bytes at `p`:
little endian, each member at the next multiple of its alignment.
-/

namespace SwitchOc

open Bytes

/-! ## Layout -/

structure Member where
  name : String
  size : Nat
  align : Nat

/-- A `u32` member. -/
def u32Member (name : String) : Member := ⟨name, 4, 4⟩

/-- A DVFS table: 31 entries of 14 words, aligned as their `u64`. -/
def tableMember (name : String) : Member := ⟨name, 31 * (4 * cvbWords), 8⟩

def customizeMembers : List Member :=
  [⟨"cust", 4, 1⟩] ++
  ["custRev", "mtcConf", "commonCpuBoostClock", "commonEmcMemVolt", "eristaCpuMaxVolt",
    "eristaEmcMaxClock", "marikoCpuMaxVolt", "marikoEmcMaxClock", "marikoEmcVddqVolt",
    "marikoCpuUV", "marikoGpuUV", "commonGpuVoltOffset", "marikoEmcDvbShift",
    "ramTimingPresetOne", "ramTimingPresetTwo", "ramTimingPresetThree", "ramTimingPresetFour",
    "ramTimingPresetFive", "ramTimingPresetSix", "ramTimingPresetSeven"].map u32Member ++
  [⟨"marikoGpuVoltArray", 17 * 4, 4⟩] ++
  ["eristaCpuDvfsTable", "marikoCpuDvfsTable", "marikoCpuDvfsTableSLT", "eristaGpuDvfsTable",
    "marikoGpuDvfsTable", "marikoGpuDvfsTableSLT", "marikoGpuDvfsTableHiOPT"].map tableMember

def alignUp (o align : Nat) : Nat := (o + align - 1) / align * align

/-- The offset of a member, from `o` on. -/
def memberOffset (name : String) : Nat → List Member → Nat
  | o, [] => o
  | o, m :: ms =>
    if m.name = name then alignUp o m.align
    else memberOffset name (alignUp o m.align + m.size) ms

/-- `offsetof(CustomizeTable, name)`. -/
def fieldOffset (name : String) : Nat := memberOffset name 0 customizeMembers

/-- `sizeof(CustomizeTable)`. -/
def sizeofCustomizeTable : Nat :=
  alignUp (customizeMembers.foldl (fun o m => alignUp o m.align + m.size) 0) 8

example : sizeofCustomizeTable = 12304 := by decide +kernel

/-! ## Reading -/

def tableOfBytes (b : List UInt8) (o : Nat) : DvfsTable :=
  Vector.ofFn fun i => .ofWords fun k => getU32 b (o + 4 * (cvbWords * i + k))

def CustomizeTable.ofBytes (b : List UInt8) (p : Nat) : CustomizeTable where
  cust := Vector.ofFn fun i => b.getD (p + fieldOffset "cust" + i) 0
  custRev := getU32 b (p + fieldOffset "custRev")
  mtcConf := getU32 b (p + fieldOffset "mtcConf")
  commonCpuBoostClock := getU32 b (p + fieldOffset "commonCpuBoostClock")
  commonEmcMemVolt := getU32 b (p + fieldOffset "commonEmcMemVolt")
  eristaCpuMaxVolt := getU32 b (p + fieldOffset "eristaCpuMaxVolt")
  eristaEmcMaxClock := getU32 b (p + fieldOffset "eristaEmcMaxClock")
  marikoCpuMaxVolt := getU32 b (p + fieldOffset "marikoCpuMaxVolt")
  marikoEmcMaxClock := getU32 b (p + fieldOffset "marikoEmcMaxClock")
  marikoEmcVddqVolt := getU32 b (p + fieldOffset "marikoEmcVddqVolt")
  marikoCpuUV := getU32 b (p + fieldOffset "marikoCpuUV")
  marikoGpuUV := getU32 b (p + fieldOffset "marikoGpuUV")
  commonGpuVoltOffset := getU32 b (p + fieldOffset "commonGpuVoltOffset")
  marikoEmcDvbShift := getU32 b (p + fieldOffset "marikoEmcDvbShift")
  ramTimingPresetOne := getU32 b (p + fieldOffset "ramTimingPresetOne")
  ramTimingPresetTwo := getU32 b (p + fieldOffset "ramTimingPresetTwo")
  ramTimingPresetThree := getU32 b (p + fieldOffset "ramTimingPresetThree")
  ramTimingPresetFour := getU32 b (p + fieldOffset "ramTimingPresetFour")
  ramTimingPresetFive := getU32 b (p + fieldOffset "ramTimingPresetFive")
  ramTimingPresetSix := getU32 b (p + fieldOffset "ramTimingPresetSix")
  ramTimingPresetSeven := getU32 b (p + fieldOffset "ramTimingPresetSeven")
  marikoGpuVoltArray := Vector.ofFn fun i => getU32 b (p + fieldOffset "marikoGpuVoltArray" + 4 * i)
  eristaCpuDvfsTable := tableOfBytes b (p + fieldOffset "eristaCpuDvfsTable")
  marikoCpuDvfsTable := tableOfBytes b (p + fieldOffset "marikoCpuDvfsTable")
  marikoCpuDvfsTableSLT := tableOfBytes b (p + fieldOffset "marikoCpuDvfsTableSLT")
  eristaGpuDvfsTable := tableOfBytes b (p + fieldOffset "eristaGpuDvfsTable")
  marikoGpuDvfsTable := tableOfBytes b (p + fieldOffset "marikoGpuDvfsTable")
  marikoGpuDvfsTableSLT := tableOfBytes b (p + fieldOffset "marikoGpuDvfsTableSLT")
  marikoGpuDvfsTableHiOPT := tableOfBytes b (p + fieldOffset "marikoGpuDvfsTableHiOPT")

/-- A table whose bytes agree reads the same. -/
theorem tableOfBytes_congr {b b' : List UInt8} {o : Nat}
    (h : ∀ i, o ≤ i → b[i]? = b'[i]?) : tableOfBytes b o = tableOfBytes b' o := by
  unfold tableOfBytes
  congr 1
  ext i : 1
  congr 1
  ext k : 1
  exact getU32_congr fun j h₁ _ => h j (by omega)

end SwitchOc
