import SwitchOcSuite.Lib.ByteStream
import SwitchOcSuite.Lib.Bytes
import SwitchOcSuite.SysClk.BuckConverter
import SwitchOcSuite.SysClk.Clocks

/-!
# The customize table of `loader.kip` (`sysmodule/src/file_utils.cpp`)

The table is the 12304 bytes of `CustTable`, a field is read at its offset.  A read
ends short at the end of the file only.
-/

namespace SwitchOc.SysClk

open ByteStream Function

def KIP_MAGIC : List UInt8 := [0x4B, 0x49, 0x50, 0x31, 0x4C, 0x6F, 0x61, 0x64, 0x65, 0x72]

def BLOCK_SIZE : Nat := 0x1000

theorem blockSize_pos : 0 < BLOCK_SIZE := by decide

def CUST_REV : UInt32 := 10

/-- `table.cust` before anything is read. -/
def custMagic : List UInt8 := [0x43, 0x55, 0x53, 0x54]

inductive ParseError where
  | openReadFailed
  | wrongKipMagic
  | custNotFound
  | wrongCustRev
  deriving DecidableEq, Repr

/-! ## The table -/

def sizeofCustTable : Nat := 12304

def sizeofCvbEntry : Nat := 0x38

structure CustTable where
  bytes : List UInt8
  size : bytes.length = sizeofCustTable

namespace CustTable

variable (t : CustTable)

def custRev : UInt32 := Bytes.getU32 t.bytes 4
def commonCpuBoostClock : UInt32 := Bytes.getU32 t.bytes 12
def commonEmcMemVolt : UInt32 := Bytes.getU32 t.bytes 16
def eristaEmcMaxClock : UInt32 := Bytes.getU32 t.bytes 24
def marikoEmcMaxClock : UInt32 := Bytes.getU32 t.bytes 32
def marikoEmcVddqVolt : UInt32 := Bytes.getU32 t.bytes 36
def marikoCpuUV : UInt32 := Bytes.getU32 t.bytes 40
def marikoGpuUV : UInt32 := Bytes.getU32 t.bytes 44

/-- Where the frequencies are taken from. -/
def cpuDvfsTable (isMariko : Bool) : Nat :=
  if isMariko then if t.marikoCpuUV ≠ 0 then 3624 else 1888 else 152

def gpuDvfsTable (isMariko : Bool) : Nat :=
  if isMariko then
    if t.marikoGpuUV = 0 then 7096
    else if t.marikoGpuUV = 1 then 8832
    else if t.marikoGpuUV = 2 then 10568
    else 7096
  else 5360

/-- The low word of `freq` in entry `i` of the table at `table`. -/
def dvfsFreq (table i : Nat) : UInt32 := Bytes.getU32 t.bytes (table + sizeofCvbEntry * i)

/-- A table of zeros, `bytes` read to its start. -/
def ofRead (bytes : List UInt8) (h : bytes.length ≤ sizeofCustTable) : CustTable where
  bytes := overlay (List.replicate sizeofCustTable 0) bytes
  size := by rw [length_overlay (by rwa [List.length_replicate]), List.length_replicate]

end CustTable

/-! ## What a table sets -/

structure Sysmodule where
  clocks : Clocks
  bus : I2cBus

/-- The frequencies from 408 MHz on, one after the other. -/
def fillCpuTable (freq : Nat → UInt32) (freqTable : Nat → UInt32) : Nat → UInt32 :=
  ((List.range FREQ_TABLE_MAX_ENTRY_COUNT).foldl (fun (q : Nat × (Nat → UInt32)) i =>
    if freq i < 408000 then q
    else (q.1 + 1, update q.2 (tableHead .cpu + q.1) (freq i * 1000))) (0, freqTable)).2

def fillGpuTable (freq : Nat → UInt32) (freqTable : Nat → UInt32) : Nat → UInt32 :=
  (List.range FREQ_TABLE_MAX_ENTRY_COUNT).foldl
    (fun table i => update table (tableHead .gpu + i) (freq i * 1000)) freqTable

/-- The frequency goes behind the last entry; the table has room, with 5 entries in the
program's own one. -/
def appendMaxMemFreq (maxMemFreq : UInt32) (freqTable : Nat → UInt32) : Nat → UInt32 :=
  update freqTable (lastEntry freqTable (tableHead .mem) FREQ_TABLE_MAX_ENTRY_COUNT + 1) maxMemFreq

/-- The two voltages, each if it is set and in range. -/
def setDramVolts (t : CustTable) (bus : I2cBus) : I2cBus :=
  let bus :=
    if t.marikoEmcVddqVolt ≠ 0 ∧ 550000 ≤ t.marikoEmcVddqVolt ∧ t.marikoEmcVddqVolt ≤ 650000 then
      marikoDramVddq.setMvOut (t.marikoEmcVddqVolt / 1000) bus
    else bus
  if t.commonEmcMemVolt ≠ 0 ∧ 1100000 ≤ t.commonEmcMemVolt ∧ t.commonEmcMemVolt ≤ 1250000 then
    marikoDramVdd2.setMvOut (t.commonEmcMemVolt / 1000) bus
  else bus

/-- `CustParser` once the table is accepted. -/
def applyCustTable (t : CustTable) (s : Sysmodule) : Sysmodule :=
  let isMariko := s.clocks.isMariko
  let emcMaxClock := if isMariko then t.marikoEmcMaxClock else t.eristaEmcMaxClock
  let maxMemFreq := if emcMaxClock ≠ 0 then emcMaxClock * 1000 else s.clocks.maxMemFreq
  let freqTable := fillCpuTable (t.dvfsFreq (t.cpuDvfsTable isMariko)) s.clocks.freqTable
  let freqTable := fillGpuTable (t.dvfsFreq (t.gpuDvfsTable isMariko)) freqTable
  { clocks :=
      { s.clocks with
        boostCpuFreq :=
          if t.commonCpuBoostClock ≠ 0 then t.commonCpuBoostClock * 1000
          else s.clocks.boostCpuFreq
        maxMemFreq := maxMemFreq
        freqTable := appendMaxMemFreq maxMemFreq freqTable }
    bus := if isMariko then setDramVolts t s.bus else s.bus }

/-! ## The search -/

/-- The first offset in the block, a multiple of 4, with the magic. -/
def scanBlock (tmp_block : List UInt8) : Option Nat :=
  ((List.range (BLOCK_SIZE / custMagic.length)).map (custMagic.length * ·)).find? fun i =>
    matchesAt custMagic tmp_block i

/-- The loop: a block is scanned after it was read, if the file goes on behind it. -/
def findCust (fp : File) (tmp_block : List UInt8) : Option Nat :=
  scanBlocks blockSize_pos scanBlock fp tmp_block

/-- `CustParser` up to its last check.  `tmp_block` starts with what the allocator left
there. -/
def readCustTable (tmp_block file : List UInt8) : Except ParseError CustTable :=
  let first := (File.mk file 0).fread BLOCK_SIZE
  let tmp_block := overlay tmp_block first.1
  if matchesAt KIP_MAGIC tmp_block 0 = false then .error .wrongKipMagic
  else
    match findCust first.2 tmp_block with
    | none | some 0 => .error .custNotFound
    | some cust_pos =>
      let table := (first.2.fsetpos cust_pos).fread sizeofCustTable
      if table.1.length = 0 then .error .openReadFailed
      else
        let t := CustTable.ofRead table.1
          (le_of_eq_of_le length_slice (Nat.min_le_left _ _))
        if t.custRev ≠ CUST_REV then .error .wrongCustRev else .ok t

/-- `file` is `none` where `fopen` fails. -/
def custParser (tmp_block : List UInt8) (file : Option (List UInt8)) (s : Sysmodule) :
    Except ParseError Unit × Sysmodule :=
  match file with
  | none => (.error .openReadFailed, s)
  | some file =>
    match readCustTable tmp_block file with
    | .error e => (.error e, s)
    | .ok t => (.ok (), applyCustTable t s)

end SwitchOc.SysClk
