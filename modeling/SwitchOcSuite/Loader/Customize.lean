import Mathlib.Tactic.Common
import SwitchOcSuite.Loader.Cvb

/-!
# The customize table (`customize.hpp`, `customize.cpp`)

`CustomizeTable` is the configuration the loader is built with and the web
configurator edits in place.  `customizeTable` is the one shipped in
`customize.cpp`; a shorter C++ initialiser leaves the rest of a DVFS table zero
(`DvfsTable.ofList`).
-/

namespace SwitchOc

/-! ## The record -/

def custRevision : UInt32 := 11

/-- `cvb_entry_t[DvfsTableEntryLimit]`. -/
abbrev DvfsTable := Vector CvbEntry 31

def DvfsTable.ofList (l : List CvbEntry) : DvfsTable := Vector.ofFn fun i => l.getD i {}

/-- The table as a walk of `cvb_entry_t*` sees it. -/
def DvfsTable.view (t : DvfsTable) : Nat → CvbEntry := fun i => t[i]?.getD {}

structure CustomizeTable where
  cust : Vector UInt8 4 := #v[67, 85, 83, 84]
  custRev : UInt32 := custRevision
  mtcConf : UInt32
  commonCpuBoostClock : UInt32
  commonEmcMemVolt : UInt32
  eristaCpuMaxVolt : UInt32
  eristaEmcMaxClock : UInt32
  marikoCpuMaxVolt : UInt32
  marikoEmcMaxClock : UInt32
  marikoEmcVddqVolt : UInt32
  marikoCpuUV : UInt32
  marikoGpuUV : UInt32
  commonGpuVoltOffset : UInt32
  marikoEmcDvbShift : UInt32
  ramTimingPresetOne : UInt32
  ramTimingPresetTwo : UInt32
  ramTimingPresetThree : UInt32
  ramTimingPresetFour : UInt32
  ramTimingPresetFive : UInt32
  ramTimingPresetSix : UInt32
  ramTimingPresetSeven : UInt32
  marikoGpuVoltArray : Vector UInt32 17
  eristaCpuDvfsTable : DvfsTable
  marikoCpuDvfsTable : DvfsTable
  marikoCpuDvfsTableSLT : DvfsTable
  eristaGpuDvfsTable : DvfsTable
  marikoGpuDvfsTable : DvfsTable
  marikoGpuDvfsTableSLT : DvfsTable
  marikoGpuDvfsTableHiOPT : DvfsTable
  deriving DecidableEq

/-- `switch (uv)` over the GPU undervolt levels. -/
def switchUV {α : Type} (uv : UInt32) (case0 case1 case2 default : α) : α :=
  if uv = 0 then case0 else if uv = 1 then case1 else if uv = 2 then case2 else default

/-- `marikoGpuVoltArray[i]`: past its 17 elements the words that follow in the
struct are those of the first entry of `eristaCpuDvfsTable`. -/
def CustomizeTable.gpuVoltAt (C : CustomizeTable) (i : Nat) : UInt32 :=
  if h : i < 17 then C.marikoGpuVoltArray[i] else C.eristaCpuDvfsTable[0].words.getD (i - 17) 0

theorem DvfsTable.view_ofList {l : List CvbEntry} {i : Nat} (h : i < 31) :
    (DvfsTable.ofList l).view i = l.getD i {} := by
  simp [DvfsTable.view, DvfsTable.ofList, h]

/-- The walk over a table built from a list runs over the list. -/
theorem getDvfsTableEntryCount_ofList (l : List CvbEntry) :
    getDvfsTableEntryCount (DvfsTable.ofList l).view =
      getDvfsTableEntryCount fun i => l.getD i {} :=
  getDvfsTableEntryCount_congr fun _ hi => DvfsTable.view_ofList hi

theorem getDvfsTableLastEntry_ofList (l : List CvbEntry) :
    getDvfsTableLastEntry (DvfsTable.ofList l).view =
      getDvfsTableLastEntry fun i => l.getD i {} := by
  have hle := getDvfsTableEntryCount_le fun i => l.getD i {}
  have hlim : dvfsTableEntryLimit = 31 := rfl
  simp only [getDvfsTableLastEntry, getDvfsTableEntryCount_ofList]
  split
  · rfl
  · rw [DvfsTable.view_ofList (by omega)]

/-! ## The shipped tables -/

def eristaCpuDvfsTable : List CvbEntry :=
  [cvb 204000 [721094] [],
   cvb 306000 [754040] [],
   cvb 408000 [786986] [],
   cvb 510000 [819932] [],
   cvb 612000 [852878] [],
   cvb 714000 [885824] [],
   cvb 816000 [918770] [],
   cvb 918000 [951716] [],
   cvb 1020000 [984662] [-2875621, 358099, -8585],
   cvb 1122000 [1017608] [-52225, 104159, -2816],
   cvb 1224000 [1050554] [1076868, 8356, -727],
   cvb 1326000 [1083500] [2208191, -84659, 1240],
   cvb 1428000 [1116446] [2519460, -105063, 1611],
   cvb 1581000 [1130000] [2889664, -122173, 1834],
   cvb 1683000 [1168000] [5100873, -279186, 4747],
   cvb 1785000 [1227500] [5100873, -279186, 4747],
   cvb 1887000 [1235000] [5100873, -279186, 4747],
   cvb 1963500 [1235000] [5100873, -279186, 4747],
   cvb 2091000 [1235000] [5100873, -279186, 4747]]

def marikoCpuDvfsTable : List CvbEntry :=
  [cvb 204000 [721589, -12695, 27] [],
   cvb 306000 [747134, -14195, 27] [],
   cvb 408000 [776324, -15705, 27] [],
   cvb 510000 [809160, -17205, 27] [],
   cvb 612000 [845641, -18715, 27] [],
   cvb 714000 [885768, -20215, 27] [],
   cvb 816000 [929540, -21725, 27] [],
   cvb 918000 [976958, -23225, 27] [],
   cvb 1020000 [1028021, -24725, 27] [1120000],
   cvb 1122000 [1082730, -26235, 27] [1120000],
   cvb 1224000 [1141084, -27735, 27] [1120000],
   cvb 1326000 [1203084, -29245, 27] [1120000],
   cvb 1428000 [1268729, -30745, 27] [1120000],
   cvb 1581000 [1374032, -33005, 27] [1120000],
   cvb 1683000 [1448791, -34505, 27] [1120000],
   cvb 1785000 [1527196, -36015, 27] [1120000],
   cvb 1887000 [1609246, -37515, 27] [1120000],
   cvb 1963500 [1675751, -38635, 27] [1120000],
   cvb 2091000 [1716501, -39395, 27] [1235000],
   cvb 2193000 [1775132, -40505, 27] [1235000],
   cvb 2295000 [1866287, -42005, 27] [1235000]]

def marikoCpuDvfsTableSLT : List CvbEntry :=
  [cvb 204000 [732856, -17335, 113] [],
   cvb 306000 [760024, -18195, 113] [],
   cvb 408000 [789258, -19055, 113] [],
   cvb 510000 [789258, -19055, 113] [],
   cvb 612000 [853926, -20775, 113] [],
   cvb 714000 [889361, -21625, 113] [],
   cvb 816000 [926862, -22485, 113] [],
   cvb 918000 [966431, -23345, 113] [],
   cvb 1020000 [1008066, -24205, 113] [1120000],
   cvb 1122000 [1051768, -25065, 113] [1120000],
   cvb 1224000 [1097537, -25925, 113] [1120000],
   cvb 1326000 [1145373, -26785, 113] [1120000],
   cvb 1428000 [1195276, -27645, 113] [1120000],
   cvb 1581000 [1274006, -28935, 113] [1120000],
   cvb 1683000 [1329076, -29795, 113] [1120000],
   cvb 1785000 [1386213, -30655, 113] [1120000],
   cvb 1887000 [1445416, -31515, 113] [1120000],
   cvb 1963500 [1490873, -32155, 113] [1120000],
   cvb 2091000 [1580725, -33235, 113] [1120000],
   cvb 2193000 [1580725, -33235, 113] [1235000],
   cvb 2295000 [1635431, -34095, 113] [1235000],
   cvb 2397000 [1702903, -34955, 113] [1235000]]

def eristaGpuDvfsTable : List CvbEntry :=
  [cvb 76800 [] [814294, 8144, -940, 808, -21583, 226],
   cvb 153600 [] [856185, 8144, -940, 808, -21583, 226],
   cvb 230400 [] [898077, 8144, -940, 808, -21583, 226],
   cvb 307200 [] [939968, 8144, -940, 808, -21583, 226],
   cvb 384000 [] [981860, 8144, -940, 808, -21583, 226],
   cvb 460800 [] [1023751, 8144, -940, 808, -21583, 226],
   cvb 537600 [] [1065642, 8144, -940, 808, -21583, 226],
   cvb 614400 [] [1107534, 8144, -940, 808, -21583, 226],
   cvb 691200 [] [1149425, 8144, -940, 808, -21583, 226],
   cvb 768000 [] [1191317, 8144, -940, 808, -21583, 226],
   cvb 844800 [] [1233208, 8144, -940, 808, -21583, 226],
   cvb 921600 [] [1275100, 8144, -940, 808, -21583, 226],
   cvb 998400 [] [1316991, 8144, -940, 808, -21583, 226]]

def marikoGpuDvfsTable : List CvbEntry :=
  [cvb 76800 [] [610000],
   cvb 153600 [] [610000],
   cvb 230400 [] [610000],
   cvb 307200 [] [610000],
   cvb 384000 [] [610000],
   cvb 460800 [] [610000],
   cvb 537600 [] [801688, -10900, -163, 298, -10599, 162],
   cvb 614400 [] [824214, -5743, -452, 238, -6325, 81],
   cvb 691200 [] [848830, -3903, -552, 119, -4030, -2],
   cvb 768000 [] [891575, -4409, -584, 0, -2849, 39],
   cvb 844800 [] [940071, -5367, -602, -60, -63, -93],
   cvb 921600 [] [986765, -6637, -614, -179, 1905, -13],
   cvb 998400 [] [1098475, -13529, -497, -179, 3626, 9],
   cvb 1075200 [] [1163644, -12688, -648, 0, 1077, 40],
   cvb 1152000 [] [1204812, -9908, -830, 0, 1469, 110],
   cvb 1228800 [] [1277303, -11675, -859, 0, 3722, 313],
   cvb 1267200 [] [1335531, -12567, -867, 0, 3681, 559]]

def marikoGpuDvfsTableSLT : List CvbEntry :=
  [cvb 76800 [] [590000],
   cvb 153600 [] [590000],
   cvb 230400 [] [590000],
   cvb 307200 [] [590000],
   cvb 384000 [] [590000],
   cvb 460800 [] [795089, -11096, -163, 298, -10421, 162],
   cvb 537600 [] [795089, -11096, -163, 298, -10421, 162],
   cvb 614400 [] [820606, -6285, -452, 238, -6182, 81],
   cvb 691200 [] [846289, -4565, -552, 119, -3958, -2],
   cvb 768000 [] [888720, -5110, -584, 0, -2849, 39],
   cvb 844800 [] [936634, -6089, -602, -60, -99, -93],
   cvb 921600 [] [982562, -7373, -614, -179, 1797, -13],
   cvb 998400 [] [1090179, -14125, -497, -179, 3518, 9],
   cvb 1075200 [] [1155798, -13465, -648, 0, 1077, 40],
   cvb 1152000 [] [1198568, -10904, -830, 0, 1469, 110],
   cvb 1228800 [] [1269988, -12707, -859, 0, 3722, 313],
   cvb 1267200 [] [1308155, -13694, -867, 0, 3681, 559]]

def marikoGpuDvfsTableHiOPT : List CvbEntry :=
  [cvb 76800 [] [590000],
   cvb 153600 [] [590000],
   cvb 230400 [] [590000],
   cvb 307200 [] [590000],
   cvb 384000 [] [590000],
   cvb 460800 [] [590000],
   cvb 537600 [] [590000],
   cvb 614400 [] [590000],
   cvb 691200 [] [838712, -7304, -552, 119, -3750, -2],
   cvb 768000 [] [880210, -7955, -584, 0, -2849, 39],
   cvb 844800 [] [926398, -8892, -602, -60, -384, -93],
   cvb 921600 [] [970060, -10108, -614, -179, 1508, -13],
   cvb 998400 [] [1065665, -16075, -497, -179, 3213, 9],
   cvb 1075200 [] [1132576, -16093, -648, 0, 1077, 40],
   cvb 1152000 [] [1180029, -14534, -830, 0, 1469, 110],
   cvb 1228800 [] [1248293, -16383, -859, 0, 3722, 313],
   cvb 1267200 [] [1286399, -17475, -867, 0, 3681, 559]]

/-- `C` as `customize.cpp` initialises it. -/
def customizeTable : CustomizeTable where
  mtcConf := 0
  commonCpuBoostClock := 1785000
  commonEmcMemVolt := 0
  eristaCpuMaxVolt := 1235
  eristaEmcMaxClock := 1862400
  marikoCpuMaxVolt := 1235
  marikoEmcMaxClock := 1996800
  marikoEmcVddqVolt := 0
  marikoCpuUV := 0
  marikoGpuUV := 0
  commonGpuVoltOffset := 0
  marikoEmcDvbShift := 0
  ramTimingPresetOne := 0
  ramTimingPresetTwo := 0
  ramTimingPresetThree := 0
  ramTimingPresetFour := 0
  ramTimingPresetFive := 0
  ramTimingPresetSix := 0
  ramTimingPresetSeven := 0
  marikoGpuVoltArray :=
    #v[610, 610, 610, 610, 610, 610, 610, 610, 610, 610, 620, 640, 675, 710, 735, 785, 815]
  eristaCpuDvfsTable := .ofList eristaCpuDvfsTable
  marikoCpuDvfsTable := .ofList marikoCpuDvfsTable
  marikoCpuDvfsTableSLT := .ofList marikoCpuDvfsTableSLT
  eristaGpuDvfsTable := .ofList eristaGpuDvfsTable
  marikoGpuDvfsTable := .ofList marikoGpuDvfsTable
  marikoGpuDvfsTableSLT := .ofList marikoGpuDvfsTableSLT
  marikoGpuDvfsTableHiOPT := .ofList marikoGpuDvfsTableHiOPT

end SwitchOc
