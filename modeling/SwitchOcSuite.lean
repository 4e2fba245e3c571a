import SwitchOcSuite.Loader.ArbTimings
import SwitchOcSuite.Loader.AutoAdjust
import SwitchOcSuite.Loader.CvbEntries
import SwitchOcSuite.Loader.MtcTables
import SwitchOcSuite.Loader.Pllmb
import SwitchOcSuite.Loader.PtmTable
import SwitchOcSuite.MemTester.Handshake
import SwitchOcSuite.SysClk.Applied
import SwitchOcSuite.SysClk.Boost
import SwitchOcSuite.SysClk.ConfigValues
import SwitchOcSuite.SysClk.CustFile
import SwitchOcSuite.SysClk.DramVolt
import SwitchOcSuite.SysClk.IpcServer
import SwitchOcSuite.SysClk.ProfileChange
import SwitchOcSuite.SysClk.ProfileCount
import SwitchOcSuite.Web.SafeTimings
import SwitchOcSuite.Web.Storage
import SwitchOcSuite.Loader.GpuMaxAsm
import SwitchOcSuite.Loader.DvbTable
import SwitchOcSuite.SysClk.FreqRange
import SwitchOcSuite.SysClk.RequestedClock
import SwitchOcSuite.SysClk.FrequencyTable
import SwitchOcSuite.SysClk.FreqChoice
import SwitchOcSuite.Lib.StringList
import SwitchOcSuite.SysClk.ProfileBuffers
import SwitchOcSuite.SysClk.ProfileKeys
import SwitchOcSuite.SysClk.SlidingWindow
import SwitchOcSuite.SysClk.GovernorFreq
import SwitchOcSuite.SysClk.GovernorLoad
import SwitchOcSuite.SysClk.CoreUtil
import SwitchOcSuite.SysClk.ChargeCurrent
import SwitchOcSuite.SysClk.InitDefault
import SwitchOcSuite.Loader.DvfsTable
import SwitchOcSuite.SysClk.ConfigStore
import SwitchOcSuite.MemTester.Suite
import SwitchOcSuite.TinyMem.Progress
import SwitchOcSuite.SysClk.GovernorThreads
import SwitchOcSuite.SysClk.IpcProfiles
import SwitchOcSuite.SysClk.IpcThread
