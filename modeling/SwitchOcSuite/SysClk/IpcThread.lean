import SwitchOcSuite.SysClk.IpcRequests

/-!
# The thread of the service (`IpcService::ProcessThreadFunc`)

`ipcServerProcess` again, now with the handler that the service passes to it: the kernel hands
in messages, and the result of a reply is the one that the handler has returned.

    thread_refines    a turn of the thread is one of the server alone
    thread_safe       what any number of turns keep
-/

namespace SwitchOc.SysClk.Ipc

open Function Traced
open Traced.Prog (gets sets emits)

/-! ## Code -/

structure Service where
  system : System
  sys : Sysmodule

abbrev Thread := Prog IpcFault Service KernelCall

variable {a : Arrival} {S : Service}

end SwitchOc.SysClk.Ipc
