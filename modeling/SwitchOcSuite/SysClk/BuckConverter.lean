import Mathlib.Logic.Function.Basic
import Mathlib.Tactic.Common

/-!
# Buck converters (`common/src/i2c.c`)

A session to a device opens or it does not; an open one reads and writes its
registers.
-/

namespace SwitchOc.SysClk

inductive I2cDevice where
  | max77620Pmic
  | max77812_2
  deriving DecidableEq, Repr

structure I2cBus where
  opens : Bool
  regs : I2cDevice → UInt8 → UInt8

structure BuckConverterDomain where
  device : I2cDevice
  reg : UInt8
  volt_mask : UInt8
  uv_step : UInt32
  uv_min : UInt32
  uv_max : UInt32

/-- `I2c_Mariko_DRAM_VDDQ`. -/
def marikoDramVddq : BuckConverterDomain :=
  { device := .max77812_2, reg := 0x25, volt_mask := 0xFF
    uv_step := 5000, uv_min := 250000, uv_max := 650000 }

/-- `I2c_Mariko_DRAM_VDD2`. -/
def marikoDramVdd2 : BuckConverterDomain :=
  { device := .max77620Pmic, reg := 0x17, volt_mask := 0x7F
    uv_step := 12500, uv_min := 600000, uv_max := 1250000 }

namespace BuckConverterDomain

variable (domain : BuckConverterDomain)

def mvOutToMultiplier (mvolt : UInt32) : UInt8 :=
  let uvolt := mvolt * 1000
  let uvolt := if uvolt < domain.uv_min then domain.uv_min else uvolt
  let uvolt := if uvolt > domain.uv_max then domain.uv_max else uvolt
  ((uvolt - domain.uv_min) / domain.uv_step).toUInt8

/-- The µV that a multiplier stands for. -/
def multiplierToUv (multiplier : UInt8) : UInt32 :=
  domain.uv_min + multiplier.toUInt32 * domain.uv_step

/-- The register with the voltage in it. -/
def withMultiplier (val multiplier : UInt8) : UInt8 :=
  (val &&& ~~~domain.volt_mask) ||| (multiplier &&& domain.volt_mask)

def setMvOut (mvolt : UInt32) (bus : I2cBus) : I2cBus :=
  if bus.opens then
    let val := domain.withMultiplier (bus.regs domain.device domain.reg)
      (domain.mvOutToMultiplier mvolt)
    let regs := Function.update (bus.regs domain.device) domain.reg val
    { bus with regs := Function.update bus.regs domain.device regs }
  else bus

end BuckConverterDomain

end SwitchOc.SysClk
