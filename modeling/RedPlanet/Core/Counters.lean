import RedPlanet.Core.Basic

/-!
# Counters, counter control and environment configuration

The state of `core/counters.rs`, `core/counter_control.rs` and
`core/envcfg.rs`, with the operations on it that need no other part of the
core.

The two counters are kept in halves of 32 bits, as the source keeps them, and
the carry between the halves is part of the increment.  A write to a half
marks the counter, so that the increment of the same step is skipped.  Reads
and the checks in front of them are in `RedPlanet.Core.Csr`, and what the
counters amount to over a run is in `RedPlanet.Core.Counting`.
-/

namespace RedPlanet.Core

open RedPlanet.Verified

/-! ## Counters -/

/-- The halves of mcycle and minstret, and whether the next increment of each
is skipped. -/
structure Counters where
  mcycle : BitVec 32
  mcycleh : BitVec 32
  minstret : BitVec 32
  minstreth : BitVec 32
  /-- Set by a write of mcycle, so that the increment of the same step is
  left out. -/
  skipNextMcycleIncrement : Bool
  skipNextMinstretIncrement : Bool
deriving DecidableEq, Repr

namespace Counters

def new : Counters where
  mcycle := 0
  mcycleh := 0
  minstret := 0
  minstreth := 0
  skipNextMcycleIncrement := false
  skipNextMinstretIncrement := false

/-- `Core::increment_cycle_counter`. -/
def incrementCycle (countInhibit : Bool) (counters : Counters) : Counters :=
  if counters.skipNextMcycleIncrement then
    { counters with skipNextMcycleIncrement := false }
  else if countInhibit then counters
  else
    let mcycle := counters.mcycle + 1
    { counters with
      mcycle := mcycle
      mcycleh := if mcycle = 0 then counters.mcycleh + 1 else counters.mcycleh }

/-- `Core::increment_instret_counter`. -/
def incrementInstret (countInhibit : Bool) (counters : Counters) : Counters :=
  if counters.skipNextMinstretIncrement then
    { counters with skipNextMinstretIncrement := false }
  else if countInhibit then counters
  else
    let minstret := counters.minstret + 1
    { counters with
      minstret := minstret
      minstreth :=
        if minstret = 0 then counters.minstreth + 1 else counters.minstreth }

/-- A write to either half skips the increment of the step that it belongs to.
-/
def writeMcycle (value mask : BitVec 32) (counters : Counters) : Counters :=
  { counters with
    mcycle := merge counters.mcycle value mask
    skipNextMcycleIncrement := true }

def writeMcycleh (value mask : BitVec 32) (counters : Counters) : Counters :=
  { counters with
    mcycleh := merge counters.mcycleh value mask
    skipNextMcycleIncrement := true }

def writeMinstret (value mask : BitVec 32) (counters : Counters) : Counters :=
  { counters with
    minstret := merge counters.minstret value mask
    skipNextMinstretIncrement := true }

def writeMinstreth (value mask : BitVec 32) (counters : Counters) : Counters :=
  { counters with
    minstreth := merge counters.minstreth value mask
    skipNextMinstretIncrement := true }

end Counters

/-! ## Counter control -/

/-- The counter-enable registers mcounteren and scounteren; bit `n` from 3 on
is the one of `hpmcounter n`. -/
abbrev Counteren := BitVec 32

namespace Counteren

def cy (counteren : Counteren) : Bool := counteren.getLsbD 0
def tm (counteren : Counteren) : Bool := counteren.getLsbD 1
def ir (counteren : Counteren) : Bool := counteren.getLsbD 2
def hpm (n : Nat) (counteren : Counteren) : Bool := counteren.getLsbD n

end Counteren

/-- The registers that enable and inhibit the counters. -/
structure CounterControl where
  mcounteren : Counteren
  scounteren : Counteren
  mcountinhibit : BitVec 32
deriving DecidableEq, Repr

namespace CounterControl

def new : CounterControl where
  mcounteren := 0xFFFFFFFF#32
  scounteren := 0xFFFFFFFF#32
  mcountinhibit := 0

/-- `Mcountinhibit::cy` and `Mcountinhibit::ir`. -/
def inhibitCy (control : CounterControl) : Bool :=
  control.mcountinhibit.getLsbD 0

def inhibitIr (control : CounterControl) : Bool :=
  control.mcountinhibit.getLsbD 2

def writeMcounteren (value mask : BitVec 32) (control : CounterControl) :
    CounterControl :=
  { control with mcounteren := merge control.mcounteren value mask }

def writeScounteren (value mask : BitVec 32) (control : CounterControl) :
    CounterControl :=
  { control with scounteren := merge control.scounteren value mask }

/-- Bit 1 is never set by a write. -/
def writeMcountinhibit (value mask : BitVec 32) (control : CounterControl) :
    CounterControl :=
  { control with
    mcountinhibit :=
      control.mcountinhibit &&& ~~~mask ||| value &&& mask &&& ~~~0b10#32 }

end CounterControl

/-! ## Environment configuration -/

/-- menvcfg, menvcfgh and senvcfg, as they were written. -/
structure Envcfg where
  menvcfg : BitVec 32
  menvcfgh : BitVec 32
  senvcfg : BitVec 32
deriving DecidableEq, Repr

namespace Envcfg

def new : Envcfg where
  menvcfg := 0
  menvcfgh := 0
  senvcfg := 0

def writeMenvcfg (value mask : BitVec 32) (envcfg : Envcfg) : Envcfg :=
  { envcfg with menvcfg := merge envcfg.menvcfg value mask }

def writeMenvcfgh (value mask : BitVec 32) (envcfg : Envcfg) : Envcfg :=
  { envcfg with menvcfgh := merge envcfg.menvcfgh value mask }

def writeSenvcfg (value mask : BitVec 32) (envcfg : Envcfg) : Envcfg :=
  { envcfg with senvcfg := merge envcfg.senvcfg value mask }

end Envcfg

end RedPlanet.Core
