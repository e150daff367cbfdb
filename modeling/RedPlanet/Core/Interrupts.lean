import RedPlanet.Core.Basic

/-!
# The interrupt registers

`core/interrupts.rs`: mip, mie and mideleg, their supervisor views, the
callbacks through which devices raise and lower interrupts, and the choice of
the interrupt to take.

The state is that of the source: mideleg, mie, and mip, in which SEIP is the
disjunction of the PLIC's signal and of what software wrote, each kept in a
flag of its own.  `deliver` is what a device's call on its callback does to
them, and `deliverAll` the calls of one device access in order.

`AgreesOutside` is the frame of these calls: two states that differ at most in
the bits of mip that satisfy a predicate.  `agreesOutside_deliverAll` says
that the calls of a device change the bits of its own interrupts only.
-/

namespace RedPlanet.Core

open RedPlanet.Verified

/-- The bit of an interrupt in mip, mie and mideleg. -/
def Interrupt.mask (interrupt : Interrupt) : BitVec 16 :=
  1#16 <<< interrupt.toNat

/-- The six standard interrupts, software, timer and external at both levels;
the other bits of mip and mie are read-only zero. -/
def VALID_INTERRUPTS_MASK : BitVec 16 :=
  Interrupt.supervisorSoftwareInterrupt.mask
    ||| Interrupt.machineSoftwareInterrupt.mask
    ||| Interrupt.supervisorTimerInterrupt.mask
    ||| Interrupt.machineTimerInterrupt.mask
    ||| Interrupt.supervisorExternalInterrupt.mask
    ||| Interrupt.machineExternalInterrupt.mask

/-- The three supervisor interrupts, which are all that mideleg can delegate.
-/
def DELEGATABLE_INTERRUPTS_MASK : BitVec 16 :=
  Interrupt.supervisorSoftwareInterrupt.mask
    ||| Interrupt.supervisorTimerInterrupt.mask
    ||| Interrupt.supervisorExternalInterrupt.mask

structure Interrupts where
  /-- The mideleg register. -/
  delegate : BitVec 16
  seipExternal : Bool
  seipInternal : Bool
  /-- The mip register, with SEIP the disjunction of the two flags. -/
  mip : BitVec 16
  mie : BitVec 16
deriving DecidableEq, Repr

namespace Interrupts

/-- Nothing is pending, enabled or delegated. -/
def new : Interrupts where
  delegate := 0
  seipExternal := false
  seipInternal := false
  mip := 0
  mie := 0

/-- Whether the bit of the interrupt is set in mideleg. -/
def shouldDelegate (interrupts : Interrupts) (interrupt : Interrupt) : Bool :=
  interrupts.delegate.getLsbD interrupt.toNat

/-- Set the bit of an interrupt in mip. -/
def setMip (interrupt : Interrupt) (value : Bool) (interrupts : Interrupts) :
    Interrupts :=
  { interrupts with mip := setBit interrupts.mip interrupt.toNat value }

/-- The callback of the PLIC for the context of M-mode. -/
def setMExternal (value : Bool) : Interrupts → Interrupts :=
  setMip .machineExternalInterrupt value

/-- The callback of the PLIC for the context of S-mode, whose signal is kept
apart from the SEIP bit that software writes. -/
def setSExternal (value : Bool) (interrupts : Interrupts) : Interrupts :=
  setMip .supervisorExternalInterrupt (value || interrupts.seipInternal)
    { interrupts with seipExternal := value }

/-- The callback of the CLINT for its timer. -/
def setMTimer (value : Bool) : Interrupts → Interrupts :=
  setMip .machineTimerInterrupt value

def setMSoft : Interrupts → Interrupts := setMip .machineSoftwareInterrupt true

def setSSoft : Interrupts → Interrupts :=
  setMip .supervisorSoftwareInterrupt true

/-- `Core::raise`. -/
def raise : Interrupt → Interrupts → Interrupts
  | .supervisorSoftwareInterrupt => setSSoft
  | .machineSoftwareInterrupt => setMSoft
  | .supervisorTimerInterrupt => fun interrupts => interrupts
  | .machineTimerInterrupt => setMTimer true
  | .supervisorExternalInterrupt => setSExternal true
  | .machineExternalInterrupt => setMExternal true

/-- `Core::lower`. -/
def lower : Interrupt → Interrupts → Interrupts
  | .supervisorSoftwareInterrupt => fun interrupts => interrupts
  | .machineSoftwareInterrupt => fun interrupts => interrupts
  | .supervisorTimerInterrupt => fun interrupts => interrupts
  | .machineTimerInterrupt => setMTimer false
  | .supervisorExternalInterrupt => setSExternal false
  | .machineExternalInterrupt => setMExternal false

/-- What a device's call on its callback does to the core. -/
def deliver (interrupts : Interrupts) : IrqCall → Interrupts
  | .raise code => raise code interrupts
  | .lower code => lower code interrupts

/-- The calls of one device access, in order. -/
def deliverAll (calls : List IrqCall) (interrupts : Interrupts) : Interrupts :=
  calls.foldl deliver interrupts

def highestPriorityMReady (interrupts : Interrupts) : Option Interrupt :=
  let ready := interrupts.mip &&& interrupts.mie &&& ~~~interrupts.delegate
  [.machineExternalInterrupt, .machineSoftwareInterrupt,
    .machineTimerInterrupt, .supervisorExternalInterrupt,
    .supervisorSoftwareInterrupt, .supervisorTimerInterrupt].find?
    fun i => ready.getLsbD i.toNat

def highestPrioritySReady (interrupts : Interrupts) : Option Interrupt :=
  let ready := interrupts.mip &&& interrupts.mie &&& interrupts.delegate
  [.supervisorExternalInterrupt, .supervisorSoftwareInterrupt,
    .supervisorTimerInterrupt].find? fun i => ready.getLsbD i.toNat

/-! ## CSR views -/

/-- The 16 bits of mideleg, widened to a register. -/
def readMideleg (interrupts : Interrupts) : BitVec 32 :=
  interrupts.delegate.setWidth 32

/-- Only the delegatable bits can be written. -/
def writeMideleg (value mask : BitVec 32) (interrupts : Interrupts) :
    Interrupts :=
  let mask := mask.setWidth 16 &&& DELEGATABLE_INTERRUPTS_MASK
  { interrupts with
    delegate := merge interrupts.delegate (value.setWidth 16) mask }

/-- The 16 bits of mip, widened to a register. -/
def readMip (interrupts : Interrupts) : BitVec 32 :=
  interrupts.mip.setWidth 32

/-- The writes of SEIP, STIP and SSIP; the machine-level bits are managed by
the devices. -/
def writeMip (value mask : BitVec 32) (interrupts : Interrupts) :
    Interrupts :=
  let seip := Interrupt.supervisorExternalInterrupt.toNat
  let stip := Interrupt.supervisorTimerInterrupt.toNat
  let ssip := Interrupt.supervisorSoftwareInterrupt.toNat
  let interrupts :=
    if mask.getLsbD seip then
      setMip .supervisorExternalInterrupt
        (interrupts.seipExternal || value.getLsbD seip)
        { interrupts with seipInternal := value.getLsbD seip }
    else interrupts
  let interrupts :=
    if mask.getLsbD stip then
      setMip .supervisorTimerInterrupt (value.getLsbD stip) interrupts
    else interrupts
  if mask.getLsbD ssip then
    setMip .supervisorSoftwareInterrupt (value.getLsbD ssip) interrupts
  else interrupts

/-- The 16 bits of mie, widened to a register. -/
def readMie (interrupts : Interrupts) : BitVec 32 :=
  interrupts.mie.setWidth 32

/-- Only the bits of the standard interrupts can be written. -/
def writeMie (value mask : BitVec 32) (interrupts : Interrupts) : Interrupts :=
  let mask := mask.setWidth 16 &&& VALID_INTERRUPTS_MASK
  { interrupts with mie := merge interrupts.mie (value.setWidth 16) mask }

/-- The delegated bits of mip. -/
def readSip (interrupts : Interrupts) : BitVec 32 :=
  (interrupts.mip &&& interrupts.delegate).setWidth 32

/-- SEIP and STIP are read-only in sip. -/
def writeSip (value mask : BitVec 32) (interrupts : Interrupts) : Interrupts :=
  let ssip := Interrupt.supervisorSoftwareInterrupt.toNat
  if mask.getLsbD ssip then
    setMip .supervisorSoftwareInterrupt (value.getLsbD ssip) interrupts
  else interrupts

/-- The delegated bits of mie. -/
def readSie (interrupts : Interrupts) : BitVec 32 :=
  (interrupts.mie &&& interrupts.delegate).setWidth 32

/-- Only the delegated bits of mie can be written through sie. -/
def writeSie (value mask : BitVec 32) (interrupts : Interrupts) : Interrupts :=
  let mask := mask.setWidth 16 &&& interrupts.delegate
  { interrupts with mie := merge interrupts.mie (value.setWidth 16) mask }

/-! ## What the devices can change -/

/-- The two states differ at most in the mip bits that satisfy `P`, and in
the external SEIP flag when `P` allows SEIP. -/
structure AgreesOutside (P : Nat → Prop) (before after : Interrupts) :
    Prop where
  delegate : after.delegate = before.delegate
  mie : after.mie = before.mie
  seipInternal : after.seipInternal = before.seipInternal
  seipExternal : ¬ P Interrupt.supervisorExternalInterrupt.toNat →
    after.seipExternal = before.seipExternal
  mip : ∀ i, ¬ P i → after.mip.getLsbD i = before.mip.getLsbD i

variable {P : Nat → Prop}

/-- No bit differs at all. -/
theorem AgreesOutside.refl (interrupts : Interrupts) :
    AgreesOutside P interrupts interrupts where
  delegate := rfl
  mie := rfl
  seipInternal := rfl
  seipExternal := fun _ => rfl
  mip := fun _ _ => rfl

/-- The same predicate bounds both differences. -/
theorem AgreesOutside.trans {a b c : Interrupts} (hab : AgreesOutside P a b)
    (hbc : AgreesOutside P b c) : AgreesOutside P a c where
  delegate := hbc.delegate.trans hab.delegate
  mie := hbc.mie.trans hab.mie
  seipInternal := hbc.seipInternal.trans hab.seipInternal
  seipExternal := fun h => (hbc.seipExternal h).trans (hab.seipExternal h)
  mip := fun i hi => (hbc.mip i hi).trans (hab.mip i hi)

/-- Setting or clearing the bit of an interrupt changes that bit only. -/
theorem agreesOutside_setMip {interrupt : Interrupt} (value : Bool)
    (interrupts : Interrupts) (h : P interrupt.toNat) :
    AgreesOutside P interrupts (setMip interrupt value interrupts) where
  delegate := rfl
  mie := rfl
  seipInternal := rfl
  seipExternal := fun _ => rfl
  mip := by
    intro i hi
    apply getLsbD_setBit_ne
    intro heq
    rw [heq] at hi
    exact hi h

/-- The external signal of SEIP is part of its bit. -/
theorem agreesOutside_setSExternal (value : Bool) (interrupts : Interrupts)
    (h : P Interrupt.supervisorExternalInterrupt.toNat) :
    AgreesOutside P interrupts (setSExternal value interrupts) where
  delegate := rfl
  mie := rfl
  seipInternal := rfl
  seipExternal := fun hn => absurd h hn
  mip := by
    intro i hi
    apply getLsbD_setBit_ne
    intro heq
    rw [heq] at hi
    exact hi h

/-- A callback changes the bit of its own interrupt only. -/
theorem agreesOutside_deliver (interrupts : Interrupts) (call : IrqCall)
    (h : P call.code.toNat) :
    AgreesOutside P interrupts (deliver interrupts call) := by
  cases call with
  | raise code =>
      cases code with
      | supervisorSoftwareInterrupt => exact agreesOutside_setMip true _ h
      | machineSoftwareInterrupt => exact agreesOutside_setMip true _ h
      | supervisorTimerInterrupt => exact AgreesOutside.refl _
      | machineTimerInterrupt => exact agreesOutside_setMip true _ h
      | supervisorExternalInterrupt => exact agreesOutside_setSExternal true _ h
      | machineExternalInterrupt => exact agreesOutside_setMip true _ h
  | lower code =>
      cases code with
      | supervisorSoftwareInterrupt => exact AgreesOutside.refl _
      | machineSoftwareInterrupt => exact AgreesOutside.refl _
      | supervisorTimerInterrupt => exact AgreesOutside.refl _
      | machineTimerInterrupt => exact agreesOutside_setMip false _ h
      | supervisorExternalInterrupt => exact agreesOutside_setSExternal false _ h
      | machineExternalInterrupt => exact agreesOutside_setMip false _ h

/-- So do the calls of a whole access, by induction on their list. -/
theorem agreesOutside_deliverAll (calls : List IrqCall)
    (interrupts : Interrupts) (h : ∀ call ∈ calls, P call.code.toNat) :
    AgreesOutside P interrupts (deliverAll calls interrupts) := by
  induction calls generalizing interrupts with
  | nil => exact AgreesOutside.refl interrupts
  | cons call rest ih =>
      have hhead := agreesOutside_deliver interrupts call (h call (by simp))
      have htail := ih (deliver interrupts call)
        fun other hmem => h other (by simp [hmem])
      exact hhead.trans htail

end Interrupts

end RedPlanet.Core
