import RedPlanet.Core.Instruction
import RedPlanet.Core.State

/-!
# Control and status registers

The specifiers of `core/csr.rs` and the dispatch of `Core::read_csr` and
`Core::write_csr`.  The two `match`es of the source go through a common table
of specifier ranges, `csrTable`, and a case per register.

`Csr.level` and `Csr.readOnly` say what a register's specifier encodes;
`ofSpecifier_sound` checks them against the table, so that a privilege or
read-only check on a specifier becomes a fact about the register.
-/

namespace RedPlanet.Core

open RedPlanet.Verified

/-! ## Specifiers -/

/-- The CSRs the source distinguishes.  A performance-monitoring register
carries its number. -/
inductive Csr where
  | fflags
  | frm
  | fcsr
  | cycle
  | time
  | instret
  | hpmcounter (n : Nat)
  | cycleh
  | timeh
  | instreth
  | hpmcounterh (n : Nat)
  | sstatus
  | sie
  | stvec
  | scounteren
  | senvcfg
  | sscratch
  | sepc
  | scause
  | stval
  | sip
  | satp
  | mvendorid
  | marchid
  | mimpid
  | mhartid
  | mconfigptr
  | mstatus
  | misa
  | medeleg
  | mideleg
  | mie
  | mtvec
  | mcounteren
  | mstatush
  | mscratch
  | mepc
  | mcause
  | mtval
  | mip
  | mtinst
  | mtval2
  | menvcfg
  | menvcfgh
  | mseccfg
  | mseccfgh
  | pmpcfg (n : Nat)
  | pmpaddr (n : Nat)
  | mcycle
  | minstret
  | mhpmcounter (n : Nat)
  | mcycleh
  | minstreth
  | mhpmcounterh (n : Nat)
  | mcountinhibit
  | mhpmevent (n : Nat)
  | tselect
  | tdata1
  | tdata2
  | tdata3
  | mcontext
deriving DecidableEq, Repr

/-- A range of specifiers and the register at each offset into it. -/
structure CsrRange where
  first : Nat
  last : Nat
  csr : Nat → Csr

/-- A range of one specifier. -/
def CsrRange.one (specifier : Nat) (csr : Csr) : CsrRange where
  first := specifier
  last := specifier
  csr := fun _ => csr

open CsrRange in

/-- The arms of the two dispatches, grouped as the source groups them. -/
def csrTable : List CsrRange :=
  [ -- Unprivileged Floating-Point CSRs
    one 0x001 .fflags, one 0x002 .frm, one 0x003 .fcsr,
    -- Unprivileged Counter/Timers
    one 0xC00 .cycle, one 0xC01 .time, one 0xC02 .instret,
    ⟨0xC03, 0xC1F, fun offset => .hpmcounter (3 + offset)⟩,
    one 0xC80 .cycleh, one 0xC81 .timeh, one 0xC82 .instreth,
    ⟨0xC83, 0xC9F, fun offset => .hpmcounterh (3 + offset)⟩,
    -- Supervisor Trap Setup and Configuration
    one 0x100 .sstatus, one 0x104 .sie, one 0x105 .stvec,
    one 0x106 .scounteren, one 0x10A .senvcfg,
    -- Supervisor Trap Handling, Protection and Translation
    one 0x140 .sscratch, one 0x141 .sepc, one 0x142 .scause,
    one 0x143 .stval, one 0x144 .sip, one 0x180 .satp,
    -- Machine Information Registers
    one 0xF11 .mvendorid, one 0xF12 .marchid, one 0xF13 .mimpid,
    one 0xF14 .mhartid, one 0xF15 .mconfigptr,
    -- Machine Trap Setup
    one 0x300 .mstatus, one 0x301 .misa, one 0x302 .medeleg,
    one 0x303 .mideleg, one 0x304 .mie, one 0x305 .mtvec,
    one 0x306 .mcounteren, one 0x310 .mstatush,
    -- Machine Trap Handling
    one 0x340 .mscratch, one 0x341 .mepc, one 0x342 .mcause,
    one 0x343 .mtval, one 0x344 .mip, one 0x34A .mtinst, one 0x34B .mtval2,
    -- Machine Configuration
    one 0x30A .menvcfg, one 0x31A .menvcfgh, one 0x747 .mseccfg,
    one 0x757 .mseccfgh,
    -- Machine Memory Protection
    ⟨0x3A0, 0x3AF, .pmpcfg⟩, ⟨0x3B0, 0x3EF, .pmpaddr⟩,
    -- Machine Counters/Timers
    one 0xB00 .mcycle, one 0xB02 .minstret,
    ⟨0xB03, 0xB1F, fun offset => .mhpmcounter (3 + offset)⟩,
    one 0xB80 .mcycleh, one 0xB82 .minstreth,
    ⟨0xB83, 0xB9F, fun offset => .mhpmcounterh (3 + offset)⟩,
    -- Machine Counter Setup
    one 0x320 .mcountinhibit,
    ⟨0x323, 0x33F, fun offset => .mhpmevent (3 + offset)⟩,
    -- Debug/Trace Registers
    one 0x7A0 .tselect, one 0x7A1 .tdata1, one 0x7A2 .tdata2,
    one 0x7A3 .tdata3, one 0x7A8 .mcontext ]

/-- The arm of the dispatch that a specifier selects. -/
def Csr.ofSpecifier (specifier : CsrSpecifier) : Option Csr :=
  (csrTable.find? fun range =>
    range.first ≤ specifier.toNat ∧ specifier.toNat ≤ range.last).map
      fun range => range.csr (specifier.toNat - range.first)

/-- `csr::is_valid`. -/
def isValid (specifier : CsrSpecifier) : Bool := specifier.toNat < 2 ^ 12

/-- `csr::is_read_only`. -/
def isReadOnly (specifier : CsrSpecifier) : Bool := specifier >>> 10 = 0b11

/-- `csr::required_privilege_level`. -/
def requiredPrivilegeLevel (specifier : CsrSpecifier) : RawPrivilegeLevel :=
  RawPrivilegeLevel.fromU2 (specifier.extractLsb' 8 2)

/-- The specifier `csr::HPMCOUNTER3`. -/
def HPMCOUNTER3 : CsrSpecifier := 0xC03

/-! ## What a specifier says about its register -/

namespace Csr

/-- The privilege level a register belongs to. -/
def level : Csr → RawPrivilegeLevel
  | fflags | frm | fcsr | cycle | time | instret | hpmcounter _ | cycleh
  | timeh | instreth | hpmcounterh _ => .user
  | sstatus | sie | stvec | scounteren | senvcfg | sscratch | sepc | scause
  | stval | sip | satp => .supervisor
  | _ => .machine

/-- Whether the two highest bits of its specifier are both set. -/
def readOnly : Csr → Bool
  | cycle | time | instret | hpmcounter _ | cycleh | timeh | instreth
  | hpmcounterh _ | mvendorid | marchid | mimpid | mhartid | mconfigptr => true
  | _ => false

/-- The number of a performance-monitoring register is between 3 and 31, as
its accessors assert. -/
def Numbered : Csr → Prop
  | hpmcounter n | hpmcounterh n | mhpmcounter n | mhpmcounterh n
  | mhpmevent n => 3 ≤ n ∧ n ≤ 31
  | _ => True

instance (csr : Csr) : Decidable csr.Numbered := by
  cases csr <;> unfold Numbered <;> infer_instance

/-- The specifier and its register agree. -/
def Describes (specifier : CsrSpecifier) (csr : Csr) : Prop :=
  requiredPrivilegeLevel specifier = csr.level ∧
    isReadOnly specifier = csr.readOnly ∧ csr.Numbered

instance (specifier : CsrSpecifier) (csr : Csr) :
    Decidable (Describes specifier csr) :=
  inferInstanceAs (Decidable (_ ∧ _ ∧ _))

end Csr

/-- Every specifier of the table agrees with its register. -/
theorem csrTable_describes : ∀ range ∈ csrTable,
    ∀ offset ≤ range.last - range.first,
      Csr.Describes (BitVec.ofNat 16 (range.first + offset))
        (range.csr offset) := by
  decide +kernel

/-- A specifier that selects a register lies in a range of the table. -/
theorem Csr.ofSpecifier_entry {specifier : CsrSpecifier} {csr : Csr}
    (h : ofSpecifier specifier = some csr) :
    ∃ range ∈ csrTable, ∃ offset ≤ range.last - range.first,
      range.csr offset = csr ∧
        specifier = BitVec.ofNat 16 (range.first + offset) := by
  unfold ofSpecifier at h
  rw [Option.map_eq_some_iff] at h
  obtain ⟨range, hfind, hcsr⟩ := h
  have hmem : range ∈ csrTable := List.mem_of_find?_eq_some hfind
  have hrange := List.find?_some hfind
  rw [decide_eq_true_eq] at hrange
  have hspec : range.first + (specifier.toNat - range.first)
      = specifier.toNat := by omega
  refine ⟨range, hmem, specifier.toNat - range.first, by omega, hcsr, ?_⟩
  rw [hspec, BitVec.ofNat_toNat, BitVec.setWidth_eq]

/-- So what a register is said to be can be read off its specifier. -/
theorem Csr.ofSpecifier_sound {specifier : CsrSpecifier} {csr : Csr}
    (h : ofSpecifier specifier = some csr) : Describes specifier csr := by
  obtain ⟨range, hmem, offset, hle, hcsr, hspec⟩ := ofSpecifier_entry h
  rw [hspec, ← hcsr]
  exact csrTable_describes range hmem offset hle

/-! ## Errors -/

inductive CsrAccessError where
  | csrUnsupported (specifier : CsrSpecifier)
  | privileged (specifier : CsrSpecifier) (requiredLevel : RawPrivilegeLevel)
      (actualLevel : PrivilegeLevel)
  | csrUnavailable (specifier : CsrSpecifier) (reason : String)
deriving DecidableEq, Repr

inductive CsrWriteError where
  | accessError (error : CsrAccessError)
  | writeToReadOnly
deriving DecidableEq, Repr

variable {β ε : Type} [SystemBus β]

/-- `Core::check_csr_access`. -/
def checkCsrAccess (specifier : CsrSpecifier)
    (privilegeLevel : PrivilegeLevel) : CoreM β CsrAccessError Unit :=
  if !isValid specifier then Exec.throw (.csrUnsupported specifier)
  else
    let requiredLevel := requiredPrivilegeLevel specifier
    if privilegeLevel.toNat < requiredLevel.toNat then
      Exec.throw (.privileged specifier requiredLevel privilegeLevel)
    else pure ()

/-! ## Counters -/

/-- `Core::check_access` of `core/counters.rs`. -/
def checkAccess (check : Counteren → Bool) (specifier : CsrSpecifier)
    (name : String) : CoreM β CsrAccessError Unit := do
  let s ← Exec.get
  if s.privilegeMode < .supervisor ∧ !check s.counterControl.scounteren then
    Exec.throw (.csrUnavailable specifier
      (name ++ " access prohibited by scounteren"))
  else if s.privilegeMode < .machine ∧ !check s.counterControl.mcounteren then
    Exec.throw (.csrUnavailable specifier
      (name ++ " access prohibited by mcounteren"))
  else pure ()

/-- The assertion on the number of a performance-monitoring register. -/
def assertNumber (n : Nat) : CoreM β ε Unit := Exec.assert (3 ≤ n ∧ n ≤ 31)

/-- `read_mhpmcounter`, `read_mhpmcounterh` and `read_mhpmevent`. -/
def readMhpm (n : Nat) : CoreM β ε (BitVec 32) := do
  assertNumber n
  return 0

/-- `write_mhpmcounter`, `write_mhpmcounterh` and `write_mhpmevent`: writes
are ignored. -/
def writeMhpm (n : Nat) : CoreM β ε Unit := assertNumber n

/-- `read_hpmcounter` and `read_hpmcounterh`, which report the same
specifier. -/
def readHpmcounter (n : Nat) : CoreM β CsrAccessError (BitVec 32) := do
  assertNumber n
  checkAccess (Counteren.hpm n) (HPMCOUNTER3 + BitVec.ofNat 16 n - 3)
    ("hpmcounter" ++ toString n)
  readMhpm n

/-- Read one part of the state. -/
def view (f : State β → BitVec 32) : CoreM β ε (BitVec 32) := do
  let s ← Exec.get
  return f s

/-- `read_cycle`, which shows the lower half of mcycle if the counter is
enabled. -/
def readCycle : CoreM β CsrAccessError (BitVec 32) := do
  checkAccess Counteren.cy 0xC00 "cycle counter"
  view (·.counters.mcycle)

def readCycleh : CoreM β CsrAccessError (BitVec 32) := do
  checkAccess Counteren.cy 0xC80 "cycleh counter"
  view (·.counters.mcycleh)

/-- `read_time`, which reads the memory-mapped mtime over the bus. -/
def readTime (config : Config) : CoreM β CsrAccessError (BitVec 32) := do
  checkAccess Counteren.tm 0xC01 "time counter"
  let mtime ← readMtime config
  return mtime.setWidth 32

def readTimeh (config : Config) : CoreM β CsrAccessError (BitVec 32) := do
  checkAccess Counteren.tm 0xC81 "timeh counter"
  let mtime ← readMtime config
  return (mtime >>> 32).setWidth 32

def readInstret : CoreM β CsrAccessError (BitVec 32) := do
  checkAccess Counteren.ir 0xC02 "instret counter"
  view (·.counters.minstret)

def readInstreth : CoreM β CsrAccessError (BitVec 32) := do
  checkAccess Counteren.ir 0xC82 "instreth counter"
  view (·.counters.minstreth)

/-! ## Trap registers with checks -/

/-- `read_mtvec` and `read_stvec`. -/
def viewTvec (base : Trap → BitVec 32) (mode : Trap → VectorMode) :
    CoreM β ε (BitVec 32) := do
  let s ← Exec.get
  Exec.unwrap (readTvec (base s.trap) (mode s.trap))

/-- `write_mtvec` and `write_stvec`. -/
def putTvec (write : Trap → Option Trap) : CoreM β ε Unit := do
  let s ← Exec.get
  let trap ← Exec.unwrap (write s.trap)
  Exec.modify (State.onTrap fun _ => trap)

/-- `read_satp`, refused under TVM. -/
def readSatp : CoreM β CsrAccessError (BitVec 32) := do
  let s ← Exec.get
  if s.status.tvm then
    Exec.throw (.csrUnavailable 0x180 "satp cannot be read when TVM=1")
  else return s.trap.satp

/-- `write_satp`, refused under TVM as the read is. -/
def writeSatp (value mask : BitVec 32) : CoreM β CsrWriteError Unit := do
  let s ← Exec.get
  if s.status.tvm then
    Exec.throw (.accessError
      (.csrUnavailable 0x180 "satp cannot be written when TVM=1"))
  else Exec.modify (State.onTrap (Trap.writeSatp value mask))

/-! ## The dispatch -/

def MISA : BitVec 32 := 0x40141101

/-- The arms of `Core::read_csr`.  SENVCFG is read from menvcfg. -/
def readCsrOf (config : Config) (specifier : CsrSpecifier) :
    Csr → CoreM β CsrAccessError (BitVec 32)
  | .fflags | .frm | .fcsr => Exec.throw (.csrUnsupported specifier)
  | .cycle => readCycle
  | .time => readTime config
  | .instret => readInstret
  | .hpmcounter n => readHpmcounter n
  | .cycleh => readCycleh
  | .timeh => readTimeh config
  | .instreth => readInstreth
  | .hpmcounterh n => readHpmcounter n
  | .sstatus => view (·.status.mstatus &&& SSTATUS_MASK)
  | .sie => view (·.interrupts.readSie)
  | .stvec => viewTvec Trap.sVectorBaseAddress Trap.sVectorMode
  | .scounteren => view (·.counterControl.scounteren)
  | .senvcfg => view (·.envcfg.menvcfg)
  | .sscratch => view (·.trap.sscratch)
  | .sepc => view (·.trap.sepc)
  | .scause => view (·.trap.readScause)
  | .stval => view (·.trap.stval)
  | .sip => view (·.interrupts.readSip)
  | .satp => readSatp
  | .mvendorid => pure 0
  | .marchid => pure 0
  | .mimpid => pure 0
  | .mhartid => pure config.hartId
  | .mconfigptr => pure 0
  | .mstatus => view (·.status.mstatus)
  | .misa => pure MISA
  | .medeleg => view (·.trap.delegateException)
  | .mideleg => view (·.interrupts.readMideleg)
  | .mie => view (·.interrupts.readMie)
  | .mtvec => viewTvec Trap.mVectorBaseAddress Trap.mVectorMode
  | .mcounteren => view (·.counterControl.mcounteren)
  | .mstatush => view (·.status.mstatush)
  | .mscratch => view (·.trap.mscratch)
  | .mepc => view (·.trap.mepc)
  | .mcause => view (·.trap.readMcause)
  | .mtval => view (·.trap.mtval)
  | .mip => view (·.interrupts.readMip)
  | .mtinst => view (·.trap.mtinst)
  | .mtval2 => view (·.trap.mtval2)
  | .menvcfg => view (·.envcfg.menvcfg)
  | .menvcfgh => view (·.envcfg.menvcfgh)
  | .mseccfg | .mseccfgh => Exec.throw (.csrUnsupported specifier)
  | .pmpcfg _ | .pmpaddr _ => Exec.throw (.csrUnsupported specifier)
  | .mcycle => view (·.counters.mcycle)
  | .minstret => view (·.counters.minstret)
  | .mhpmcounter n => readMhpm n
  | .mcycleh => view (·.counters.mcycleh)
  | .minstreth => view (·.counters.minstreth)
  | .mhpmcounterh n => readMhpm n
  | .mcountinhibit => view (·.counterControl.mcountinhibit)
  | .mhpmevent n => readMhpm n
  | .tselect | .tdata1 | .tdata2 | .tdata3 | .mcontext =>
      Exec.throw (.csrUnsupported specifier)

/-- `Core::read_csr`. -/
def readCsr (config : Config) (specifier : CsrSpecifier)
    (privilegeLevel : PrivilegeLevel) :
    CoreM β CsrAccessError (BitVec 32) := do
  checkCsrAccess specifier privilegeLevel
  match Csr.ofSpecifier specifier with
  | some csr => readCsrOf config specifier csr
  | none => Exec.throw (.csrUnsupported specifier)

/-- The arms of `Core::write_csr`.  The read-only registers are
`unreachable!`, and SENVCFG is written to menvcfg. -/
def writeCsrOf (specifier : CsrSpecifier) (value mask : BitVec 32) :
    Csr → CoreM β CsrWriteError Unit
  | .fflags | .frm | .fcsr =>
      Exec.throw (.accessError (.csrUnsupported specifier))
  | .cycle | .time | .instret | .hpmcounter _ | .cycleh | .timeh | .instreth
  | .hpmcounterh _ => Exec.abort
  | .sstatus => Exec.modify (State.onStatus (Status.writeSstatus value mask))
  | .sie => Exec.modify (State.onInterrupts (Interrupts.writeSie value mask))
  | .stvec => putTvec (Trap.writeStvec value mask)
  | .scounteren =>
      Exec.modify
        (State.onCounterControl (CounterControl.writeScounteren value mask))
  | .senvcfg => Exec.modify (State.onEnvcfg (Envcfg.writeMenvcfg value mask))
  | .sscratch => Exec.modify (State.onTrap (Trap.writeSscratch value mask))
  | .sepc => Exec.modify (State.onTrap (Trap.writeSepc value mask))
  | .scause => Exec.modify (State.onTrap (Trap.writeScause value mask))
  | .stval => Exec.modify (State.onTrap (Trap.writeStval value mask))
  | .sip => Exec.modify (State.onInterrupts (Interrupts.writeSip value mask))
  | .satp => writeSatp value mask
  | .mvendorid | .marchid | .mimpid | .mhartid | .mconfigptr => Exec.abort
  | .mstatus => Exec.modify (State.onStatus (Status.writeMstatus value mask))
  | .misa => pure ()
  | .medeleg => Exec.modify (State.onTrap (Trap.writeMedeleg value mask))
  | .mideleg =>
      Exec.modify (State.onInterrupts (Interrupts.writeMideleg value mask))
  | .mie => Exec.modify (State.onInterrupts (Interrupts.writeMie value mask))
  | .mtvec => putTvec (Trap.writeMtvec value mask)
  | .mcounteren =>
      Exec.modify
        (State.onCounterControl (CounterControl.writeMcounteren value mask))
  | .mstatush =>
      Exec.modify (State.onStatus (Status.writeMstatush value mask))
  | .mscratch => Exec.modify (State.onTrap (Trap.writeMscratch value mask))
  | .mepc => Exec.modify (State.onTrap (Trap.writeMepc value mask))
  | .mcause => Exec.modify (State.onTrap (Trap.writeMcause value mask))
  | .mtval => Exec.modify (State.onTrap (Trap.writeMtval value mask))
  | .mip => Exec.modify (State.onInterrupts (Interrupts.writeMip value mask))
  | .mtinst => Exec.modify (State.onTrap (Trap.writeMtinst value mask))
  | .mtval2 => Exec.modify (State.onTrap (Trap.writeMtval2 value mask))
  | .menvcfg => Exec.modify (State.onEnvcfg (Envcfg.writeMenvcfg value mask))
  | .menvcfgh => Exec.modify (State.onEnvcfg (Envcfg.writeMenvcfgh value mask))
  | .mseccfg | .mseccfgh =>
      Exec.throw (.accessError (.csrUnsupported specifier))
  | .pmpcfg _ | .pmpaddr _ =>
      Exec.throw (.accessError (.csrUnsupported specifier))
  | .mcycle => Exec.modify (State.onCounters (Counters.writeMcycle value mask))
  | .minstret =>
      Exec.modify (State.onCounters (Counters.writeMinstret value mask))
  | .mhpmcounter n => writeMhpm n
  | .mcycleh =>
      Exec.modify (State.onCounters (Counters.writeMcycleh value mask))
  | .minstreth =>
      Exec.modify (State.onCounters (Counters.writeMinstreth value mask))
  | .mhpmcounterh n => writeMhpm n
  | .mcountinhibit =>
      Exec.modify
        (State.onCounterControl (CounterControl.writeMcountinhibit value mask))
  | .mhpmevent n => writeMhpm n
  | .tselect | .tdata1 | .tdata2 | .tdata3 | .mcontext =>
      Exec.throw (.accessError (.csrUnsupported specifier))

/-- `Core::write_csr`. -/
def writeCsr (specifier : CsrSpecifier) (privilegeLevel : PrivilegeLevel)
    (value mask : BitVec 32) : CoreM β CsrWriteError Unit := do
  Exec.mapError .accessError (checkCsrAccess specifier privilegeLevel)
  if isReadOnly specifier then Exec.throw .writeToReadOnly
  else
    match Csr.ofSpecifier specifier with
    | some csr => writeCsrOf specifier value mask csr
    | none => Exec.throw (.accessError (.csrUnsupported specifier))

end RedPlanet.Core
