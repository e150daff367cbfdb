import RedPlanet.Board.Board
import RedPlanet.Core.Illegal
import RedPlanet.Resources.ClintRegisters

/-!
# Reading the time

The time and the compare register on their way from the CLINT to software: the
double word on the bus, `Core::read_mtime` and `Core::read_mtimecmp`, and the
counters time and timeh.

All of them go through the double word that the CLINT puts together in the
wrong order (`swapped`).  So a read is `Coherent` iff the two halves of the
register are the same (`coherent_iff`), and the counters are iff they are
disabled or the halves of the time are the same (`countersCoherent_iff`).
-/

namespace RedPlanet

open RedPlanet.Core RedPlanet.Resources RedPlanet.Verified Exec
open RedPlanet.Resources.Clint (Register)

namespace Board

/-- The word of the register with its halves swapped. -/
def swapped (register : Register) (clint : Clint) : BitVec 64 :=
  @ofHalves 32 (register.lower clint) (register.upper clint)

/-- Exchanging the halves does nothing iff they are the same. -/
theorem swapped_iff {register : Register} {clint : Clint} :
    swapped register clint = register.value clint ↔
      register.upper clint = register.lower clint :=
  @ofHalves_swapped_iff 32 _

section TimeReads

variable [Build]

/-- `Core::read_mtime` or `Core::read_mtimecmp`. -/
def readRegister {ε : Type} : Register → CoreM SystemBus ε (BitVec 64)
  | .mtime => readMtime coreConfig
  | .mtimecmp => readMtimecmp coreConfig

/-- What the bus returns for the double word. -/
theorem read_register (register : Register) (bus : SystemBus) :
    bus.read (clintRange.start + register.address .lower)
        (List.replicate 8 0) =
      some (toLeBytes 8 (swapped register bus.clint), bus, []) := by
  have hcheck : SystemBus.checkAccess
      (clintRange.start + register.address .lower)
        (List.replicate 8 (0 : BitVec 8)).length =
      some (.clint, register.address .lower) := by
    cases register <;> decide
  unfold SystemBus.read
  rw [hcheck]
  dsimp only
  rw [Clint.read_double (List.length_replicate ..)]
  rfl

/-- What the core makes of it. -/
theorem readRegister_eq {ε : Type} (register : Register) (board : Board) :
    ∃ board', (readRegister register : CoreM _ ε _) board =
      .ok (swapped register board.bus.clint) board' := by
  have hread : Core.SystemBus.read
      (clintRange.start + register.address .lower) (List.replicate 8 0)
        board.bus =
      some (toLeBytes 8 (swapped register board.bus.clint), board.bus, []) :=
    read_register register board.bus
  have hvalue := @ofLeBytes_toLeBytes 64 8 (swapped register board.bus.clint) rfl
  cases register with
  | mtime =>
      exact ⟨_, (bind_ok (busRead_ok hread)).trans
        (congrArg (Outcome.ok · _) hvalue)⟩
  | mtimecmp =>
      exact ⟨_, (bind_ok (busRead_ok hread)).trans
        (congrArg (Outcome.ok · _) hvalue)⟩

/-- The counters time and timeh, where they are enabled. -/
theorem readCsr_time (board : Board) (level : PrivilegeLevel)
    (h : ¬ Disabled board Counteren.tm) :
    (∃ board', (readCsr coreConfig 0xC01 level : CoreM _ _ _) board =
      .ok (@lowerHalf 32 (swapped .mtime board.bus.clint)) board') ∧
    ∃ board', (readCsr coreConfig 0xC81 level : CoreM _ _ _) board =
      .ok (@upperHalf 32 (swapped .mtime board.bus.clint)) board' := by
  obtain ⟨board', hread⟩ :=
    readRegister_eq .mtime board (ε := CsrAccessError)
  have hmtime : (readMtime coreConfig : CoreM SystemBus _ _) board =
      .ok (swapped .mtime board.bus.clint) board' := hread
  have hallowed : ∀ specifier name, (checkAccess Counteren.tm specifier name :
      CoreM SystemBus _ _) board = .ok () board := checkAccess_ok h
  constructor
  · have htime : (readTime coreConfig : CoreM SystemBus _ _) board =
        .ok (@lowerHalf 32 (swapped .mtime board.bus.clint)) board' :=
      (bind_ok (hallowed _ _)).trans ((bind_ok hmtime).trans rfl)
    have hcheck : (checkCsrAccess 0xC01 level : CoreM SystemBus _ _) board =
        .ok () board := by
      cases level <;> rfl
    exact ⟨board', (bind_ok hcheck).trans htime⟩
  · have htimeh : (readTimeh coreConfig : CoreM SystemBus _ _) board =
        .ok (@upperHalf 32 (swapped .mtime board.bus.clint)) board' :=
      (bind_ok (hallowed _ _)).trans ((bind_ok hmtime).trans rfl)
    have hcheck : (checkCsrAccess 0xC81 level : CoreM SystemBus _ _) board =
        .ok () board := by
      cases level <;> rfl
    exact ⟨board', (bind_ok hcheck).trans htimeh⟩

/-! ## Coherence -/

/-- The register is the same to all who read it. -/
structure Coherent (register : Register) (board : Board) : Prop where
  bytes : Clint.ReadsCoherently register board.bus.clint
  core : ∀ ε : Type, ∃ board', (readRegister register : CoreM _ ε _) board =
    .ok (register.value board.bus.clint) board'

/-- Where they are enabled, the counters are the halves of the time. -/
def CountersCoherent (board : Board) : Prop :=
  ¬ Disabled board Counteren.tm → ∀ level,
    (∃ board', (readCsr coreConfig 0xC01 level : CoreM _ _ _) board =
      .ok (Register.mtime.lower board.bus.clint) board') ∧
    ∃ board', (readCsr coreConfig 0xC81 level : CoreM _ _ _) board =
      .ok (Register.mtime.upper board.bus.clint) board'

/-- The core reads the register iff its halves are the same. -/
theorem coherent_iff (register : Register) (board : Board) :
    Coherent register board ↔
      register.upper board.bus.clint = register.lower board.bus.clint := by
  constructor
  · intro h
    exact (Clint.readsCoherently_iff ..).1 h.bytes
  · intro h
    exact
      { bytes := (Clint.readsCoherently_iff ..).2 h
        core := fun ε => by
          rw [← swapped_iff.2 h]
          exact readRegister_eq register board }

/-- The counters read the time iff they may not be read or its halves are the
same. -/
theorem countersCoherent_iff (board : Board) :
    CountersCoherent board ↔ ¬ Disabled board Counteren.tm →
      Register.mtime.upper board.bus.clint =
        Register.mtime.lower board.bus.clint := by
  constructor
  · intro h henabled
    obtain ⟨_, hlower⟩ := (h henabled .machine).1
    obtain ⟨_, hread⟩ := (readCsr_time board .machine henabled).1
    rw [hread] at hlower
    injection hlower with hvalue
    exact (@lowerHalf_ofHalves 32 _ _).symm.trans hvalue
  · intro h henabled level
    have hsame := swapped_iff.2 (h henabled)
    have hread := readCsr_time board level henabled
    rw [hsame] at hread
    exact hread

omit [Build] in
/-- After its first tick a board has the time 1, and the core reads 2³². -/
theorem first_tick_incoherent :
    ∃ board, (clintStep guestBoard : Outcome Empty _ _) = .ok () board ∧
      board.bus.clint.mtime = 1 ∧
      (∃ board', (@readMtime _ Empty (@SystemBus.coreBus Build.debug)
        coreConfig) board = .ok 0x100000000 board') ∧
      ¬ ((∀ register, @Coherent Build.debug register board) ∧
        @CountersCoherent Build.debug board) := by
  refine ⟨_, rfl, rfl, @readRegister_eq Build.debug _ .mtime _, fun h => ?_⟩
  have hsame := (@coherent_iff Build.debug _ _).1 (h.1 .mtime)
  exact absurd hsame (by decide)

/-- Exactly when the time and the compare register are the same to all who
read them. -/
theorem time_coherent_iff (board : Board) :
    ((∀ register, Coherent register board) ∧ CountersCoherent board) ↔
      ∀ register : Register, register.upper board.bus.clint =
        register.lower board.bus.clint := by
  constructor
  · intro h register
    exact (coherent_iff register board).1 (h.1 register)
  · intro h
    exact ⟨fun register => (coherent_iff register board).2 (h register),
      (countersCoherent_iff board).2 fun _ => h .mtime⟩

end TimeReads

end Board

end RedPlanet
