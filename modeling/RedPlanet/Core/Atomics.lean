import RedPlanet.Core.StoreLoad

/-!
# Atomic operations without translation

An atomic operation on an aligned word of RAM reads the word, writes the
result of the operation, and then changes its destination, whichever of its
three registers are the same.  LR leaves the word as it is, and SC writes its
operand and clears the destination before it does so.
-/

namespace RedPlanet.Core

open RedPlanet.Verified Exec

variable {β : Type}

/-- What an atomic operation leaves in its destination, where it found
`mem`. -/
def AmoOp.result (op : AmoOp) (mem : BitVec 32) : BitVec 32 :=
  if op = .sc then 0 else mem

/-- The accesses of an atomic operation: a read, and for the read-modify-write
operations a write, or for SC only a write. -/
def AmoOp.accesses (op : AmoOp) (address : BitVec 32) : List Event :=
  if op.Modifies then [.access address 4, .access address 4]
  else [.access address 4]

theorem permitted_of_isAligned {config : Config} {address : BitVec 32}
    (h : isAligned WORD address = true) : Permitted config address 4 := by
  refine ⟨by decide, Or.inr ?_⟩
  have hnatural : naturalAlignment (BitVec.ofNat 32 4) = some WORD := by
    decide
  rw [hnatural, Option.map_some, h]

variable [SystemBus β]

/-- The operation `op` on the word at `address`, between the states. -/
structure Amo (M : Memory β) (op : AmoOp) (dest src addr : Specifier)
    (bigEndian : Bool) (old : BitVec 32) (s t : State β) : Prop where
  mode : SameMode s t
  registers : t.registers =
    (s.registers.setX dest (op.result old)).incrementPc
  word : @Stores β _ M s t bigEndian (s.registers.x addr) 4
    (op.apply old (s.registers.x src))
  events : t.events = op.accesses (s.registers.x addr) ++ s.events

section Instructions

variable [Build] {M : Memory β} {config : Config} {level : PrivilegeLevel}
  {s : State β} {dest src addr : Specifier}

theorem lr_ram (hs : Untranslated s level)
    (haligned : isAligned WORD (s.registers.x addr) = true)
    (hram : M.Ram s.bus (s.registers.x addr) 4) :
    ∃ t, lr config dest src addr s = .ok () t ∧
      Amo M .lr dest src addr (s.bigEndian level)
        (M.number s.bus (s.bigEndian level) (s.registers.x addr) 4) s t := by
  have hzero : s.registers.x addr + 0 = s.registers.x addr :=
    BitVec.add_zero _
  have hpermitted : Permitted config (s.registers.x addr) 4 :=
    permitted_of_isAligned haligned
  have hread := readUnit_ram hs hpermitted hram
  have hrun : lr config dest src addr s = .ok ()
      ((s.accessed (s.registers.x addr) 4 s.bus []).onRegisters fun registers =>
        (registers.setX dest (M.number s.bus (s.bigEndian level)
          (s.registers.x addr) 4)).incrementPc) := by
    apply loadOp_ok
    rw [hzero, haligned]
    exact hread
  exact ⟨_, hrun, ⟨rfl, rfl, rfl⟩, rfl,
    ⟨spells_spelled _ _, fun _ _ => rfl, rfl⟩, rfl⟩

theorem sc_ram (hs : Untranslated s level)
    (haligned : isAligned WORD (s.registers.x addr) = true)
    (hram : M.Ram s.bus (s.registers.x addr) 4) (old : BitVec 32) :
    ∃ t, sc config dest src addr s = .ok () t ∧
      Amo M .sc dest src addr (s.bigEndian level) old s t := by
  have hzero : s.registers.x addr + 0 = s.registers.x addr :=
    BitVec.add_zero _
  -- The destination is cleared first; the operand was read before that.
  have hcleared : Untranslated (s.onRegisters (Registers.setX dest 0)) level :=
    hs.sameMode (sameMode_onRegisters _ s)
  obtain ⟨bus, hwrite, hstores⟩ := @writeUnit_ram β _ M config
    (s.registers.x addr) 4 level (s.onRegisters (Registers.setX dest 0)) _
    hcleared (permitted_of_isAligned haligned) hram (s.registers.x src)
  have hrun : sc config dest src addr s = .ok ()
      (((s.onRegisters (Registers.setX dest 0)).accessed (s.registers.x addr) 4
        bus []).onRegisters Registers.incrementPc) := by
    apply storeOp_ok
    rw [hzero, haligned]
    exact hwrite
  exact ⟨_, hrun, ⟨rfl, rfl, rfl⟩, rfl,
    ⟨hstores.bytes, hstores.others, hstores.ram⟩, rfl⟩

theorem amoOpWith_ram {op : AmoOp} (hop : op.Modifies)
    (hs : Untranslated s level)
    (haligned : isAligned WORD (s.registers.x addr) = true)
    (hram : M.Ram s.bus (s.registers.x addr) 4) :
    ∃ t, amoOpWith config op.apply dest src addr s = .ok () t ∧
      Amo M op dest src addr (s.bigEndian level)
        (M.number s.bus (s.bigEndian level) (s.registers.x addr) 4) s t := by
  have hpermitted : Permitted config (s.registers.x addr) 4 :=
    permitted_of_isAligned haligned
  have hread := readUnit_ram hs hpermitted hram
  -- The write finds the memory as the read found it.
  have hread' : Untranslated
      (s.accessed (s.registers.x addr) 4 s.bus []) level :=
    hs.sameMode (sameMode_accessed _ _ _ s)
  obtain ⟨bus, hwrite, hstores⟩ := @writeUnit_ram β _ M config
    (s.registers.x addr) 4 level (s.accessed (s.registers.x addr) 4 s.bus [])
    _ hread' hpermitted hram
    (op.apply (M.number s.bus (s.bigEndian level) (s.registers.x addr) 4)
      (s.registers.x src))
  have hrun : amoOpWith config op.apply dest src addr s = .ok ()
      (((s.accessed (s.registers.x addr) 4 s.bus []).accessed
        (s.registers.x addr) 4 bus []).onRegisters fun registers =>
          (registers.setX dest (M.number s.bus (s.bigEndian level)
            (s.registers.x addr) 4)).incrementPc) := by
    unfold amoOpWith
    rw [get_bind, haligned]
    exact (bind_ok (mapError_ok_iff.2 hread)).trans
      (bind_ok (mapError_ok_iff.2 hwrite))
  refine ⟨_, hrun, ⟨rfl, rfl, rfl⟩, ?_,
    ⟨hstores.bytes, hstores.others, hstores.ram⟩, ?_⟩
  · unfold AmoOp.result
    rw [if_neg hop.2]
    rfl
  · unfold AmoOp.accesses
    rw [if_pos hop]
    rfl

/-- Every atomic operation does what its name says, to the word that memory
holds at the address. -/
theorem amo_ram (hs : Untranslated s level) (op : AmoOp) (aq rl : Bool)
    (haligned : isAligned WORD (s.registers.x addr) = true)
    (hram : M.Ram s.bus (s.registers.x addr) 4) :
    ∃ t, executeInstruction config (.amo op aq rl src addr dest) s =
        .ok () t ∧
      Amo M op dest src addr (s.bigEndian level)
        (M.number s.bus (s.bigEndian level) (s.registers.x addr) 4) s t := by
  show ∃ t, executeAmo config op dest src addr s = _ ∧ _
  by_cases hop : op.Modifies
  · rw [executeAmo_modifies hop]
    exact amoOpWith_ram hop hs haligned hram
  · cases op with
    | lr => exact lr_ram hs haligned hram
    | sc => exact sc_ram hs haligned hram _
    | _ => exact absurd (by decide) hop

end Instructions

end RedPlanet.Core
