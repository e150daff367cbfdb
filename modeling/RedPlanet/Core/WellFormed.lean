import RedPlanet.Core.Run

/-!
# The invariants of the architectural registers

`WellFormed` says what the masks, alignments and WARL fields of the registers
are for.  Each register file has its own invariant, with one lemma per way in
which the source writes it.

`steps_wellFormed` puts them together over a step of the core, with the rules
of `Core.Rules` for the discipline of preserving the invariant, and
`wellFormed_of_reachable` over a run: whatever the core was made to do by its
program and its devices, the registers of a core in between are well-formed.
-/

namespace RedPlanet.Core

open RedPlanet.Verified Discipline

variable {β ε : Type}

/-! ## Alignment -/

/-- The address of a word has its low two bits clear. -/
theorem mod_four_iff {x : BitVec 32} :
    x.toNat % 4 = 0 ↔ x.getLsbD 0 = false ∧ x.getLsbD 1 = false := by
  have h0 : x.getLsbD 0 = decide (x.toNat % 2 = 1) := by
    rw [← BitVec.testBit_toNat, Nat.testBit_zero]
  have h1 : x.getLsbD 1 = decide (x.toNat / 2 % 2 = 1) := by
    rw [← BitVec.testBit_toNat, Nat.testBit_succ, Nat.testBit_zero]
  rw [h0, h1, decide_eq_false_iff_not, decide_eq_false_iff_not]
  omega

/-- The assertions of the source test the same with a mask. -/
theorem and_three_iff {x : BitVec 32} : x &&& 0b11 = 0 ↔ x.toNat % 4 = 0 := by
  rw [← isAligned_WORD]
  unfold isAligned
  rw [decide_eq_true_eq]
  rfl

/-- A masked write of a saved program counter keeps it aligned. -/
theorem mod_four_write {old : BitVec 32} (value mask : BitVec 32)
    (h : old.toNat % 4 = 0) :
    (old &&& ~~~mask ||| value &&& mask &&& ~~~0b11#32).toNat % 4 = 0 := by
  have hclear : (~~~0b11#32).getLsbD 0 = false ∧
      (~~~0b11#32).getLsbD 1 = false := by decide
  rw [mod_four_iff] at h ⊢
  constructor
  · rw [BitVec.getLsbD_or, BitVec.getLsbD_and, BitVec.getLsbD_and, h.1,
      hclear.1, Bool.and_false]
    rfl
  · rw [BitVec.getLsbD_or, BitVec.getLsbD_and, BitVec.getLsbD_and, h.2,
      hclear.2, Bool.and_false]
    rfl

/-- Handlers are words apart, so that they are all at addresses of words. -/
theorem mod_four_vectorTarget {base : BitVec 32} (mode : VectorMode)
    (cause : Cause) (h : base.toNat % 4 = 0) :
    (vectorTarget base mode cause).toNat % 4 = 0 := by
  have hoffset : vectorOffset mode cause % 4 = 0 := by
    unfold vectorOffset
    split
    · exact Nat.mul_mod_right 4 _
    · rfl
  unfold vectorTarget
  rw [BitVec.toNat_add, BitVec.toNat_ofNat]
  omega

/-! ## General purpose registers -/

namespace Registers

/-- x0 is zero and the pc is aligned. -/
structure WellFormed (registers : Registers) : Prop where
  x0 : registers.x 0 = 0
  pc : registers.pc.toNat % 4 = 0

variable {registers : Registers}

theorem wellFormed_new {initialPc : BitVec 32}
    (h : initialPc.toNat % 4 = 0) : (new initialPc).WellFormed where
  x0 := rfl
  pc := h

/-- The pc may be set to the address of a word. -/
theorem wellFormed_setPc (h : registers.WellFormed) {pc : BitVec 32}
    (hpc : pc.toNat % 4 = 0) : (registers.setPc pc).WellFormed where
  x0 := h.x0
  pc := hpc

/-- The next instruction is a word further. -/
theorem wellFormed_incrementPc (h : registers.WellFormed) :
    registers.incrementPc.WellFormed := by
  apply wellFormed_setPc h
  have hpc := h.pc
  rw [BitVec.toNat_add]
  show (registers.pc.toNat + 4) % 4294967296 % 4 = 0
  omega

/-- A write of `x0` is dropped. -/
theorem wellFormed_setX (h : registers.WellFormed) (dest : Specifier)
    (value : BitVec 32) : (registers.setX dest value).WellFormed := by
  unfold setX
  by_cases hdest : dest = 0
  · rw [if_pos hdest]
    exact h
  · rw [if_neg hdest]
    have hx0 : (0 : Specifier) ≠ dest := Ne.symm hdest
    exact { x0 := (if_neg hx0).trans h.x0, pc := h.pc }

end Registers

/-! ## Status -/

namespace Status

/-- SD says whether one of the extension contexts is dirty. -/
def SdExact (status : Status) : Prop :=
  status.bit idx.SD
    = (status.fs == dirty || status.vs == dirty || status.xs == dirty)

/-- The bits of SD and of the three fields that it sums up. -/
def contextBits : List Nat :=
  [idx.VS, idx.VS + 1, idx.FS, idx.FS + 1, idx.XS, idx.XS + 1, idx.SD]

/-- A setter that touches no context field nor SD. -/
theorem SdExact.of_touches {bits : List Nat} {set : Status → Status}
    {status : Status} (h : SdExact status) (hset : Touches bits set)
    (hout : ∀ i ∈ contextBits, i ∉ bits) : SdExact (set status) := by
  have hbit : ∀ i ∈ contextBits, (set status).bit i = status.bit i :=
    fun i hi => bit_of_touches hset (hout i hi) status
  have hfs : (set status).fs = status.fs :=
    loadU2_congr (hbit idx.FS (by decide)) (hbit (idx.FS + 1) (by decide))
  have hvs : (set status).vs = status.vs :=
    loadU2_congr (hbit idx.VS (by decide)) (hbit (idx.VS + 1) (by decide))
  have hxs : (set status).xs = status.xs :=
    loadU2_congr (hbit idx.XS (by decide)) (hbit (idx.XS + 1) (by decide))
  unfold SdExact
  rw [hbit idx.SD (by decide), hfs, hvs, hxs]
  exact h

/-- `update_sd` makes SD exact, because SD is none of the bits it looks at. -/
theorem sdExact_updateSd (status : Status) : SdExact (updateSd status) := by
  have hsd : (updateSd status).bit idx.SD
      = (status.fs == dirty || status.vs == dirty || status.xs == dirty) :=
    getLsbD_setBit_self status.mstatus _ (by decide)
  have hfs : (updateSd status).fs = status.fs :=
    loadU2_setBit_ne status.mstatus _ (by decide) (by decide)
  have hvs : (updateSd status).vs = status.vs :=
    loadU2_setBit_ne status.mstatus _ (by decide) (by decide)
  have hxs : (updateSd status).xs = status.xs :=
    loadU2_setBit_ne status.mstatus _ (by decide) (by decide)
  unfold SdExact
  rw [hsd, hfs, hvs, hxs]

/-- Every setter of a context field updates SD. -/
theorem sdExact_writeMstatus {value mask : BitVec 32} {status : Status}
    (h : SdExact status) : SdExact (writeMstatus value mask status) := by
  apply writeMstatus_rule SdExact
  · intro i hi s hs
    have hout : ∀ j ∈ contextBits, j ∉ [i] := by
      revert i
      decide
    exact hs.of_touches (Touches.setField i _) hout
  · intro level s hs
    exact hs.of_touches (touches_setSpp level) (by decide)
  · intro v s _
    exact sdExact_updateSd _
  · intro s hs
    exact hs.of_touches (touches_setMpp _) (by decide)
  · intro v s _
    exact sdExact_updateSd _
  · exact h

/-- MPP is legal and SD exact. -/
structure WellFormed (status : Status) : Prop where
  mpp : status.Legal
  sd : status.SdExact

variable {status : Status}

theorem wellFormed_new : new.WellFormed where
  mpp := legal_new
  sd := by
    unfold SdExact
    decide

/-- A setter that touches neither MPP nor the contexts. -/
theorem WellFormed.of_touches (h : status.WellFormed) {bits : List Nat}
    {set : Status → Status} (hset : Touches bits set)
    (hout : ∀ i ∈ idx.MPP :: (idx.MPP + 1) :: contextBits, i ∉ bits) :
    (set status).WellFormed where
  mpp := h.mpp.of_touches hset (hout idx.MPP (by decide))
    (hout (idx.MPP + 1) (by decide))
  sd := h.sd.of_touches hset fun i hi => hout i (by simp [hi])

/-- MPP takes no reserved level. -/
theorem wellFormed_setMpp (h : status.WellFormed)
    (value : RawPrivilegeLevel) : (setMpp value status).WellFormed where
  mpp := legal_setMpp value h.mpp
  sd := h.sd.of_touches (touches_setMpp value) (by decide)

/-- A write of mstatus, field by field. -/
theorem wellFormed_writeMstatus (h : status.WellFormed)
    (value mask : BitVec 32) : (writeMstatus value mask status).WellFormed where
  mpp := legal_writeMstatus h.mpp
  sd := sdExact_writeMstatus h.sd

/-- A write of the other word. -/
theorem wellFormed_writeMstatush (h : status.WellFormed)
    (value mask : BitVec 32) :
    (writeMstatush value mask status).WellFormed := by
  unfold writeMstatush
  apply update_rule (P := WellFormed)
  · intro s hs
    exact ⟨hs.mpp, hs.sd⟩
  · apply update_rule (P := WellFormed)
    · intro s hs
      exact ⟨hs.mpp, hs.sd⟩
    · exact h

end Status

/-- A trap writes the stack of its target. -/
theorem wellFormed_trapStatus (toSMode : Bool) (mode : PrivilegeLevel)
    {status : Status} (h : status.WellFormed) :
    (trapStatus toSMode mode status).WellFormed := by
  cases toSMode with
  | true => exact h.of_touches (touches_trapStatus true mode) (by decide)
  | false =>
      have hmpie := h.of_touches
        (Status.Touches.setField idx.MPIE status.mie) (by decide)
      have hmie := hmpie.of_touches (Status.Touches.setField idx.MIE false)
        (by decide)
      exact Status.wellFormed_setMpp hmie _

/-- A return may clear MPRV besides. -/
theorem wellFormed_leaveStatus (pp : PrivilegeLevel) {f : Status → Status}
    {status : Status} (h : (f status).WellFormed) :
    (leaveStatus pp f status).WellFormed := by
  unfold leaveStatus
  by_cases hpp : pp ≠ .machine
  · rw [if_pos hpp]
    exact h.of_touches (Status.Touches.setField idx.MPRV false) (by decide)
  · rw [if_neg hpp]
    exact h

/-- `sret` pops the stack of S-mode. -/
theorem wellFormed_sretStatus {status : Status} (h : status.WellFormed) :
    (sretStatus status).WellFormed :=
  h.of_touches touches_sretStatus (by decide)

/-- `mret` pops the stack of M-mode. -/
theorem wellFormed_mretStatus {status : Status} (h : status.WellFormed) :
    (mretStatus status).WellFormed := by
  have hmie := h.of_touches (Status.Touches.setField idx.MIE status.mpie)
    (by decide)
  have hmpie := hmie.of_touches (Status.Touches.setField idx.MPIE true)
    (by decide)
  exact Status.wellFormed_setMpp hmpie _

/-! ## Interrupts -/

namespace Interrupts

/-- mideleg, mie and mip have only the bits that exist, and SEIP is the
disjunction of its two sources. -/
structure WellFormed (interrupts : Interrupts) : Prop where
  mideleg : Within interrupts.delegate DELEGATABLE_INTERRUPTS_MASK
  mie : Within interrupts.mie VALID_INTERRUPTS_MASK
  mip : Within interrupts.mip VALID_INTERRUPTS_MASK
  seip : interrupts.mip.getLsbD Interrupt.supervisorExternalInterrupt.toNat
    = (interrupts.seipExternal || interrupts.seipInternal)

variable {interrupts : Interrupts}

theorem wellFormed_new : new.WellFormed where
  mideleg := Within.zero _
  mie := Within.zero _
  mip := Within.zero _
  seip := rfl

/-- Every interrupt has a bit among the valid ones. -/
theorem valid_toNat (interrupt : Interrupt) :
    VALID_INTERRUPTS_MASK.getLsbD interrupt.toNat = true := by
  cases interrupt <;> decide

/-- A bit of mip other than SEIP, which is not only a bit. -/
theorem wellFormed_setMip (h : interrupts.WellFormed) {interrupt : Interrupt}
    (hne : interrupt ≠ .supervisorExternalInterrupt) (value : Bool) :
    (setMip interrupt value interrupts).WellFormed where
  mideleg := h.mideleg
  mie := h.mie
  mip := h.mip.setBit (valid_toNat interrupt) value
  seip := by
    have hbit : Interrupt.supervisorExternalInterrupt.toNat
        ≠ interrupt.toNat := by
      revert hne
      cases interrupt <;> decide
    exact (getLsbD_setBit_ne interrupts.mip value hbit).trans h.seip

theorem wellFormed_setMip_if (h : interrupts.WellFormed)
    {interrupt : Interrupt} (hne : interrupt ≠ .supervisorExternalInterrupt)
    (enabled value : Bool) :
    (if enabled then setMip interrupt value interrupts
      else interrupts).WellFormed := by
  cases enabled with
  | true => exact wellFormed_setMip h hne value
  | false => exact h

/-- SEIP goes with its two flags. -/
theorem wellFormed_setSExternal (h : interrupts.WellFormed) (value : Bool) :
    (setSExternal value interrupts).WellFormed where
  mideleg := h.mideleg
  mie := h.mie
  mip := h.mip.setBit (valid_toNat _) _
  seip := getLsbD_setBit_self interrupts.mip _ (by decide)

/-- A device may call at any time, for any interrupt. -/
theorem wellFormed_deliver (h : interrupts.WellFormed) (call : IrqCall) :
    (deliver interrupts call).WellFormed := by
  cases call with
  | raise code =>
      cases code with
      | supervisorTimerInterrupt => exact h
      | supervisorExternalInterrupt => exact wellFormed_setSExternal h true
      | _ => exact wellFormed_setMip h (by decide) true
  | lower code =>
      cases code with
      | supervisorExternalInterrupt => exact wellFormed_setSExternal h false
      | machineTimerInterrupt => exact wellFormed_setMip h (by decide) false
      | machineExternalInterrupt => exact wellFormed_setMip h (by decide) false
      | _ => exact h

/-- So may several, by induction on their calls. -/
theorem wellFormed_deliverAll (h : interrupts.WellFormed)
    (calls : List IrqCall) : (deliverAll calls interrupts).WellFormed := by
  induction calls generalizing interrupts with
  | nil => exact h
  | cons call rest ih => exact ih (wellFormed_deliver h call)

/-- Only what can be delegated is. -/
theorem wellFormed_writeMideleg (h : interrupts.WellFormed)
    (value mask : BitVec 32) :
    (writeMideleg value mask interrupts).WellFormed where
  mideleg := h.mideleg.merge _ (Within.and_right _ _)
  mie := h.mie
  mip := h.mip
  seip := h.seip

/-- Only valid interrupts are enabled. -/
theorem wellFormed_writeMie (h : interrupts.WellFormed)
    (value mask : BitVec 32) :
    (writeMie value mask interrupts).WellFormed where
  mideleg := h.mideleg
  mie := h.mie.merge _ (Within.and_right _ _)
  mip := h.mip
  seip := h.seip

/-- A delegated interrupt is one of the valid ones. -/
theorem delegatable_within_valid :
    Within DELEGATABLE_INTERRUPTS_MASK VALID_INTERRUPTS_MASK := by
  have hall : ∀ i < 16, DELEGATABLE_INTERRUPTS_MASK.getLsbD i = true →
      VALID_INTERRUPTS_MASK.getLsbD i = true := by decide
  intro i hi
  exact hall i (BitVec.lt_of_getLsbD hi) hi

theorem wellFormed_writeSie (h : interrupts.WellFormed)
    (value mask : BitVec 32) :
    (writeSie value mask interrupts).WellFormed where
  mideleg := h.mideleg
  mie := h.mie.merge _ ((Within.and_right _ _).trans
    (h.mideleg.trans delegatable_within_valid))
  mip := h.mip
  seip := h.seip

/-- A write of sip reaches SSIP and nothing else. -/
theorem wellFormed_writeSip (h : interrupts.WellFormed)
    (value mask : BitVec 32) :
    (writeSip value mask interrupts).WellFormed :=
  wellFormed_setMip_if h (by decide) _ _

/-- The write of SEIP: the bit is what the external line or the guest
asserts. -/
theorem wellFormed_writeSeip (h : interrupts.WellFormed)
    (enabled value : Bool) :
    (if enabled then
      setMip .supervisorExternalInterrupt (interrupts.seipExternal || value)
        { interrupts with seipInternal := value }
      else interrupts).WellFormed := by
  cases enabled with
  | true =>
      exact
        { mideleg := h.mideleg
          mie := h.mie
          mip := h.mip.setBit (valid_toNat _) _
          seip := getLsbD_setBit_self interrupts.mip _ (by decide) }
  | false => exact h

/-- SEIP goes with its two flags here as well. -/
theorem wellFormed_writeMip (h : interrupts.WellFormed)
    (value mask : BitVec 32) :
    (writeMip value mask interrupts).WellFormed := by
  have hseip := wellFormed_writeSeip h
    (mask.getLsbD Interrupt.supervisorExternalInterrupt.toNat)
    (value.getLsbD Interrupt.supervisorExternalInterrupt.toNat)
  have hstip := wellFormed_setMip_if hseip
    (show Interrupt.supervisorTimerInterrupt ≠ _ by decide)
    (mask.getLsbD Interrupt.supervisorTimerInterrupt.toNat)
    (value.getLsbD Interrupt.supervisorTimerInterrupt.toNat)
  exact wellFormed_setMip_if hstip (by decide) _ _

end Interrupts

/-! ## Trap registers -/

namespace Trap

/-- The saved program counters and the vectors are aligned, medeleg has only
bits of delegatable exceptions, and the fields of satp fit. -/
structure WellFormed (trap : Trap) : Prop where
  mepc : trap.mepc.toNat % 4 = 0
  sepc : trap.sepc.toNat % 4 = 0
  mtvec : trap.mVectorBaseAddress.toNat % 4 = 0
  stvec : trap.sVectorBaseAddress.toNat % 4 = 0
  medeleg : Within trap.delegateException DELEGATABLE_EXCEPTIONS_MASK
  satpAsid : trap.satpAsid.toNat < 2 ^ 9
  satpPpn : trap.satpPpn.toNat < 2 ^ 22

variable {trap : Trap}

theorem wellFormed_new : new.WellFormed where
  mepc := rfl
  sepc := rfl
  mtvec := rfl
  stvec := rfl
  medeleg := Within.zero _
  satpAsid := by decide
  satpPpn := by decide

/-- The assertions of the accessors hold. -/
theorem WellFormed.aligned (h : trap.WellFormed) : trap.Aligned where
  m := and_three_iff.2 h.mtvec
  s := and_three_iff.2 h.stvec

/-- The mask of the base clears its low bits. -/
theorem wellFormed_writeMtvec (h : trap.WellFormed) {value mask : BitVec 32}
    {trap' : Trap} (hwrite : writeMtvec value mask trap = some trap') :
    trap'.WellFormed := by
  obtain ⟨tvec, htvec, haligned⟩ :=
    writeTvec_aligned trap.mVectorMode value mask (and_three_iff.2 h.mtvec)
  unfold writeMtvec at hwrite
  rw [htvec] at hwrite
  rw [← Option.some.inj hwrite]
  exact { h with mtvec := and_three_iff.1 haligned }

theorem wellFormed_writeStvec (h : trap.WellFormed) {value mask : BitVec 32}
    {trap' : Trap} (hwrite : writeStvec value mask trap = some trap') :
    trap'.WellFormed := by
  obtain ⟨tvec, htvec, haligned⟩ :=
    writeTvec_aligned trap.sVectorMode value mask (and_three_iff.2 h.stvec)
  unfold writeStvec at hwrite
  rw [htvec] at hwrite
  rw [← Option.some.inj hwrite]
  exact { h with stvec := and_three_iff.1 haligned }

/-- Only what can be delegated is. -/
theorem wellFormed_writeMedeleg (h : trap.WellFormed)
    (value mask : BitVec 32) : (writeMedeleg value mask trap).WellFormed :=
  { h with
    medeleg := by
      intro i hi
      have hold := h.medeleg i
      unfold writeMedeleg at hi
      rw [BitVec.getLsbD_or, BitVec.getLsbD_and, BitVec.getLsbD_and,
        Bool.or_eq_true, Bool.and_eq_true, Bool.and_eq_true] at hi
      cases hi with
      | inl hkept => exact hold hkept.1
      | inr hset => exact hset.2 }

/-- A field of `n` bits is less than `2 ^ n`. -/
theorem toNat_field_lt {n m : Nat} (h : n ≤ m) (x : BitVec 32) (i : Nat) :
    ((x.extractLsb' i n).setWidth m).toNat < 2 ^ n := by
  rw [BitVec.toNat_setWidth_of_le h]
  exact (x.extractLsb' i n).isLt

/-- The fields of satp have their widths. -/
theorem wellFormed_writeSatp (h : trap.WellFormed) (value mask : BitVec 32) :
    (writeSatp value mask trap).WellFormed :=
  { h with
    satpAsid := toNat_field_lt (by decide) _ _
    satpPpn := toNat_field_lt (by decide) _ _ }

/-- The pc that a trap saves is the address of a word. -/
theorem wellFormed_recordTrap (h : trap.WellFormed) (toSMode : Bool)
    (cause : Cause) {pc : BitVec 32} (hpc : pc.toNat % 4 = 0) :
    (recordTrap toSMode cause pc trap).WellFormed := by
  unfold recordTrap
  cases toSMode with
  | true => exact { h with sepc := hpc }
  | false => exact { h with mepc := hpc }

end Trap

/-! ## The whole core -/

/-- All register files are well-formed. -/
structure State.WellFormed (s : State β) : Prop where
  registers : s.registers.WellFormed
  status : s.status.WellFormed
  trap : s.trap.WellFormed
  interrupts : s.interrupts.WellFormed

theorem wellFormed_new {config : Config}
    (h : config.resetVector.toNat % 4 = 0) (bus : β) :
    (State.new config bus).WellFormed where
  registers := Registers.wellFormed_new h
  status := Status.wellFormed_new
  trap := Trap.wellFormed_new
  interrupts := Interrupts.wellFormed_new

/-! ## Traps -/

/-- The state in which a trap computes the address of the handler. -/
theorem wellFormed_trapRecorded {s : State β} (cause : Cause)
    (h : s.WellFormed) : (trapRecorded s cause).WellFormed := by
  obtain ⟨events, hevents⟩ := trapRecorded_eq s cause
  have htrap := Trap.wellFormed_recordTrap h.trap (trapToSMode s cause) cause
    h.registers.pc
  rw [hevents]
  exact
    { registers := h.registers
      status := h.status
      trap := htrap
      interrupts := h.interrupts }

/-- The vectors are addresses of words. -/
theorem wellFormed_trapVector {s : State β} (cause : Cause)
    (h : s.trap.WellFormed) : (trapVector s cause).1.toNat % 4 = 0 := by
  unfold trapVector
  cases trapToSMode s cause with
  | true => exact h.stvec
  | false => exact h.mtvec

/-- The handler starts at the address of a word. -/
theorem wellFormed_trapEntry {s : State β} (cause : Cause)
    (h : s.WellFormed) : (trapEntry s cause).WellFormed := by
  have hrecorded := wellFormed_trapRecorded cause h
  have hvector := wellFormed_trapVector cause h.trap
  have hstatus : (trapRecorded s cause).status = s.status := by
    obtain ⟨events, hevents⟩ := trapRecorded_eq s cause
    rw [hevents]
    rfl
  unfold trapEntry
  exact
    { registers := Registers.wellFormed_setPc hrecorded.registers
        (mod_four_vectorTarget _ cause hvector)
      status := wellFormed_trapStatus _ _ (hstatus ▸ h.status)
      trap := hrecorded.trap
      interrupts := hrecorded.interrupts }

/-- A return goes to the pc that was saved. -/
theorem wellFormed_returnTo (pp : PrivilegeLevel) {status : Status → Status}
    {epc : Trap → BitVec 32} {s : State β} (h : s.WellFormed)
    (hstatus : (status s.status).WellFormed)
    (hepc : (epc s.trap).toNat % 4 = 0) :
    ((returnTo pp status epc : CoreM β ε Unit) s).state.WellFormed where
  registers := Registers.wellFormed_setPc h.registers hepc
  status := wellFormed_leaveStatus pp hstatus
  trap := h.trap
  interrupts := h.interrupts

/-- To that of S-mode. -/
theorem wellFormed_sret {s : State β} (h : s.WellFormed) :
    ((sret : CoreM β _ _) s).state.WellFormed := by
  cases sret_cases s with
  | inl hthrow =>
      rw [hthrow]
      exact h
  | inr hreturn =>
      rw [hreturn.2]
      exact wellFormed_returnTo _ h (wellFormed_sretStatus h.status) h.trap.sepc

/-- To that of M-mode. -/
theorem wellFormed_mret {s : State β} (h : s.WellFormed) :
    ((mret : CoreM β _ _) s).state.WellFormed := by
  cases mret_cases s with
  | inl hthrow =>
      rw [hthrow]
      exact h
  | inr hreturn =>
      rw [hreturn.2]
      cases s.status.mpp with
      | none => exact h
      | some pp =>
          exact wellFormed_returnTo pp h (wellFormed_mretStatus h.status)
            h.trap.mepc

/-! ## CSR writes -/

/-- For a write of the trap registers it is enough to look at these. -/
theorem preserves_onTrap {f : Trap → Trap}
    (h : ∀ trap : Trap, trap.WellFormed → (f trap).WellFormed) :
    (preserving State.WellFormed).Tame
      (Exec.modify (State.onTrap f) : CoreM β ε Unit) := by
  apply tame_preserving
  intro s hs
  exact { hs with trap := h s.trap hs.trap }

theorem preserves_onStatus {f : Status → Status}
    (h : ∀ status : Status, status.WellFormed → (f status).WellFormed) :
    (preserving State.WellFormed).Tame
      (Exec.modify (State.onStatus f) : CoreM β ε Unit) := by
  apply tame_preserving
  intro s hs
  exact { hs with status := h s.status hs.status }

theorem preserves_onInterrupts {f : Interrupts → Interrupts}
    (h : ∀ interrupts : Interrupts,
      interrupts.WellFormed → (f interrupts).WellFormed) :
    (preserving State.WellFormed).Tame
      (Exec.modify (State.onInterrupts f) : CoreM β ε Unit) := by
  apply tame_preserving
  intro s hs
  exact { hs with interrupts := h s.interrupts hs.interrupts }

/-- A write of a vector that goes through. -/
theorem preserves_putTvec {write : Trap → Option Trap}
    (h : ∀ {trap trap' : Trap}, trap.WellFormed → write trap = some trap' →
      trap'.WellFormed) :
    (preserving State.WellFormed).Tame (putTvec write : CoreM β ε Unit) := by
  apply tame_preserving
  intro s hs
  unfold putTvec
  rw [Exec.get_bind]
  cases hwrite : write s.trap with
  | none => exact hs
  | some trap => exact { hs with trap := h hs.trap hwrite }

/-- A write of satp that is allowed. -/
theorem preserves_writeSatp (value mask : BitVec 32) :
    (preserving State.WellFormed).Tame
      (writeSatp value mask : CoreM β _ _) := by
  unfold writeSatp
  apply Tame.bind Tame.get
  intro s
  apply Tame.ite
  · intro _
    exact Tame.throw _
  · intro _
    exact preserves_onTrap fun _ h => Trap.wellFormed_writeSatp h value mask

/-- The performance counters are not even stored. -/
theorem preserves_writeMhpm (n : Nat) :
    (preserving State.WellFormed).Tame (writeMhpm n : CoreM β ε Unit) := by
  apply tame_preserving
  intro s hs
  unfold writeMhpm assertNumber
  cases decide (3 ≤ n ∧ n ≤ 31) with
  | true => exact hs
  | false => exact hs

/-- Every arm of the dispatch keeps the invariants. -/
theorem preserves_writeCsrOf [SystemBus β] {csr : Csr}
    (specifier : CsrSpecifier) (value mask : BitVec 32) :
    (preserving State.WellFormed).Tame
      (writeCsrOf specifier value mask csr : CoreM β _ _) := by
  cases csr with
  | sstatus =>
      exact preserves_onStatus fun _ h => Status.wellFormed_writeMstatus h _ _
  | mstatus =>
      exact preserves_onStatus fun _ h => Status.wellFormed_writeMstatus h _ _
  | mstatush =>
      exact preserves_onStatus fun _ h => Status.wellFormed_writeMstatush h _ _
  | mideleg =>
      exact preserves_onInterrupts fun _ h =>
        Interrupts.wellFormed_writeMideleg h _ _
  | mie =>
      exact preserves_onInterrupts fun _ h =>
        Interrupts.wellFormed_writeMie h _ _
  | mip =>
      exact preserves_onInterrupts fun _ h =>
        Interrupts.wellFormed_writeMip h _ _
  | sie =>
      exact preserves_onInterrupts fun _ h =>
        Interrupts.wellFormed_writeSie h _ _
  | sip =>
      exact preserves_onInterrupts fun _ h =>
        Interrupts.wellFormed_writeSip h _ _
  | mtvec =>
      exact preserves_putTvec fun h hwrite =>
        Trap.wellFormed_writeMtvec h hwrite
  | stvec =>
      exact preserves_putTvec fun h hwrite =>
        Trap.wellFormed_writeStvec h hwrite
  | mepc =>
      exact preserves_onTrap fun _ h =>
        { h with mepc := mod_four_write value mask h.mepc }
  | sepc =>
      exact preserves_onTrap fun _ h =>
        { h with sepc := mod_four_write value mask h.sepc }
  | medeleg =>
      exact preserves_onTrap fun _ h => Trap.wellFormed_writeMedeleg h _ _
  | satp => exact preserves_writeSatp value mask
  | mhpmcounter n => exact preserves_writeMhpm n
  | mhpmcounterh n => exact preserves_writeMhpm n
  | mhpmevent n => exact preserves_writeMhpm n
  | _ =>
      first
        | exact Tame.throw _
        | exact Tame.pure _
        | exact preserves_onTrap fun _ h => { h with }
        | exact tame_preserving fun _ hs =>
            ⟨hs.registers, hs.status, hs.trap, hs.interrupts⟩

/-! ## Steps and runs -/

/-- The bus is no register, and the callbacks of its devices are `deliver`. -/
theorem accesses_wellFormed [SystemBus β] :
    Accesses (preserving (State.WellFormed (β := β))) := by
  apply accesses_preserving
  · intro s event hs
    exact { hs with }
  · intro s address buf buf' bus calls _ hs
    exact { hs with
      interrupts := Interrupts.wellFormed_deliverAll hs.interrupts calls }
  · intro s address buf bus calls _ _ hs
    exact { hs with
      interrupts := Interrupts.wellFormed_deliverAll hs.interrupts calls }

theorem preserves_updateRegisters {f : Registers → Registers}
    (h : ∀ registers : Registers,
      registers.WellFormed → (f registers).WellFormed) :
    (preserving State.WellFormed).Tame
      (updateRegisters f : CoreM β ε Unit) := by
  apply tame_preserving
  intro s hs
  exact { hs with registers := h s.registers hs.registers }

/-- Instructions jump to aligned targets only. -/
theorem executes_wellFormed [SystemBus β] :
    Executes (preserving (State.WellFormed (β := β))) where
  toAccesses := accesses_wellFormed
  setX dest value := preserves_updateRegisters fun registers h =>
    Registers.wellFormed_setX h dest (value registers)
  incrementPc := preserves_updateRegisters fun _ h =>
    Registers.wellFormed_incrementPc h
  setPc _ hpc := preserves_updateRegisters fun _ h =>
    Registers.wellFormed_setPc h (isAligned_WORD.1 hpc)

section Runs

variable [SystemBus β] [Build]

/-- A step is an instruction, at most a trap, and the counters. -/
theorem steps_wellFormed : Steps (preserving (State.WellFormed (β := β))) where
  toAccesses := accesses_wellFormed
  execute config _ hshift := by
    apply executes_wellFormed.tame_instruction _ _ _ config hshift
    · intro csr specifier value mask _ _
      exact preserves_writeCsrOf specifier value mask
    · exact tame_preserving fun _ hs => wellFormed_sret hs
    · exact tame_preserving fun _ hs => wellFormed_mret hs
  trap cause := by
    apply tame_preserving
    intro s hs
    cases trap_cases cause s with
    | inl hok =>
        rw [hok.2]
        exact wellFormed_trapEntry cause hs
    | inr hpanic =>
        rw [hpanic.2]
        exact wellFormed_trapRecorded cause hs
  counters f := tame_preserving fun _ hs =>
    ⟨hs.registers, hs.status, hs.trap, hs.interrupts⟩

/-- Every reachable core is well-formed, so that the accessor of MPP and the
assertion in `read_tvec` cannot fail. -/
theorem wellFormed_of_reachable {config : Config}
    (hreset : config.resetVector.toNat % 4 = 0) {s : State β}
    (h : Reachable config s) :
    s.WellFormed ∧ s.status.mpp ≠ none ∧
      readTvec s.trap.mVectorBaseAddress s.trap.mVectorMode ≠ none ∧
      readTvec s.trap.sVectorBaseAddress s.trap.sVectorMode ≠ none := by
  have hwell : s.WellFormed := by
    induction h with
    | new bus => exact wellFormed_new hreset bus
    | @step s t _ hstep ih =>
        have hkeep := (steps_wellFormed.tame_step (ε := Empty) config).preserves
          ih
        rw [hstep] at hkeep
        exact hkeep
    | devices bus calls _ ih =>
        exact { ih with
          interrupts := Interrupts.wellFormed_deliverAll ih.interrupts calls }
  refine ⟨hwell, hwell.status.mpp, ?_, ?_⟩
  · rw [readTvec_isSome _ hwell.trap.aligned.m]
    simp
  · rw [readTvec_isSome _ hwell.trap.aligned.s]
    simp

end Runs

/-- A core after the trap for its first fetch. -/
theorem wellFormed_of_reachable_afterStep :
    NoDevices.afterStep.WellFormed ∧ NoDevices.afterStep.status.mpp ≠ none ∧
      readTvec NoDevices.afterStep.trap.mVectorBaseAddress
        NoDevices.afterStep.trap.mVectorMode ≠ none ∧
      readTvec NoDevices.afterStep.trap.sVectorBaseAddress
        NoDevices.afterStep.trap.sVectorMode ≠ none :=
  @wellFormed_of_reachable NoDevices _ Build.debug NoDevices.config (by decide)
    NoDevices.afterStep
    (@Reachable.step NoDevices _ Build.debug NoDevices.config _ _
      (@Reachable.new NoDevices _ Build.debug NoDevices.config .unit)
      (by rfl))

end RedPlanet.Core
