import RedPlanet.Core.Csr

/-!
# The supervisor views of machine registers

sstatus, sie and sip show part of mstatus, mie and mip.  A view is what it
claims to be when reading it gives its parent under a mask and writing it
changes no bit outside that mask (`Restricted`).

The mask of sip is mideleg, but `Core::write_sip` does not look at it, unlike
`Core::write_sie`.  `Leaks` is a write that makes use of this, and
`views_restricted_iff` says that the three views are restricted for every
write but these.
-/

namespace RedPlanet.Core

open RedPlanet.Verified

variable {β : Type} [SystemBus β]

/-- A register that shows `mask` of another one, `parent`. -/
structure SView (β : Type) where
  csr : Csr
  parent : State β → BitVec 32
  mask : State β → BitVec 32

namespace SView

/-- mstatus under a fixed mask. -/
def sstatus : SView β where
  csr := .sstatus
  parent s := s.status.mstatus
  mask _ := SSTATUS_MASK

/-- mie under mideleg. -/
def sie : SView β where
  csr := .sie
  parent s := s.interrupts.readMie
  mask s := s.interrupts.readMideleg

/-- mip under mideleg. -/
def sip : SView β where
  csr := .sip
  parent s := s.interrupts.readMip
  mask s := s.interrupts.readMideleg

/-- Reads return the parent register under the mask and nothing else happens,
and writes keep every bit of the parent that the mask excludes. -/
structure Restricted (view : SView β) (config : Config)
    (specifier : CsrSpecifier) (value mask : BitVec 32) (s : State β) :
    Prop where
  read : readCsrOf config specifier view.csr s
    = .ok (view.parent s &&& view.mask s) s
  write : ∃ t, writeCsrOf specifier value mask view.csr s = .ok () t ∧
    ∀ i < 32, (view.mask s).getLsbD i = false →
      (view.parent t).getLsbD i = (view.parent s).getLsbD i

variable (config : Config) (specifier : CsrSpecifier) (value mask : BitVec 32)
  (s : State β)

/-- What the mask of sstatus leaves out are the machine-level bits. -/
theorem mem_machineBits {i : Nat} (hi : i < 32)
    (h : SSTATUS_MASK.getLsbD i = false) : i ∈ Status.machineBits := by
  revert h
  revert i
  decide

/-- sstatus is restricted in every state. -/
theorem restricted_sstatus :
    (sstatus (β := β)).Restricted config specifier value mask s where
  read := rfl
  write := by
    refine ⟨_, rfl, ?_⟩
    intro i hi hmask
    exact Status.bit_writeSstatus (mem_machineBits hi hmask)

/-- The bits of a register of 16 bits, read as a word. -/
theorem getLsbD_zeroExtend {x : BitVec 16} {i : Nat} (hi : i < 32) :
    (x.setWidth 32).getLsbD i = x.getLsbD i := by
  rw [BitVec.getLsbD_setWidth, decide_eq_true hi, Bool.true_and]

/-- sie is restricted in every state. -/
theorem restricted_sie :
    (sie (β := β)).Restricted config specifier value mask s where
  read := by
    show Outcome.ok s.interrupts.readSie s = _
    congr 1
  write := by
    refine ⟨_, rfl, ?_⟩
    intro i hi hdelegate
    have hbit : s.interrupts.delegate.getLsbD i = false :=
      (getLsbD_zeroExtend hi).symm.trans hdelegate
    show ((s.interrupts.writeSie value mask).mie.setWidth 32).getLsbD i
      = (s.interrupts.mie.setWidth 32).getLsbD i
    rw [getLsbD_zeroExtend hi, getLsbD_zeroExtend hi]
    apply getLsbD_merge_of_unmasked
    rw [BitVec.getLsbD_and, hbit, Bool.and_false]

/-- A write of sip changes SSIP or nothing. -/
theorem getLsbD_mip_writeSip (interrupts : Interrupts) (i : Nat) :
    (interrupts.writeSip value mask).mip.getLsbD i
      = if mask.getLsbD 1 = true ∧ i = 1 then value.getLsbD 1
        else interrupts.mip.getLsbD i := by
  unfold Interrupts.writeSip
  dsimp only [Interrupt.toNat]
  by_cases hmask : mask.getLsbD 1 = true
  · rw [if_pos hmask]
    show (setBit interrupts.mip 1 (value.getLsbD 1)).getLsbD i = _
    rw [getLsbD_setBit]
    by_cases hi : i = 1
    · rw [if_pos ⟨hi, by omega⟩, if_pos ⟨hmask, hi⟩]
    · rw [if_neg fun h => hi h.1, if_neg fun h => hi h.2]
  · rw [if_neg hmask, if_neg fun h => hmask h.1]

/-- A write of sip that changes SSIP while it is not delegated. -/
def Leaks : Prop :=
  mask.getLsbD Interrupt.supervisorSoftwareInterrupt.toNat = true ∧
    s.interrupts.shouldDelegate .supervisorSoftwareInterrupt = false ∧
    value.getLsbD Interrupt.supervisorSoftwareInterrupt.toNat
      ≠ s.interrupts.mip.getLsbD Interrupt.supervisorSoftwareInterrupt.toNat

/-- sip is restricted to the delegated interrupts except for the writes that
reach SSIP past mideleg. -/
theorem restricted_sip_iff :
    (sip (β := β)).Restricted config specifier value mask s ↔
      ¬ Leaks value mask s := by
  constructor
  · rintro ⟨_, t, ht, hkeep⟩ ⟨hmask, hdelegate, hne⟩
    cases ht
    have hbit : ((s.interrupts.writeSip value mask).mip.setWidth 32).getLsbD 1
        = (s.interrupts.mip.setWidth 32).getLsbD 1 :=
      hkeep 1 (by omega) ((getLsbD_zeroExtend (by omega)).trans hdelegate)
    rw [getLsbD_zeroExtend (by omega), getLsbD_zeroExtend (by omega),
      getLsbD_mip_writeSip, if_pos ⟨hmask, rfl⟩] at hbit
    exact hne hbit
  · intro h
    refine ⟨?_, _, rfl, ?_⟩
    · show Outcome.ok s.interrupts.readSip s = _
      congr 1
    · intro i hi hdelegate
      have hoff : s.interrupts.delegate.getLsbD i = false :=
        (getLsbD_zeroExtend hi).symm.trans hdelegate
      show ((s.interrupts.writeSip value mask).mip.setWidth 32).getLsbD i
        = (s.interrupts.mip.setWidth 32).getLsbD i
      rw [getLsbD_zeroExtend hi, getLsbD_zeroExtend hi, getLsbD_mip_writeSip]
      by_cases hssip : mask.getLsbD 1 = true ∧ i = 1
      · rw [if_pos hssip]
        by_contra hne
        rw [hssip.2] at hoff hne
        exact h ⟨hssip.1, hoff, hne⟩
      · rw [if_neg hssip]

/-- The three views are restricted views of their registers iff the write of
sip does not reach SSIP past mideleg. -/
theorem views_restricted_iff :
    ((sstatus (β := β)).Restricted config specifier value mask s ∧
        (sie (β := β)).Restricted config specifier value mask s ∧
        (sip (β := β)).Restricted config specifier value mask s) ↔
      ¬ Leaks value mask s := by
  rw [← restricted_sip_iff config specifier]
  constructor
  · intro h
    exact h.2.2
  · intro h
    exact ⟨restricted_sstatus config specifier value mask s,
      restricted_sie config specifier value mask s, h⟩

/-- After reset nothing is delegated, and SSIP can be set through sip. -/
theorem not_restricted_after_reset :
    ¬ (sip (β := NoDevices)).Restricted NoDevices.config 0x144 2 2
      (State.new NoDevices.config NoDevices.unit) := by
  rw [restricted_sip_iff]
  unfold Leaks
  decide

end SView

end RedPlanet.Core
