import RedPlanet.Core.Aliases
import RedPlanet.Core.WellFormed

/-!
# Saving and restoring a CSR

Code that takes a CSR over reads it first and writes the value back when it is
done.  In every state that a core can reach the value is legal, so that no
field of the write is dropped, and the whole of what the CSRs show is as it was
before.  The one exception is sip: it shows SSIP as zero while SSIP is not
delegated, and the zero is written to mip all the same (`Hides`).

`Part` is a part of the state as the CSRs show it.  A write of a CSR changes
the parts it is about, for which there is a lemma each, and no others;
`writeBack_iff` says that all of the parts are as they were in every reachable
state and for every CSR, but for a write of sip in a state that hides SSIP.
-/

namespace RedPlanet.Core

open RedPlanet.Verified Discipline

variable {β ε : Type}

/-! ## Words -/

/-- A bit is set to what it is. -/
theorem setBit_same {w : ℕ} (x : BitVec w) (i : ℕ) :
    setBit x i (x.getLsbD i) = x := by
  apply BitVec.eq_of_getLsbD_eq
  intro j _
  rw [getLsbD_setBit]
  split
  case isTrue heq => rw [heq.1]
  · rfl

/-- A two-bit field is set to what it is. -/
theorem storeU2_same {w : ℕ} (x : BitVec w) (i : ℕ) :
    storeU2 x i (loadU2 x i) = x := by
  unfold storeU2
  rw [getLsbD_loadU2_zero, getLsbD_loadU2_one, setBit_same, setBit_same]

/-- The mask of a write that replaces a register. -/
theorem merge_full (old value : BitVec 32) :
    merge old value 0xFFFFFFFF = value := by
  apply BitVec.eq_of_getLsbD_eq
  intro i hi
  have hone : (0xFFFFFFFF : BitVec 32).getLsbD i = true := by
    revert i
    decide
  rw [getLsbD_merge, if_pos hone]

/-- A view of a register, written back under its own mask. -/
theorem merge_view {w : ℕ} (x view : BitVec w) :
    merge x (x &&& view) view = x := by
  apply BitVec.eq_of_getLsbD_eq
  intro i _
  rw [getLsbD_merge, BitVec.getLsbD_and]
  split
  case isTrue hview => rw [hview, Bool.and_true]
  · rfl

/-- A word whose low bits are clear does not notice that they are masked. -/
theorem and_within {w : ℕ} {x mask : BitVec w} (h : Within x mask) :
    x &&& mask = x := by
  apply BitVec.eq_of_getLsbD_eq
  intro i _
  rw [BitVec.getLsbD_and]
  cases hbit : x.getLsbD i with
  | true => rw [h i hbit]; rfl
  | false => rfl

/-- What is clear already can be cleared. -/
theorem and_not_of_clear {w : ℕ} {x mask : BitVec w} (h : x &&& mask = 0#w) :
    x &&& ~~~mask = x := by
  have hsplit : x &&& mask ||| x &&& ~~~mask = x := by
    rw [← BitVec.and_or_distrib_left, BitVec.or_not_self, BitVec.and_allOnes]
  rw [h, BitVec.zero_or] at hsplit
  exact hsplit

/-- A word written back as it is, except for bits that it does not have. -/
theorem writeBack_clear {x hidden : BitVec 32} (h : x &&& hidden = 0#32) :
    x &&& ~~~(0xFFFFFFFF : BitVec 32) ||| x &&& 0xFFFFFFFF &&& ~~~hidden
      = x := by
  have hnone : x &&& ~~~(0xFFFFFFFF : BitVec 32) = 0#32 := BitVec.and_zero
  have hall : x &&& (0xFFFFFFFF : BitVec 32) = x := BitVec.and_allOnes
  rw [hnone, hall, BitVec.zero_or]
  exact and_not_of_clear h

/-- A field of two bits. -/
theorem mem_pair {α : Type} {x a b : α} : x ∈ [a, b] ↔ x = a ∨ x = b := by
  rw [List.mem_cons, List.mem_singleton]

/-! ## The status register -/

namespace Status

/-- A guarded setter that changes nothing. -/
theorem update_same {set : Status → Status} {status : Status}
    (h : set status = status) (enabled : Bool) :
    update enabled set status = status := by
  cases enabled with
  | true => exact h
  | false => rfl

/-- A one-bit field of mstatus. -/
theorem setField_same (i : ℕ) (status : Status) :
    setField i (status.mstatus.getLsbD i) status = status := by
  unfold setField
  rw [setBit_same]

/-- SPP is one bit of mstatus. -/
theorem setSpp_same (status : Status) :
    setSpp (if status.mstatus.getLsbD idx.SPP then .supervisor else .user)
      status = status := by
  cases hspp : status.mstatus.getLsbD idx.SPP with
  | true =>
      have hsame := setField_same idx.SPP status
      rw [hspp] at hsame
      exact hsame
  | false =>
      have hsame := setField_same idx.SPP status
      rw [hspp] at hsame
      exact hsame

/-- SD is up to date already. -/
theorem updateSd_same {status : Status} (h : status.SdExact) :
    updateSd status = status := by
  unfold updateSd
  rw [← h]
  exact setField_same idx.SD status

/-- Setting VS updates SD, which is up to date already. -/
theorem setVs_same {status : Status} (h : status.SdExact) :
    setVs (loadU2 status.mstatus idx.VS) status = status := by
  unfold setVs
  rw [storeU2_same]
  exact updateSd_same h

theorem setFs_same {status : Status} (h : status.SdExact) :
    setFs (loadU2 status.mstatus idx.FS) status = status := by
  unfold setFs
  rw [storeU2_same]
  exact updateSd_same h

/-- MPP as it is read may be reserved, and then it is not written, which is as
good. -/
theorem setMpp_same (status : Status) :
    setMpp (RawPrivilegeLevel.fromU2 (loadU2 status.mstatus idx.MPP)) status
      = status := by
  cases setMpp_fromU2 (loadU2 status.mstatus idx.MPP) status with
  | inl hsame => exact hsame
  | inr hstore =>
      rw [hstore, storeU2_same]

/-- A write that merges to the old value changes no field. -/
theorem writeMstatus_same {value mask : BitVec 32} {status : Status}
    (h : status.WellFormed)
    (hmerge : merge status.mstatus value mask = status.mstatus) :
    writeMstatus value mask status = status := by
  have hvs := setVs_same h.sd
  have hfs := setFs_same h.sd
  have hmpp := setMpp_same status
  have hspp := setSpp_same status
  have hfield : ∀ i enabled,
      update enabled (setField i (status.mstatus.getLsbD i)) status = status :=
    fun i enabled => update_same (setField_same i status) enabled
  unfold writeMstatus
  dsimp only
  rw [hmerge]
  unfold setSie setMie setSpie setUbe setMpie setMprv setSum setMxr setTvm setTw
    setTsr
  rw [hfield, hfield, hfield, hfield, hfield, update_same hspp,
    update_same hvs, update_same hmpp, update_same hfs, hfield, hfield, hfield,
    hfield, hfield, hfield, hfield]

/-- A write of sstatus is one of mstatus under its mask. -/
theorem writeSstatus_same {status : Status} (h : status.WellFormed) :
    writeSstatus (status.mstatus &&& SSTATUS_MASK) 0xFFFFFFFF status
      = status := by
  have hmask : (0xFFFFFFFF : BitVec 32) &&& SSTATUS_MASK = SSTATUS_MASK :=
    BitVec.allOnes_and
  unfold writeSstatus
  rw [hmask]
  exact writeMstatus_same h (merge_view _ _)

/-- The two bits of mstatush. -/
theorem writeMstatush_same (status : Status) :
    writeMstatush status.mstatush 0xFFFFFFFF status = status := by
  unfold writeMstatush
  rw [update_same, update_same]
  · unfold setMbe
    rw [setBit_same]
  · unfold setSbe
    rw [update_same, setBit_same]
    unfold setMbe
    rw [setBit_same]

end Status

/-! ## The interrupt registers -/

namespace Interrupts

/-- A register of 16 bits is read as a word and written back. -/
theorem setWidth_setWidth_same (x : BitVec 16) :
    (x.setWidth 32).setWidth 16 = x := by
  rw [BitVec.setWidth_setWidth_of_le _ (by decide), BitVec.setWidth_eq]

/-- The bits of mie under any mask. -/
theorem writeMie_same (interrupts : Interrupts) (mask : BitVec 32) :
    writeMie interrupts.readMie mask interrupts = interrupts := by
  unfold writeMie readMie
  rw [setWidth_setWidth_same]
  dsimp only
  rw [(merge_eq_self_iff _ _ _).2 (by simp)]

/-- The bits of mideleg under any mask. -/
theorem writeMideleg_same (interrupts : Interrupts) (mask : BitVec 32) :
    writeMideleg interrupts.readMideleg mask interrupts = interrupts := by
  unfold writeMideleg readMideleg
  rw [setWidth_setWidth_same]
  dsimp only
  rw [(merge_eq_self_iff _ _ _).2 (by simp)]

/-- The bits of mie that are delegated. -/
theorem writeSie_same (interrupts : Interrupts) :
    writeSie interrupts.readSie 0xFFFFFFFF interrupts = interrupts := by
  have hmask : (0xFFFFFFFF : BitVec 32).setWidth 16 &&& interrupts.delegate
      = interrupts.delegate := BitVec.allOnes_and
  unfold writeSie readSie
  rw [setWidth_setWidth_same, hmask]
  dsimp only
  rw [merge_view]

/-- SEIP is the disjunction of its sources, so a pending one stays so. -/
theorem mip_writeMip_same {interrupts : Interrupts}
    (h : interrupts.WellFormed) :
    (writeMip interrupts.readMip 0xFFFFFFFF interrupts).mip
      = interrupts.mip := by
  have hbit : ∀ interrupt : Interrupt,
      interrupts.readMip.getLsbD interrupt.toNat
        = interrupts.mip.getLsbD interrupt.toNat := by
    intro interrupt
    apply SView.getLsbD_zeroExtend
    cases interrupt <;> decide
  have hone : ∀ interrupt : Interrupt,
      (0xFFFFFFFF : BitVec 32).getLsbD interrupt.toNat = true := by
    intro interrupt
    cases interrupt <;> decide
  have hseip : (interrupts.seipExternal || interrupts.mip.getLsbD
      Interrupt.supervisorExternalInterrupt.toNat)
      = interrupts.mip.getLsbD
        Interrupt.supervisorExternalInterrupt.toNat := by
    rw [h.seip, ← Bool.or_assoc, Bool.or_self]
  unfold writeMip setMip
  dsimp only
  rw [hone, hone, hone, if_pos rfl, if_pos rfl, if_pos rfl, hbit, hbit, hbit,
    hseip]
  dsimp only
  rw [setBit_same, setBit_same, setBit_same]

/-- SSIP is pending, and sip does not show it. -/
def Hides (interrupts : Interrupts) : Prop :=
  interrupts.mip.getLsbD Interrupt.supervisorSoftwareInterrupt.toNat = true ∧
    interrupts.shouldDelegate .supervisorSoftwareInterrupt = false

/-- The bits of mip stay as they are unless sip hides SSIP while it is set. -/
theorem mip_writeSip_same (interrupts : Interrupts) :
    (writeSip interrupts.readSip 0xFFFFFFFF interrupts).mip = interrupts.mip ↔
      ¬ interrupts.Hides := by
  have hread : interrupts.readSip.getLsbD
      Interrupt.supervisorSoftwareInterrupt.toNat
      = (interrupts.mip.getLsbD Interrupt.supervisorSoftwareInterrupt.toNat &&
        interrupts.shouldDelegate .supervisorSoftwareInterrupt) :=
    (SView.getLsbD_zeroExtend (by decide)).trans BitVec.getLsbD_and
  have hone : (0xFFFFFFFF : BitVec 32).getLsbD
      Interrupt.supervisorSoftwareInterrupt.toNat = true := by decide
  unfold writeSip setMip Hides
  dsimp only
  rw [hone, if_pos rfl, hread]
  constructor
  · rintro hsame ⟨hpending, hhidden⟩
    have hbit := getLsbD_setBit_self interrupts.mip
      (interrupts.mip.getLsbD Interrupt.supervisorSoftwareInterrupt.toNat &&
        interrupts.shouldDelegate .supervisorSoftwareInterrupt)
      (show Interrupt.supervisorSoftwareInterrupt.toNat < 16 by decide)
    dsimp only at hsame
    rw [hsame, hpending, hhidden] at hbit
    cases hbit
  · intro hshown
    have hvalue : (interrupts.mip.getLsbD
        Interrupt.supervisorSoftwareInterrupt.toNat &&
          interrupts.shouldDelegate .supervisorSoftwareInterrupt)
        = interrupts.mip.getLsbD
          Interrupt.supervisorSoftwareInterrupt.toNat := by
      cases hpending : interrupts.mip.getLsbD
          Interrupt.supervisorSoftwareInterrupt.toNat with
      | false => rfl
      | true =>
          cases hdelegated :
              interrupts.shouldDelegate .supervisorSoftwareInterrupt with
          | true => rfl
          | false => exact absurd ⟨hpending, hdelegated⟩ hshown
    rw [hvalue, setBit_same]

end Interrupts

/-! ## The trap registers -/

/-- Writing back a vector leaves its base address and its mode. -/
theorem writeTvec_same {base value : BitVec 32} {mode : VectorMode}
    (h : base &&& 0b11 = 0) (hread : readTvec base mode = some value) :
    writeTvec base mode value 0xFFFFFFFF = some (base, mode) := by
  have hvalue : base ||| mode.bits = value := by
    rw [readTvec_isSome mode h] at hread
    exact Option.some.inj hread
  have hbits : value &&& 0b11 = mode.bits := by
    rw [← hvalue, BitVec.and_or_distrib_right, h]
    cases mode <;> decide
  have hbase : value &&& ~~~0b11#32 = base := by
    have hclear : base &&& ~~~0b11#32 = base := and_not_of_clear h
    rw [← hvalue, BitVec.and_or_distrib_right, hclear]
    cases mode <;> simp [VectorMode.bits]
  unfold writeTvec
  rw [hread, Option.map_some]
  dsimp only
  rw [merge_full, hbits, hbase]
  cases mode with
  | direct => rfl
  | vectored => rfl

/-- Every cause that a register shows can be written. -/
theorem writeCause_bits (code : CauseCode) (last : Cause)
    (override : Option CauseCode) :
    ∃ written, writeCause last override code.bits 0xFFFFFFFF = some written ∧
      written.bits = code.bits := by
  unfold writeCause
  rw [merge_full]
  cases code with
  | exception code =>
      cases code with
      | none => exact ⟨_, rfl, rfl⟩
      | some code => cases code <;> exact ⟨_, rfl, rfl⟩
  | interrupt code =>
      cases code with
      | none => exact ⟨_, rfl, rfl⟩
      | some code => cases code <;> exact ⟨_, rfl, rfl⟩

/-- A cause register shows a code that is supported. -/
theorem readCause_eq_bits (last : Cause) (override : Option CauseCode) :
    ∃ code : CauseCode, readCause last override = code.bits := by
  cases override with
  | some code => exact ⟨code, rfl⟩
  | none => exact ⟨last.code, rfl⟩

/-- The cause read through `shown` is what is read after it is written. -/
theorem readCause_writeBack (shown last : Cause)
    (override : Option CauseCode) :
    readCause shown (writeCause last override (readCause shown override)
      0xFFFFFFFF) = readCause shown override := by
  obtain ⟨code, hcode⟩ := readCause_eq_bits shown override
  obtain ⟨written, hwritten, hbits⟩ := writeCause_bits code last override
  rw [hcode, hwritten]
  exact hbits

namespace Trap

/-- Every value of satp can be written. -/
theorem satp_writeSatp (value : BitVec 32) (trap : Trap) :
    (writeSatp value 0xFFFFFFFF trap).satp = value := by
  unfold writeSatp satp
  dsimp only
  rw [merge_full]
  apply BitVec.eq_of_getLsbD_eq
  intro i hi
  -- the fields of satp are bit 31, the bits from 22 on and those below
  have hfields : ∀ mode : BitVec 32,
      mode.getLsbD i = (decide (i = 31) && value.getLsbD i) →
      (mode ||| ((value.extractLsb' 22 9).setWidth 16).setWidth 32 <<< 22 |||
        (value.extractLsb' 0 22).setWidth 32).getLsbD i
        = value.getLsbD i := by
    intro mode hmode
    simp only [BitVec.getLsbD_or, hmode, BitVec.getLsbD_shiftLeft,
      BitVec.getLsbD_setWidth, BitVec.getLsbD_extractLsb']
    by_cases hppn : i < 22
    · have htop : i ≠ 31 := by omega
      simp [hppn, htop, hi]
    · have hshift : 22 + (i - 22) = i := by omega
      by_cases htop : i = 31
      · simp [htop]
      · have hasid : i - 22 < 9 := by omega
        have hwide : i - 22 < 16 := by omega
        have hword : i - 22 < 32 := by omega
        simp [hppn, htop, hi, hshift, hasid, hwide, hword]
  cases htop : value.getLsbD 31 with
  | true =>
      apply hfields
      by_cases hi31 : i = 31
      · rw [hi31, htop]
        rfl
      · have hrest : ∀ j < 32, j ≠ 31 →
            (0x80000000 : BitVec 32).getLsbD j = false := by decide
        rw [decide_eq_false hi31, Bool.false_and]
        exact hrest i hi hi31
  | false =>
      apply hfields
      by_cases hi31 : i = 31
      · rw [hi31, htop]
        rfl
      · rw [decide_eq_false hi31, Bool.false_and]
        exact BitVec.getLsbD_zero

/-- Only exceptions that can be delegated are. -/
theorem medeleg_writeMedeleg_same {trap : Trap} (h : trap.WellFormed) :
    (writeMedeleg trap.delegateException 0xFFFFFFFF trap).delegateException
      = trap.delegateException := by
  have hnone : trap.delegateException &&& ~~~(0xFFFFFFFF : BitVec 32) = 0#32 :=
    BitVec.and_zero
  have hall : trap.delegateException &&& (0xFFFFFFFF : BitVec 32)
      = trap.delegateException := BitVec.and_allOnes
  unfold writeMedeleg
  dsimp only
  rw [hnone, hall, BitVec.zero_or]
  exact and_within h.medeleg

end Trap

/-! ## The time counter is never inhibited -/

/-- Bit 1 of mcountinhibit stays clear. -/
def State.TimeCounts (s : State β) : Prop :=
  s.counterControl.mcountinhibit &&& 0b10#32 = 0#32

/-- The bit of mcountinhibit for the time is not writable. -/
theorem timeCounts_write {control : CounterControl}
    (h : control.mcountinhibit &&& 0b10#32 = 0#32) (value mask : BitVec 32) :
    (control.writeMcountinhibit value mask).mcountinhibit &&& 0b10#32
      = 0#32 := by
  have hold : control.mcountinhibit &&& ~~~mask &&& 0b10#32 = 0#32 := by
    rw [BitVec.and_assoc, BitVec.and_comm (~~~mask), ← BitVec.and_assoc, h,
      BitVec.zero_and]
  have hnew : value &&& mask &&& ~~~0b10#32 &&& 0b10#32 = 0#32 := by
    rw [BitVec.and_assoc, BitVec.not_and_self]
    exact BitVec.and_zero
  unfold CounterControl.writeMcountinhibit
  dsimp only
  rw [BitVec.and_or_distrib_right, hold, hnew, BitVec.or_zero]

/-- No write of a CSR sets it. -/
theorem preserves_timeCounts (specifier : CsrSpecifier)
    (value mask : BitVec 32) (csr : Csr) :
    (preserving State.TimeCounts).Tame
      (writeCsrOf specifier value mask csr : CoreM β _ _) := by
  apply tame_preserving
  intro s hs
  by_cases hcsr : csr = .mcountinhibit
  · rw [hcsr]
    exact timeCounts_write hs value mask
  · have hsame := writeCsrOf_writesOnly specifier value mask csr s
      .mcountinhibit fun hmem => hcsr (List.mem_singleton.1 hmem)
    exact (congrArg (fun x : BitVec 32 => x &&& 0b10#32) hsame).trans hs

section Runs

variable [SystemBus β] [Build]

omit [Build] in
/-- The bus does not write it. -/
theorem accesses_timeCounts :
    Accesses (preserving (State.TimeCounts (β := β))) := by
  apply accesses_preserving
  · exact fun _ _ hs => hs
  · exact fun _ _ _ _ _ _ _ hs => hs
  · exact fun _ _ _ _ _ _ _ hs => hs

theorem steps_timeCounts :
    Steps (preserving (State.TimeCounts (β := β))) where
  toAccesses := accesses_timeCounts
  execute config _ hshift := by
    apply (accesses_timeCounts.executes fun _ =>
      tame_preserving fun _ hs => hs).tame_instruction _ _ _ config hshift
    · intro csr specifier value mask _ _
      exact preserves_timeCounts specifier value mask csr
    · apply tame_preserving
      intro s hs
      cases sret_cases s with
      | inl hthrow =>
          rw [hthrow]
          exact hs
      | inr hreturn =>
          rw [hreturn.2]
          exact hs
    · apply tame_preserving
      intro s hs
      cases mret_cases s with
      | inl hthrow =>
          rw [hthrow]
          exact hs
      | inr hreturn =>
          rw [hreturn.2]
          cases s.status.mpp with
          | none => exact hs
          | some pp => exact hs
  trap cause := by
    apply tame_preserving
    intro s hs
    obtain ⟨events, hevents⟩ := trapRecorded_eq s cause
    cases trap_cases cause s with
    | inl hok =>
        rw [hok.2]
        unfold trapEntry
        rw [hevents]
        exact hs
    | inr hpanic =>
        rw [hpanic.2, hevents]
        exact hs
  counters f := tame_preserving fun _ hs => hs

/-- What the core starts with, every step keeps and no device changes, holds of
every reachable core. -/
theorem Reachable.of_steps {P : State β → Prop} {config : Config}
    (hsteps : Steps (preserving P)) (hnew : ∀ bus, P (State.new config bus))
    (hdevices : ∀ (s : State β) (bus : β) (calls : List IrqCall), P s →
      P ({ s with bus := bus }.onInterrupts (Interrupts.deliverAll calls)))
    {s : State β} (h : Reachable config s) : P s := by
  induction h with
  | new bus => exact hnew bus
  | @step s t _ hstep ih =>
      have hkeep := (hsteps.tame_step (ε := Empty) config).preserves ih
      rw [hstep] at hkeep
      exact hkeep
  | devices bus calls _ ih => exact hdevices _ bus calls ih

/-- The values of the CSRs are such as can be written. -/
structure State.Legal (s : State β) : Prop where
  wellFormed : s.WellFormed
  timeCounts : s.TimeCounts

/-- All that the argument needs of a reachable core. -/
theorem Reachable.legal {config : Config}
    (hreset : config.resetVector.toNat % 4 = 0) {s : State β}
    (h : Reachable config s) : s.Legal where
  wellFormed := h.of_steps steps_wellFormed (wellFormed_new hreset)
    fun s bus calls hs => { hs with
      interrupts := Interrupts.wellFormed_deliverAll hs.interrupts calls }
  timeCounts := by
    apply h.of_steps steps_timeCounts
    · intro bus
      show 0#32 &&& 0b10#32 = 0#32
      rfl
    · exact fun _ _ _ hs => hs

end Runs

/-! ## What is shown after the restore -/

section Restore

variable [SystemBus β] {ε' : Type} {s : State β} {config : Config}
  {specifier : CsrSpecifier} {csr : Csr} {value : BitVec 32}

omit [SystemBus β] in
/-- The vector of M-mode, with its mode. -/
theorem get_writeMtvec (h : s.trap.Aligned)
    (hread : ((viewTvec Trap.mVectorBaseAddress Trap.mVectorMode :
      CoreM β ε _) s).result = some (.ok value)) :
    Part.mtvec.get ((putTvec (Trap.writeMtvec value 0xFFFFFFFF) :
      CoreM β ε' Unit) s).state = Part.mtvec.get s := by
  unfold viewTvec at hread
  rw [Exec.get_bind, readTvec_isSome _ h.m] at hread
  cases hread
  rw [state_putTvec]
  unfold Trap.writeMtvec
  rw [writeTvec_same h.m (readTvec_isSome _ h.m)]
  rfl

omit [SystemBus β] in
/-- The vector of S-mode, with its mode. -/
theorem get_writeStvec (h : s.trap.Aligned)
    (hread : ((viewTvec Trap.sVectorBaseAddress Trap.sVectorMode :
      CoreM β ε _) s).result = some (.ok value)) :
    Part.stvec.get ((putTvec (Trap.writeStvec value 0xFFFFFFFF) :
      CoreM β ε' Unit) s).state = Part.stvec.get s := by
  unfold viewTvec at hread
  rw [Exec.get_bind, readTvec_isSome _ h.s] at hread
  cases hread
  rw [state_putTvec]
  unfold Trap.writeStvec
  rw [writeTvec_same h.s (readTvec_isSome _ h.s)]
  rfl

omit [SystemBus β] in
/-- satp, if it could be read. -/
theorem get_writeSatp
    (hread : ((readSatp : CoreM β _ _) s).result = some (.ok value)) :
    Part.satp.get ((writeSatp value 0xFFFFFFFF : CoreM β _ _) s).state
      = Part.satp.get s := by
  unfold readSatp at hread
  rw [Exec.get_bind] at hread
  unfold writeSatp
  rw [Exec.get_bind]
  cases htvm : s.status.tvm with
  | true =>
      rw [htvm] at hread
      cases hread
  | false =>
      rw [htvm] at hread
      cases hread
      exact Trap.satp_writeSatp _ _

/-- A part is shown as before once a register has been restored. -/
theorem get_writeBack (hs : s.Legal)
    (hread : (readCsrOf config specifier csr s).result = some (.ok value))
    (hshown : csr = .sip → ¬ s.interrupts.Hides) {p : Part}
    (hwriter : csr ∈ p.writers) :
    p.get (writeCsrOf specifier value 0xFFFFFFFF csr s).state = p.get s := by
  cases p with
  | privilegeMode => cases hwriter
  | bus => cases hwriter
  | sstatus =>
      rcases mem_pair.1 hwriter with rfl | rfl
      · cases hread
        exact congrArg (fun status => status.mstatus &&& SSTATUS_MASK)
          (Status.writeSstatus_same hs.wellFormed.status)
      · cases hread
        exact congrArg (fun status => status.mstatus &&& SSTATUS_MASK)
          (Status.writeMstatus_same hs.wellFormed.status (merge_full _ _))
  | mstatus =>
      obtain rfl := List.mem_singleton.1 hwriter
      cases hread
      exact congrArg (fun status => status.mstatus &&& ~~~SSTATUS_MASK)
        (Status.writeMstatus_same hs.wellFormed.status (merge_full _ _))
  | mstatush =>
      obtain rfl := List.mem_singleton.1 hwriter
      cases hread
      exact congrArg Status.mstatush (Status.writeMstatush_same _)
  | mie =>
      rcases mem_pair.1 hwriter with rfl | rfl
      · cases hread
        exact congrArg Interrupts.mie (Interrupts.writeMie_same _ _)
      · cases hread
        exact congrArg Interrupts.mie (Interrupts.writeSie_same _)
  | mip =>
      rcases mem_pair.1 hwriter with rfl | rfl
      · cases hread
        exact Interrupts.mip_writeMip_same hs.wellFormed.interrupts
      · cases hread
        exact (Interrupts.mip_writeSip_same _).2 (hshown rfl)
  | mideleg =>
      obtain rfl := List.mem_singleton.1 hwriter
      cases hread
      exact congrArg Interrupts.delegate (Interrupts.writeMideleg_same _ _)
  | medeleg =>
      obtain rfl := List.mem_singleton.1 hwriter
      cases hread
      exact Trap.medeleg_writeMedeleg_same hs.wellFormed.trap
  | mtvec =>
      obtain rfl := List.mem_singleton.1 hwriter
      exact get_writeMtvec hs.wellFormed.trap.aligned hread
  | stvec =>
      obtain rfl := List.mem_singleton.1 hwriter
      exact get_writeStvec hs.wellFormed.trap.aligned hread
  | mepc =>
      obtain rfl := List.mem_singleton.1 hwriter
      cases hread
      exact writeBack_clear (and_three_iff.2 hs.wellFormed.trap.mepc)
  | sepc =>
      obtain rfl := List.mem_singleton.1 hwriter
      cases hread
      exact writeBack_clear (and_three_iff.2 hs.wellFormed.trap.sepc)
  | mcause =>
      obtain rfl := List.mem_singleton.1 hwriter
      cases hread
      exact readCause_writeBack _ _ _
  | scause =>
      obtain rfl := List.mem_singleton.1 hwriter
      cases hread
      exact readCause_writeBack _ _ _
  | satp =>
      obtain rfl := List.mem_singleton.1 hwriter
      exact get_writeSatp hread
  | mcountinhibit =>
      obtain rfl := List.mem_singleton.1 hwriter
      cases hread
      exact writeBack_clear hs.timeCounts
  | menvcfg =>
      rcases mem_pair.1 hwriter with rfl | rfl
      · cases hread
        exact merge_full _ _
      · cases hread
        exact merge_full _ _
  | mscratch | sscratch | mtval | mtval2 | mtinst | stval | mcycle | mcycleh
  | minstret | minstreth | mcounteren | scounteren | menvcfgh =>
      obtain rfl := List.mem_singleton.1 hwriter
      cases hread
      exact merge_full _ _

omit [SystemBus β] in
/-- A read that succeeds has left the state alone. -/
theorem state_eq_of_result {ε α : Type} {m : Exec ε (State β) α} {a : α}
    {t : State β} (h : m s = .ok a t) (hstate : (m s).state = s) :
    t = s ∧ (m s).result = some (.ok a) := by
  rw [h] at hstate
  rw [h]
  exact ⟨hstate, rfl⟩

omit [SystemBus β] in
/-- Reading a vector changes nothing. -/
theorem state_viewTvec (base : Trap → BitVec 32) (mode : Trap → VectorMode)
    (s : State β) : ((viewTvec base mode : CoreM β ε _) s).state = s := by
  unfold viewTvec
  rw [Exec.get_bind]
  cases readTvec (base s.trap) (mode s.trap) with
  | none => rfl
  | some value => rfl

omit [SystemBus β] in
/-- Reading satp changes nothing. -/
theorem state_readSatp (s : State β) :
    ((readSatp : CoreM β _ _) s).state = s := by
  unfold readSatp
  rw [Exec.get_bind]
  cases s.status.tvm with
  | true => rfl
  | false => rfl

omit [SystemBus β] in
/-- Reading a performance counter changes nothing. -/
theorem state_readMhpm (n : ℕ) (s : State β) :
    ((readMhpm n : CoreM β ε _) s).state = s := by
  unfold readMhpm assertNumber
  cases decide (3 ≤ n ∧ n ≤ 31) with
  | true => rfl
  | false => rfl

/-- Reading a register that can be written changes nothing. -/
theorem state_readCsrOf (config : Config) (specifier : CsrSpecifier)
    (h : csr.readOnly = false) (s : State β) :
    (readCsrOf config specifier csr s).state = s := by
  cases csr with
  | mtvec => exact state_viewTvec _ _ s
  | stvec => exact state_viewTvec _ _ s
  | satp => exact state_readSatp s
  | mhpmcounter n => exact state_readMhpm n s
  | mhpmcounterh n => exact state_readMhpm n s
  | mhpmevent n => exact state_readMhpm n s
  | _ =>
      first
        | rfl
        | cases h

/-- A register that was read and written back changes no part of what the CSRs
show, unless it is sip and hides SSIP. -/
theorem sameParts_writeBack (hs : s.Legal)
    (hread : (readCsrOf config specifier csr s).result = some (.ok value))
    (hshown : csr = .sip → ¬ s.interrupts.Hides) (p : Part) :
    p.get (writeCsrOf specifier value 0xFFFFFFFF csr s).state = p.get s := by
  by_cases hwriter : csr ∈ p.writers
  · exact get_writeBack hs hread hshown hwriter
  · exact writeCsrOf_writesOnly specifier value 0xFFFFFFFF csr s p hwriter

end Restore

/-- In every reachable core, saving a CSR and restoring it leaves every CSR
reading as before exactly if it is not sip with SSIP pending and not
delegated. -/
theorem writeBack_iff [SystemBus β] [Build] {config : Config}
    (hreset : config.resetVector.toNat % 4 = 0) {s t u : State β}
    (h : Reachable config s) {specifier : CsrSpecifier}
    {level : PrivilegeLevel} {value : BitVec 32}
    (hread : readCsr config specifier level s = .ok value t)
    (hwrite : writeCsr specifier level value 0xFFFFFFFF t = .ok () u) :
    (∀ (other : CsrSpecifier) (level' : PrivilegeLevel),
      (readCsr config other level' u).result
        = (readCsr config other level' s).result) ↔
      ¬ (Csr.ofSpecifier specifier = some .sip ∧ s.interrupts.Hides) := by
  have hs := h.legal hreset
  obtain ⟨e, hthrow⟩ | ⟨csr, hcsr, -, hwritable, -, harm⟩ :=
    writeCsr_cases specifier level value 0xFFFFFFFF (β := β)
  · rw [hthrow] at hwrite
    cases hwrite
  obtain ⟨e, hthrow⟩ | ⟨csr', hcsr', -, harm'⟩ :=
    readCsr_cases config specifier level (β := β)
  · rw [hthrow] at hread
    cases hread
  rw [hcsr] at hcsr'
  cases hcsr'
  rw [harm'] at hread
  rw [harm] at hwrite
  obtain ⟨rfl, hresult⟩ := state_eq_of_result hread
    (state_readCsrOf config specifier hwritable s)
  have hu : u = (writeCsrOf specifier value 0xFFFFFFFF csr t).state := by
    rw [hwrite]
    rfl
  rw [hu]
  constructor
  · rintro hall ⟨hsip, hhides⟩
    rw [hcsr] at hsip
    cases hsip
    cases hresult
    have hmip : (Interrupts.writeSip t.interrupts.readSip 0xFFFFFFFF
        t.interrupts).readMip = t.interrupts.readMip :=
      Except.ok.inj (Option.some.inj (hall 0x344 .machine))
    have hsame := congrArg (BitVec.setWidth 16) hmip
    unfold Interrupts.readMip at hsame
    rw [Interrupts.setWidth_setWidth_same,
      Interrupts.setWidth_setWidth_same] at hsame
    exact (Interrupts.mip_writeSip_same t.interrupts).1 hsame hhides
  · intro hshown other level'
    apply readCsr_readsOnly config other level'
    intro p _
    apply sameParts_writeBack hs hresult
    rintro rfl hhides
    exact hshown ⟨hcsr, hhides⟩

/-- A core that has made SSIP pending, by `csrrsi x0, mip, 2`. -/
def softwarePending : State MemoryBus :=
  @stepsFrom MemoryBus _ Build.debug NoDevices.config
    (State.new NoDevices.config (MemoryBus.ofWords
      [(NoDevices.config.resetVector, 0x34416073)])) 1

/-- Saving and restoring mip keeps SSIP pending; sip hides it, and loses it. -/
theorem writeBack_iff_pending :
    (∃ value t u,
      readCsr NoDevices.config 0x344 .machine softwarePending = .ok value t ∧
      writeCsr 0x344 .machine value 0xFFFFFFFF t = .ok () u ∧
      ∀ (other : CsrSpecifier) (level : PrivilegeLevel),
        (readCsr NoDevices.config other level u).result
          = (readCsr NoDevices.config other level softwarePending).result) ∧
    ∃ value t u,
      readCsr NoDevices.config 0x144 .machine softwarePending = .ok value t ∧
      writeCsr 0x144 .machine value 0xFFFFFFFF t = .ok () u ∧
      ¬ ∀ (other : CsrSpecifier) (level : PrivilegeLevel),
        (readCsr NoDevices.config other level u).result
          = (readCsr NoDevices.config other level softwarePending).result := by
  have hreachable : @Reachable MemoryBus _ Build.debug NoDevices.config
      softwarePending :=
    @Reachable.steps MemoryBus _ Build.debug _ _
      (@Reachable.new MemoryBus _ Build.debug NoDevices.config _) 1
      (by decide +kernel)
  have hhides : softwarePending.interrupts.Hides :=
    ⟨by decide +kernel, by decide +kernel⟩
  constructor
  · refine ⟨2, _, _, rfl, rfl, ?_⟩
    apply (@writeBack_iff MemoryBus _ Build.debug NoDevices.config rfl _ _ _
      hreachable 0x344 .machine 2 rfl rfl).2
    rintro ⟨hsip, -⟩
    exact absurd hsip (by decide)
  · refine ⟨0, _, _, rfl, rfl, ?_⟩
    intro hall
    exact (@writeBack_iff MemoryBus _ Build.debug NoDevices.config rfl _ _ _
      hreachable 0x144 .machine 0 rfl rfl).1 hall ⟨rfl, hhides⟩

end RedPlanet.Core
