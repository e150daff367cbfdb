import Mathlib.Logic.Function.Basic
import RedPlanet.Core.CsrAccess
import RedPlanet.Core.TrapState

/-!
# The cause registers

What mcause and scause are meant to read is kept beside a run of traps and
CSR writes: the code of the last trap of their own mode, or the last legal
value written since.  The override and the cause of each mode do hold exactly
that (`Shows`); what the guest reads is mcause right in any case, and scause
only while the last trap of M-mode has the code of the last trap of S-mode or
the guest has overwritten it, since the source reads it off the wrong cause.
-/

namespace RedPlanet.Core

open RedPlanet.Verified

variable {β : Type}

/-! ## Encodings -/

/-- A value of a cause register that stands for a cause. -/
def DefinedCause (value : BitVec 32) : Prop :=
  ∃ code : CauseCode, code.bits = value

/-- The cause that `write_cause` finds in a value, if any. -/
def CauseCode.ofBits (value : BitVec 32) : Option CauseCode :=
  let cause := setBit value 31 false
  match value.getLsbD 31 with
  | false =>
      if cause = 0 then some (.exception none)
      else (ExceptionCode.tryFrom cause.toNat).map fun code =>
        .exception (some code)
  | true =>
      if cause = 0 then some (.interrupt none)
      else (Interrupt.tryFrom cause.toNat).map fun code =>
        .interrupt (some code)

/-- A write of a cause register replaces the override by the cause that the
merged value stands for, and does nothing where it stands for none. -/
theorem writeCause_eq (lastTrapCause : Cause)
    (causeOverride : Option CauseCode) (value mask : BitVec 32) :
    writeCause lastTrapCause causeOverride value mask =
      (CauseCode.ofBits (merge (readCause lastTrapCause causeOverride) value
        mask)).or causeOverride := by
  unfold writeCause CauseCode.ofBits
  generalize merge (readCause lastTrapCause causeOverride) value mask = cause
  dsimp only
  cases cause.getLsbD 31 with
  | false =>
      dsimp only
      by_cases hzero : setBit cause 31 false = 0
      · rw [if_pos hzero, if_pos hzero]
        rfl
      · rw [if_neg hzero, if_neg hzero]
        cases ExceptionCode.tryFrom (setBit cause 31 false).toNat <;> rfl
  | true =>
      dsimp only
      by_cases hzero : setBit cause 31 false = 0
      · rw [if_pos hzero, if_pos hzero]
        rfl
      · rw [if_neg hzero, if_neg hzero]
        cases Interrupt.tryFrom (setBit cause 31 false).toNat <;> rfl

theorem ExceptionCode.toNat_of_tryFrom {n : Nat} {code : ExceptionCode}
    (h : ExceptionCode.tryFrom n = some code) : code.toNat = n := by
  revert h
  fun_cases ExceptionCode.tryFrom n <;> intro h <;> cases h <;> rfl

theorem Interrupt.toNat_of_tryFrom {n : Nat} {code : Interrupt}
    (h : Interrupt.tryFrom n = some code) : code.toNat = n := by
  revert h
  fun_cases Interrupt.tryFrom n <;> intro h <;> cases h <;> rfl

theorem clear_top_of_clear {value : BitVec 32}
    (h : value.getLsbD 31 = false) : setBit value 31 false = value := by
  apply BitVec.eq_of_getLsbD_eq
  intro i hi
  rw [getLsbD_setBit]
  by_cases htop : i = 31
  · rw [if_pos ⟨htop, hi⟩, htop, h]
  · rw [if_neg fun hand => htop hand.1]

theorem clear_top_of_set {value : BitVec 32} (h : value.getLsbD 31 = true) :
    0x80000000#32 ||| setBit value 31 false = value := by
  apply BitVec.eq_of_getLsbD_eq
  intro i hi
  have htopBit := getLsbD_one_shiftLeft (w := 32) 31 i
  have hmask : 0x80000000#32 = 1#32 <<< 31 := by decide
  rw [BitVec.getLsbD_or, getLsbD_setBit, hmask, htopBit]
  by_cases htop : i = 31
  · simp [htop, h]
  · simp [htop]

/-- What is found in a value stands for that value. -/
theorem CauseCode.bits_of_ofBits {value : BitVec 32} {code : CauseCode}
    (h : CauseCode.ofBits value = some code) : code.bits = value := by
  unfold CauseCode.ofBits at h
  cases htop : value.getLsbD 31 with
  | false =>
      rw [clear_top_of_clear htop, htop] at h
      dsimp only at h
      by_cases hzero : value = 0
      · rw [if_pos hzero] at h
        cases h
        exact hzero.symm
      · rw [if_neg hzero] at h
        obtain ⟨code, hcode, rfl⟩ := Option.map_eq_some_iff.1 h
        show BitVec.ofNat 32 code.toNat = value
        rw [ExceptionCode.toNat_of_tryFrom hcode, BitVec.ofNat_toNat,
          BitVec.setWidth_eq]
  | true =>
      have hset := clear_top_of_set htop
      rw [htop] at h
      dsimp only at h
      by_cases hzero : setBit value 31 false = 0
      · rw [if_pos hzero] at h
        cases h
        rw [← hset, hzero]
        rfl
      · rw [if_neg hzero] at h
        obtain ⟨code, hcode, rfl⟩ := Option.map_eq_some_iff.1 h
        show 0x80000000#32 ||| BitVec.ofNat 32 code.toNat = value
        rw [Interrupt.toNat_of_tryFrom hcode, BitVec.ofNat_toNat,
          BitVec.setWidth_eq, hset]

/-- Every cause is found in the value it stands for. -/
theorem CauseCode.ofBits_bits_ne_none (code : CauseCode) :
    CauseCode.ofBits code.bits ≠ none := by
  cases code with
  | exception code =>
      cases code with
      | none => decide
      | some code => cases code <;> decide
  | interrupt code =>
      cases code with
      | none => decide
      | some code => cases code <;> decide

/-- A write of a value that stands for a cause is read back. -/
theorem readCause_writeCause {lastTrapCause : Cause}
    {causeOverride : Option CauseCode} {value mask : BitVec 32}
    (h : DefinedCause (merge (readCause lastTrapCause causeOverride) value
      mask)) :
    readCause lastTrapCause
        (writeCause lastTrapCause causeOverride value mask) =
      merge (readCause lastTrapCause causeOverride) value mask := by
  rw [writeCause_eq]
  obtain ⟨code, hcode⟩ := h
  cases hfound : CauseCode.ofBits (merge (readCause lastTrapCause
      causeOverride) value mask) with
  | none =>
      rw [← hcode] at hfound
      exact absurd hfound (CauseCode.ofBits_bits_ne_none code)
  | some found => exact CauseCode.bits_of_ofBits hfound

/-- Any other write changes nothing. -/
theorem writeCause_of_undefined {lastTrapCause : Cause}
    {causeOverride : Option CauseCode} {value mask : BitVec 32}
    (h : ¬ DefinedCause (merge (readCause lastTrapCause causeOverride) value
      mask)) :
    writeCause lastTrapCause causeOverride value mask = causeOverride := by
  rw [writeCause_eq]
  cases hfound : CauseCode.ofBits (merge (readCause lastTrapCause
      causeOverride) value mask) with
  | none => rfl
  | some found => exact absurd ⟨found, CauseCode.bits_of_ofBits hfound⟩ h

/-! ## Runs -/

/-- The specifier of scause, or that of mcause. -/
def xcause (toSMode : Bool) : CsrSpecifier := if toSMode then 0x142 else 0x342

/-- Nothing about the causes of the two modes differs. -/
def SameCauses (s t : State β) : Prop :=
  ∀ toSMode, (t.trap.handler toSMode).cause = (s.trap.handler toSMode).cause ∧
    (t.trap.handler toSMode).causeOverride =
      (s.trap.handler toSMode).causeOverride

/-- A run of traps, of CSR writes to mcause and scause, and of anything else
that leaves the causes alone.  Beside it runs what each of the two registers
is to read: the code of the last trap into its mode, or the last value
written since that stands for a cause. -/
inductive CauseRun [Build] : State β → (Bool → BitVec 32) → Prop where
  | reset (config : Config) (bus : β) :
      CauseRun (State.new config bus) fun _ => 0
  | trap {s t : State β} {expected : Bool → BitVec 32} {toSMode : Bool}
      (cause : Cause) (run : CauseRun s expected)
      (taken : (trap cause : CoreM β Exception Unit) s = .ok () t)
      (mode : t.privilegeMode = if toSMode then .supervisor else .machine) :
      CauseRun t (Function.update expected toSMode cause.code.bits)
  | write {s t : State β} {expected : Bool → BitVec 32} (toSMode : Bool)
      (level : PrivilegeLevel) (value mask : BitVec 32)
      (run : CauseRun s expected)
      (written : (writeCsr (xcause toSMode) level value mask :
        CoreM β CsrWriteError Unit) s = .ok () t)
      (legal : DefinedCause (merge (expected toSMode) value mask)) :
      CauseRun t (Function.update expected toSMode
        (merge (expected toSMode) value mask))
  | ignored {s t : State β} {expected : Bool → BitVec 32} (toSMode : Bool)
      (level : PrivilegeLevel) (value mask : BitVec 32)
      (run : CauseRun s expected)
      (written : (writeCsr (xcause toSMode) level value mask :
        CoreM β CsrWriteError Unit) s = .ok () t)
      (illegal : ¬ DefinedCause (merge (expected toSMode) value mask)) :
      CauseRun t expected
  | other {s t : State β} {expected : Bool → BitVec 32}
      (run : CauseRun s expected) (same : SameCauses s t) :
      CauseRun t expected

/-- The cause and the override of each mode amount to what is expected. -/
def Shows (s : State β) (expected : Bool → BitVec 32) : Prop :=
  ∀ toSMode, readCause (s.trap.handler toSMode).cause
    (s.trap.handler toSMode).causeOverride = expected toSMode

/-- A trap sets the cause of its own mode and clears its override, as is
expected of it. -/
theorem shows_trap [Build] {s t : State β} {expected : Bool → BitVec 32}
    {toSMode : Bool} {cause : Cause} (hs : Shows s expected)
    (htaken : TrapTaken s cause toSMode t) :
    Shows t (Function.update expected toSMode cause.code.bits) := by
  intro x
  by_cases hx : x = toSMode
  · subst hx
    rw [Function.update_self, htaken.lastCause, htaken.causeOverride]
    rfl
  · have hother : x = !toSMode := Bool.eq_not_of_ne hx
    rw [Function.update_of_ne hx, hother, htaken.otherHandler, ← hother]
    exact hs x

/-- The target of a trap is read off the mode it leaves. -/
theorem taken_of_mode [Build] {s t : State β} {toSMode : Bool} {cause : Cause}
    (hrun : (trap cause : CoreM β Exception Unit) s = .ok () t)
    (hmode : t.privilegeMode = if toSMode then .supervisor else .machine) :
    TrapTaken s cause toSMode t := by
  cases trap_cases (ε := Exception) cause s with
  | inl hok =>
      rw [hok.2] at hrun
      cases hrun
      have htaken := trapEntry_taken s cause
      have hsame : trapToSMode s cause = toSMode := by
        have hmodes := htaken.mode.symm.trans hmode
        cases toSMode <;> cases htarget : trapToSMode s cause <;>
          first
            | rfl
            | rw [htarget] at hmodes
              cases hmodes
      rw [hsame] at htaken
      exact htaken
  | inr hpanic =>
      rw [hpanic.2] at hrun
      cases hrun

/-- `write_scause` or `write_mcause`. -/
def Trap.writeXcause (toSMode : Bool) (value mask : BitVec 32) : Trap → Trap :=
  if toSMode then Trap.writeScause value mask
  else Trap.writeMcause value mask

/-- A write reaches the override of its own mode only. -/
theorem Trap.handler_writeXcause (toSMode x : Bool) (value mask : BitVec 32)
    (trap : Trap) :
    (trap.writeXcause toSMode value mask).handler x =
      if x = toSMode then
        { trap.handler x with
          causeOverride := writeCause (trap.handler x).cause
            (trap.handler x).causeOverride value mask }
      else trap.handler x := by
  cases toSMode <;> cases x <;> rfl

/-- A CSR write that passes the checks reaches its own register. -/
theorem writeCsr_xcause {s t : State β} {toSMode : Bool}
    {level : PrivilegeLevel} {value mask : BitVec 32}
    (h : (writeCsr (xcause toSMode) level value mask :
      CoreM β CsrWriteError Unit) s = .ok () t) :
    t.trap = s.trap.writeXcause toSMode value mask := by
  cases writeCsr_cases (xcause toSMode) level value mask (β := β) with
  | inl hthrow =>
      obtain ⟨e, he⟩ := hthrow
      rw [he] at h
      cases h
  | inr harm =>
      obtain ⟨csr, hcsr, _, _, _, hwrite⟩ := harm
      rw [hwrite] at h
      cases toSMode <;> cases hcsr <;> cases h <;> rfl

/-- A write of a legal value is what the register then shows. -/
theorem shows_write {s t : State β} {expected : Bool → BitVec 32}
    {toSMode : Bool} {value mask : BitVec 32} (hs : Shows s expected)
    (ht : t.trap = s.trap.writeXcause toSMode value mask)
    (hlegal : DefinedCause (merge (expected toSMode) value mask)) :
    Shows t (Function.update expected toSMode
      (merge (expected toSMode) value mask)) := by
  intro x
  rw [ht, Trap.handler_writeXcause]
  by_cases hx : x = toSMode
  · subst hx
    rw [if_pos rfl, Function.update_self, ← hs x]
    rw [← hs x] at hlegal
    exact readCause_writeCause hlegal
  · rw [if_neg hx, Function.update_of_ne hx]
    exact hs x

/-- A write of a value that stands for no cause changes nothing that is
expected. -/
theorem shows_ignored {s t : State β} {expected : Bool → BitVec 32}
    {toSMode : Bool} {value mask : BitVec 32} (hs : Shows s expected)
    (ht : t.trap = s.trap.writeXcause toSMode value mask)
    (hillegal : ¬ DefinedCause (merge (expected toSMode) value mask)) :
    Shows t expected := by
  intro x
  rw [ht, Trap.handler_writeXcause]
  by_cases hx : x = toSMode
  · subst hx
    rw [← hs x] at hillegal
    rw [if_pos rfl, writeCause_of_undefined hillegal]
    exact hs x
  · rw [if_neg hx]
    exact hs x

/-- The causes and overrides hold what is expected, along every run. -/
theorem CauseRun.shows [Build] {s : State β} {expected : Bool → BitVec 32}
    (run : CauseRun s expected) : Shows s expected := by
  induction run with
  | reset config bus =>
      intro x
      cases x <;> rfl
  | trap cause _ taken mode ih => exact shows_trap ih (taken_of_mode taken mode)
  | write toSMode level value mask _ written legal ih =>
      exact shows_write ih (writeCsr_xcause written) legal
  | ignored toSMode level value mask _ written illegal ih =>
      exact shows_ignored ih (writeCsr_xcause written) illegal
  | other _ same ih =>
      intro x
      rw [(same x).1, (same x).2]
      exact ih x

/-! ## Reading -/

/-- The cause that `read_scause` goes by is the right one, or it does not
matter. -/
def OwnCause (s : State β) : Prop :=
  s.trap.scauseOverride ≠ none ∨
    s.trap.lastMTrapCause.code.bits = s.trap.lastSTrapCause.code.bits

/-- What scause reads is right if there is an override, or if the cause it is
read off happens to have the same code. -/
theorem readScause_iff (trap : Trap) :
    trap.readScause = readCause trap.lastSTrapCause trap.scauseOverride ↔
      trap.scauseOverride ≠ none ∨
        trap.lastMTrapCause.code.bits = trap.lastSTrapCause.code.bits := by
  unfold Trap.readScause
  cases trap.scauseOverride with
  | some code => exact iff_of_true rfl (Or.inl (by simp))
  | none =>
      constructor
      · intro h
        exact Or.inr h
      · intro h
        exact h.resolve_left fun hne => hne rfl

variable [SystemBus β]

theorem readCsr_mcause (config : Config) (s : State β) :
    (readCsr config (xcause false) .machine : CoreM β _ _) s =
      .ok s.trap.readMcause s := rfl

theorem readCsr_scause (config : Config) {level : PrivilegeLevel}
    (hlevel : .supervisor ≤ level) (s : State β) :
    (readCsr config (xcause true) level : CoreM β _ _) s =
      .ok s.trap.readScause s := by
  cases level with
  | user => exact absurd hlevel (by decide)
  | supervisor => rfl
  | machine => rfl

/-- After any interleaving of traps and writes mcause reads what it is to
read, and scause does if and only if the cause it goes by is its own. -/
theorem causes_read_iff [Build] (config : Config) {s : State β}
    {expected : Bool → BitVec 32} (run : CauseRun s expected)
    {level : PrivilegeLevel} (hlevel : .supervisor ≤ level) :
    (readCsr config (xcause false) .machine : CoreM β _ _) s =
        .ok (expected false) s ∧
      ((readCsr config (xcause true) level : CoreM β _ _) s =
          .ok (expected true) s ↔ OwnCause s) := by
  have hm : s.trap.readMcause = expected false := run.shows false
  have hs : readCause s.trap.lastSTrapCause s.trap.scauseOverride =
      expected true := run.shows true
  rw [readCsr_mcause, readCsr_scause config hlevel, hm, ← hs]
  refine ⟨rfl, ?_⟩
  rw [Outcome.ok.injEq]
  exact (and_iff_left rfl).trans (readScause_iff s.trap)

/-! ## A breakpoint after reset -/

/-- A core after reset that has met an EBREAK. -/
def NoDevices.afterBreakpoint : State NoDevices :=
  trapEntry (State.new NoDevices.config .unit) (.exception (some .breakpoint))

/-- One trap into M-mode, with the cause of a breakpoint. -/
theorem run_afterBreakpoint :
    @CauseRun NoDevices Build.debug NoDevices.afterBreakpoint
      (Function.update (fun _ => 0) false 3) :=
  @CauseRun.trap NoDevices Build.debug _ _ _ false
    (.exception (some .breakpoint))
    (@CauseRun.reset NoDevices Build.debug NoDevices.config .unit) rfl rfl

/-- No trap was taken into S-mode, and yet scause reads 3. -/
theorem scause_afterBreakpoint :
    ¬ ∀ (s : State NoDevices) (expected : Bool → BitVec 32),
      @CauseRun NoDevices Build.debug s expected →
      (readCsr NoDevices.config (xcause true) .machine :
        CoreM NoDevices _ _) s = .ok (expected true) s := by
  intro h
  have hread : (Outcome.ok 3#32 NoDevices.afterBreakpoint :
      Outcome CsrAccessError (State NoDevices) (BitVec 32)) =
        .ok 0#32 NoDevices.afterBreakpoint := h _ _ run_afterBreakpoint
  rw [Outcome.ok.injEq] at hread
  exact absurd hread.1 (by decide)

/-- Both registers after the guest has also written 5 to scause. -/
theorem causes_read_afterWrite :
    (readCsr NoDevices.config (xcause false) .machine : CoreM NoDevices _ _)
        (NoDevices.afterBreakpoint.onTrap
          (Trap.writeScause 5 0xFFFFFFFF)) =
      .ok 3 (NoDevices.afterBreakpoint.onTrap
        (Trap.writeScause 5 0xFFFFFFFF)) ∧
    (readCsr NoDevices.config (xcause true) .supervisor :
        CoreM NoDevices _ _)
        (NoDevices.afterBreakpoint.onTrap
          (Trap.writeScause 5 0xFFFFFFFF)) =
      .ok 5 (NoDevices.afterBreakpoint.onTrap
        (Trap.writeScause 5 0xFFFFFFFF)) := by
  have hlegal : DefinedCause (merge (Function.update (fun _ => 0) false 3
      true) 5 0xFFFFFFFF) := ⟨.exception (some .loadAccessFault), by decide⟩
  have hrun := @CauseRun.write NoDevices Build.debug _
    (NoDevices.afterBreakpoint.onTrap (Trap.writeScause 5 0xFFFFFFFF)) _ true
    .machine 5 0xFFFFFFFF run_afterBreakpoint rfl hlegal
  have hreads := @causes_read_iff NoDevices _ Build.debug NoDevices.config _ _
    hrun .supervisor (by decide)
  have hown : OwnCause (NoDevices.afterBreakpoint.onTrap
      (Trap.writeScause 5 0xFFFFFFFF)) := by
    left
    have hne : (NoDevices.afterBreakpoint.onTrap
      (Trap.writeScause 5 0xFFFFFFFF)).trap.scauseOverride ≠ none := by decide
    exact hne
  exact ⟨hreads.1, hreads.2.2 hown⟩

end RedPlanet.Core
