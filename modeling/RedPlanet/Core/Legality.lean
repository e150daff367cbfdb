import RedPlanet.Core.Levels

/-!
# When a privileged instruction is illegal

`Forbidden` is the rule of the manual for the returns, for WFI, and for what
TVM guards: SFENCE.VMA and the accesses to satp.  `Refused` is what the source
tests.  The two agree except in M-mode, where TSR and TVM should not count,
and for an SFENCE.VMA in U-mode.

`LegalExactly` is the property of one instruction in one state: it fails with
an illegal instruction exception, with nothing changed, exactly when the
manual forbids it, and otherwise takes effect.  `legal_exactly_iff` says that
it holds exactly outside the states of `Misjudged`; `legal_exactly_wfi` and
`not_legal_sfenceVma` are a case on each side.
-/

namespace RedPlanet.Core

open RedPlanet.Verified

variable {β : Type}

/-- The number of satp, the one CSR that TVM guards. -/
def SATP : CsrSpecifier := 0x180

/-! ## The rule and the tests of the source -/

/-- The privileged instructions that a mode or a flag can make illegal. -/
def Instruction.Guarded : Instruction → Prop
  | .mret | .sret | .wfi | .sfenceVma _ _ => True
  | .csr _ _ specifier _ => specifier = SATP
  | .csri _ _ specifier _ => specifier = SATP
  | _ => False

/-- Illegal in U-mode, and in S-mode if the flag is set. -/
def BelowMachine (mode : PrivilegeLevel) (flag : Bool) : Prop :=
  mode = .user ∨ mode = .supervisor ∧ flag = true

/-- The manual: when a guarded instruction raises an exception. -/
def Forbidden (s : State β) : Instruction → Prop
  | .mret => s.privilegeMode < .machine
  | .sret => BelowMachine s.privilegeMode s.status.tsr
  | .wfi => s.privilegeMode < .machine ∧ s.status.tw = true
  | .sfenceVma _ _ => BelowMachine s.privilegeMode s.status.tvm
  | .csr _ _ _ _ => BelowMachine s.privilegeMode s.status.tvm
  | .csri _ _ _ _ => BelowMachine s.privilegeMode s.status.tvm
  | _ => False

/-- The source: when a guarded instruction raises an exception. -/
def Refused (s : State β) : Instruction → Prop
  | .mret => s.privilegeMode < .machine
  | .sret => s.privilegeMode = .user ∨ s.status.tsr = true
  | .wfi => s.privilegeMode < .machine ∧ s.status.tw = true
  | .sfenceVma _ _ => s.status.tvm = true
  | .csr _ _ _ _ => s.privilegeMode = .user ∨ s.status.tvm = true
  | .csri _ _ _ _ => s.privilegeMode = .user ∨ s.status.tvm = true
  | _ => False

/-- The states in which the two differ. -/
def Misjudged (s : State β) : Instruction → Prop
  | .sret => s.privilegeMode = .machine ∧ s.status.tsr = true
  | .sfenceVma _ _ =>
      s.privilegeMode = .machine ∧ s.status.tvm = true ∨
        s.privilegeMode = .user ∧ s.status.tvm = false
  | .csr _ _ _ _ => s.privilegeMode = .machine ∧ s.status.tvm = true
  | .csri _ _ _ _ => s.privilegeMode = .machine ∧ s.status.tvm = true
  | _ => False

/-- A test of U-mode or the flag, which does not ask for S-mode, is off in
M-mode with the flag set and nowhere else. -/
theorem belowMachine_iff (mode : PrivilegeLevel) (flag : Bool) :
    (BelowMachine mode flag ↔ mode = .user ∨ flag = true) ↔
      ¬ (mode = .machine ∧ flag = true) := by
  unfold BelowMachine
  cases mode <;> cases flag <;> simp

/-- What the source tests is the rule of the manual exactly in the states that
are not misjudged. -/
theorem refused_iff (s : State β) (i : Instruction) :
    (Refused s i ↔ Forbidden s i) ↔ ¬ Misjudged s i := by
  cases i with
  | sret =>
      exact Iff.comm.trans (belowMachine_iff s.privilegeMode s.status.tsr)
  | csr op dest csr src =>
      exact Iff.comm.trans (belowMachine_iff s.privilegeMode s.status.tvm)
  | csri op dest csr immediate =>
      exact Iff.comm.trans (belowMachine_iff s.privilegeMode s.status.tvm)
  | sfenceVma vaddr asid =>
      show (s.status.tvm = true ↔ BelowMachine _ _) ↔ ¬ (_ ∨ _)
      unfold BelowMachine
      cases s.privilegeMode <;> cases s.status.tvm <;> simp
  | _ => exact iff_of_true Iff.rfl not_false

/-! ## satp -/

variable [SystemBus β]

/-- Reading satp fails in U-mode and under TVM, and otherwise yields its
value. -/
theorem readCsr_satp (config : Config) (s : State β) :
    (readCsr config SATP s.privilegeMode : CoreM β _ _) s =
        .ok s.trap.satp s ∧
        ¬ (s.privilegeMode = .user ∨ s.status.tvm = true) ∨
      (∃ e, (readCsr config SATP s.privilegeMode : CoreM β _ _) s =
        .error e s) ∧ (s.privilegeMode = .user ∨ s.status.tvm = true) := by
  have hsatp : (readSatp : CoreM β _ _) s =
      if s.status.tvm then
        .error (.csrUnavailable 0x180 "satp cannot be read when TVM=1") s
      else .ok s.trap.satp s := by
    unfold readSatp
    rw [Exec.get_bind]
    cases s.status.tvm <;> rfl
  cases hmode : s.privilegeMode with
  | user => exact Or.inr ⟨⟨_, rfl⟩, Or.inl rfl⟩
  | _ =>
      have hread : ∀ level, PrivilegeLevel.supervisor ≤ level →
          (readCsr config SATP level : CoreM β _ _) s =
            (readSatp : CoreM β _ _) s := by
        intro level hlevel
        cases level with
        | user => exact absurd hlevel (by decide)
        | _ => rfl
      rw [hread _ (by decide), hsatp]
      cases s.status.tvm with
      | true => exact Or.inr ⟨⟨_, rfl⟩, Or.inr rfl⟩
      | false => exact Or.inl ⟨rfl, by simp⟩

omit [SystemBus β] in
/-- Writing satp fails in U-mode and under TVM, and otherwise writes the trap
state. -/
theorem writeCsr_satp (value mask : BitVec 32) (s : State β) :
    (writeCsr SATP s.privilegeMode value mask : CoreM β _ _) s =
        .ok () (s.onTrap (Trap.writeSatp value mask)) ∧
        ¬ (s.privilegeMode = .user ∨ s.status.tvm = true) ∨
      (∃ e, (writeCsr SATP s.privilegeMode value mask : CoreM β _ _) s =
        .error e s) ∧ (s.privilegeMode = .user ∨ s.status.tvm = true) := by
  have hsatp : (writeSatp value mask : CoreM β _ _) s =
      if s.status.tvm then
        .error (.accessError (.csrUnavailable 0x180
          "satp cannot be written when TVM=1")) s
      else .ok () (s.onTrap (Trap.writeSatp value mask)) := by
    unfold writeSatp
    rw [Exec.get_bind]
    cases s.status.tvm <;> rfl
  cases hmode : s.privilegeMode with
  | user => exact Or.inr ⟨⟨_, rfl⟩, Or.inl rfl⟩
  | _ =>
      have hwrite : ∀ level, PrivilegeLevel.supervisor ≤ level →
          (writeCsr SATP level value mask : CoreM β _ _) s =
            (writeSatp value mask : CoreM β _ _) s := by
        intro level hlevel
        cases level with
        | user => exact absurd hlevel (by decide)
        | _ => rfl
      rw [hwrite _ (by decide), hsatp]
      cases s.status.tvm with
      | true => exact Or.inr ⟨⟨_, rfl⟩, Or.inr rfl⟩
      | false => exact Or.inl ⟨rfl, by simp⟩

/-- A CSR instruction on satp reads it or writes it, or both. -/
theorem csrOpAt_satp_refused (config : Config) {op : CsrOp} (dest : Specifier)
    {srcValue : Option (BitVec 32)}
    (hsrc : op = .readWrite → srcValue ≠ none) (s : State β)
    (hrefused : s.privilegeMode = .user ∨ s.status.tvm = true) :
    csrOpAt config s.privilegeMode op dest SATP srcValue s =
      .error (.illegalInstruction none) s := by
  unfold csrOpAt
  by_cases hreads : op ≠ .readWrite ∨ dest ≠ 0
  · rw [if_pos hreads]
    obtain ⟨e, he⟩ := ((readCsr_satp config s).resolve_left
      fun hok => hok.2 hrefused).1
    have hread : (csrRead config dest SATP s.privilegeMode :
        CoreM β _ _) s = .error (.illegalInstruction none) s := by
      unfold csrRead
      apply Exec.bind_error
      unfold Exec.mapError
      rw [he]
    exact Exec.bind_error hread
  · rw [if_neg hreads]
    rw [not_or, not_not] at hreads
    cases srcValue with
    | none => exact absurd rfl (hsrc hreads.1)
    | some value =>
        obtain ⟨e, he⟩ := ((writeCsr_satp (csrOperand op value).1
          (csrOperand op value).2 s).resolve_left
          fun hok => hok.2 hrefused).1
        have hwrite : (csrWrite op SATP s.privilegeMode (some value) :
            CoreM β _ _) s = .error (.illegalInstruction none) s := by
          unfold csrWrite
          dsimp only
          unfold Exec.mapError
          rw [he]
        exact Exec.bind_error hwrite

/-- An access to satp that is not refused takes effect. -/
theorem csrOpAt_satp_allowed (config : Config) (op : CsrOp) (dest : Specifier)
    (srcValue : Option (BitVec 32)) (s : State β)
    (hallowed : ¬ (s.privilegeMode = .user ∨ s.status.tvm = true)) :
    ∃ t, csrOpAt config s.privilegeMode op dest SATP srcValue s =
      .ok () t := by
  have hread : ∀ dest : Specifier, (csrRead config dest SATP
      s.privilegeMode : CoreM β _ _) s =
        .ok () (s.onRegisters (Registers.setX dest s.trap.satp)) := by
    intro dest
    obtain ⟨hok, _⟩ := (readCsr_satp config s).resolve_right
      fun hthrow => hallowed hthrow.2
    unfold csrRead
    rw [Exec.bind_apply]
    unfold Exec.mapError
    rw [hok]
    rfl
  have hwrite : ∀ u : State β, u.privilegeMode = s.privilegeMode →
      u.status = s.status →
      ∃ v, (csrWrite op SATP s.privilegeMode srcValue : CoreM β _ _) u =
        .ok () v := by
    intro u hmode hstatus
    cases srcValue with
    | none => exact ⟨u, rfl⟩
    | some value =>
        rw [← hmode, ← hstatus] at hallowed
        obtain ⟨hok, _⟩ := (writeCsr_satp (csrOperand op value).1
          (csrOperand op value).2 u).resolve_right
          fun hthrow => hallowed hthrow.2
        rw [← hmode]
        unfold csrWrite
        dsimp only
        unfold Exec.mapError
        rw [hok]
        exact ⟨_, rfl⟩
  unfold csrOpAt
  by_cases hreads : op ≠ .readWrite ∨ dest ≠ 0
  · rw [if_pos hreads]
    obtain ⟨v, hv⟩ :=
      hwrite (s.onRegisters (Registers.setX dest s.trap.satp)) rfl rfl
    exact ⟨_, (Exec.bind_ok (hread dest)).trans (Exec.bind_ok hv)⟩
  · rw [if_neg hreads]
    obtain ⟨v, hv⟩ := hwrite s rfl rfl
    exact ⟨_, Exec.bind_ok hv⟩

/-- The two together: the access fails exactly in U-mode and under TVM. -/
theorem csrOpAt_satp (config : Config) {op : CsrOp} (dest : Specifier)
    {srcValue : Option (BitVec 32)}
    (hsrc : op = .readWrite → srcValue ≠ none) (s : State β) :
    (s.privilegeMode = .user ∨ s.status.tvm = true →
      csrOpAt config s.privilegeMode op dest SATP srcValue s =
        .error (.illegalInstruction none) s) ∧
    (¬ (s.privilegeMode = .user ∨ s.status.tvm = true) → ∀ e t,
      csrOpAt config s.privilegeMode op dest SATP srcValue s ≠
        .error e t) := by
  constructor
  · exact csrOpAt_satp_refused config dest hsrc s
  · intro hallowed e t
    obtain ⟨u, hu⟩ := csrOpAt_satp_allowed config op dest srcValue s hallowed
    rw [hu]
    simp

/-! ## Execution -/

/-- A test in front of a program that does not fail. -/
theorem refuses {ε σ α : Type} {c : Prop} [Decidable c] {e : ε}
    {m : Exec ε σ α} (hm : Discipline.Infallible m) (s : σ) :
    (c → (if c then Exec.throw e else m) s = .error e s) ∧
      (¬ c → ∀ e' t, (if c then Exec.throw e else m) s ≠ .error e' t) := by
  constructor
  · intro hc
    rw [if_pos hc]
    rfl
  · intro hc e' t
    rw [if_neg hc]
    exact hm s e' t

/-- The source raises the exception exactly when it refuses, with nothing
changed. -/
theorem executeInstruction_guarded [Build] (config : Config)
    {i : Instruction} (hi : i.Guarded) (s : State β) :
    (Refused s i →
      executeInstruction config i s = .error (.illegalInstruction none) s) ∧
    (¬ Refused s i → ∀ e t, executeInstruction config i s ≠ .error e t) := by
  cases i with
  | mret =>
      have hrun : executeInstruction config .mret s =
          (mret : CoreM β _ _) s := rfl
      rw [hrun]
      unfold mret
      apply @refuses Exception (State β) Unit (s.privilegeMode < .machine)
      intro u e t
      cases s.status.mpp <;> simp [Exec.bind_apply, Exec.unwrap, returnTo]
  | sret =>
      have hrun : executeInstruction config .sret s =
          (sret : CoreM β _ _) s := rfl
      rw [hrun]
      unfold sret Refused
      rw [Exec.get_bind]
      cases s.privilegeMode <;> cases s.status.tsr <;>
        simp [returnTo, PrivilegeLevel.lt_def, PrivilegeLevel.toNat]
  | wfi =>
      have hrun : executeInstruction config .wfi s =
          (wfi : CoreM β _ _) s := rfl
      rw [hrun]
      unfold wfi
      exact @refuses Exception (State β) Unit
        (s.privilegeMode < .machine ∧ s.status.tw = true) _ _ _
        (Discipline.infallible_modify _) s
  | sfenceVma vaddr asid =>
      have hrun : executeInstruction config (.sfenceVma vaddr asid) s =
          (sfenceVma vaddr asid : CoreM β _ _) s := rfl
      rw [hrun]
      unfold sfenceVma
      exact @refuses Exception (State β) Unit (s.status.tvm = true) _ _ _
        (Discipline.infallible_modify _) s
  | csr op dest csr src =>
      have hcsr : csr = SATP := hi
      subst hcsr
      rw [executeInstruction_csr]
      have hsrc : op = .readWrite →
          csrSource s (.csr op dest SATP src) ≠ none := by
        intro hop
        unfold csrSource
        simp [hop]
      exact csrOpAt_satp config dest hsrc s
  | csri op dest csr immediate =>
      have hcsr : csr = SATP := hi
      subst hcsr
      rw [executeInstruction_csri]
      have hsrc : op = .readWrite →
          csrSource s (.csri op dest SATP immediate) ≠ none := by
        intro hop
        unfold csrSource
        simp [hop]
      exact csrOpAt_satp config dest hsrc s
  | _ => exact False.elim hi

/-- SFENCE.VMA and WFI, which are implemented as nops. -/
def Instruction.Hint : Instruction → Prop
  | .sfenceVma _ _ | .wfi => True
  | _ => False

/-- A guarded instruction is illegal exactly when the manual forbids it; a
failure leaves everything as it was, and a permitted hint moves the pc. -/
structure LegalExactly [Build] (config : Config) (i : Instruction)
    (s : State β) : Prop where
  illegal : (∃ raw t, executeInstruction config i s =
    .error (.illegalInstruction raw) t) ↔ Forbidden s i
  unchanged : ∀ e t, executeInstruction config i s = .error e t → t = s
  hint : ¬ Forbidden s i → i.Hint → executeInstruction config i s =
    .ok () (s.onRegisters Registers.incrementPc)

/-- A hint that is not refused moves the pc. -/
theorem executeInstruction_hint [Build] (config : Config) {i : Instruction}
    (hi : i.Hint) {s : State β} (hallowed : ¬ Refused s i) :
    executeInstruction config i s =
      .ok () (s.onRegisters Registers.incrementPc) := by
  cases i with
  | sfenceVma vaddr asid =>
      show (sfenceVma vaddr asid : CoreM β _ _) s = _
      unfold sfenceVma
      exact congrFun (if_neg hallowed) s
  | wfi =>
      show (wfi : CoreM β _ _) s = _
      unfold wfi
      exact congrFun (if_neg hallowed) s
  | _ => exact False.elim hi

/-- What the source refuses is what the manual forbids, if and only if the
state is none of those in which M-mode is held to TSR and TVM, or U-mode is
not kept from SFENCE.VMA. -/
theorem legal_exactly_iff [Build] (config : Config) (i : Instruction)
    (hi : i.Guarded) (s : State β) :
    LegalExactly config i s ↔ ¬ Misjudged s i := by
  obtain ⟨hrefused, hallowed⟩ := executeInstruction_guarded config hi s
  have hillegal : (∃ raw t, executeInstruction config i s =
      .error (.illegalInstruction raw) t) ↔ Refused s i := by
    constructor
    · rintro ⟨raw, t, hrun⟩
      by_contra hnot
      exact hallowed hnot _ _ hrun
    · intro h
      exact ⟨_, _, hrefused h⟩
  rw [← refused_iff]
  constructor
  · intro h
    exact hillegal.symm.trans h.illegal
  · intro hagree
    refine ⟨hillegal.trans hagree, ?_, ?_⟩
    · intro e t hrun
      by_cases h : Refused s i
      · rw [hrefused h] at hrun
        cases hrun
        rfl
      · exact absurd hrun (hallowed h e t)
    · intro hpermitted hhint
      exact executeInstruction_hint config hhint
        fun h => hpermitted (hagree.1 h)

/-- U-mode may execute SFENCE.VMA, as long as TVM is clear. -/
theorem not_legal_sfenceVma :
    ¬ @LegalExactly NoDevices _ Build.debug NoDevices.config (.sfenceVma 0 0)
      { State.new NoDevices.config .unit with privilegeMode := .user } := by
  intro h
  obtain ⟨raw, t, hrun⟩ :=
    (@LegalExactly.illegal _ _ Build.debug _ _ _ h).2 (Or.inl rfl)
  cases hrun

/-- WFI in S-mode with TW set is illegal. -/
theorem legal_exactly_wfi :
    @LegalExactly NoDevices _ Build.debug NoDevices.config .wfi
      { State.new NoDevices.config .unit with
        privilegeMode := .supervisor
        status := Status.new.setTw true } :=
  (@legal_exactly_iff NoDevices _ Build.debug NoDevices.config .wfi True.intro
    _).2 not_false

end RedPlanet.Core
