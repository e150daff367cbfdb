import RedPlanet.Core.Legality
import RedPlanet.Core.Memory
import RedPlanet.Core.FaultKinds
import RedPlanet.Verified.Raises

/-!
# Which instructions are illegal

`Illegal` tells, from the state before, whether executing a decoded
instruction raises an illegal instruction exception: the tests of the
privileged instructions, and for CSR instructions the checks of the specifier
and of the register, on the read and on the write.  Execution does not know
the raw instruction and reports none (`illegal_iff`).

The checks are taken one by one.  `readCsrOf_error_iff` and
`writeCsrOf_error_iff` say when a register refuses an access, `ReadDenied` and
`WriteDenied` add the checks of the specifier in front of it, and
`csrOpAt_error_iff` joins the two halves of a CSR operation.  That nothing else
raises the exception is a bound on the errors (`raises_executeInstruction`).
-/

namespace RedPlanet.Core

open RedPlanet.Verified Exec

variable {β ε : Type}

/-! ## What a register refuses -/

/-- The registers that the dispatch names without implementing them. -/
def Csr.Unsupported : Csr → Prop
  | fflags | frm | fcsr | mseccfg | mseccfgh | pmpcfg _ | pmpaddr _
  | tselect | tdata1 | tdata2 | tdata3 | mcontext => True
  | _ => False

/-- The bit of scounteren and mcounteren behind which a counter is. -/
def Csr.enableBit : Csr → Option (Counteren → Bool)
  | cycle | cycleh => some Counteren.cy
  | time | timeh => some Counteren.tm
  | instret | instreth => some Counteren.ir
  | hpmcounter n | hpmcounterh n => some (Counteren.hpm n)
  | _ => none

/-- A counter is disabled for the present mode. -/
def Disabled (s : State β) (check : Counteren → Bool) : Prop :=
  s.privilegeMode < .supervisor ∧ check s.counterControl.scounteren = false ∨
    s.privilegeMode < .machine ∧ check s.counterControl.mcounteren = false

/-- A write of the register fails, apart from the read-only ones. -/
def RefusesWrite (s : State β) (csr : Csr) : Prop :=
  csr.Unsupported ∨ csr = .satp ∧ s.status.tvm = true

/-- A read of the register fails. -/
def RefusesRead (s : State β) (csr : Csr) : Prop :=
  RefusesWrite s csr ∨ ∃ check, csr.enableBit = some check ∧ Disabled s check

/-- A read of a counter is refused just if the counter is disabled for the
mode. -/
theorem checkAccess_error_iff (check : Counteren → Bool)
    (specifier : CsrSpecifier) (name : String) (s : State β) :
    (∃ e t, (checkAccess check specifier name : CoreM β _ _) s =
      .error e t) ↔ Disabled s check := by
  unfold checkAccess Disabled
  rw [get_bind]
  by_cases hs : s.privilegeMode < .supervisor ∧
      (!check s.counterControl.scounteren) = true
  · rw [if_pos hs]
    exact iff_of_true ⟨_, _, rfl⟩ (Or.inl ⟨hs.1, by simpa using hs.2⟩)
  · rw [if_neg hs]
    by_cases hm : s.privilegeMode < .machine ∧
        (!check s.counterControl.mcounteren) = true
    · rw [if_pos hm]
      exact iff_of_true ⟨_, _, rfl⟩ (Or.inr ⟨hm.1, by simpa using hm.2⟩)
    · rw [if_neg hm]
      apply iff_of_false
      · rintro ⟨e, t, hrun⟩
        cases hrun
      · rintro (h | h)
        · exact hs ⟨h.1, by simpa using h.2⟩
        · exact hm ⟨h.1, by simpa using h.2⟩

/-- A read behind the access check. -/
theorem checked_error_iff {α : Type} {check : Counteren → Bool}
    {specifier : CsrSpecifier} {name : String}
    {m : CoreM β CsrAccessError α} (hm : Discipline.Infallible m)
    (s : State β) :
    (∃ e t, (checkAccess check specifier name >>= fun _ => m) s =
      .error e t) ↔ Disabled s check := by
  rw [← checkAccess_error_iff check specifier name]
  constructor
  · rintro ⟨e, t, hrun⟩
    exact ⟨e, t, (bind_infallible_error_iff fun _ => hm).1 hrun⟩
  · rintro ⟨e, t, hrun⟩
    exact ⟨e, t, (bind_infallible_error_iff fun _ => hm).2 hrun⟩

/-! ## Reads and writes of a register -/

/-- Reading a part of the state does not fail. -/
theorem infallible_view (f : State β → BitVec 32) :
    Discipline.Infallible (view f : CoreM β ε _) :=
  infallible_bind infallible_get fun _ => infallible_pure _

theorem infallible_viewTvec (base : Trap → BitVec 32)
    (mode : Trap → VectorMode) :
    Discipline.Infallible (viewTvec base mode : CoreM β ε _) :=
  infallible_bind infallible_get fun _ => Discipline.infallible_unwrap _

/-- Writing a trap vector does not fail; a mode that is not supported is
ignored. -/
theorem infallible_putTvec (write : Trap → Option Trap) :
    Discipline.Infallible (putTvec write : CoreM β ε _) :=
  infallible_bind infallible_get fun _ =>
    infallible_bind (Discipline.infallible_unwrap _) fun _ =>
      Discipline.infallible_modify _

theorem infallible_readMhpm (n : Nat) :
    Discipline.Infallible (readMhpm n : CoreM β ε _) :=
  infallible_bind (Discipline.infallible_assert _) fun _ => infallible_pure _

/-- Of a counter only the enable bits can refuse a read. -/
theorem refusesRead_counter {csr : Csr} {check : Counteren → Bool}
    (h : csr.enableBit = some check) (s : State β) :
    RefusesRead s csr ↔ Disabled s check := by
  have hwrite : ¬ RefusesWrite s csr := by
    cases csr <;> first
      | cases h; done
      | rintro (hbad | ⟨hbad, _⟩) <;> cases hbad
  constructor
  · rintro (hrefused | ⟨check', hcheck, hdisabled⟩)
    · exact absurd hrefused hwrite
    · rw [h] at hcheck
      cases hcheck
      exact hdisabled
  · intro hdisabled
    exact Or.inr ⟨check, h, hdisabled⟩

/-- The other registers take every write. -/
theorem not_refusesWrite {csr : Csr} (hsupported : ¬ csr.Unsupported)
    (hsatp : csr ≠ .satp) (s : State β) : ¬ RefusesWrite s csr := by
  rintro (hbad | ⟨hbad, _⟩)
  · exact hsupported hbad
  · exact hsatp hbad

/-- The other registers can always be read. -/
theorem not_refusesRead {csr : Csr} (hsupported : ¬ csr.Unsupported)
    (hsatp : csr ≠ .satp) (hbit : csr.enableBit = none) (s : State β) :
    ¬ RefusesRead s csr := by
  rintro (hbad | ⟨check, hcheck, _⟩)
  · exact not_refusesWrite hsupported hsatp s hbad
  · rw [hbit] at hcheck
    cases hcheck

/-- satp is refused just under TVM. -/
theorem readSatp_error_iff (s : State β) :
    (∃ e t, (readSatp : CoreM β _ _) s = .error e t) ↔
      s.status.tvm = true := by
  unfold readSatp
  rw [get_bind]
  cases s.status.tvm with
  | true => exact iff_of_true ⟨_, _, rfl⟩ rfl
  | false =>
      apply iff_of_false
      · rintro ⟨e, t, hrun⟩
        cases hrun
      · decide

theorem writeSatp_error_iff (value mask : BitVec 32) (s : State β) :
    (∃ e t, (writeSatp value mask : CoreM β _ _) s = .error e t) ↔
      s.status.tvm = true := by
  unfold writeSatp
  rw [get_bind]
  cases s.status.tvm with
  | true => exact iff_of_true ⟨_, _, rfl⟩ rfl
  | false =>
      apply iff_of_false
      · rintro ⟨e, t, hrun⟩
        cases hrun
      · decide

theorem refusesWrite_satp (s : State β) :
    RefusesWrite s .satp ↔ s.status.tvm = true := by
  constructor
  · rintro (hbad | ⟨_, h⟩)
    · cases hbad
    · exact h
  · intro h
    exact Or.inr ⟨rfl, h⟩

variable [SystemBus β]

theorem infallible_busRead (address : BitVec 32) (buf : List (BitVec 8)) :
    Discipline.Infallible (busRead address buf : CoreM β ε _) := by
  intro s e t h
  unfold busRead at h
  dsimp only [State.record] at h
  cases hread : SystemBus.read address buf s.bus with
  | none =>
      rw [hread] at h
      cases h
  | some reply =>
      rw [hread] at h
      cases h

theorem infallible_readMtime (config : Config) (f : BitVec 64 → BitVec 32) :
    Discipline.Infallible
      (readMtime config >>= fun mtime => pure (f mtime) : CoreM β ε _) :=
  infallible_bind
    (infallible_bind (infallible_busRead _ _) fun _ => infallible_pure _)
    fun _ => infallible_pure _

omit [SystemBus β] in
/-- A performance counter is refused as the others are. -/
theorem readHpmcounter_error_iff {n : Nat} (h : 3 ≤ n ∧ n ≤ 31)
    (s : State β) :
    (∃ e t, (readHpmcounter n : CoreM β _ _) s = .error e t) ↔
      Disabled s (Counteren.hpm n) := by
  have hassert : (assertNumber n : CoreM β CsrAccessError Unit) = pure () := by
    unfold assertNumber Exec.assert
    rw [if_pos (decide_eq_true h)]
  have hrun : (readHpmcounter n : CoreM β _ _) s =
      (checkAccess (Counteren.hpm n) (HPMCOUNTER3 + BitVec.ofNat 16 n - 3)
        ("hpmcounter" ++ toString n) >>= fun _ => readMhpm n) s := by
    unfold readHpmcounter
    rw [hassert]
    rfl
  rw [hrun]
  exact checked_error_iff (infallible_readMhpm n) s

/-- A read of a register fails exactly when the register refuses it. -/
theorem readCsrOf_error_iff (config : Config) (specifier : CsrSpecifier)
    {csr : Csr} (h : csr.Numbered) (s : State β) :
    (∃ e t, (readCsrOf config specifier csr : CoreM β _ _) s = .error e t) ↔
      RefusesRead s csr := by
  have hcounter : ∀ check (specifier : CsrSpecifier) name
      {m : CoreM β CsrAccessError (BitVec 32)}, Discipline.Infallible m →
      csr.enableBit = some check →
      ((∃ e t, (checkAccess check specifier name >>= fun _ => m) s =
        .error e t) ↔ RefusesRead s csr) := by
    intro check specifier name m hm hbit
    rw [refusesRead_counter hbit]
    exact checked_error_iff hm s
  cases csr with
  | hpmcounter n =>
      rw [refusesRead_counter rfl]
      exact readHpmcounter_error_iff h s
  | hpmcounterh n =>
      rw [refusesRead_counter rfl]
      exact readHpmcounter_error_iff h s
  | cycle => exact hcounter _ _ _ (infallible_view _) rfl
  | cycleh => exact hcounter _ _ _ (infallible_view _) rfl
  | instret => exact hcounter _ _ _ (infallible_view _) rfl
  | instreth => exact hcounter _ _ _ (infallible_view _) rfl
  | time => exact hcounter _ _ _ (infallible_readMtime config _) rfl
  | timeh => exact hcounter _ _ _ (infallible_readMtime config _) rfl
  | satp =>
      have hsatp : RefusesRead s .satp ↔ s.status.tvm = true := by
        rw [← refusesWrite_satp]
        constructor
        · rintro (hrefused | ⟨_, hbad, _⟩)
          · exact hrefused
          · cases hbad
        · exact Or.inl
      rw [hsatp]
      exact readSatp_error_iff s
  | _ =>
      first
        | exact iff_of_true ⟨_, _, rfl⟩ (Or.inl (Or.inl True.intro))
        | apply iff_of_false
          · rintro ⟨e, t, hrun⟩
            first
              | exact infallible_view _ s e t hrun
              | exact infallible_pure _ s e t hrun
              | exact infallible_readMhpm _ s e t hrun
              | exact infallible_viewTvec _ _ s e t hrun
          · exact not_refusesRead (by exact not_false) (by simp) rfl s

omit [SystemBus β] in
/-- A write of a writable register fails exactly when the register refuses
it. -/
theorem writeCsrOf_error_iff (specifier : CsrSpecifier)
    (value mask : BitVec 32) {csr : Csr} (hwritable : csr.readOnly = false)
    (s : State β) :
    (∃ e t, (writeCsrOf specifier value mask csr : CoreM β _ _) s =
      .error e t) ↔ RefusesWrite s csr := by
  cases csr with
  | satp =>
      rw [refusesWrite_satp]
      exact writeSatp_error_iff value mask s
  | _ =>
      first
        | cases hwritable; done
        | exact iff_of_true ⟨_, _, rfl⟩ (Or.inl True.intro)
        | apply iff_of_false
          · rintro ⟨e, t, hrun⟩
            first
              | exact Discipline.infallible_modify _ s e t hrun
              | exact infallible_pure _ s e t hrun
              | exact Discipline.infallible_assert _ s e t hrun
              | exact infallible_putTvec _ s e t hrun
          · exact not_refusesWrite (by exact not_false) (by simp) s

/-! ## CSR accesses -/

/-- The checks of the specifier that come before the dispatch. -/
def SpecifierDenied (level : PrivilegeLevel) (specifier : CsrSpecifier) :
    Prop :=
  isValid specifier = false ∨
    level.toNat < (requiredPrivilegeLevel specifier).toNat ∨
    Csr.ofSpecifier specifier = none

/-- A read is denied by the specifier or by the register itself. -/
def ReadDenied (s : State β) (specifier : CsrSpecifier) : Prop :=
  SpecifierDenied s.privilegeMode specifier ∨
    ∃ csr, Csr.ofSpecifier specifier = some csr ∧ RefusesRead s csr

/-- A write is denied by the specifier, because the register is read-only, or
by the register itself. -/
def WriteDenied (s : State β) (specifier : CsrSpecifier) : Prop :=
  SpecifierDenied s.privilegeMode specifier ∨ isReadOnly specifier = true ∨
    ∃ csr, Csr.ofSpecifier specifier = some csr ∧ RefusesWrite s csr

omit [SystemBus β] in
/-- Past the checks, an access is that of the register. -/
theorem checkCsrAccess_eq (level : PrivilegeLevel) (specifier : CsrSpecifier) :
    (SpecifierDenied level specifier ∧
        ((∃ e, (checkCsrAccess specifier level : CoreM β _ Unit) =
            Exec.throw e) ∨
          (checkCsrAccess specifier level : CoreM β _ Unit) = pure () ∧
            Csr.ofSpecifier specifier = none)) ∨
      ∃ csr, Csr.ofSpecifier specifier = some csr ∧
        ¬ SpecifierDenied level specifier ∧
        (checkCsrAccess specifier level : CoreM β _ Unit) = pure () := by
  unfold checkCsrAccess SpecifierDenied
  cases hvalid : isValid specifier with
  | false => exact Or.inl ⟨Or.inl rfl, Or.inl ⟨_, rfl⟩⟩
  | true =>
      by_cases hlevel : level.toNat < (requiredPrivilegeLevel specifier).toNat
      · refine Or.inl ⟨Or.inr (Or.inl hlevel), Or.inl ?_⟩
        simp only [hlevel]
        exact ⟨_, rfl⟩
      · cases hcsr : Csr.ofSpecifier specifier with
        | none =>
            refine Or.inl ⟨Or.inr (Or.inr rfl), Or.inr ⟨?_, rfl⟩⟩
            simp only [hlevel]
            rfl
        | some csr =>
            refine Or.inr ⟨csr, rfl, ?_, ?_⟩
            · rintro (h | h | h)
              · cases h
              · exact hlevel h
              · cases h
            · simp only [hlevel]
              rfl

/-- A CSR read fails just where it is denied. -/
theorem readCsr_error_iff (config : Config) (specifier : CsrSpecifier)
    (s : State β) :
    (∃ e t, (readCsr config specifier s.privilegeMode : CoreM β _ _) s =
      .error e t) ↔ ReadDenied s specifier := by
  unfold readCsr
  rcases checkCsrAccess_eq (β := β) s.privilegeMode specifier with
    ⟨hdenied, ⟨e, he⟩ | ⟨hpass, hnone⟩⟩ | ⟨csr, hcsr, hallowed, hpass⟩
  · rw [he]
    exact iff_of_true ⟨e, s, rfl⟩ (Or.inl hdenied)
  · rw [hpass, hnone]
    exact iff_of_true ⟨_, s, rfl⟩ (Or.inl hdenied)
  · rw [hpass, hcsr]
    have hread := readCsrOf_error_iff config specifier
      (Csr.ofSpecifier_sound hcsr).2.2 s
    refine hread.trans ?_
    constructor
    · intro hrefused
      exact Or.inr ⟨csr, hcsr, hrefused⟩
    · rintro (hdenied | ⟨csr', hcsr', hrefused⟩)
      · exact absurd hdenied hallowed
      · rw [hcsr] at hcsr'
        cases hcsr'
        exact hrefused

omit [SystemBus β] in
/-- A CSR write fails just where it is denied, whatever is written. -/
theorem writeCsr_error_iff (specifier : CsrSpecifier) (value mask : BitVec 32)
    (s : State β) :
    (∃ e t, (writeCsr specifier s.privilegeMode value mask :
      CoreM β _ _) s = .error e t) ↔ WriteDenied s specifier := by
  unfold writeCsr
  rcases checkCsrAccess_eq (β := β) s.privilegeMode specifier with
    ⟨hdenied, ⟨e, he⟩ | ⟨hpass, hnone⟩⟩ | ⟨csr, hcsr, hallowed, hpass⟩
  · rw [he]
    exact iff_of_true ⟨_, s, rfl⟩ (Or.inl hdenied)
  · rw [hpass, hnone]
    refine iff_of_true ?_ (Or.inl hdenied)
    cases isReadOnly specifier <;> exact ⟨_, s, rfl⟩
  · rw [hpass, hcsr]
    have hsound := Csr.ofSpecifier_sound hcsr
    cases hreadOnly : isReadOnly specifier with
    | true => exact iff_of_true ⟨_, s, rfl⟩ (Or.inr (Or.inl hreadOnly))
    | false =>
        have hwrite := writeCsrOf_error_iff specifier value mask
          (hsound.2.1.symm.trans hreadOnly) s
        refine hwrite.trans ?_
        constructor
        · intro hrefused
          exact Or.inr (Or.inr ⟨csr, hcsr, hrefused⟩)
        · rintro (hdenied | hbad | ⟨csr', hcsr', hrefused⟩)
          · exact absurd hdenied hallowed
          · rw [hreadOnly] at hbad
            cases hbad
          · rw [hcsr] at hcsr'
            cases hcsr'
            exact hrefused

/-! ## CSR instructions -/

/-- The register is read from the device that holds mtime. -/
def Csr.OfTime : Csr → Prop
  | time | timeh => True
  | _ => False

/-- A read of the time panics, as there is nothing at the address of mtime. -/
def TimeLost (config : Config) (s : State β) (specifier : CsrSpecifier) :
    Prop :=
  (∃ csr, Csr.ofSpecifier specifier = some csr ∧ csr.OfTime) ∧
    SystemBus.read config.mtimeAddress (List.replicate 8 0) s.bus = none

omit [SystemBus β] in
/-- A counter that is enabled passes the check. -/
theorem checkAccess_ok {check : Counteren → Bool} {s : State β}
    (h : ¬ Disabled s check) (specifier : CsrSpecifier) (name : String) :
    (checkAccess check specifier name : CoreM β _ _) s = .ok () s := by
  have hs : ¬ (s.privilegeMode < .supervisor ∧
      (!check s.counterControl.scounteren) = true) := by
    intro hbad
    exact h (Or.inl ⟨hbad.1, by simpa using hbad.2⟩)
  have hm : ¬ (s.privilegeMode < .machine ∧
      (!check s.counterControl.mcounteren) = true) := by
    intro hbad
    exact h (Or.inr ⟨hbad.1, by simpa using hbad.2⟩)
  unfold checkAccess
  rw [get_bind, if_neg hs, if_neg hm]
  rfl

theorem readMtime_ok_iff (config : Config) (f : BitVec 64 → BitVec 32)
    (s : State β) :
    (∃ v t, (readMtime config >>= fun mtime => pure (f mtime) :
      CoreM β ε _) s = .ok v t) ↔
      SystemBus.read config.mtimeAddress (List.replicate 8 0) s.bus ≠
        none := by
  cases h : SystemBus.read config.mtimeAddress (List.replicate 8 0) s.bus with
  | none =>
      have hread : (busRead config.mtimeAddress (List.replicate 8 0) :
          CoreM β ε _) s =
            .panic (s.record (.access config.mtimeAddress 8)) := by
        unfold busRead
        dsimp only [State.record]
        rw [h]
        rfl
      have hrun : (readMtime config >>= fun mtime => pure (f mtime) :
          CoreM β ε _) s =
            .panic (s.record (.access config.mtimeAddress 8)) :=
        bind_panic (bind_panic hread)
      apply iff_of_false
      · rintro ⟨v, t, hok⟩
        rw [hrun] at hok
        cases hok
      · exact not_not_intro rfl
  | some reply =>
      obtain ⟨buf, bus, calls⟩ := reply
      apply iff_of_true
      · exact ⟨_, _, bind_ok (bind_ok (busRead_ok h))⟩
      · simp

omit [SystemBus β] in
theorem readHpmcounter_ok {n : Nat} (h : 3 ≤ n ∧ n ≤ 31) {s : State β}
    (hallowed : ¬ Disabled s (Counteren.hpm n)) :
    (readHpmcounter n : CoreM β _ _) s = .ok 0 s := by
  have hassert : ∀ {ε : Type}, (assertNumber n : CoreM β ε Unit) s =
      .ok () s := by
    intro ε
    unfold assertNumber Exec.assert
    rw [if_pos (decide_eq_true h)]
    rfl
  exact (bind_ok hassert).trans ((bind_ok (checkAccess_ok hallowed _ _)).trans
    (bind_ok hassert))

/-- A read-only register that is not refused is read, unless it is the time
and the time is lost. -/
theorem readCsrOf_readOnly (config : Config) (specifier : CsrSpecifier)
    {csr : Csr} (hnumbered : csr.Numbered) (hreadOnly : csr.readOnly = true)
    {s : State β} (hallowed : ¬ RefusesRead s csr) :
    (∃ v t, (readCsrOf config specifier csr : CoreM β _ _) s = .ok v t) ↔
      ¬ (csr.OfTime ∧ SystemBus.read config.mtimeAddress
        (List.replicate 8 0) s.bus = none) := by
  have hpass : ∀ check, csr.enableBit = some check → ¬ Disabled s check := by
    intro check hbit
    rw [← refusesRead_counter hbit]
    exact hallowed
  have hcounter : ∀ check, csr.enableBit = some check →
      ∀ (specifier : CsrSpecifier) name {m : CoreM β _ (BitVec 32)},
      (checkAccess check specifier name >>= fun _ => m) s = m s := by
    intro check hbit specifier name m
    exact bind_ok (checkAccess_ok (hpass check hbit) specifier name)
  have htime : ∀ f : BitVec 64 → BitVec 32, csr.OfTime →
      ((∃ v t, (readMtime config >>= fun mtime => pure (f mtime) :
        CoreM β CsrAccessError _) s = .ok v t) ↔
      ¬ (csr.OfTime ∧ SystemBus.read config.mtimeAddress
        (List.replicate 8 0) s.bus = none)) := by
    intro f hof
    rw [readMtime_ok_iff, not_and]
    exact ⟨fun h _ => h, fun h => h hof⟩
  have hother : ¬ csr.OfTime → (∃ v t,
      (readCsrOf config specifier csr : CoreM β _ _) s = .ok v t) →
      ((∃ v t, (readCsrOf config specifier csr : CoreM β _ _) s =
        .ok v t) ↔
      ¬ (csr.OfTime ∧ SystemBus.read config.mtimeAddress
        (List.replicate 8 0) s.bus = none)) := by
    intro hnot hread
    exact iff_of_true hread fun h => hnot h.1
  cases csr with
  | time =>
      show (∃ v t, (readTime config : CoreM β _ _) s = .ok v t) ↔ _
      unfold readTime
      rw [hcounter _ rfl]
      exact htime _ True.intro
  | timeh =>
      show (∃ v t, (readTimeh config : CoreM β _ _) s = .ok v t) ↔ _
      unfold readTimeh
      rw [hcounter _ rfl]
      exact htime _ True.intro
  | cycle => exact hother id ⟨_, _, hcounter _ rfl _ _⟩
  | cycleh => exact hother id ⟨_, _, hcounter _ rfl _ _⟩
  | instret => exact hother id ⟨_, _, hcounter _ rfl _ _⟩
  | instreth => exact hother id ⟨_, _, hcounter _ rfl _ _⟩
  | hpmcounter n =>
      exact hother id ⟨_, _, readHpmcounter_ok hnumbered (hpass _ rfl)⟩
  | hpmcounterh n =>
      exact hother id ⟨_, _, readHpmcounter_ok hnumbered (hpass _ rfl)⟩
  | _ =>
      first
        | exact hother id ⟨_, _, rfl⟩
        | cases hreadOnly

/-- A CSR access that was allowed and did not happen can only be one of the
time: the registers that may be read but not written are the read-only
ones. -/
theorem readCsr_ok_iff (config : Config) {specifier : CsrSpecifier}
    {s : State β} (hread : ¬ ReadDenied s specifier)
    (hwrite : WriteDenied s specifier) :
    (∃ v t, (readCsr config specifier s.privilegeMode : CoreM β _ _) s =
      .ok v t) ↔ ¬ TimeLost config s specifier := by
  unfold readCsr
  rcases checkCsrAccess_eq (β := β) s.privilegeMode specifier with
    ⟨hdenied, _⟩ | ⟨csr, hcsr, hallowed, hpass⟩
  · exact absurd (Or.inl hdenied) hread
  · have hsound := Csr.ofSpecifier_sound hcsr
    have hkept : ¬ RefusesRead s csr := by
      intro hrefused
      exact hread (Or.inr ⟨csr, hcsr, hrefused⟩)
    have hreadOnly : csr.readOnly = true := by
      rcases hwrite with hdenied | hreadOnly | ⟨csr', hcsr', hrefused⟩
      · exact absurd hdenied hallowed
      · exact hsound.2.1.symm.trans hreadOnly
      · rw [hcsr] at hcsr'
        cases hcsr'
        exact absurd (Or.inl hrefused) hkept
    rw [hpass, hcsr]
    refine (readCsrOf_readOnly config specifier hsound.2.2 hreadOnly
      hkept).trans ?_
    unfold TimeLost
    rw [hcsr]
    constructor
    · rintro h ⟨⟨csr', hcsr', hof⟩, hnone⟩
      cases hcsr'
      exact h ⟨hof, hnone⟩
    · rintro h ⟨hof, hnone⟩
      exact h ⟨⟨csr, rfl, hof⟩, hnone⟩

/-- A CSR operation is illegal: its read is denied, or it comes to its write
and that is denied. -/
def CsrIllegal (config : Config) (s : State β) (op : CsrOp)
    (dest : Specifier) (specifier : CsrSpecifier)
    (srcValue : Option (BitVec 32)) : Prop :=
  (op ≠ .readWrite ∨ dest ≠ 0) ∧ ReadDenied s specifier ∨
    srcValue ≠ none ∧ WriteDenied s specifier ∧
      (op ≠ .readWrite ∨ dest ≠ 0 → ¬ TimeLost config s specifier)

omit [SystemBus β] in
theorem infallible_updateRegisters (f : Registers → Registers) :
    Discipline.Infallible (updateRegisters f : CoreM β ε Unit) :=
  Discipline.infallible_modify _

/-- The first half of a CSR operation fails where the read is denied. -/
theorem csrRead_error_iff (config : Config) (dest : Specifier)
    (specifier : CsrSpecifier) (s : State β) :
    (∃ e t, (csrRead config dest specifier s.privilegeMode :
      CoreM β _ _) s = .error e t) ↔ ReadDenied s specifier := by
  rw [← readCsr_error_iff config specifier s]
  unfold csrRead
  constructor
  · rintro ⟨e, t, hrun⟩
    obtain ⟨e', hread, _⟩ := mapError_error_iff.1
      ((bind_infallible_error_iff fun _ => infallible_updateRegisters _).1 hrun)
    exact ⟨e', t, hread⟩
  · rintro ⟨e, t, hread⟩
    exact ⟨_, t, bind_error (mapError_error_iff.2 ⟨e, hread, rfl⟩)⟩

theorem csrRead_ok_iff (config : Config) (dest : Specifier)
    (specifier : CsrSpecifier) (s : State β) :
    (∃ u, (csrRead config dest specifier s.privilegeMode :
      CoreM β _ _) s = .ok () u) ↔
      ∃ v t, (readCsr config specifier s.privilegeMode : CoreM β _ _) s =
        .ok v t := by
  unfold csrRead
  constructor
  · rintro ⟨u, hrun⟩
    cases hread : (readCsr config specifier s.privilegeMode :
        CoreM β _ _) s with
    | ok v t => exact ⟨v, t, rfl⟩
    | error e t =>
        rw [bind_error (mapError_error_iff.2 ⟨e, hread, rfl⟩)] at hrun
        cases hrun
    | panic t =>
        rw [bind_apply] at hrun
        unfold mapError at hrun
        rw [hread] at hrun
        cases hrun
  · rintro ⟨v, t, hread⟩
    exact ⟨_, bind_ok (mapError_ok_iff.2 hread)⟩

omit [SystemBus β] in
/-- The second half fails where there is something to write and the write is
denied. -/
theorem csrWrite_error_iff (op : CsrOp) (specifier : CsrSpecifier)
    (srcValue : Option (BitVec 32)) (s : State β) :
    (∃ e t, (csrWrite op specifier s.privilegeMode srcValue :
      CoreM β _ _) s = .error e t) ↔
      srcValue ≠ none ∧ WriteDenied s specifier := by
  unfold csrWrite
  cases srcValue with
  | none =>
      apply iff_of_false
      · rintro ⟨e, t, hrun⟩
        cases hrun
      · rintro ⟨h, _⟩
        exact h rfl
  | some value =>
      rw [← writeCsr_error_iff specifier (csrOperand op value).1
        (csrOperand op value).2 s]
      constructor
      · rintro ⟨e, t, hrun⟩
        obtain ⟨e', hwrite, _⟩ := mapError_error_iff.1 hrun
        exact ⟨by simp, e', t, hwrite⟩
      · rintro ⟨_, e, t, hwrite⟩
        exact ⟨_, t, mapError_error_iff.2 ⟨e, hwrite, rfl⟩⟩

omit [SystemBus β] in
/-- What a write is denied depends on the mode and TVM alone. -/
theorem writeDenied_congr {s u : State β}
    (hmode : u.privilegeMode = s.privilegeMode) (hstatus : u.status = s.status)
    (specifier : CsrSpecifier) :
    WriteDenied u specifier ↔ WriteDenied s specifier := by
  unfold WriteDenied RefusesWrite
  rw [hmode, hstatus]

/-- A read that succeeds leaves the mode and the status word. -/
theorem csrRead_frame {config : Config} {dest : Specifier}
    {specifier : CsrSpecifier} {level : PrivilegeLevel} {s u : State β}
    (h : (csrRead config dest specifier level : CoreM β _ _) s = .ok () u) :
    u.privilegeMode = s.privilegeMode ∧ u.status = s.status := by
  have hframe : MemFrame BusContract.trivial s
      ((csrRead config dest specifier level : CoreM β _ _) s).state := by
    let _ : Build := Build.debug
    exact ((executes_memory.moves config).tame_csrRead dest specifier level).step s
  rw [h] at hframe
  exact ⟨hframe.privilegeMode, hframe.status⟩

omit [SystemBus β] in
/-- What a CSR operation does after its read. -/
theorem csrRest_error_iff {op : CsrOp} {specifier : CsrSpecifier}
    {srcValue : Option (BitVec 32)} {u s : State β}
    (hmode : u.privilegeMode = s.privilegeMode)
    (hstatus : u.status = s.status) :
    (∃ e t, ((csrWrite op specifier s.privilegeMode srcValue :
      CoreM β _ _) >>= fun _ => updateRegisters Registers.incrementPc) u =
        .error e t) ↔ srcValue ≠ none ∧ WriteDenied s specifier := by
  rw [← writeDenied_congr hmode hstatus, ← hmode,
    ← csrWrite_error_iff op specifier srcValue u]
  have hend : ∀ _ : Unit, Discipline.Infallible (updateRegisters
      Registers.incrementPc : CoreM β Exception Unit) :=
    fun _ => infallible_updateRegisters _
  constructor
  · rintro ⟨e, t, hrun⟩
    exact ⟨e, t, (bind_infallible_error_iff hend).1 hrun⟩
  · rintro ⟨e, t, hrun⟩
    exact ⟨e, t, (bind_infallible_error_iff hend).2 hrun⟩

/-- A CSR operation fails just where one of its halves does. -/
theorem csrOpAt_error_iff (config : Config) (op : CsrOp) (dest : Specifier)
    (specifier : CsrSpecifier) (srcValue : Option (BitVec 32))
    (s : State β) :
    (∃ e t, (csrOpAt config s.privilegeMode op dest specifier srcValue :
      CoreM β _ _) s = .error e t) ↔
      CsrIllegal config s op dest specifier srcValue := by
  unfold csrOpAt CsrIllegal
  by_cases hreads : op ≠ .readWrite ∨ dest ≠ 0
  · rw [if_pos hreads]
    constructor
    · rintro ⟨e, t, hrun⟩
      rcases bind_error_iff.1 hrun with hread | ⟨a, u, hread, hrest⟩
      · exact Or.inl ⟨hreads,
          (csrRead_error_iff config dest specifier s).1 ⟨e, t, hread⟩⟩
      · by_cases hdenied : ReadDenied s specifier
        · exact Or.inl ⟨hreads, hdenied⟩
        · obtain ⟨hmode, hstatus⟩ := csrRead_frame hread
          obtain ⟨hwrites, hwrite⟩ :=
            (csrRest_error_iff hmode hstatus).1 ⟨e, t, hrest⟩
          have hok := (csrRead_ok_iff config dest specifier s).1 ⟨u, hread⟩
          exact Or.inr ⟨hwrites, hwrite,
            fun _ => (readCsr_ok_iff config hdenied hwrite).1 hok⟩
    · rintro (⟨_, hdenied⟩ | ⟨hwrites, hwrite, htime⟩)
      · obtain ⟨e, t, hread⟩ :=
          (csrRead_error_iff config dest specifier s).2 hdenied
        exact ⟨e, t, bind_error hread⟩
      · by_cases hdenied : ReadDenied s specifier
        · obtain ⟨e, t, hread⟩ :=
            (csrRead_error_iff config dest specifier s).2 hdenied
          exact ⟨e, t, bind_error hread⟩
        · obtain ⟨u, hread⟩ := (csrRead_ok_iff config dest specifier s).2
            ((readCsr_ok_iff config hdenied hwrite).2 (htime hreads))
          obtain ⟨hmode, hstatus⟩ := csrRead_frame hread
          obtain ⟨e, t, hrest⟩ :=
            (csrRest_error_iff hmode hstatus).2 ⟨hwrites, hwrite⟩
          exact ⟨e, t, (bind_ok hread).trans hrest⟩
  · rw [if_neg hreads]
    refine (csrRest_error_iff rfl rfl).trans ?_
    constructor
    · rintro ⟨hwrites, hwrite⟩
      exact Or.inr ⟨hwrites, hwrite, fun h => absurd h hreads⟩
    · rintro (⟨h, _⟩ | ⟨hwrites, hwrite, _⟩)
      · exact absurd h hreads
      · exact ⟨hwrites, hwrite⟩

/-- CSR operations do not know the raw instruction. -/
theorem raises_csrOpAt (config : Config) (level : PrivilegeLevel) (op : CsrOp)
    (dest : Specifier) (specifier : CsrSpecifier)
    (srcValue : Option (BitVec 32)) :
    Raises (· = .illegalInstruction none)
      (csrOpAt config level op dest specifier srcValue :
        CoreM β Exception Unit) := by
  have hread : Raises (· = .illegalInstruction none)
      (csrRead config dest specifier level : CoreM β Exception Unit) := by
    apply Raises.bind
    · exact Raises.mapError (P := (· = Exception.illegalInstruction none))
        (fun _ => rfl) _
    · intro _
      exact raises_modify _ _
  have hwrite : Raises (· = .illegalInstruction none)
      (csrWrite op specifier level srcValue : CoreM β Exception Unit) := by
    unfold csrWrite
    cases srcValue with
    | none => exact Raises.of_infallible (infallible_pure ())
    | some value =>
        exact Raises.mapError (P := (· = Exception.illegalInstruction none))
          (fun _ => rfl) _
  have hrest : Raises (· = .illegalInstruction none)
      ((csrWrite op specifier level srcValue : CoreM β Exception Unit) >>=
        fun _ => updateRegisters Registers.incrementPc) :=
    Raises.bind hwrite fun _ => raises_modify _ _
  unfold csrOpAt
  apply Raises.ite
  · intro _
    exact Raises.bind hread fun _ => hrest
  · intro _
    exact hrest

/-! ## Instructions -/

/-- Execution finds the instruction illegal. -/
def Illegal (config : Config) (s : State β) : Instruction → Prop
  | .csr op dest specifier src =>
      CsrIllegal config s op dest specifier
        (csrSource s (.csr op dest specifier src))
  | .csri op dest specifier immediate =>
      CsrIllegal config s op dest specifier
        (csrSource s (.csri op dest specifier immediate))
  | .mret => Refused s .mret
  | .sret => Refused s .sret
  | .wfi => Refused s .wfi
  | .sfenceVma vaddr asid => Refused s (.sfenceVma vaddr asid)
  | _ => False

/-- The instructions that may be illegal when they are executed. -/
def Instruction.MayBeIllegal : Instruction → Prop
  | .csr _ _ _ _ | .csri _ _ _ _ | .mret | .sret | .wfi
  | .sfenceVma _ _ => True
  | _ => False

omit [SystemBus β] in
/-- A jump to `newPc`, if that is aligned. -/
theorem raises_jump (newPc : BitVec 32) (f : Registers → Registers) :
    Raises (fun e => e.code ≠ .illegalInstruction)
      (if !isAligned WORD newPc then
          Exec.throw (.instructionAddressMisaligned newPc)
        else updateRegisters f : CoreM β Exception Unit) := by
  apply Raises.ite
  · intro _
    exact raises_throw (by simp [Exception.code])
  · intro _
    exact raises_modify _ _

/-- The errors of memory accesses are not about the instruction. -/
theorem raised_code (i : Instruction) (address : BitVec 32)
    (err : MemoryError) :
    (i.raised address err).code ≠ .illegalInstruction := by
  have hload : (loadException address err).code ≠ .illegalInstruction := by
    cases err <;> simp [loadException, Exception.code]
  have hstore : (storeException address err).code ≠ .illegalInstruction := by
    cases err <;> simp [storeException, Exception.code]
  have hamo : (amoException address err).code ≠ .illegalInstruction := by
    cases err <;> simp [amoException, Exception.code]
  cases i with
  | load => exact hload
  | amo op =>
      cases op with
      | lr => exact hload
      | sc => exact hstore
      | _ => exact hamo
  | _ => exact hstore

variable [Build]

/-- The other instructions are never illegal once they are decoded. -/
theorem raises_executeInstruction (config : Config) {i : Instruction}
    (hi : ¬ i.MayBeIllegal) :
    Raises (fun e => e.code ≠ .illegalInstruction)
      (executeInstruction config i : CoreM β _ _) := by
  have hmemory : (∀ s : State β, ∃ address,
      i.address s.registers = some address) →
      Raises (fun e => e.code ≠ .illegalInstruction)
        (executeInstruction config i : CoreM β _ _) := by
    intro haddress s e t hrun
    obtain ⟨address, h⟩ := haddress s
    obtain ⟨err, _, he⟩ := (executeInstruction_raised_iff h).1 ⟨t, hrun⟩
    rw [← he]
    exact raised_code i address err
  cases i with
  | opImm op dest src immediate => cases op <;> exact raises_modify _ _
  | opShiftImm op dest src shiftAmountU5 =>
      have hshift : ∀ f, Raises (fun e => e.code ≠ .illegalInstruction)
          (regShamtOp f dest src shiftAmountU5 : CoreM β _ _) := by
        intro f
        exact Raises.of_infallible (infallible_bind
          (Discipline.infallible_assert _)
          fun _ => infallible_updateRegisters _)
      cases op <;> exact hshift _
  | auipc dest immediate => exact raises_modify _ _
  | lui dest immediate => exact raises_modify _ _
  | op op dest src1 src2 => exact raises_modify _ _
  | fence predecessor successor => exact raises_modify _ _
  | jal dest offset => exact Raises.get_bind fun _ => raises_jump _ _
  | jalr dest base offset => exact Raises.get_bind fun _ => raises_jump _ _
  | branch condition src1 src2 offset =>
      apply Raises.get_bind
      intro s
      apply Raises.ite
      · intro _
        exact raises_jump _ _
      · intro _
        exact raises_modify _ _
  | load width dest base offset => exact hmemory fun s => ⟨_, rfl⟩
  | store width src base offset => exact hmemory fun s => ⟨_, rfl⟩
  | amo op aq rl src addr dest => exact hmemory fun s => ⟨_, rfl⟩
  | ecall =>
      apply Raises.get_bind
      intro s
      cases s.privilegeMode <;> exact raises_throw (by decide)
  | ebreak => exact raises_throw (by decide)
  | _ => exact absurd True.intro hi

/-- An instruction that may be illegal raises nothing else. -/
theorem raises_mayBeIllegal (config : Config) {i : Instruction}
    (hi : i.MayBeIllegal) :
    Raises (· = .illegalInstruction none)
      (executeInstruction config i : CoreM β _ _) := by
  have hguarded : ∀ i : Instruction, i.Guarded →
      Raises (· = .illegalInstruction none)
        (executeInstruction config i : CoreM β _ _) := by
    intro i hi s e t hrun
    obtain ⟨hrefused, hallowed⟩ := executeInstruction_guarded config hi s
    by_cases h : Refused s i
    · rw [hrefused h] at hrun
      cases hrun
      rfl
    · exact absurd hrun (hallowed h e t)
  cases i with
  | csr op dest specifier src =>
      intro s e t hrun
      exact raises_csrOpAt _ _ _ _ _ _ s e t hrun
  | csri op dest specifier immediate =>
      intro s e t hrun
      exact raises_csrOpAt _ _ _ _ _ _ s e t hrun
  | mret => exact hguarded .mret True.intro
  | sret => exact hguarded .sret True.intro
  | wfi => exact hguarded .wfi True.intro
  | sfenceVma vaddr asid => exact hguarded (.sfenceVma vaddr asid) True.intro
  | _ => exact absurd hi (by exact not_false)

/-- `Illegal` tells when an instruction raises the exception, which does not
carry the word. -/
theorem illegal_iff (config : Config) (i : Instruction) (s : State β) :
    (∃ t, executeInstruction config i s =
      .error (.illegalInstruction none) t) ↔ Illegal config s i := by
  have hguarded : ∀ i : Instruction, i.Guarded →
      ((∃ t, executeInstruction config i s =
        .error (.illegalInstruction none) t) ↔ Refused s i) := by
    intro i hi
    obtain ⟨hrefused, hallowed⟩ := executeInstruction_guarded config hi s
    constructor
    · rintro ⟨t, hrun⟩
      by_contra hnot
      exact hallowed hnot _ t hrun
    · intro h
      exact ⟨s, hrefused h⟩
  have hcsr : ∀ op dest specifier srcValue,
      (∃ t, (csrOpAt config s.privilegeMode op dest specifier srcValue :
        CoreM β _ _) s = .error (.illegalInstruction none) t) ↔
      CsrIllegal config s op dest specifier srcValue := by
    intro op dest specifier srcValue
    rw [← csrOpAt_error_iff config op dest specifier srcValue s]
    constructor
    · rintro ⟨t, hrun⟩
      exact ⟨_, t, hrun⟩
    · rintro ⟨e, t, hrun⟩
      have he := raises_csrOpAt _ _ _ _ _ _ s e t hrun
      subst he
      exact ⟨t, hrun⟩
  cases i with
  | csr op dest specifier src => exact hcsr ..
  | csri op dest specifier immediate => exact hcsr ..
  | mret => exact hguarded .mret True.intro
  | sret => exact hguarded .sret True.intro
  | wfi => exact hguarded .wfi True.intro
  | sfenceVma vaddr asid => exact hguarded (.sfenceVma vaddr asid) True.intro
  | _ =>
      apply iff_of_false
      · rintro ⟨t, hrun⟩
        exact raises_executeInstruction config (by exact not_false) s _ t hrun
          rfl
      · exact not_false

end RedPlanet.Core
