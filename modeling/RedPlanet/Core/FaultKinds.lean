import RedPlanet.Core.Execute
import RedPlanet.Verified.Raises

/-!
# Which exception a memory access raises

`AccessFails` says how the memory accesses of an instruction can fail, at
each of the points where they can; `faultException` which exception should
then be raised, a load exception for loads and LR and a store exception for
the others.  The source raises exactly these, except that an atomic
read-modify-write reports a misaligned address and an access fault as those
of a load (`reports_faults_iff`).
-/

namespace RedPlanet.Core

open RedPlanet.Verified Exec

variable {β : Type}

/-! ## What should be raised -/

/-- The exception for an error of an access at `address`. -/
def faultException (loads : Bool) (address : BitVec 32) :
    MemoryError → Exception
  | .misalignedAccess =>
      if loads then .loadAddressMisaligned address
      else .storeOrAmoAddressMisaligned address
  | .accessFault =>
      if loads then .loadAccessFault address
      else .storeOrAmoAccessFault address
  | .pageFault =>
      if loads then .loadPageFault address else .storeOrAmoPageFault address

/-- Loads and LR. -/
def Instruction.Loads : Instruction → Bool
  | .load _ _ _ _ => true
  | .amo .lr _ _ _ _ _ => true
  | _ => false

/-- The address that a memory instruction accesses. -/
def Instruction.address (registers : Registers) :
    Instruction → Option (BitVec 32)
  | .load _ _ base offset => some (registers.x base + offset)
  | .store _ _ base offset => some (registers.x base + offset)
  | .amo _ _ _ _ addr _ => some (registers.x addr)
  | _ => none

/-- The atomic read-modify-write operations. -/
def AmoOp.Modifies (op : AmoOp) : Prop := op ≠ .lr ∧ op ≠ .sc

instance (op : AmoOp) : Decidable op.Modifies :=
  inferInstanceAs (Decidable (_ ∧ _))

/-- The word that an atomic operation leaves in memory, from the word there
and the operand. -/
def AmoOp.apply (op : AmoOp) (mem reg : BitVec 32) : BitVec 32 :=
  match op with
  | .lr => mem
  | .sc | .swap => reg
  | .add => mem + reg
  | .xor => mem ^^^ reg
  | .and => mem &&& reg
  | .or => mem ||| reg
  | .min => signedMin mem reg
  | .max => signedMax mem reg
  | .minu => unsignedMin mem reg
  | .maxu => unsignedMax mem reg

variable [SystemBus β] [Build]

/-- A memory access of the instruction fails: the access of a load or a store,
the alignment check of an atomic operation, its read, or its write. -/
inductive AccessFails (config : Config) (s : State β) :
    Instruction → MemoryError → Prop where
  | load (width : LoadWidth) (dest base : Specifier) (offset : BitVec 32)
      {err : MemoryError} {t : State β}
      (read : width.read config (s.registers.x base + offset) s =
        .error err t) :
      AccessFails config s (.load width dest base offset) err
  | store (width : StoreWidth) (src base : Specifier) (offset : BitVec 32)
      {err : MemoryError} {t : State β}
      (write : width.write config (s.registers.x base + offset)
        (s.registers.x src) s = .error err t) :
      AccessFails config s (.store width src base offset) err
  | misaligned (op : AmoOp) (aq rl : Bool) (src addr dest : Specifier)
      (misaligned : isAligned WORD (s.registers.x addr) = false) :
      AccessFails config s (.amo op aq rl src addr dest) .misalignedAccess
  | read (op : AmoOp) (aq rl : Bool) (src addr dest : Specifier)
      {err : MemoryError} {t : State β} (reads : op ≠ .sc)
      (aligned : isAligned WORD (s.registers.x addr) = true)
      (read : readWord config (s.registers.x addr) s = .error err t) :
      AccessFails config s (.amo op aq rl src addr dest) err
  | write (op : AmoOp) (aq rl : Bool) (src addr dest : Specifier)
      {mem : BitVec 32} {err : MemoryError} {u t : State β}
      (modifies : op.Modifies)
      (aligned : isAligned WORD (s.registers.x addr) = true)
      (read : readWord config (s.registers.x addr) s = .ok mem u)
      (write : writeWord config (s.registers.x addr)
        (op.apply mem (s.registers.x src)) u = .error err t) :
      AccessFails config s (.amo op aq rl src addr dest) err
  | conditional (aq rl : Bool) (src addr dest : Specifier)
      {err : MemoryError} {t : State β}
      (aligned : isAligned WORD (s.registers.x addr) = true)
      (write : writeWord config (s.registers.x addr) (s.registers.x src)
        (s.onRegisters (Registers.setX dest 0)) = .error err t) :
      AccessFails config s (.amo .sc aq rl src addr dest) err

/-! ## What the source raises -/

/-- The exception that the source raises for an error. -/
def Instruction.raised (address : BitVec 32) :
    Instruction → MemoryError → Exception
  | .load _ _ _ _ => loadException address
  | .amo .lr _ _ _ _ _ => loadException address
  | .amo .sc _ _ _ _ _ => storeException address
  | .amo _ _ _ _ _ _ => amoException address
  | _ => storeException address

omit [SystemBus β] [Build] in
/-- A load fails just where its memory operation does, with the state as it
was left there. -/
theorem loadOp_error_iff
    {op : BitVec 32 → CoreM β MemoryError (BitVec 32)}
    {dest base : Specifier} {offset : BitVec 32} {s t : State β}
    {e : Exception} :
    loadOp op dest base offset s = .error e t ↔
      ∃ err, op (s.registers.x base + offset) s = .error err t ∧
        loadException (s.registers.x base + offset) err = e := by
  unfold loadOp
  rw [get_bind, bind_infallible_error_iff, mapError_error_iff]
  intro value
  exact Discipline.infallible_modify _

omit [SystemBus β] [Build] in
/-- A store fails just where its memory operation does. -/
theorem storeOp_error_iff
    {op : BitVec 32 → BitVec 32 → CoreM β MemoryError Unit}
    {src base : Specifier} {offset : BitVec 32} {s t : State β}
    {e : Exception} :
    storeOp op src base offset s = .error e t ↔
      ∃ err, op (s.registers.x base + offset) (s.registers.x src) s =
          .error err t ∧
        storeException (s.registers.x base + offset) err = e := by
  unfold storeOp
  rw [get_bind, bind_infallible_error_iff, mapError_error_iff]
  intro _
  exact Discipline.infallible_modify _

/-- An atomic operation at an aligned address fails at its read or at its
write. -/
theorem amoOpWith_error_iff {config : Config}
    {op : BitVec 32 → BitVec 32 → BitVec 32} {dest src addr : Specifier}
    {s t : State β} {e : Exception}
    (haligned : isAligned WORD (s.registers.x addr) = true) :
    amoOpWith config op dest src addr s = .error e t ↔
      ∃ err, amoException (s.registers.x addr) err = e ∧
        (readWord config (s.registers.x addr) s = .error err t ∨
          ∃ mem u, readWord config (s.registers.x addr) s = .ok mem u ∧
            writeWord config (s.registers.x addr)
              (op mem (s.registers.x src)) u = .error err t) := by
  have hnot : ¬ (!isAligned WORD (s.registers.x addr)) = true := by
    rw [haligned]
    decide
  unfold amoOpWith
  rw [get_bind, if_neg hnot, bind_error_iff, mapError_error_iff]
  have hwrite : ∀ mem u, ((mapError (amoException (s.registers.x addr))
      (writeWord config (s.registers.x addr) (op mem (s.registers.x src))) >>=
        fun _ => updateRegisters fun registers =>
          (registers.setX dest mem).incrementPc) u = .error e t ↔
      ∃ err, writeWord config (s.registers.x addr)
        (op mem (s.registers.x src)) u = .error err t ∧
          amoException (s.registers.x addr) err = e) := by
    intro mem u
    rw [bind_infallible_error_iff, mapError_error_iff]
    intro _
    exact Discipline.infallible_modify _
  constructor
  · rintro (⟨err, hread, he⟩ | ⟨mem, u, hread, hrest⟩)
    · exact ⟨err, he, Or.inl hread⟩
    · obtain ⟨err, hwritten, he⟩ := (hwrite mem u).1 hrest
      exact ⟨err, he, Or.inr ⟨mem, u, mapError_ok_iff.1 hread, hwritten⟩⟩
  · rintro ⟨err, he, hread | ⟨mem, u, hread, hwritten⟩⟩
    · exact Or.inl ⟨err, hread, he⟩
    · exact Or.inr ⟨mem, u, mapError_ok_iff.2 hread,
        (hwrite mem u).2 ⟨err, hwritten, he⟩⟩

/-- A read-modify-write applies its operation between a read and a write. -/
theorem executeAmo_modifies {op : AmoOp} (hop : op.Modifies)
    (config : Config) :
    (executeAmo config op : Specifier → Specifier → Specifier →
      CoreM β Exception Unit) = amoOpWith config op.apply := by
  cases op with
  | lr => exact absurd rfl hop.1
  | sc => exact absurd rfl hop.2
  | _ => rfl

omit [Build] in
/-- A read-modify-write reports its errors by `amoException`. -/
theorem raised_modifies {op : AmoOp} (hop : op.Modifies) (aq rl : Bool)
    (src addr dest : Specifier) (address : BitVec 32) :
    (Instruction.amo op aq rl src addr dest).raised address =
      amoException address := by
  cases op with
  | lr => exact absurd rfl hop.1
  | sc => exact absurd rfl hop.2
  | _ => rfl

/-- LR fails at its alignment check or at its read. -/
theorem lr_error_iff {config : Config} {dest src addr : Specifier}
    {aq rl : Bool} {s : State β} {e : Exception} :
    (∃ t, lr config dest src addr s = .error e t) ↔
      ∃ err, AccessFails config s (.amo .lr aq rl src addr dest) err ∧
        loadException (s.registers.x addr) err = e := by
  have hzero : s.registers.x addr + 0 = s.registers.x addr :=
    BitVec.add_zero _
  unfold lr
  simp only [loadOp_error_iff, hzero]
  constructor
  · rintro ⟨t, err, hread, he⟩
    cases haligned : isAligned WORD (s.registers.x addr) with
    | true =>
        rw [haligned] at hread
        exact ⟨err, .read .lr aq rl src addr dest (by decide) haligned hread,
          he⟩
    | false =>
        rw [haligned] at hread
        cases hread
        exact ⟨_, .misaligned .lr aq rl src addr dest haligned, he⟩
  · rintro ⟨err, hfails, he⟩
    cases hfails with
    | misaligned _ _ _ _ _ _ hmisaligned =>
        rw [hmisaligned]
        exact ⟨s, _, rfl, he⟩
    | read _ _ _ _ _ _ _ haligned hread =>
        rw [haligned]
        exact ⟨_, err, hread, he⟩
    | write _ _ _ _ _ _ hmodifies => exact absurd rfl hmodifies.1

/-- SC fails at its alignment check or at its write. -/
theorem sc_error_iff {config : Config} {dest src addr : Specifier}
    {aq rl : Bool} {s : State β} {e : Exception} :
    (∃ t, sc config dest src addr s = .error e t) ↔
      ∃ err, AccessFails config s (.amo .sc aq rl src addr dest) err ∧
        storeException (s.registers.x addr) err = e := by
  have hzero : s.registers.x addr + 0 = s.registers.x addr :=
    BitVec.add_zero _
  unfold sc
  simp only [storeOp_error_iff, hzero]
  constructor
  · rintro ⟨t, err, hwrite, he⟩
    cases haligned : isAligned WORD (s.registers.x addr) with
    | true =>
        rw [haligned] at hwrite
        exact ⟨err, .conditional aq rl src addr dest haligned hwrite, he⟩
    | false =>
        rw [haligned] at hwrite
        cases hwrite
        exact ⟨_, .misaligned .sc aq rl src addr dest haligned, he⟩
  · rintro ⟨err, hfails, he⟩
    cases hfails with
    | misaligned _ _ _ _ _ _ hmisaligned =>
        rw [hmisaligned]
        exact ⟨s, _, rfl, he⟩
    | read _ _ _ _ _ _ hreads => exact absurd rfl hreads
    | write _ _ _ _ _ _ hmodifies => exact absurd rfl hmodifies.2
    | conditional _ _ _ _ _ haligned hwrite =>
        rw [haligned]
        exact ⟨_, err, hwrite, he⟩

/-- A read-modify-write fails at its alignment check, at its read or at its
write. -/
theorem amoOpWith_fails_iff {config : Config} {op : AmoOp}
    {dest src addr : Specifier} {aq rl : Bool} {s : State β} {e : Exception}
    (hop : op.Modifies) :
    (∃ t, amoOpWith config op.apply dest src addr s = .error e t) ↔
      ∃ err, AccessFails config s (.amo op aq rl src addr dest) err ∧
        amoException (s.registers.x addr) err = e := by
  cases haligned : isAligned WORD (s.registers.x addr) with
  | true =>
      simp only [amoOpWith_error_iff haligned]
      constructor
      · rintro ⟨t, err, he, hread | ⟨mem, u, hread, hwrite⟩⟩
        · exact ⟨err,
            .read op aq rl src addr dest hop.2 haligned hread, he⟩
        · exact ⟨err,
            .write op aq rl src addr dest hop haligned hread hwrite, he⟩
      · rintro ⟨err, hfails, he⟩
        cases hfails with
        | misaligned _ _ _ _ _ _ hmisaligned =>
            rw [haligned] at hmisaligned
            cases hmisaligned
        | read _ _ _ _ _ _ _ _ hread => exact ⟨_, err, he, Or.inl hread⟩
        | write _ _ _ _ _ _ _ _ hread hwrite =>
            exact ⟨_, err, he, Or.inr ⟨_, _, hread, hwrite⟩⟩
        | conditional => exact absurd rfl hop.2
  | false =>
      have hthrow : amoOpWith config op.apply dest src addr s =
          .error (.loadAddressMisaligned (s.registers.x addr)) s := by
        unfold amoOpWith
        rw [get_bind, haligned]
        rfl
      rw [hthrow]
      constructor
      · rintro ⟨t, hrun⟩
        cases hrun
        exact ⟨_, .misaligned op aq rl src addr dest haligned, rfl⟩
      · rintro ⟨err, hfails, he⟩
        cases hfails with
        | misaligned _ _ _ _ _ _ _ =>
            cases he
            exact ⟨s, rfl⟩
        | read _ _ _ _ _ _ _ hbad =>
            rw [haligned] at hbad
            cases hbad
        | write _ _ _ _ _ _ _ hbad =>
            rw [haligned] at hbad
            cases hbad
        | conditional => exact absurd rfl hop.2

/-- A memory instruction raises an exception exactly when an access of it
fails. -/
theorem executeInstruction_raised_iff {config : Config} {i : Instruction}
    {s : State β} {address : BitVec 32}
    (hi : i.address s.registers = some address) {e : Exception} :
    (∃ t, executeInstruction config i s = .error e t) ↔
      ∃ err, AccessFails config s i err ∧ i.raised address err = e := by
  cases i with
  | load width dest base offset =>
      cases hi
      constructor
      · rintro ⟨t, hrun⟩
        obtain ⟨err, hread, he⟩ := loadOp_error_iff.1 hrun
        exact ⟨err, .load width dest base offset hread, he⟩
      · rintro ⟨err, hfails, he⟩
        cases hfails with
        | load _ _ _ _ hread =>
            exact ⟨_, loadOp_error_iff.2 ⟨err, hread, he⟩⟩
  | store width src base offset =>
      cases hi
      constructor
      · rintro ⟨t, hrun⟩
        obtain ⟨err, hwrite, he⟩ := storeOp_error_iff.1 hrun
        exact ⟨err, .store width src base offset hwrite, he⟩
      · rintro ⟨err, hfails, he⟩
        cases hfails with
        | store _ _ _ _ hwrite =>
            exact ⟨_, storeOp_error_iff.2 ⟨err, hwrite, he⟩⟩
  | amo op aq rl src addr dest =>
      cases hi
      by_cases hop : op.Modifies
      · rw [raised_modifies hop]
        show (∃ t, executeAmo config op dest src addr s = _) ↔ _
        rw [executeAmo_modifies hop]
        exact amoOpWith_fails_iff hop
      · cases op with
        | lr => exact lr_error_iff
        | sc => exact sc_error_iff
        | _ => exact absurd (by decide) hop
  | _ => cases hi

/-! ## The kinds -/

/-- Every failure of the instruction is reported with the kind and the address
of the access that failed. -/
def ReportsFaults (config : Config) (i : Instruction) (address : BitVec 32)
    (s : State β) : Prop :=
  ∀ e t, executeInstruction config i s = .error e t →
    ∃ err, AccessFails config s i err ∧
      e = faultException i.Loads address err

/-- An atomic read-modify-write fails with one of the two errors that it
reports as those of a load. -/
def Misreported (config : Config) (s : State β) : Instruction → Prop
  | .amo op aq rl src addr dest =>
      op.Modifies ∧
        (AccessFails config s (.amo op aq rl src addr dest)
            .misalignedAccess ∨
          AccessFails config s (.amo op aq rl src addr dest) .accessFault)
  | _ => False

omit [SystemBus β] [Build] in
/-- Outside the read-modify-write operations the kinds agree. -/
theorem raised_eq_faultException {i : Instruction} {registers : Registers}
    {address : BitVec 32} (hi : i.address registers = some address)
    (hop : ∀ op aq rl src addr dest, i = .amo op aq rl src addr dest →
      ¬ op.Modifies) (err : MemoryError) :
    i.raised address err = faultException i.Loads address err := by
  cases i with
  | load => cases err <;> rfl
  | store => cases err <;> rfl
  | amo op aq rl src addr dest =>
      have hnot := hop op aq rl src addr dest rfl
      cases op with
      | lr => cases err <;> rfl
      | sc => cases err <;> rfl
      | _ => exact absurd (by decide) hnot
  | _ => cases hi

omit [SystemBus β] [Build] in
/-- A read-modify-write is not a load, so that its faults are those of a
store. -/
theorem loads_modifies {op : AmoOp} (hop : op.Modifies) (aq rl : Bool)
    (src addr dest : Specifier) :
    (Instruction.amo op aq rl src addr dest).Loads = false := by
  cases op with
  | lr => exact absurd rfl hop.1
  | _ => rfl

omit [Build] in
/-- A page fault of a read-modify-write is reported as that of a store, the
other two errors as nothing a store raises. -/
theorem amoException_eq_iff (address : BitVec 32) (err : MemoryError) :
    (∃ err', amoException address err = faultException false address err') ↔
      err = .pageFault := by
  constructor
  · rintro ⟨err', he⟩
    cases err <;> cases err' <;> cases he
    rfl
  · rintro rfl
    exact ⟨.pageFault, rfl⟩

/-- The kinds and addresses are right, unless a read-modify-write fails for a
misaligned address or an access fault. -/
theorem reports_faults_iff (config : Config) (i : Instruction)
    (address : BitVec 32) (s : State β)
    (hi : i.address s.registers = some address) :
    ReportsFaults config i address s ↔ ¬ Misreported config s i := by
  constructor
  · intro hreports hmis
    cases i with
    | amo op aq rl src addr dest =>
        obtain ⟨hop, hfails⟩ := hmis
        have hbad : ∃ err, err ≠ .pageFault ∧
            AccessFails config s (.amo op aq rl src addr dest) err := by
          cases hfails with
          | inl h => exact ⟨_, by decide, h⟩
          | inr h => exact ⟨_, by decide, h⟩
        obtain ⟨err, hne, hfails⟩ := hbad
        obtain ⟨t, hrun⟩ :=
          (executeInstruction_raised_iff hi).2 ⟨err, hfails, rfl⟩
        obtain ⟨err', _, he⟩ := hreports _ t hrun
        rw [raised_modifies hop, loads_modifies hop] at he
        exact hne ((amoException_eq_iff address err).1 ⟨err', he⟩)
    | _ => exact hmis
  · intro hright e t hrun
    obtain ⟨err, hfails, he⟩ :=
      (executeInstruction_raised_iff hi).1 ⟨t, hrun⟩
    refine ⟨err, hfails, ?_⟩
    rw [← he]
    by_cases hop : ∃ op aq rl src addr dest,
        i = .amo op aq rl src addr dest ∧ op.Modifies
    · obtain ⟨op, aq, rl, src, addr, dest, rfl, hop⟩ := hop
      have hpage : err = .pageFault := by
        cases err with
        | misalignedAccess => exact absurd ⟨hop, Or.inl hfails⟩ hright
        | accessFault => exact absurd ⟨hop, Or.inr hfails⟩ hright
        | pageFault => rfl
      subst hpage
      rw [raised_modifies hop, loads_modifies hop]
      rfl
    · apply raised_eq_faultException hi
      intro op aq rl src addr dest heq hmodifies
      exact hop ⟨op, aq, rl, src, addr, dest, heq, hmodifies⟩

omit [Build] in
/-- An AMOADD to address 1 reports a misaligned load. -/
theorem not_reports_amoadd :
    ¬ @ReportsFaults NoDevices _ Build.debug NoDevices.config
      (.amo .add false false 0 1 2) 1
      ((State.new NoDevices.config .unit).onRegisters
        (Registers.setX 1 1)) := by
  intro h
  obtain ⟨err, _, he⟩ := h (.loadAddressMisaligned 1) _ rfl
  cases err <;> cases he

omit [Build] in
/-- A load from a bus on which there is nothing. -/
theorem reports_load :
    @ReportsFaults NoDevices _ Build.debug NoDevices.config (.load .lw 2 1 4)
      4 (State.new NoDevices.config .unit) :=
  (@reports_faults_iff NoDevices _ Build.debug NoDevices.config
    (.load .lw 2 1 4) 4 (State.new NoDevices.config .unit) rfl).2 not_false

end RedPlanet.Core
