import RedPlanet.Board.Isolation
import RedPlanet.Board.Timer

/-!
# User programs and the devices

A program in U-mode reaches a device only through a page that the kernel maps
to it.  Where there is none, the device is after any run of the program what
it would be without the program: the power switch is as it was, the timer has
gone on, and UART and PLIC have got the input of the host.

`Spared` says this of a device after some moves, steps and input of the host,
and is put together from single steps (`spared_step`).  UART and PLIC are
spared together only, since the UART raises its interrupt at the PLIC.
-/

namespace RedPlanet.Board

open RedPlanet.Core RedPlanet.Resources RedPlanet.Verified SystemBus

/-! ## Where the devices are -/

/-- The addresses of a device. -/
def Resource.range : Resource → AddressRange
  | .mrom => mromRange
  | .clint => clintRange
  | .plic => plicRange
  | .uart0 => uart0Range
  | .flash => flashRange
  | .dram => dramRange
  | .powerDown => powerDownRange

/-- The first byte of an access is in the range of what is accessed. -/
theorem inAccess_of_checkAccess {address mapped : BitVec 32} {size : ℕ}
    {resource : Resource}
    (h : checkAccess address size = some (resource, mapped)) :
    ∃ x, InAccess address size x ∧ resource.range.contains x := by
  obtain ⟨range, hmem, hcontains, hsize, _⟩ := checkAccess_eq_some_iff.1 h
  have hrange : range = resource.range := by
    unfold memoryMap at hmem
    cases resource <;> simpa [Resource.range] using hmem
  subst hrange
  refine ⟨address, ⟨0, Nat.pos_of_ne_zero hsize, ?_⟩, hcontains⟩
  exact (BitVec.add_zero address).symm

/-- All devices lie below DRAM. -/
theorem Resource.below_dram {resource : Resource} (hne : resource ≠ .dram) :
    resource.range.last.toNat < 0x80000000 := by
  cases resource with
  | dram => exact absurd rfl hne
  | _ => decide

/-- And none but the CLINT at the time. -/
theorem Resource.beside_mtime {resource : Resource} (hne : resource ≠ .dram)
    (hclint : resource ≠ .clint) :
    resource.range.last.toNat < 0x0200BFF8 ∨
      0x0200BFFF < resource.range.start.toNat := by
  cases resource with
  | dram => exact absurd rfl hne
  | clint => exact absurd rfl hclint
  | _ => decide

/-- An address in DRAM is not one of a device. -/
theorem not_contains_of_dram {resource : Resource} {x : BitVec 32}
    (hne : resource ≠ .dram) (h : dramRange.start ≤ x) :
    ¬ resource.range.contains x := by
  have hbelow := resource.below_dram hne
  have hle : 0x80000000 ≤ x.toNat := h
  rintro ⟨_, hlast⟩
  have hlast : x.toNat ≤ resource.range.last.toNat := hlast
  omega

/-! ## Accesses to other addresses -/

section Accesses

variable [Build] {readable writable : BitVec 32 → Prop} {bus bus' : SystemBus}

/-- The bytes of the resource are not among these. -/
def Excludes (allowed : BitVec 32 → Prop) (resource : Resource) : Prop :=
  ∀ {x}, allowed x → ¬ resource.range.contains x

omit [Build] in
/-- An access to other bytes goes to another device. -/
theorem Excludes.checkAccess_ne {resource : Resource}
    {allowed : BitVec 32 → Prop} (h : Excludes allowed resource)
    {address mapped : BitVec 32} {size : ℕ}
    (hallowed : ∀ {x}, InAccess address size x → allowed x) :
    checkAccess address size ≠ some (resource, mapped) := by
  intro hcheck
  obtain ⟨x, hx, hcontains⟩ := inAccess_of_checkAccess hcheck
  exact h (hallowed hx) hcontains

omit [Build] in
/-- The UART and its interrupts leave the power switch alone. -/
theorem powerDown_withUart {uart0 : Uart} {callbacks : List Callback}
    {calls : List IrqCall}
    (h : bus.withUart uart0 callbacks = some (bus', calls)) :
    bus'.powerDown = bus.powerDown := by
  unfold withUart at h
  rw [Option.map_eq_some_iff] at h
  obtain ⟨⟨plic, callbacks'⟩, _, hcalls⟩ := h
  cases hcalls
  rfl

/-- So does every access that may not write to it. -/
theorem powerDown_of_accessed (h : Accessed readable writable bus bus')
    (hwrite : Excludes writable .powerDown) :
    bus'.powerDown = bus.powerDown := by
  induction h with
  | same => rfl
  | read _ _ hread ih =>
      rw [← ih]
      cases read_cases hread with
      | unchanged => rfl
      | plic _ _ => rfl
      | uart0 _ _ hforward => exact powerDown_withUart hforward
  | write _ hwritable hwritten ih =>
      rw [← ih]
      cases write_cases hwritten with
      | uart0 _ _ hforward => exact powerDown_withUart hforward
      | powerDown hcheck =>
          exact absurd hcheck (hwrite.checkAccess_ne hwritable)
      | _ => rfl

/-- Reads do not change the timer. -/
theorem clint_of_accessed (h : Accessed readable writable bus bus')
    (hwrite : Excludes writable .clint) : bus'.clint = bus.clint := by
  induction h with
  | same => rfl
  | read _ _ hread ih => exact (read_clint hread).1.trans ih
  | write _ hwritable hwritten ih =>
      rw [← ih]
      cases write_cases hwritten with
      | clint hcheck => exact absurd hcheck (hwrite.checkAccess_ne hwritable)
      | uart0 _ _ hforward => exact (withUart_clint hforward).1
      | powerDown _ =>
          unfold writePowerDown
          split <;> rfl
      | _ => rfl

/-- UART and PLIC, which changes with the UART. -/
def ports (bus : SystemBus) : Uart × Plic := (bus.uart0, bus.plic)

/-- UART and PLIC are left alone by accesses to other devices. -/
theorem ports_of_accessed (h : Accessed readable writable bus bus')
    (hread : Excludes readable .uart0) (hread' : Excludes readable .plic)
    (hwrite : Excludes writable .uart0) (hwrite' : Excludes writable .plic) :
    ports bus' = ports bus := by
  induction h with
  | same => rfl
  | read _ hreadable hreads ih =>
      rw [← ih]
      cases read_cases hreads with
      | unchanged => rfl
      | plic hcheck _ => exact absurd hcheck (hread'.checkAccess_ne hreadable)
      | uart0 hcheck _ _ =>
          exact absurd hcheck (hread.checkAccess_ne hreadable)
  | write _ hwritable hwritten ih =>
      rw [← ih]
      cases write_cases hwritten with
      | plic hcheck _ => exact absurd hcheck (hwrite'.checkAccess_ne hwritable)
      | uart0 hcheck _ _ =>
          exact absurd hcheck (hwrite.checkAccess_ne hwritable)
      | powerDown _ =>
          unfold writePowerDown
          split <;> rfl
      | _ => rfl

end Accesses

/-! ## Runs -/

section Runs

variable [Build] {s t u : Board} {moves : List Move}

/-- No page of user code contains a byte of the resource. -/
def Unmapped (s : Board) (resource : Resource) : Prop :=
  ∀ accessType, Excludes (UserByte memory s accessType) resource

/-- The tables are in DRAM. -/
theorem not_contains_of_tableByte {resource : Resource} (hne : resource ≠ .dram)
    (hram : TablesInRam memory s) {x : BitVec 32}
    (hx : TableByte memory s x) : ¬ resource.range.contains x := by
  obtain ⟨_, _, _, hentry, i, hi, rfl⟩ := hx
  have hslot : SystemBus.InDram s.bus _ 4 := hram hentry
  apply not_contains_of_dram hne
  exact (dramIndex_of_checkAccess hslot.checkAccess hi).1

/-- What is not mapped is not writable, and the page tables are in RAM. -/
theorem Unmapped.writable {resource : Resource} (h : Unmapped s resource)
    (hne : resource ≠ .dram) (hram : TablesInRam memory s) :
    Excludes (Writable memory s) resource := by
  intro x hx
  cases hx with
  | inl huser => exact h .write huser
  | inr htable => exact not_contains_of_tableByte hne hram htable

/-- mtime is in the CLINT. -/
theorem Unmapped.readable {resource : Resource} (h : Unmapped s resource)
    (hne : resource ≠ .dram) (hclint : resource ≠ .clint)
    (hram : TablesInRam memory s) :
    Excludes (Readable coreConfig memory s) resource := by
  intro x hx
  rcases hx with ⟨accessType, huser⟩ | htable | htime
  · exact h accessType huser
  · exact not_contains_of_tableByte hne hram htable
  · obtain ⟨i, hi, rfl⟩ := htime
    have haddress : coreConfig.mtimeAddress.toNat = 0x0200BFF8 := by decide
    have hx : (coreConfig.mtimeAddress + BitVec.ofNat 32 i).toNat
        = 0x0200BFF8 + i := by
      rw [BitVec.toNat_add, haddress, BitVec.toNat_ofNat]
      omega
    rintro ⟨hfirst, hlast⟩
    have hfirst : resource.range.start.toNat
        ≤ (coreConfig.mtimeAddress + BitVec.ofNat 32 i).toNat := hfirst
    have hlast : (coreConfig.mtimeAddress + BitVec.ofNat 32 i).toNat
        ≤ resource.range.last.toNat := hlast
    rw [hx] at hfirst hlast
    have hbeside := resource.beside_mtime hne hclint
    omega

/-- What the host's part in a move does to the ports. -/
def feed (devices : Uart × Plic) : Move → Option (Uart × Plic)
  | .step => some devices
  | .input bytes =>
      let pushed := devices.1.pushAndRead bytes
      (forwardUart pushed.2.2 devices.2).map fun forwarded =>
        (pushed.2.1, forwarded.1)

/-- The devices after some moves, where these do not reach them. -/
structure Spared (free : Resource → Prop) (before : SystemBus)
    (moves : List Move) (after : SystemBus) : Prop where
  powerDown : free .powerDown → after.powerDown = before.powerDown
  mtimecmp : free .clint → after.clint.mtimecmp = before.clint.mtimecmp
  mtime : free .clint → free .powerDown → before.powerDown = false →
    after.clint.mtime
      = before.clint.mtime + BitVec.ofNat 64 (moves.count .step)
  ports : free .uart0 → free .plic →
    moves.foldlM feed (ports before) = some (ports after)

variable {free free' : Resource → Prop} {before between after : SystemBus}
  {moves' : List Move}

omit [Build] in
/-- Without a move nothing changes. -/
theorem Spared.nil : Spared free before [] before :=
  ⟨fun _ => rfl, fun _ => rfl, fun _ _ _ => (BitVec.add_zero _).symm,
    fun _ _ => rfl⟩

omit [Build] in
/-- For fewer devices. -/
theorem Spared.mono (h : Spared free before moves after)
    (hfree : ∀ resource, free' resource → free resource) :
    Spared free' before moves after where
  powerDown hpower := h.powerDown (hfree _ hpower)
  mtimecmp hclint := h.mtimecmp (hfree _ hclint)
  mtime hclint hpower := h.mtime (hfree _ hclint) (hfree _ hpower)
  ports huart hplic := h.ports (hfree _ huart) (hfree _ hplic)

omit [Build] in
/-- Some moves after some others. -/
theorem Spared.append (h : Spared free before moves between)
    (h' : Spared free between moves' after) :
    Spared free before (moves ++ moves') after where
  powerDown hpower := (h'.powerDown hpower).trans (h.powerDown hpower)
  mtimecmp hclint := (h'.mtimecmp hclint).trans (h.mtimecmp hclint)
  mtime hclint hpower hon := by
    have hon' : between.powerDown = false := (h.powerDown hpower).trans hon
    rw [h'.mtime hclint hpower hon', h.mtime hclint hpower hon,
      List.count_append, BitVec.ofNat_add, BitVec.add_assoc]
  ports huart hplic := by
    rw [List.foldlM_append, h.ports huart hplic]
    exact h'.ports huart hplic

/-- A step of user code on a board that is not powered down: the accesses that
its core makes, and the timer. -/
theorem accessed_step (hguarded : Guarded memory t)
    (hpower : t.bus.powerDown = false) (hstep : Board.step t = .ok () u) :
    ∃ bus, Accessed (Readable coreConfig memory t) (Writable memory t) t.bus
        bus ∧
      u.bus = { bus with clint := bus.clint.step.1 } := by
  rw [step_eq, if_neg (by rw [hpower]; decide)] at hstep
  obtain ⟨_, v, hcore, hclint⟩ := Exec.bind_ok_iff.1 hstep
  have hclear : Behaves coreConfig memory t (clearEvents t) :=
    .of_bus rfl ⟨rfl, rfl, rfl, rfl, rfl⟩
  obtain ⟨w, hbehaves, hbus, _⟩ := behaves_step (hclear.guarded hguarded) hcore
  cases hclint
  refine ⟨w.bus, (hclear.trans hbehaves).accessed, ?_⟩
  rw [← hbus]
  rfl

/-- A step of user code leaves the devices alone that are not mapped. -/
theorem spared_step (hguarded : Guarded memory t)
    (hstep : Board.step t = .ok () u) :
    Spared (Unmapped t) t.bus [.step] u.bus := by
  have hram : TablesInRam memory t := hguarded.ram
  cases hpower : t.bus.powerDown with
  | true =>
      rw [step_eq, if_pos hpower] at hstep
      cases hstep
      refine ⟨fun _ => rfl, fun _ => rfl, ?_, fun _ _ => rfl⟩
      intro _ _ hon
      rw [hpower] at hon
      cases hon
  | false =>
      obtain ⟨bus, haccessed, hbus⟩ := accessed_step hguarded hpower hstep
      have hclint : Unmapped t .clint → bus.clint = t.bus.clint :=
        fun hfree => clint_of_accessed haccessed
          (hfree.writable (by decide) hram)
      rw [hbus]
      refine ⟨?_, ?_, ?_, ?_⟩
      · intro hfree
        have hkept := powerDown_of_accessed haccessed
          (hfree.writable (by decide) hram)
        exact hkept
      · intro hfree
        rw [← hclint hfree]
        rfl
      · intro hfree _ _
        rw [← hclint hfree]
        rfl
      · intro huart hplic
        have hports := ports_of_accessed haccessed
          (huart.readable (by decide) (by decide) hram)
          (hplic.readable (by decide) (by decide) hram)
          (huart.writable (by decide) hram)
          (hplic.writable (by decide) hram)
        exact congrArg some hports.symm

omit [Build] in
/-- What the host feeds goes to the ports, whatever the mode. -/
theorem spared_input {bytes : List (BitVec 8)}
    (hinput : t.pushInput bytes = some u) :
    Spared free t.bus [.input bytes] u.bus := by
  obtain ⟨bus, calls, hbus, rfl⟩ := pushInput_eq hinput
  unfold SystemBus.withUart at hbus
  obtain ⟨⟨plic, callbacks⟩, hforward, hcalls⟩ := Option.map_eq_some_iff.1 hbus
  cases hcalls
  refine ⟨fun _ => rfl, fun _ => rfl, fun _ _ _ => (BitVec.add_zero _).symm,
    fun _ _ => ?_⟩
  have hfeed : feed (ports t.bus) (.input bytes)
      = some ((t.bus.uart0.pushAndRead bytes).2.1, plic) := by
    show Option.map _ (forwardUart (t.bus.uart0.pushAndRead bytes).2.2
      t.bus.plic) = _
    rw [hforward]
    rfl
  rw [List.foldlM_cons, hfeed]
  rfl

/-- After every run of user code the devices that it has no page of are what
they would be without it. -/
theorem user_spares {config : Config} (hreach : Reachable config s)
    (h : Isolates s) (hrun : UserRun s moves t) :
    Spared (Unmapped s) s.bus moves t.bus := by
  have hguarded := h.guarded hreach
  induction hrun with
  | start => exact .nil
  | @step _ t u hrun hmode hstep ih =>
      obtain ⟨hmemory, hcontrol⟩ := contained_run hguarded hrun.core
      have hnow := hguarded.of_contained hmemory (hcontrol hmode)
      have htables := hmemory.sameTables (hcontrol hmode)
      apply ih.append
      apply (spared_step hnow hstep).mono
      intro resource hfree accessType x huser
      rw [htables.userByte (hcontrol hmode).status] at huser
      exact hfree accessType huser
  | input _ hinput ih => exact ih.append (spared_input hinput)

end Runs

/-- The user program has a page of DRAM only. -/
theorem unmapped_userProgram [Build] {resource : Resource}
    (hne : resource ≠ .dram) : Unmapped userProgram resource := by
  intro accessType x huser
  have hpage := userByte_userProgram huser
  apply not_contains_of_dram hne
  show 0x80000000 ≤ x.toNat
  omega

/-- One step of this program is a tick of the timer, and nothing for the
others. -/
theorem user_spares_store :
    ∃ t, @UserRun Build.debug userProgram [.step] t ∧
      t.bus.dramByte 0x80400103 = 0x80 ∧
      t.bus.clint.mtime = userProgram.bus.clint.mtime + 1 ∧
      ports t.bus = ports userProgram.bus := by
  let _ : Build := Build.debug
  obtain ⟨t, hrun, hstored⟩ := run_userProgram
  have hspared := user_spares reachable_userProgram isolates_userProgram hrun
  refine ⟨t, hrun, hstored, ?_, ?_⟩
  · exact hspared.mtime (unmapped_userProgram (by decide))
      (unmapped_userProgram (by decide)) (by decide +kernel)
  · have hports := hspared.ports (unmapped_userProgram (by decide))
      (unmapped_userProgram (by decide))
    exact (Option.some_inj.1 hports).symm

end RedPlanet.Board
