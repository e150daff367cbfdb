import RedPlanet.Core.Retired
import RedPlanet.Verified.Tally

/-!
# What the counters count

A step that takes no interrupt first attempts an instruction, and then
increments mcycle, and minstret unless the instruction was not decoded or is
ECALL or EBREAK.  So minstret counts the instructions that complete together
with those that raise an exception when they are executed.  In a run in which
nothing is written to the counters, they count as they should if and only if
no step executes an instruction of the second kind or inhibits the counting
(`counters_count_iff`).
-/

namespace RedPlanet.Core

open RedPlanet.Verified Exec Discipline

variable {β ε : Type}

/-! ## The state of the counting -/

/-- The counters, and the register that inhibits them. -/
def State.counting (s : State β) : Counters × BitVec 32 :=
  (s.counters, s.counterControl.mcountinhibit)

/-- Entering a trap handler leaves the counting alone. -/
theorem counting_trapEntry (s : State β) (cause : Cause) :
    (trapEntry s cause).counting = s.counting := by
  obtain ⟨events, hevents⟩ := trapRecorded_eq s cause
  unfold trapEntry
  rw [hevents]
  rfl

theorem counting_trap [Build] {cause : Cause} {s t : State β}
    (h : (trap cause : CoreM β ε Unit) s = .ok () t) :
    t.counting = s.counting := by
  rcases trap_cases (ε := ε) cause s with ⟨_, hok⟩ | ⟨_, hpanic⟩
  · rw [hok] at h
    cases h
    exact counting_trapEntry s cause
  · rw [hpanic] at h
    cases h

/-- What the increments do depends on the state of the counting alone. -/
theorem counting_tick {s t : State β} (h : t.counting = s.counting)
    (instruction : Except Exception Instruction) :
    (tick instruction t).counting = (tick instruction s).counting := by
  obtain ⟨hcounters, hinhibit⟩ := Prod.mk.inj h
  unfold tick State.counting CounterControl.inhibitCy CounterControl.inhibitIr
  cases retires instruction <;>
    simp [State.onCounters, hcounters, hinhibit]

/-- The 64-bit values of the two counters. -/
def Counters.cycle (counters : Counters) : BitVec 64 :=
  counters.mcycleh ++ counters.mcycle

def Counters.instret (counters : Counters) : BitVec 64 :=
  counters.minstreth ++ counters.minstret

/-- No counter is to be skipped. -/
structure Counters.Ready (counters : Counters) : Prop where
  cycle : counters.skipNextMcycleIncrement = false
  instret : counters.skipNextMinstretIncrement = false

/-- The increment of mcycle, with the carry into mcycleh, if it is not
inhibited. -/
theorem Counters.incrementCycle_spec {counters : Counters} (h : counters.Ready)
    (inhibit : Bool) :
    (counters.incrementCycle inhibit).Ready ∧
      (counters.incrementCycle inhibit).cycle =
        counters.cycle + (if inhibit then 0 else 1) ∧
      (counters.incrementCycle inhibit).instret = counters.instret := by
  have hcarry := append_add_one counters.mcycleh counters.mcycle (by decide)
    (by decide)
  unfold incrementCycle
  rw [h.cycle]
  cases inhibit with
  | true => exact ⟨h, (BitVec.add_zero _).symm, rfl⟩
  | false => exact ⟨⟨rfl, h.instret⟩, hcarry, rfl⟩

/-- The increment of minstret, with the carry into minstreth, if it is not
inhibited. -/
theorem Counters.incrementInstret_spec {counters : Counters}
    (h : counters.Ready) (inhibit : Bool) :
    (counters.incrementInstret inhibit).Ready ∧
      (counters.incrementInstret inhibit).instret =
        counters.instret + (if inhibit then 0 else 1) ∧
      (counters.incrementInstret inhibit).cycle = counters.cycle := by
  have hcarry := append_add_one counters.minstreth counters.minstret
    (by decide) (by decide)
  unfold incrementInstret
  rw [h.instret]
  cases inhibit with
  | true => exact ⟨h, (BitVec.add_zero _).symm, rfl⟩
  | false => exact ⟨⟨h.cycle, rfl⟩, hcarry, rfl⟩

/-- The increments after an instruction. -/
theorem tick_spec {s : State β} (h : s.counters.Ready)
    (instruction : Except Exception Instruction) :
    (tick instruction s).counterControl = s.counterControl ∧
      (tick instruction s).counters.Ready ∧
      (tick instruction s).counters.cycle = s.counters.cycle +
        (if s.counterControl.inhibitCy then 0 else 1) ∧
      (tick instruction s).counters.instret = s.counters.instret +
        if retires instruction = true ∧ s.counterControl.inhibitIr = false
        then 1 else 0 := by
  obtain ⟨hready, hcycle, hinstret⟩ :=
    Counters.incrementCycle_spec h s.counterControl.inhibitCy
  unfold tick
  cases retires instruction with
  | false =>
      refine ⟨rfl, hready, hcycle, hinstret.trans ?_⟩
      simp
  | true =>
      obtain ⟨hready', hinstret', hcycle'⟩ :=
        Counters.incrementInstret_spec hready s.counterControl.inhibitIr
      refine ⟨rfl, hready', hcycle'.trans hcycle, hinstret'.trans ?_⟩
      rw [hinstret]
      cases s.counterControl.inhibitIr <;> simp

/-- Neither counter is inhibited or to be skipped. -/
structure Ready (s : State β) : Prop where
  cy : s.counterControl.inhibitCy = false
  ir : s.counterControl.inhibitIr = false
  counters : s.counters.Ready

theorem Ready.congr {s t : State β} (h : t.counting = s.counting)
    (hs : Ready s) : Ready t := by
  obtain ⟨hcounters, hinhibit⟩ := Prod.mk.inj h
  refine ⟨?_, ?_, ?_⟩
  · have hcy := hs.cy
    unfold CounterControl.inhibitCy at hcy ⊢
    rw [hinhibit, hcy]
  · have hir := hs.ir
    unfold CounterControl.inhibitIr at hir ⊢
    rw [hinhibit, hir]
  · rw [hcounters]
    exact hs.counters

/-- A half of a counter. -/
def Csr.Counter : Csr → Prop
  | mcycle | mcycleh | minstret | minstreth => True
  | _ => False

/-- The registers whose writes matter to the counting. -/
def Csr.Counts (csr : Csr) : Prop := csr.Counter ∨ csr = .mcountinhibit

/-! ## A step -/

/-- No interrupt is ready, so that a step executes an instruction. -/
def Attempts (s : State β) : Prop := highestPriorityReadyInterrupt s = none

theorem putTvec_counting (write : Trap → Option Trap) (s : State β) :
    ((putTvec write : CoreM β ε Unit) s).state.counting = s.counting := by
  unfold putTvec
  rw [get_bind]
  cases write s.trap <;> rfl

theorem writeSatp_counting (value mask : BitVec 32) (s : State β) :
    ((writeSatp value mask : CoreM β _ _) s).state.counting = s.counting := by
  unfold writeSatp
  rw [get_bind]
  cases s.status.tvm <;> rfl

theorem writeMhpm_counting (n : Nat) (s : State β) :
    ((writeMhpm n : CoreM β ε Unit) s).state.counting = s.counting := by
  unfold writeMhpm assertNumber Exec.assert
  split <;> rfl

variable [SystemBus β]

/-- Only writes of its own registers change the state of the counting. -/
theorem writtenBy_counting :
    WrittenBy (State.counting (β := β)) Csr.Counts where
  frame := by
    intro s t hframe
    unfold State.counting
    rw [hframe.counters, hframe.counterControl]
  status := fun _ _ => rfl
  mode := fun _ _ => rfl
  write := by
    intro csr hcsr specifier value mask s
    cases csr with
    | mcycle => exact absurd (Or.inl True.intro) hcsr
    | mcycleh => exact absurd (Or.inl True.intro) hcsr
    | minstret => exact absurd (Or.inl True.intro) hcsr
    | minstreth => exact absurd (Or.inl True.intro) hcsr
    | mcountinhibit => exact absurd (Or.inr rfl) hcsr
    | stvec => exact putTvec_counting _ s
    | mtvec => exact putTvec_counting _ s
    | satp => exact writeSatp_counting value mask s
    | mhpmcounter n => exact writeMhpm_counting n s
    | mhpmcounterh n => exact writeMhpm_counting n s
    | mhpmevent n => exact writeMhpm_counting n s
    | _ => rfl

variable [Build]

omit [SystemBus β] in
/-- Looking for interrupts does not count. -/
theorem counting_checkForInterrupts {interrupted : Bool} {s t : State β}
    (h : (checkForInterrupts : CoreM β ε _) s = .ok interrupted t) :
    t.counting = s.counting := by
  unfold checkForInterrupts at h
  rw [get_bind] at h
  cases hready : highestPriorityReadyInterrupt s with
  | none =>
      rw [hready] at h
      cases h
      rfl
  | some interrupt =>
      rw [hready] at h
      obtain ⟨_, u, htrap, hrest⟩ := bind_ok_iff.1 h
      cases hrest
      exact counting_trap htrap

/-- The step fetches and decodes this instruction, which leaves this state. -/
def Fetches (config : Config) (s : State β) (i : Instruction) (u : State β) :
    Prop :=
  ∃ raw, fetchInstruction config s.registers.pc s = .ok raw u ∧
    decode raw = .ok i

/-- Neither does a fetch, whatever it does to memory. -/
theorem counting_fetchInstruction (config : Config) (address : BitVec 32)
    (s : State β) :
    (fetchInstruction config address s).state.counting = s.counting := by
  have hframe := (executes_memory (K := BusContract.trivial)).loads
    |>.tame_fetchInstruction config address |>.step s
  exact writtenBy_counting.frame hframe

/-- What a step of the core was, and what it did to the counting. -/
inductive Stepped (config : Config) (s t : State β) : Prop where
  | interrupted (ready : ¬ Attempts s) (same : t.counting = s.counting)
  | undecoded (attempts : Attempts s) (fetches : ∀ i u, ¬ Fetches config s i u)
      (e : Exception) (counted : t.counting = (tick (.error e) s).counting)
  | completed (attempts : Attempts s) {i : Instruction} {u v : State β}
      (fetches : Fetches config s i u) (same : u.counting = s.counting)
      (executed : executeInstruction config i u = .ok () v)
      (counted : t.counting = (tick (.ok i) v).counting)
  | raised (attempts : Attempts s) {i : Instruction} {e : Exception}
      {u v : State β} (fetches : Fetches config s i u)
      (same : u.counting = s.counting)
      (executed : executeInstruction config i u = .error e v)
      (counted : t.counting = (tick (.ok i) v).counting)

/-- The instruction of a step, once the word is there. -/
theorem stepped_stepWithRaw {config : Config} {raw : BitVec 32}
    {s u v t : State β} (hattempts : Attempts s)
    (hfetch : fetchInstruction config s.registers.pc s = .ok raw u)
    (hstep : (stepWithRaw config (.ok raw) : CoreM β ε Unit) u = .ok () v)
    (ht : t.counting = v.counting) : Stepped config s t := by
  have hsame : u.counting = s.counting := by
    have hkept := counting_fetchInstruction config s.registers.pc s
    rw [hfetch] at hkept
    exact hkept
  cases hdecode : decode raw with
  | error err =>
      rw [stepWithRaw_undecoded config hdecode, stepWith_undecoded] at hstep
      cases hstep
      refine .undecoded hattempts ?_ (.illegalInstruction (some raw)) ?_
      · rintro i u' ⟨raw', hfetch', hdecode'⟩
        rw [hfetch] at hfetch'
        cases hfetch'
        rw [hdecode] at hdecode'
        cases hdecode'
      · rw [ht, counting_trapEntry]
        exact counting_tick hsame _
  | ok i =>
      have hfetches : Fetches config s i u := ⟨raw, hfetch, hdecode⟩
      rw [stepWithRaw_decoded config hdecode] at hstep
      cases hrun : executeInstruction config i u with
      | ok a w =>
          rw [stepWith_completed hrun] at hstep
          cases hstep
          exact .completed hattempts hfetches hsame hrun ht
      | error e w =>
          rw [stepWith_raised hrun] at hstep
          cases hstep
          rw [counting_trapEntry] at ht
          exact .raised hattempts hfetches hsame hrun ht
      | panic w =>
          have hpanic : (Exec.attempt (executeInstruction config i) :
              CoreM β ε _) u = .panic w := by
            unfold Exec.attempt
            rw [hrun]
          have hbad : (stepWith config (.ok i) : CoreM β ε Unit) u =
              .panic w := bind_panic hpanic
          rw [hbad] at hstep
          cases hstep

/-- Every step is one of the five kinds, by following the text of `step`. -/
theorem step_stepped {config : Config} {s t : State β}
    (h : (step config : CoreM β ε Unit) s = .ok () t) :
    Stepped config s t := by
  unfold step at h
  rw [get_bind] at h
  obtain ⟨interrupted, u, hcheck, hrest⟩ := bind_ok_iff.1 h
  cases hready : highestPriorityReadyInterrupt s with
  | some interrupt =>
      have hinterrupted : interrupted = true := by
        unfold checkForInterrupts at hcheck
        rw [get_bind, hready] at hcheck
        obtain ⟨_, _, _, hreturn⟩ := bind_ok_iff.1 hcheck
        cases hreturn
        rfl
      subst hinterrupted
      cases hrest
      refine .interrupted ?_ (counting_checkForInterrupts hcheck)
      unfold Attempts
      rw [hready]
      exact Option.some_ne_none _
  | none =>
      unfold checkForInterrupts at hcheck
      rw [get_bind, hready] at hcheck
      cases hcheck
      obtain ⟨result, v, hfetch, hrun⟩ := bind_ok_iff.1 hrest
      obtain ⟨_, w, hstep, hend⟩ := bind_ok_iff.1 hrun
      obtain ⟨_, w', hcheck, hreturn⟩ := bind_ok_iff.1 hend
      cases hreturn
      have ht : t.counting = w.counting := counting_checkForInterrupts hcheck
      unfold Exec.attempt Exec.mapError at hfetch
      cases hword : fetchInstruction config s.registers.pc s with
      | ok raw u' =>
          rw [hword] at hfetch
          cases hfetch
          exact stepped_stepWithRaw hready hword hstep ht
      | error err u' =>
          rw [hword] at hfetch
          cases hfetch
          have hsame := counting_fetchInstruction config s.registers.pc s
          rw [hword] at hsame
          have hundecoded := stepWith_undecoded (ε := ε) config
            (fetchException s.registers.pc err) v
          rw [show (stepWithRaw config (.error (fetchException
            s.registers.pc err)) : CoreM β ε Unit) v = _ from hundecoded]
            at hstep
          cases hstep
          refine .undecoded hready ?_ (fetchException s.registers.pc err) ?_
          · rintro i u' ⟨raw, hfetch, _⟩
            rw [hword] at hfetch
            cases hfetch
          · rw [ht, counting_trapEntry]
            exact counting_tick hsame _
      | panic u' =>
          rw [hword] at hfetch
          cases hfetch

/-! ## What a step should count -/

theorem Fetches.unique {config : Config} {s u u' : State β}
    {i i' : Instruction} (h : Fetches config s i u)
    (h' : Fetches config s i' u') : i' = i ∧ u' = u := by
  obtain ⟨raw, hfetch, hdecode⟩ := h
  obtain ⟨raw', hfetch', hdecode'⟩ := h'
  rw [hfetch] at hfetch'
  cases hfetch'
  rw [hdecode] at hdecode'
  cases hdecode'
  exact ⟨rfl, rfl⟩

/-- A step executes an instruction, without an exception. -/
def Completes (config : Config) (s : State β) : Prop :=
  Attempts s ∧ ∃ i u v, Fetches config s i u ∧
    executeInstruction config i u = .ok () v

/-- The instruction of a step writes a counter. -/
def WritesCounter (config : Config) (s : State β) : Prop :=
  Attempts s ∧ ∃ i u v, Fetches config s i u ∧
    executeInstruction config i u = .ok () v ∧
      ∃ csr : Csr, csr.Counter ∧ i.Writes u csr

/-- What the instruction writes to mcountinhibit, if it does. -/
def Instruction.inhibit (u : State β) (i : Instruction) :
    Option CounterControl :=
  match i with
  | .csr kind _ specifier _ | .csri kind _ specifier _ =>
      if Csr.ofSpecifier specifier = some .mcountinhibit then
        (csrSource u i).map fun value =>
          CounterControl.writeMcountinhibit (csrOperand kind value).1
            (csrOperand kind value).2 u.counterControl
      else none
  | _ => none

/-- The instruction inhibits a counter. -/
def Inhibits (config : Config) (u : State β) (i : Instruction) : Prop :=
  ¬ Illegal config u i ∧ ∃ control, i.inhibit u = some control ∧
    (control.inhibitCy = true ∨ control.inhibitIr = true)

/-- A step after which the counters are not what they should be: its
instruction inhibits a counter, or raises an exception and yet retires. -/
def Miscounted (config : Config) (s : State β) : Prop :=
  Attempts s ∧ ∃ i u, Fetches config s i u ∧
    (Inhibits config u i ∨ retires (.ok i) = true ∧ Fails config u i)

omit [SystemBus β] [Build] in
theorem Instruction.inhibit_eq_some_iff {u : State β} {i : Instruction} :
    (∃ control, i.inhibit u = some control) ↔ i.Writes u .mcountinhibit := by
  have hcsr : ∀ kind specifier, i.specifier = some specifier →
      ((∃ control, (if Csr.ofSpecifier specifier = some .mcountinhibit then
        (csrSource u i).map fun value =>
          CounterControl.writeMcountinhibit (csrOperand kind value).1
            (csrOperand kind value).2 u.counterControl
      else none) = some control) ↔ i.Writes u .mcountinhibit) := by
    intro kind specifier hspecifier
    by_cases hmcountinhibit : Csr.ofSpecifier specifier = some .mcountinhibit
    · rw [if_pos hmcountinhibit]
      constructor
      · rintro ⟨control, hwrite⟩
        obtain ⟨value, hsrc, _⟩ := Option.map_eq_some_iff.1 hwrite
        refine ⟨?_, specifier, hspecifier, hmcountinhibit⟩
        rw [hsrc]
        exact Option.some_ne_none value
      · rintro ⟨hsrc, _⟩
        obtain ⟨value, hvalue⟩ := Option.ne_none_iff_exists'.1 hsrc
        rw [hvalue]
        exact ⟨_, rfl⟩
    · rw [if_neg hmcountinhibit]
      apply iff_of_false
      · rintro ⟨control, hwrite⟩
        cases hwrite
      · rintro ⟨_, specifier', hspecifier', hcsr⟩
        rw [hspecifier] at hspecifier'
        cases hspecifier'
        exact hmcountinhibit hcsr
  have hother : i.specifier = none → i.inhibit u = none →
      ((∃ control, i.inhibit u = some control) ↔
        i.Writes u .mcountinhibit) := by
    intro hspecifier hinhibit
    rw [hinhibit]
    apply iff_of_false
    · rintro ⟨control, hwrite⟩
      cases hwrite
    · rintro ⟨_, specifier, hsome, _⟩
      rw [hspecifier] at hsome
      cases hsome
  cases i with
  | csr kind dest specifier src => exact hcsr kind specifier rfl
  | csri kind dest specifier immediate => exact hcsr kind specifier rfl
  | _ => exact hother rfl rfl

/-- A CSR operation that writes mcountinhibit. -/
theorem csrOpAt_mcountinhibit {config : Config} {level : PrivilegeLevel}
    {op : CsrOp} {dest : Specifier} {specifier : CsrSpecifier}
    {value : BitVec 32} {u v : State β}
    (hcsr : Csr.ofSpecifier specifier = some .mcountinhibit)
    (hrun : csrOpAt config level op dest specifier (some value) u =
      .ok () v) :
    v.counters = u.counters ∧
      v.counterControl = CounterControl.writeMcountinhibit
        (csrOperand op value).1 (csrOperand op value).2 u.counterControl := by
  have hrest : ∀ w : State β,
      ((csrWrite op specifier level (some value) : CoreM β Exception Unit) >>=
        fun _ => updateRegisters Registers.incrementPc) w = .ok () v →
      v.counters = w.counters ∧
        v.counterControl = CounterControl.writeMcountinhibit
          (csrOperand op value).1 (csrOperand op value).2
          w.counterControl := by
    intro w hrun
    obtain ⟨_, w', hwrite, hend⟩ := bind_ok_iff.1 hrun
    cases hend
    have harm := mapError_ok_iff.1 hwrite
    rcases writeCsr_cases specifier level (csrOperand op value).1
        (csrOperand op value).2 (β := β) with
      ⟨e, hthrow⟩ | ⟨csr, hcsr', _, _, _, hdispatch⟩
    · rw [hthrow] at harm
      cases harm
    · rw [hcsr] at hcsr'
      cases hcsr'
      rw [hdispatch] at harm
      cases harm
      exact ⟨rfl, rfl⟩
  unfold csrOpAt at hrun
  by_cases hreads : op ≠ .readWrite ∨ dest ≠ 0
  · rw [if_pos hreads] at hrun
    obtain ⟨_, w, hread, hend⟩ := bind_ok_iff.1 hrun
    have hframe : MemFrame BusContract.trivial u
        ((csrRead config dest specifier level : CoreM β _ _) u).state :=
      ((executes_memory.moves config).tame_csrRead dest specifier level).step u
    rw [hread] at hframe
    rw [← hframe.counters, ← hframe.counterControl]
    exact hrest w hend
  · rw [if_neg hreads] at hrun
    exact hrest u hrun

/-- What is written to mcountinhibit is there after the instruction, and the
counters are as they were. -/
theorem executed_inhibit {config : Config} {i : Instruction} {u v : State β}
    {control : CounterControl} (h : i.inhibit u = some control)
    (hrun : executeInstruction config i u = .ok () v) :
    v.counters = u.counters ∧ v.counterControl = control := by
  have hcsr : ∀ op dest specifier srcValue,
      (if Csr.ofSpecifier specifier = some .mcountinhibit then
        srcValue.map fun value =>
          CounterControl.writeMcountinhibit (csrOperand op value).1
            (csrOperand op value).2 u.counterControl
      else none) = some control →
      csrOpAt config u.privilegeMode op dest specifier srcValue u =
        .ok () v →
      v.counters = u.counters ∧ v.counterControl = control := by
    intro op dest specifier srcValue hwrite hrun
    by_cases hmcountinhibit : Csr.ofSpecifier specifier = some .mcountinhibit
    · rw [if_pos hmcountinhibit, Option.map_eq_some_iff] at hwrite
      obtain ⟨value, rfl, rfl⟩ := hwrite
      exact csrOpAt_mcountinhibit hmcountinhibit hrun
    · rw [if_neg hmcountinhibit] at hwrite
      cases hwrite
  cases i with
  | csr op dest specifier src => exact hcsr op dest specifier _ h hrun
  | csri op dest specifier immediate => exact hcsr op dest specifier _ h hrun
  | _ => cases h

/-- An instruction that completes retires. -/
theorem retires_of_completed {config : Config} {i : Instruction}
    {u v : State β} (h : executeInstruction config i u = .ok () v) :
    retires (.ok i) = true := by
  cases i with
  | ecall =>
      have hrun : executeInstruction config .ecall u =
          (ecall : CoreM β _ _) u := rfl
      rw [hrun] at h
      unfold ecall at h
      rw [get_bind] at h
      cases hmode : u.privilegeMode <;>
        · rw [hmode] at h
          cases h
  | ebreak => cases h
  | _ => rfl

/-! ## One step -/

open Classical in

/-- The counters move by what the step did. -/
structure Counted (config : Config) (s t : State β) : Prop where
  cycle : t.counters.cycle = s.counters.cycle + if Attempts s then 1 else 0
  instret : t.counters.instret =
    s.counters.instret + if Completes config s then 1 else 0

open Classical in

/-- After an attempt the counters are right if the cycles are not inhibited,
and the instruction retired just when it completed. -/
theorem counted_iff_of_attempts {config : Config} {s v t : State β}
    (hattempts : Attempts s) (hsame : v.counters = s.counters)
    (hready : v.counters.Ready) {instruction : Except Exception Instruction}
    (ht : t.counting = (tick instruction v).counting) :
    Counted config s t ↔ v.counterControl.inhibitCy = false ∧
      (Completes config s ↔
        retires instruction = true ∧ v.counterControl.inhibitIr = false) := by
  obtain ⟨hcounters, _⟩ := Prod.mk.inj ht
  obtain ⟨_, _, hcycle, hinstret⟩ := tick_spec hready instruction
  have hone : ∀ x : BitVec 64, x + 0 ≠ x + 1 := by
    intro x heq
    rw [BitVec.add_right_inj] at heq
    exact absurd heq (by decide)
  rw [← hcounters, hsame] at hcycle hinstret
  constructor
  · rintro ⟨hc, hi⟩
    rw [hcycle, if_pos hattempts] at hc
    rw [hinstret] at hi
    constructor
    · cases hcy : v.counterControl.inhibitCy with
      | false => rfl
      | true =>
          rw [hcy] at hc
          exact absurd hc (hone _)
    · by_cases hcompletes : Completes config s
      · rw [if_pos hcompletes] at hi
        refine iff_of_true hcompletes ?_
        by_contra hnot
        rw [if_neg hnot] at hi
        exact hone _ hi
      · rw [if_neg hcompletes] at hi
        refine iff_of_false hcompletes ?_
        intro hretires
        rw [if_pos hretires] at hi
        exact hone _ hi.symm
  · rintro ⟨hcy, hretires⟩
    refine ⟨?_, ?_⟩
    · rw [hcycle, if_pos hattempts, hcy]
      rfl
    · rw [hinstret]
      congr 1
      exact if_congr hretires.symm rfl rfl

omit [SystemBus β] [Build] in
/-- The increments leave a ready state. -/
theorem Ready.tick {s t : State β} (hs : Ready s)
    {instruction : Except Exception Instruction}
    (ht : t.counting = (Core.tick instruction s).counting) : Ready t := by
  obtain ⟨hcontrol, hcounters, _, _⟩ := tick_spec hs.counters instruction
  have hticked : Ready (Core.tick instruction s) := by
    refine ⟨?_, ?_, hcounters⟩
    · rw [hcontrol]
      exact hs.cy
    · rw [hcontrol]
      exact hs.ir
  exact hticked.congr ht

/-- A step with an instruction that completes counts, unless the instruction
inhibits a counter. -/
theorem counted_completed {config : Config} {i : Instruction}
    {s t u v : State β} (hready : Ready s) (hwrites : ¬ WritesCounter config s)
    (hattempts : Attempts s) (hfetches : Fetches config s i u)
    (hsame : u.counting = s.counting)
    (hrun : executeInstruction config i u = .ok () v)
    (ht : t.counting = (tick (.ok i) v).counting) :
    Miscounted config s ∧ ¬ Counted config s t ∨
      ¬ Miscounted config s ∧ Counted config s t ∧ Ready t := by
  have hcompletes : Completes config s := ⟨hattempts, i, u, v, hfetches, hrun⟩
  have hretires := retires_of_completed hrun
  have hsucceeds : ¬ Fails config u i := by
    rw [← executeInstruction_fails_iff config hretires]
    rintro ⟨e, w, herror⟩
    rw [hrun] at herror
    cases herror
  have hmiscounted : Miscounted config s ↔ Inhibits config u i := by
    constructor
    · rintro ⟨_, i', u', hfetches', hcase⟩
      obtain ⟨rfl, rfl⟩ := hfetches.unique hfetches'
      cases hcase with
      | inl hinhibits => exact hinhibits
      | inr hfails => exact absurd hfails.2 hsucceeds
    · intro hinhibits
      exact ⟨hattempts, i, u, hfetches, Or.inl hinhibits⟩
  have hcounted : v.counters = s.counters →
      (Counted config s t ↔ v.counterControl.inhibitCy = false ∧
        v.counterControl.inhibitIr = false) := by
    intro hcounters
    rw [counted_iff_of_attempts hattempts hcounters
      (hcounters ▸ hready.counters) ht]
    simp only [hcompletes, hretires, true_iff, true_and]
  by_cases hinhibit : ∃ control, i.inhibit u = some control
  · obtain ⟨control, hcontrol⟩ := hinhibit
    obtain ⟨hcounters, hv⟩ := executed_inhibit hcontrol hrun
    have hsameCounters := hcounters.trans (Prod.mk.inj hsame).1
    rw [hmiscounted, hcounted hsameCounters, hv]
    by_cases hbits : control.inhibitCy = false ∧ control.inhibitIr = false
    · refine Or.inr ⟨?_, hbits, ?_⟩
      · rintro ⟨_, control', hcontrol', hset⟩
        rw [hcontrol] at hcontrol'
        cases hcontrol'
        rw [hbits.1, hbits.2] at hset
        simp at hset
      · apply Ready.tick (s := v) _ ht
        exact ⟨hv ▸ hbits.1, hv ▸ hbits.2, hsameCounters ▸ hready.counters⟩
    · refine Or.inl ⟨⟨fun h => hsucceeds (Or.inl h), control, hcontrol, ?_⟩,
        hbits⟩
      by_contra hclear
      rw [not_or, Bool.not_eq_true, Bool.not_eq_true] at hclear
      exact hbits hclear
  · have hkept : v.counting = u.counting := by
      have hstate := writtenBy_counting.executed config i u (by
        rintro csr hwrite (hcounter | rfl)
        · exact hwrites
            ⟨hattempts, i, u, v, hfetches, hrun, csr, hcounter, hwrite⟩
        · exact hinhibit (Instruction.inhibit_eq_some_iff.2 hwrite))
      rw [hrun] at hstate
      exact hstate
    have hv := hready.congr (hkept.trans hsame)
    rw [hmiscounted, hcounted (Prod.mk.inj (hkept.trans hsame)).1]
    refine Or.inr ⟨?_, ⟨hv.cy, hv.ir⟩, hv.tick ht⟩
    rintro ⟨_, control, hcontrol, _⟩
    exact hinhibit ⟨control, hcontrol⟩

/-- A step with an instruction that raises an exception counts if the code
does not take the instruction to retire. -/
theorem counted_raised {config : Config} {i : Instruction} {e : Exception}
    {s t u v : State β} (hready : Ready s) (hattempts : Attempts s)
    (hfetches : Fetches config s i u) (hsame : u.counting = s.counting)
    (hrun : executeInstruction config i u = .error e v)
    (ht : t.counting = (tick (.ok i) v).counting) :
    Miscounted config s ∧ ¬ Counted config s t ∨
      ¬ Miscounted config s ∧ Counted config s t ∧ Ready t := by
  have hkept : v.counting = s.counting :=
    (writtenBy_counting.failed hrun).trans hsame
  have hv := hready.congr hkept
  have hcompletes : ¬ Completes config s := by
    rintro ⟨_, i', u', w, hfetches', hrun'⟩
    obtain ⟨rfl, rfl⟩ := hfetches.unique hfetches'
    rw [hrun] at hrun'
    cases hrun'
  have hcounted : Counted config s t ↔ retires (.ok i) = false := by
    rw [counted_iff_of_attempts hattempts (Prod.mk.inj hkept).1 hv.counters ht]
    simp [hv.cy, hv.ir, hcompletes]
  rw [hcounted]
  cases hretires : retires (.ok i) with
  | true =>
      have hfails : Fails config u i := by
        rw [← executeInstruction_fails_iff config hretires]
        exact ⟨e, v, hrun⟩
      exact Or.inl
        ⟨⟨hattempts, i, u, hfetches, Or.inr ⟨hretires, hfails⟩⟩, by simp⟩
  | false =>
      refine Or.inr ⟨?_, rfl, hv.tick ht⟩
      rintro ⟨_, i', u', hfetches', hcase⟩
      obtain ⟨rfl, rfl⟩ := hfetches.unique hfetches'
      rcases hcase with ⟨_, control, hcontrol, _⟩ | ⟨hbad, _⟩
      · cases i' with
        | csr => cases hretires
        | csri => cases hretires
        | _ => cases hcontrol
      · rw [hretires] at hbad
        cases hbad

/-- A step from a ready state counts, and leaves a ready state, unless it is
one of those that miscount. -/
theorem Stepped.counted {config : Config} {s t : State β}
    (h : Stepped config s t) (hready : Ready s)
    (hwrites : ¬ WritesCounter config s) :
    Miscounted config s ∧ ¬ Counted config s t ∨
      ¬ Miscounted config s ∧ Counted config s t ∧ Ready t := by
  cases h with
  | interrupted hnot hsame =>
      obtain ⟨hcounters, _⟩ := Prod.mk.inj hsame
      refine Or.inr ⟨fun h => hnot h.1, ⟨?_, ?_⟩, hready.congr hsame⟩
      · rw [hcounters, if_neg hnot]
        simp
      · rw [hcounters, if_neg fun h => hnot h.1]
        simp
  | undecoded hattempts hfetches e ht =>
      refine Or.inr ⟨?_, ?_, hready.tick ht⟩
      · rintro ⟨_, i, u, hfetch, _⟩
        exact hfetches i u hfetch
      · rw [counted_iff_of_attempts hattempts rfl hready.counters ht]
        refine ⟨hready.cy, iff_of_false ?_ ?_⟩
        · rintro ⟨_, i, u, _, hfetch, _⟩
          exact hfetches i u hfetch
        · rintro ⟨hretires, _⟩
          cases hretires
  | completed hattempts hfetches hsame hrun ht =>
      exact counted_completed hready hwrites hattempts hfetches hsame hrun ht
  | raised hattempts hfetches hsame hrun ht =>
      exact counted_raised hready hattempts hfetches hsame hrun ht

/-! ## Runs -/

/-- The first `n` steps of a sequence of states. -/
def RunsFor (config : Config) (states : Nat → State β) (n : Nat) : Prop :=
  ∀ k < n, (step config : CoreM β Exception Unit) (states k) =
    .ok () (states (k + 1))

open Classical in

/-- After `m` steps the counters have moved by the number of attempted and of
completed instructions, modulo `2 ^ 64`. -/
structure CountsExactly (config : Config) (states : Nat → State β) (m : Nat) :
    Prop where
  cycle : (states m).counters.cycle = (states 0).counters.cycle +
    BitVec.ofNat 64 (Nat.count (fun k => Attempts (states k)) m)
  instret : (states m).counters.instret = (states 0).counters.instret +
    BitVec.ofNat 64 (Nat.count (fun k => Completes config (states k)) m)

/-- The counters are right at every moment of a run just if every single step
counts. -/
theorem countsExactly_iff (config : Config) (states : Nat → State β)
    (n : Nat) :
    (∀ m ≤ n, CountsExactly config states m) ↔
      ∀ k < n, Counted config (states k) (states (k + 1)) := by
  classical
  have hcycle := counts_iff (fun m => (states m).counters.cycle)
    (fun k => Attempts (states k)) n
  have hinstret := counts_iff (fun m => (states m).counters.instret)
    (fun k => Completes config (states k)) n
  constructor
  · intro h k hk
    exact ⟨hcycle.1 (fun m hm => (h m hm).cycle) k hk,
      hinstret.1 (fun m hm => (h m hm).instret) k hk⟩
  · intro h m hm
    exact ⟨hcycle.2 (fun k hk => (h k hk).cycle) m hm,
      hinstret.2 (fun k hk => (h k hk).instret) m hm⟩

/-- The counters count, from any state in which they are not inhibited or to
be skipped, in any run in which nothing is written to them: unless a step
executes an instruction that inhibits one, or that raises an exception and is
neither ECALL nor EBREAK. -/
theorem counters_count_iff (config : Config) (states : Nat → State β) (n : Nat)
    (hinhibit : (states 0).counterControl.mcountinhibit = 0)
    (hcycle : (states 0).counters.skipNextMcycleIncrement = false)
    (hinstret : (states 0).counters.skipNextMinstretIncrement = false)
    (hrun : RunsFor config states n)
    (hwrites : ∀ k < n, ¬ WritesCounter config (states k)) :
    (∀ m ≤ n, CountsExactly config states m) ↔
      ∀ k < n, ¬ Miscounted config (states k) := by
  have hstart : Ready (states 0) := by
    refine ⟨?_, ?_, hcycle, hinstret⟩
    · unfold CounterControl.inhibitCy
      rw [hinhibit]
      decide
    · unfold CounterControl.inhibitIr
      rw [hinhibit]
      decide
  have hstep : ∀ k < n, Ready (states k) →
      Miscounted config (states k) ∧
          ¬ Counted config (states k) (states (k + 1)) ∨
        ¬ Miscounted config (states k) ∧
          Counted config (states k) (states (k + 1)) ∧
          Ready (states (k + 1)) := by
    intro k hk hready
    exact (step_stepped (hrun k hk)).counted hready (hwrites k hk)
  -- up to the first step that miscounts, every state is ready
  have hready : (∀ k < n, Counted config (states k) (states (k + 1)) ∨
      ¬ Miscounted config (states k)) → ∀ k ≤ n, Ready (states k) := by
    intro hgood k hk
    induction k with
    | zero => exact hstart
    | succ k ih =>
        rcases hstep k hk (ih (by omega)) with ⟨hbad, hnot⟩ | ⟨_, _, hnext⟩
        · cases hgood k hk with
          | inl hcounted => exact absurd hcounted hnot
          | inr hfine => exact absurd hbad hfine
        · exact hnext
  rw [countsExactly_iff]
  constructor
  · intro hcounted k hk hmiscounted
    have hk' := hready (fun j hj => Or.inl (hcounted j hj)) k (by omega)
    rcases hstep k hk hk' with ⟨_, hnot⟩ | ⟨hfine, _⟩
    · exact hnot (hcounted k hk)
    · exact hfine hmiscounted
  · intro hfine k hk
    have hk' := hready (fun j hj => Or.inr (hfine j hj)) k (by omega)
    rcases hstep k hk hk' with ⟨hbad, _⟩ | ⟨_, hcounted, _⟩
    · exact absurd hbad (hfine k hk)
    · exact hcounted

/-- The states that a core goes through as it is stepped. -/
def runFrom (config : Config) (s : State β) : Nat → State β
  | 0 => s
  | k + 1 => ((step config : CoreM β Exception Unit) (runFrom config s k)).state

omit [SystemBus β] [Build] in
/-- A core after reset, with this word as its first instruction. -/
def MemoryBus.starting (word : BitVec 32) : State MemoryBus :=
  State.new NoDevices.config
    (MemoryBus.ofWords [(NoDevices.config.resetVector, word)])

omit [Build] in
/-- The first instruction of such a core. -/
theorem MemoryBus.fetches_starting {word : BitVec 32} {i j : Instruction}
    {u v : State MemoryBus}
    (hfetch : @fetchInstruction MemoryBus _ Build.debug NoDevices.config
      NoDevices.config.resetVector (MemoryBus.starting word) = .ok word v)
    (hdecode : decode word = .ok j)
    (h : @Fetches MemoryBus _ Build.debug NoDevices.config
      (MemoryBus.starting word) i u) : i = j ∧ u = v :=
  @Fetches.unique MemoryBus _ Build.debug _ _ _ _ _ _
    ⟨word, hfetch, hdecode⟩ h

omit [SystemBus β] [Build] in
/-- A jump to the halfword after it raises an exception, and counts as
retired. -/
theorem not_countsExactly_jump :
    (MemoryBus.starting 0x0020006F).counterControl.mcountinhibit = 0 ∧
      (MemoryBus.starting 0x0020006F).counters.Ready ∧
      @RunsFor MemoryBus _ Build.debug NoDevices.config
        (@runFrom MemoryBus _ Build.debug NoDevices.config
          (MemoryBus.starting 0x0020006F)) 1 ∧
      (∀ k < 1, ¬ @WritesCounter MemoryBus _ Build.debug NoDevices.config
        (@runFrom MemoryBus _ Build.debug NoDevices.config
          (MemoryBus.starting 0x0020006F) k)) ∧
      ¬ @CountsExactly MemoryBus _ Build.debug NoDevices.config
        (@runFrom MemoryBus _ Build.debug NoDevices.config
          (MemoryBus.starting 0x0020006F)) 1 := by
  refine ⟨rfl, ⟨rfl, rfl⟩, ?_, ?_, ?_⟩
  · intro k hk
    have hzero : k = 0 := by omega
    subst hzero
    rfl
  · rintro k hk ⟨_, i, u, v, hfetches, _, csr, _, hwrites⟩
    have hzero : k = 0 := by omega
    subst hzero
    obtain ⟨rfl, rfl⟩ :=
      MemoryBus.fetches_starting (j := .jal 0 2) rfl rfl hfetches
    exact hwrites.1 rfl
  · intro hcounts
    have hnot : ¬ @Completes MemoryBus _ Build.debug NoDevices.config
        (@runFrom MemoryBus _ Build.debug NoDevices.config
          (MemoryBus.starting 0x0020006F) 0) := by
      rintro ⟨_, i, u, v, hfetches, hrun⟩
      obtain ⟨rfl, rfl⟩ :=
        MemoryBus.fetches_starting (j := .jal 0 2) rfl rfl hfetches
      cases hrun
    have hinstret :=
      @CountsExactly.instret MemoryBus _ Build.debug _ _ _ hcounts
    rw [Nat.count_succ, Nat.count_zero, if_neg hnot] at hinstret
    exact absurd hinstret (by decide)

omit [SystemBus β] [Build] in
/-- A core whose counters are about to carry, before an ADDI and an ECALL. -/
def MemoryBus.carrying : State MemoryBus :=
  { State.new NoDevices.config (MemoryBus.ofWords
      [(NoDevices.config.resetVector, 0x00000013),
        (NoDevices.config.resetVector + 4, 0x00000073)]) with
    counters := { Counters.new with
      mcycle := 0xFFFFFFFF
      minstret := 0xFFFFFFFF } }

omit [SystemBus β] [Build] in
/-- What its first two steps fetch. -/
theorem MemoryBus.carrying_fetches :
    (∃ u, @Fetches MemoryBus _ Build.debug NoDevices.config
      MemoryBus.carrying (.opImm .addi 0 0 0) u) ∧
    ∃ u, @Fetches MemoryBus _ Build.debug NoDevices.config
      (@runFrom MemoryBus _ Build.debug NoDevices.config MemoryBus.carrying 1)
      .ecall u :=
  ⟨⟨_, 0x00000013, rfl, rfl⟩, ⟨_, 0x00000073, rfl, rfl⟩⟩

omit [SystemBus β] [Build] in
/-- Neither of them panics. -/
theorem MemoryBus.carrying_runsFor :
    @RunsFor MemoryBus _ Build.debug NoDevices.config
      (@runFrom MemoryBus _ Build.debug NoDevices.config MemoryBus.carrying)
      2 := by
  intro k hk
  rcases (show k = 0 ∨ k = 1 by omega) with rfl | rfl
  · rfl
  · rfl

omit [SystemBus β] [Build] in
/-- The carry goes into the upper halves; the ECALL is attempted and not
retired. -/
theorem countsExactly_carry :
    (@runFrom MemoryBus _ Build.debug NoDevices.config
        MemoryBus.carrying 2).counters.cycle = 0x100000001 ∧
      (@runFrom MemoryBus _ Build.debug NoDevices.config
        MemoryBus.carrying 2).counters.instret = 0x100000000 ∧
      @CountsExactly MemoryBus _ Build.debug NoDevices.config
        (@runFrom MemoryBus _ Build.debug NoDevices.config
          MemoryBus.carrying) 2 := by
  let _ : Build := Build.debug
  let states := runFrom NoDevices.config MemoryBus.carrying
  obtain ⟨⟨_, haddi⟩, ⟨_, hecall⟩⟩ := MemoryBus.carrying_fetches
  have hwrites : ∀ k < 2, ¬ WritesCounter NoDevices.config (states k) := by
    rintro k hk ⟨_, i, u, v, hfetches, _, csr, _, hwrites⟩
    rcases (show k = 0 ∨ k = 1 by omega) with rfl | rfl
    · obtain ⟨rfl, rfl⟩ := haddi.unique hfetches
      exact hwrites.1 rfl
    · obtain ⟨rfl, rfl⟩ := hecall.unique hfetches
      exact hwrites.1 rfl
  have hfine : ∀ k < 2, ¬ Miscounted NoDevices.config (states k) := by
    rintro k hk ⟨_, i, u, hfetches, hcase⟩
    rcases (show k = 0 ∨ k = 1 by omega) with rfl | rfl
    · obtain ⟨rfl, rfl⟩ := haddi.unique hfetches
      rcases hcase with ⟨_, control, hcontrol, _⟩ | ⟨_, hfails⟩
      · cases hcontrol
      · rcases hfails with hillegal | ⟨err, haccess⟩ | ⟨newPc, htarget, _⟩
        · exact hillegal
        · cases haccess
        · cases htarget
    · obtain ⟨rfl, rfl⟩ := hecall.unique hfetches
      rcases hcase with ⟨_, control, hcontrol, _⟩ | ⟨hretires, _⟩
      · cases hcontrol
      · cases hretires
  exact ⟨by decide +kernel, by decide +kernel,
    (counters_count_iff NoDevices.config states 2 rfl rfl rfl
      MemoryBus.carrying_runsFor hwrites).2
      hfine 2 le_rfl⟩

end RedPlanet.Core
