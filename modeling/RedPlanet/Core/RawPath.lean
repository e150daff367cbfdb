import RedPlanet.Core.Illegal
import RedPlanet.Core.TrapState

/-!
# The two ways to execute a raw instruction

`Core::execute_raw_instruction` and `Core::step_with_raw` both decode and
execute.  The first puts the raw instruction into an illegal instruction
exception that does not carry it; the second traps with the exception as it
is.

They agree on every exception except when execution, not decoding, finds the
instruction illegal (`same_exception_iff`).  A trap after the counters were
incremented shows which exception it was for (`ticked_taken`), so that the
difference can be seen in the state (`not_taken_without_word`).
-/

namespace RedPlanet.Core

open RedPlanet.Verified Exec

variable {β ε : Type}

/-- The error mapping of `execute_raw_instruction`. -/
def fillRaw (rawInstruction : BitVec 32) : Exception → Exception
  | .illegalInstruction none => .illegalInstruction (some rawInstruction)
  | err => err

/-- `Core::execute_raw_instruction`. -/
def executeRawInstruction [SystemBus β] [Build] (config : Config)
    (rawInstruction : BitVec 32) : CoreM β Exception Unit :=
  match decode rawInstruction with
  | .error _ => Exec.throw (.illegalInstruction (some rawInstruction))
  | .ok instruction =>
      Exec.mapError (fillRaw rawInstruction)
        (executeInstruction config instruction)

/-! ## The trap at the end of a step -/

/-- The mapping changes an illegal instruction without its word and nothing
else. -/
theorem fillRaw_eq_iff (raw : BitVec 32) (e : Exception) :
    fillRaw raw e = e ↔ e ≠ .illegalInstruction none := by
  cases e with
  | illegalInstruction word => cases word <;> simp [fillRaw]
  | _ => simp [fillRaw]

/-- An exception is never vectored. -/
theorem trap_exception [Build] (e : Exception) (s : State β) :
    (trap (.exception (some e)) : CoreM β ε Unit) s =
      .ok () (trapEntry s (.exception (some e))) := by
  cases trap_cases (ε := ε) (.exception (some e)) s with
  | inl hok => exact hok.2
  | inr hpanic =>
      have hdirect : ∀ mode,
          vectorOffset mode (.exception (some e)) = 0 := by
        intro mode
        cases mode <;> rfl
      exact absurd hpanic.1 (not_vectorOverflows (hdirect _))

/-- The increments of the counters after an instruction. -/
def tick (instruction : Except Exception Instruction) (s : State β) :
    State β :=
  let s := s.onCounters (Counters.incrementCycle s.counterControl.inhibitCy)
  if retires instruction then
    s.onCounters (Counters.incrementInstret s.counterControl.inhibitIr)
  else s

/-- The counters are all that changes. -/
theorem tick_eq (instruction : Except Exception Instruction) (s : State β) :
    ∃ f, tick instruction s = s.onCounters f := by
  unfold tick
  cases retires instruction with
  | true =>
      exact ⟨fun counters =>
        Counters.incrementInstret s.counterControl.inhibitIr
          (Counters.incrementCycle s.counterControl.inhibitCy counters), rfl⟩
  | false => exact ⟨_, rfl⟩

variable [SystemBus β] [Build]

/-- A step whose instruction was executed, whether with success or not. -/
theorem stepWith_executed {config : Config} {i : Instruction}
    {s u : State β} {result : Except Exception Unit}
    (h : (Exec.attempt (executeInstruction config i) : CoreM β ε _) s =
      .ok result u) :
    (stepWith config (.ok i) : CoreM β ε Unit) s =
      (trapOnError result : CoreM β ε Unit) (tick (.ok i) u) := by
  refine (bind_ok h).trans ?_
  unfold tick
  cases retires (.ok i) <;> rfl

/-- An instruction that fails is followed by the trap for its exception. -/
theorem stepWith_raised {config : Config} {i : Instruction} {s u : State β}
    {e : Exception} (h : executeInstruction config i s = .error e u) :
    (stepWith config (.ok i) : CoreM β ε Unit) s =
      .ok () (trapEntry (tick (.ok i) u) (.exception (some e))) := by
  have hattempt : (Exec.attempt (executeInstruction config i) :
      CoreM β ε _) s = .ok (.error e) u := by
    unfold Exec.attempt
    rw [h]
  rw [stepWith_executed hattempt]
  exact trap_exception e _

/-- An instruction that succeeds is followed by the counters alone. -/
theorem stepWith_completed {config : Config} {i : Instruction} {s u : State β}
    (h : executeInstruction config i s = .ok () u) :
    (stepWith config (.ok i) : CoreM β ε Unit) s =
      .ok () (tick (.ok i) u) := by
  have hattempt : (Exec.attempt (executeInstruction config i) :
      CoreM β ε _) s = .ok (.ok ()) u := by
    unfold Exec.attempt
    rw [h]
  exact stepWith_executed hattempt

/-- What cannot be decoded is not executed. -/
theorem stepWith_undecoded (config : Config) (e : Exception) (s : State β) :
    (stepWith config (.error e) : CoreM β ε Unit) s =
      .ok () (trapEntry (tick (.error e) s) (.exception (some e))) :=
  trap_exception e _

/-! ## The two paths -/

/-- The stepping path traps with the exceptions of the raw path, right after
the counters are incremented. -/
def SameException (config : Config) (raw : BitVec 32) (s : State β) : Prop :=
  ∀ e u, executeRawInstruction config raw s = .error e u →
    ∃ f toSMode t, (stepWithRaw config (.ok raw) : CoreM β Exception Unit) s =
        .ok () t ∧
      TrapTaken (u.onCounters f) (.exception (some e)) toSMode t

/-- A word that can be decoded is stepped as its instruction. -/
theorem stepWithRaw_decoded (config : Config) {raw : BitVec 32}
    {i : Instruction} (hdecode : decode raw = .ok i) :
    (stepWithRaw config (.ok raw) : CoreM β ε Unit) =
      stepWith config (.ok i) := by
  unfold stepWithRaw
  dsimp only
  rw [hdecode]

/-- A word that cannot be decoded is illegal, and the exception carries it. -/
theorem stepWithRaw_undecoded (config : Config) {raw : BitVec 32}
    {err : DecodeError} (hdecode : decode raw = .error err) :
    (stepWithRaw config (.ok raw) : CoreM β ε Unit) =
      stepWith config (.error (.illegalInstruction (some raw))) := by
  unfold stepWithRaw
  dsimp only
  rw [hdecode]

/-- The raw path executes the same instruction, and maps the error. -/
theorem executeRawInstruction_decoded (config : Config) {raw : BitVec 32}
    {i : Instruction} (hdecode : decode raw = .ok i) :
    (executeRawInstruction config raw : CoreM β _ _) =
      Exec.mapError (fillRaw raw) (executeInstruction config i) := by
  unfold executeRawInstruction
  rw [hdecode]

omit [SystemBus β] [Build] in
/-- A trap after the counters were incremented. -/
theorem ticked_taken (instruction : Except Exception Instruction)
    (u : State β) (cause : Cause) :
    ∃ f toSMode, TrapTaken (u.onCounters f) cause toSMode
      (trapEntry (tick instruction u) cause) := by
  obtain ⟨f, hf⟩ := tick_eq instruction u
  rw [hf]
  exact ⟨f, _, trapEntry_taken (u.onCounters f) cause⟩

omit [SystemBus β] [Build] in
/-- The trap of an illegal instruction without its word is not that of one
with it. -/
theorem not_taken_without_word {f : Counters → Counters} {u : State β}
    {toSMode : Bool} {raw : BitVec 32}
    {instruction : Except Exception Instruction} :
    ¬ TrapTaken (u.onCounters f)
      (.exception (some (.illegalInstruction (some raw)))) toSMode
      (trapEntry (tick instruction u)
        (.exception (some (.illegalInstruction none)))) := by
  intro htaken
  obtain ⟨g, hg⟩ := tick_eq instruction u
  rw [hg] at htaken
  have hentry := trapEntry_taken (u.onCounters g)
    (.exception (some (.illegalInstruction none)))
  -- the code alone decides the target
  have htarget : toSMode = trapToSMode (u.onCounters g)
      (.exception (some (.illegalInstruction none))) := by
    rw [Bool.eq_iff_iff]
    exact htaken.target.trans hentry.target.symm
  have hcause := htaken.lastCause
  rw [htarget, hentry.lastCause] at hcause
  cases hcause

/-- An instruction that execution finds illegal. -/
theorem not_sameException {config : Config} {raw : BitVec 32}
    {i : Instruction} {s : State β} (hdecode : decode raw = .ok i)
    (hillegal : Illegal config s i) : ¬ SameException config raw s := by
  intro hsame
  obtain ⟨u, hrun⟩ := (illegal_iff config i s).2 hillegal
  have hraw : executeRawInstruction config raw s =
      .error (.illegalInstruction (some raw)) u := by
    rw [executeRawInstruction_decoded config hdecode]
    exact mapError_error_iff.2 ⟨_, hrun, rfl⟩
  obtain ⟨f, toSMode, t, hstep, htaken⟩ := hsame _ u hraw
  rw [stepWithRaw_decoded config hdecode, stepWith_raised hrun] at hstep
  cases hstep
  exact not_taken_without_word htaken

/-- Both paths report the same exception, unless execution finds the decoded
instruction illegal: then the stepping path traps without the word. -/
theorem same_exception_iff (config : Config) (raw : BitVec 32)
    (s : State β) :
    SameException config raw s ↔
      ¬ ∃ i, decode raw = .ok i ∧ Illegal config s i := by
  constructor
  · rintro hsame ⟨i, hdecode, hillegal⟩
    exact not_sameException hdecode hillegal hsame
  · intro hlegal e u hraw
    cases hdecode : decode raw with
    | error err =>
        have hthrow : executeRawInstruction config raw s =
            .error (.illegalInstruction (some raw)) s := by
          unfold executeRawInstruction
          rw [hdecode]
          rfl
        rw [hthrow] at hraw
        cases hraw
        obtain ⟨f, toSMode, htaken⟩ := ticked_taken
          (.error (.illegalInstruction (some raw))) s
          (.exception (some (.illegalInstruction (some raw))))
        refine ⟨f, toSMode, _, ?_, htaken⟩
        rw [stepWithRaw_undecoded config hdecode]
        exact stepWith_undecoded config _ s
    | ok i =>
        rw [executeRawInstruction_decoded config hdecode] at hraw
        obtain ⟨e', hrun, he⟩ := mapError_error_iff.1 hraw
        have hword : e' ≠ .illegalInstruction none := by
          rintro rfl
          exact hlegal ⟨i, hdecode, (illegal_iff config i s).1 ⟨u, hrun⟩⟩
        rw [(fillRaw_eq_iff raw e').2 hword] at he
        subst he
        obtain ⟨f, toSMode, htaken⟩ :=
          ticked_taken (.ok i) u (.exception (some e'))
        refine ⟨f, toSMode, _, ?_, htaken⟩
        rw [stepWithRaw_decoded config hdecode]
        exact stepWith_raised hrun

omit [Build] in
/-- SRET in U-mode. -/
theorem not_same_exception_sret :
    ¬ @SameException NoDevices _ Build.debug NoDevices.config 0x10200073
      { State.new NoDevices.config .unit with privilegeMode := .user } :=
  @not_sameException NoDevices _ Build.debug NoDevices.config 0x10200073 .sret
    _ (by decide) (Or.inl rfl)

end RedPlanet.Core
