import RedPlanet.Board.ExternalLine
import RedPlanet.Board.Timer
import RedPlanet.Core.Pending
import RedPlanet.Resources.PlicRegisters

/-!
# No device interrupts

The core accesses the bus by four bytes at most.  Such writes can only clear
halves of mtimecmp, which is zero at first, so the timer is always due and
never becomes due.  The enable words of the PLIC take the bit of the reserved
source only, so no source ever asks for an interrupt.

`Mute` is what this makes of the bus, kept by its reads and writes
(`mute_read`, `mute_write`), and `Silent` adds that the line of the timer is
clear, kept by the steps and runs of the board (`silent_step`, `silent_run`).
On this board no guest gets an interrupt from a device: neither look that a
step takes for interrupts finds one (`silent_of_run`).  MTIP is therefore
clear in every run although the timer is due in every run, so the line never
agrees with its condition (`mtip_of_run`).
-/

namespace RedPlanet

open RedPlanet.Core RedPlanet.Resources RedPlanet.Verified Discipline

/-! ## The timer is always due -/

namespace Resources.Clint

theorem needsInterrupt_of_mtimecmp {clint : Clint} (h : clint.mtimecmp = 0) :
    clint.needsInterrupt = true := by
  unfold needsInterrupt
  rw [h]
  exact decide_eq_true (Nat.zero_le clint.mtime.toNat)

/-- A half of mtimecmp is only ever cleared. -/
theorem mtimecmp_writeU32 {address value : BitVec 32} {clint : Clint}
    (h : clint.mtimecmp = 0) :
    (clint.writeU32 address value).1.mtimecmp = 0 := by
  have hhigher : (setMtimecmpHigher value clint).mtimecmp = 0 := by
    simp [setMtimecmpHigher, h]
  have hlower : (setMtimecmpLower value clint).mtimecmp = 0 := by
    simp [setMtimecmpLower, h]
  unfold writeU32
  split
  · exact hhigher
  · split
    · exact hlower
    · repeat' split
      all_goals exact h

theorem mtimecmp_write {address : BitVec 32} {buf : List (BitVec 8)}
    {clint : Clint} (hlen : buf.length ≤ 4) (h : clint.mtimecmp = 0) :
    (clint.write address buf).1.mtimecmp = 0 := by
  unfold write
  split
  · exact h
  · split
    · exact mtimecmp_writeU32 h
    · rw [if_neg (by omega)]
      exact h

end Resources.Clint

/-! ## No source is enabled -/

namespace Resources.Plic

/-- No source is enabled, but perhaps the reserved one. -/
def Disabled (plic : Plic) : Prop :=
  ∀ index, 1 ≤ index → plic.enabled.bit index = false

theorem Disabled.of_eq {plic plic' : Plic} (h : plic.Disabled)
    (henabled : plic'.enabled = plic.enabled) : plic'.Disabled := by
  unfold Disabled
  rw [henabled]
  exact h

theorem Disabled.needsInterrupt {plic : Plic} (h : plic.Disabled) :
    plic.needsInterrupt = false := by
  unfold Plic.needsInterrupt
  rw [decide_eq_false_iff_not, not_not]
  by_contra hpending
  have hasserts := (asserts_highestPriorityPending hpending).2
  have henabled := hasserts.enabled
  rw [h _ (Nat.one_le_iff_ne_zero.2 hpending)] at henabled
  cases henabled

theorem disabled_read {address : BitVec 32} {buf buf' : List (BitVec 8)}
    {plic plic' : Plic} {calls : List Callback}
    (h : plic.read address buf = some (buf', plic', calls))
    (hdisabled : plic.Disabled) : plic'.Disabled := by
  unfold read at h
  split at h
  · cases h
    exact hdisabled
  · split at h
    · obtain ⟨⟨value, after, calls'⟩, hread, hresult⟩ :=
        Option.map_eq_some_iff.1 h
      cases hresult
      rcases readU32_cases hread with ⟨_, hclaimed⟩ | ⟨_, hsame, _⟩
      · exact hdisabled.of_eq hclaimed.enabled
      · rw [hsame]
        exact hdisabled
    · cases h
      exact hdisabled

theorem disabled_poke {accessor : AddrAccessor} {value : BitVec 32}
    {plic plic' : Plic} (hword : ∀ i, accessor = .enabled i → i % 4 = 0)
    (h : plic.poke accessor value = some plic') (hdisabled : plic.Disabled) :
    plic'.Disabled := by
  cases accessor with
  | enabled i =>
      obtain ⟨enabled, hset, hplic⟩ := Option.map_eq_some_iff.1 h
      subst hplic
      have hzero : i = 0 := by
        have hi : ¬ 2 ≤ i := fun hle => by
          rw [BitArr.setWord_eq_none_iff.2 hle] at hset
          cases hset
        have hdvd := hword i rfl
        omega
      subst hzero
      intro index hindex
      show enabled.bit index = false
      rw [bit_maskWord_zero hset]
      split
      · have hne : index % 32 ≠ 0 := by omega
        rw [decide_eq_false hne, Bool.false_and]
      · exact hdisabled index hindex
  | priorities i =>
      unfold poke setPriority at h
      dsimp only at h
      split at h
      · cases h
        exact hdisabled
      · cases h
  | pending i =>
      obtain ⟨_, _, hplic⟩ := Option.map_eq_some_iff.1 h
      subst hplic
      exact hdisabled
  | threshold =>
      cases h
      exact hdisabled
  | claimComplete =>
      unfold poke at h
      dsimp only at h
      split at h
      · exact hdisabled.of_eq (pending_setComplete h).2.1
      · cases h
        exact hdisabled

/-- The enable words lie at aligned offsets. -/
theorem aligned_of_enabled {address i : ℕ}
    (h : AddrAccessor.fromAddress address = some (.enabled i))
    (haligned : address % 4 = 0) : i % 4 = 0 := by
  unfold AddrAccessor.fromAddress at h
  split at h
  · exact nomatch Option.some_inj.1 h
  · split at h
    · exact nomatch Option.some_inj.1 h
    · split at h
      · have hi : address - ENABLES_BASE_ADDR = i :=
          AddrAccessor.enabled.inj (Option.some_inj.1 h)
        have hbase : ENABLES_BASE_ADDR = 0x2000 := rfl
        omega
      · split at h
        · exact nomatch Option.some_inj.1 h
        · split at h
          · exact nomatch Option.some_inj.1 h
          · exact nomatch h

theorem disabled_raise {index : ℕ} {plic plic' : Plic} {calls : List Callback}
    (h : plic.raise index = some (plic', calls)) (hdisabled : plic.Disabled) :
    plic'.Disabled := by
  obtain ⟨⟨_, after, calls'⟩, hupdate, hresult⟩ := Option.map_eq_some_iff.1 h
  cases hresult
  obtain ⟨raised, hset, hraised⟩ :=
    Option.map_eq_some_iff.1 (of_update hupdate)
  cases hraised
  obtain ⟨_, _, hplic⟩ := Option.map_eq_some_iff.1 hset
  subst hplic
  exact hdisabled

theorem disabled_write {address : BitVec 32} {buf : List (BitVec 8)}
    {plic plic' : Plic} {calls : List Callback}
    (h : plic.write address buf = some (plic', calls))
    (hdisabled : plic.Disabled) : plic'.Disabled := by
  unfold write at h
  split at h
  · cases h
    exact hdisabled
  · rename_i haligned
    rw [Bool.not_eq_true', Bool.not_eq_false] at haligned
    split at h
    · unfold writeU32 at h
      cases hacc : AddrAccessor.fromAddress address.toNat with
      | none =>
          rw [hacc] at h
          cases h
          exact hdisabled
      | some accessor =>
          rw [hacc] at h
          obtain ⟨⟨_, after, calls'⟩, hupdate, hresult⟩ :=
            Option.map_eq_some_iff.1 h
          cases hresult
          obtain ⟨poked, hpoke, hpoked⟩ :=
            Option.map_eq_some_iff.1 (of_update hupdate)
          cases hpoked
          apply disabled_poke _ hpoke hdisabled
          rintro i rfl
          have haddress := isAligned_WORD.1 haligned
          exact aligned_of_enabled hacc haddress
    · cases h
      exact hdisabled

end Resources.Plic

namespace Board

/-! ## Bus accesses -/

theorem disabled_forwardUart {callbacks : List Callback} {plic plic' : Plic}
    {calls : List Callback}
    (h : SystemBus.forwardUart callbacks plic = some (plic', calls))
    (hdisabled : plic.Disabled) : plic'.Disabled := by
  induction callbacks generalizing plic calls with
  | nil =>
      cases h
      exact hdisabled
  | cons callback rest ih =>
      unfold SystemBus.forwardUart at h
      simp only [Option.bind_eq_bind, Option.bind_eq_some_iff,
        Option.pure_def, Option.some.injEq, Prod.mk.injEq] at h
      obtain ⟨⟨middle, first⟩, hfirst, ⟨last, more⟩, hmore, rfl, rfl⟩ := h
      apply ih hmore
      cases callback with
      | raise => exact Plic.disabled_raise hfirst hdisabled
      | lower =>
          cases hfirst
          exact hdisabled

theorem disabled_withUart {uart0 : Uart} {callbacks : List Callback}
    {bus bus' : SystemBus} {calls : List IrqCall}
    (h : bus.withUart uart0 callbacks = some (bus', calls))
    (hdisabled : bus.plic.Disabled) : bus'.plic.Disabled := by
  unfold SystemBus.withUart at h
  obtain ⟨⟨plic, callbacks'⟩, hforward, hresult⟩ := Option.map_eq_some_iff.1 h
  cases hresult
  exact disabled_forwardUart hforward hdisabled

/-- The timer is due and no source is enabled. -/
structure Mute (bus : SystemBus) : Prop where
  mtimecmp : bus.clint.mtimecmp = 0
  disabled : bus.plic.Disabled

theorem mute_read [Build] {address : BitVec 32} {buf buf' : List (BitVec 8)}
    {bus bus' : SystemBus} {calls : List IrqCall}
    (h : bus.read address buf = some (buf', bus', calls)) (hmute : Mute bus) :
    Mute bus' where
  mtimecmp := (SystemBus.read_clint h).1 ▸ hmute.mtimecmp
  disabled := by
    cases SystemBus.read_cases h with
    | unchanged => exact hmute.disabled
    | plic _ hread => exact Plic.disabled_read hread hmute.disabled
    | uart0 _ _ hforward => exact disabled_withUart hforward hmute.disabled

/-- Writes of the guest, which are of four bytes at most. -/
theorem mute_write {address : BitVec 32} {buf : List (BitVec 8)}
    {bus bus' : SystemBus} {calls : List IrqCall} (hlen : buf.length ≤ 4)
    (h : bus.write address buf = some (bus', calls)) (hmute : Mute bus) :
    Mute bus' := by
  cases SystemBus.write_cases h with
  | unchanged => exact hmute
  | clint _ =>
      exact ⟨Clint.mtimecmp_write hlen hmute.mtimecmp, hmute.disabled⟩
  | plic _ hwrite =>
      exact ⟨hmute.mtimecmp, Plic.disabled_write hwrite hmute.disabled⟩
  | uart0 _ _ hforward =>
      refine ⟨?_, disabled_withUart hforward hmute.disabled⟩
      rw [(SystemBus.withUart_clint hforward).1]
      exact hmute.mtimecmp
  | dram _ _ => exact ⟨hmute.mtimecmp, hmute.disabled⟩
  | powerDown _ =>
      unfold SystemBus.writePowerDown
      split
      · exact ⟨hmute.mtimecmp, hmute.disabled⟩
      · exact hmute

/-! ## Runs -/

/-- No device asks for an interrupt, and the line of the timer is clear. -/
structure Silent (board : Board) : Prop where
  mute : Mute board.bus
  mtip : board.mtip = false

theorem silent_of_lineFrame {s t : Board} (hframe : LineFrame s t)
    (h : Silent s) : Silent t where
  mute := hframe.bus ▸ h.mute
  mtip := by
    have hmip := hframe.mip .machineTimerInterrupt True.intro
    exact hmip.trans h.mtip

/-- An access that leaves the bus mute.  The timer is due before and after, so
it signals nothing. -/
theorem Silent.deliver {board : Board} {bus : SystemBus} {calls : List IrqCall}
    (h : Silent board) (hmute : Mute bus)
    (hcalls : SystemBus.External calls ∨
      calls = (edge board.bus.clint.needsInterrupt
        bus.clint.needsInterrupt).map (IrqCall.of .machineTimerInterrupt)) :
    Silent ({ board with bus := bus }.onInterrupts
      (Interrupts.deliverAll calls)) where
  mute := hmute
  mtip := by
    have hne : ∀ call ∈ calls,
        call.code.toNat ≠ Interrupt.machineTimerInterrupt.toNat := by
      rcases hcalls with hexternal | hedge
      · intro call hcall
        rw [hexternal call hcall]
        decide
      · rw [Clint.needsInterrupt_of_mtimecmp h.mute.mtimecmp,
          Clint.needsInterrupt_of_mtimecmp hmute.mtimecmp] at hedge
        subst hedge
        intro call hcall
        cases hcall
    have hmip := Interrupts.mip_deliverAll_ne calls hne board.interrupts
    exact hmip.trans h.mtip

section Steps

variable [Build]

theorem steps_silent : Steps (preserving Silent) := by
  apply steps_lines silent_of_lineFrame
  apply accesses_preserving
  · intro s event hs
    exact ⟨hs.mute, hs.mtip⟩
  · intro s address buf buf' bus calls hread hs
    exact hs.deliver (mute_read hread hs.mute)
      (Or.inl (SystemBus.read_clint hread).2)
  · intro s address buf bus calls hlen hwrite hs
    apply hs.deliver (mute_write hlen hwrite hs.mute)
    exact (SystemBus.write_clint hwrite).imp And.right id

theorem silent_step {board : Board} (h : Silent board) :
    Silent (step board).state :=
  preserves_step steps_silent (fun _ hs => ⟨hs.mute, hs.mtip⟩)
    (fun _ hs => hs.deliver ⟨hs.mute.mtimecmp, hs.mute.disabled⟩ (Or.inr rfl))
    h

/-- The line of the external interrupt is exact in these runs as well. -/
theorem exact_run {s t : Board} (hrun : Run s t) (h : Exact s) : Exact t := by
  induction hrun with
  | start => exact h
  | step _ hstep ih =>
      have hnext := exact_step ih
      rw [hstep] at hnext
      exact hnext
  | resetClint _ ih => exact externalLine_timer _ ih
  | loadDram _ _ ih => exact ih
  | pushInput _ hinput ih =>
      obtain ⟨bus, calls, hwith, hboard⟩ := pushInput_eq hinput
      rw [hboard]
      exact externalLine_withUart hwith ih

theorem silent_run {s t : Board} (hrun : Run s t) (h : Silent s) :
    Silent t := by
  induction hrun with
  | start => exact h
  | step _ hstep ih =>
      have hnext := silent_step ih
      rw [hstep] at hnext
      exact hnext
  | resetClint _ ih =>
      exact ih.deliver ⟨ih.mute.mtimecmp, ih.mute.disabled⟩ (Or.inr rfl)
  | loadDram _ _ ih => exact ⟨⟨ih.mute.mtimecmp, ih.mute.disabled⟩, ih.mtip⟩
  | pushInput _ hinput ih =>
      obtain ⟨bus, calls, hwith, hboard⟩ := pushInput_eq hinput
      rw [hboard]
      obtain ⟨hclint, hexternal⟩ := SystemBus.withUart_clint hwith
      apply ih.deliver _ (Or.inl hexternal)
      exact ⟨hclint ▸ ih.mute.mtimecmp,
        disabled_withUart hwith ih.mute.disabled⟩

end Steps

theorem silent_new {config : Config} {board : Board}
    (h : new config = some board) : Silent board ∧ Exact board := by
  obtain ⟨_, _, _, rfl⟩ := new_eq h
  have hdisabled : Plic.new.Disabled := by
    intro index _
    show BitArr.ZERO.bit index = false
    unfold BitArr.bit BitArr.ZERO
    rw [Vector.getElem?_replicate]
    split <;> exact BitVec.getLsbD_zero
  have hmtip : Interrupts.new.mip.getLsbD
      Interrupt.machineTimerInterrupt.toNat = false := by decide
  have hline : Interrupts.new.mip.getLsbD
      Interrupt.machineExternalInterrupt.toNat = Plic.new.needsInterrupt := by
    decide
  exact ⟨⟨⟨rfl, hdisabled⟩, hmtip⟩, ⟨hline, rfl⟩⟩

/-- What is taken is pending. -/
theorem pending_of_highestPriorityReady {s : Board} {interrupt : Interrupt}
    (h : highestPriorityReadyInterrupt s = some interrupt) :
    s.interrupts.mip.getLsbD interrupt.toNat = true := by
  have hready : s.ready interrupt = true := by
    rw [highestPriorityReadyInterrupt_eq] at h
    split at h
    · rcases Option.or_eq_some_iff.1 h with hm | ⟨_, hs⟩
      · have hfound : s.readyAtM interrupt = true := List.find?_some hm
        exact (Bool.and_eq_true_iff.1 hfound).1
      · split at hs
        · cases hs
        · have hfound : s.readyAtS interrupt = true := List.find?_some hs
          exact (Bool.and_eq_true_iff.1 hfound).1
    · cases h
  exact (Bool.and_eq_true_iff.1 hready).1

/-! ### Where a step looks for interrupts -/

section Checks

variable [Build]

/-- What a step does between its two looks for interrupts, if the first one
finds none. -/
def betweenChecks (pc : BitVec 32) : CoreM SystemBus Empty Unit := do
  let raw ← Exec.attempt
    (Exec.mapError (fetchException pc) (fetchInstruction coreConfig pc))
  stepWithRaw coreConfig raw

/-- A step looks, executes, and looks again. -/
theorem step_eq_checks :
    (Core.step coreConfig : CoreM SystemBus Empty Unit) = (do
      let s ← Exec.get
      let interrupted ← checkForInterrupts
      if interrupted then pure ()
      else do
        betweenChecks s.registers.pc
        let _ ← checkForInterrupts
        pure ()) := by
  unfold Core.step betweenChecks
  simp only [Exec.bind_bind]

/-- The boards on which a step from `s` looks for interrupts. -/
inductive LooksAt (s : Board) : Board → Prop where
  | first : LooksAt s (clearEvents s)
  | second {u : Board}
      (h : betweenChecks s.registers.pc (clearEvents s) = .ok () u) :
      LooksAt s u

theorem preserves_betweenChecks {P : Board → Prop}
    (hsteps : Steps (preserving P)) {pc : BitVec 32} {s u : Board}
    (hrun : betweenChecks pc s = .ok () u) (h : P s) : P u := by
  have htame : (preserving P).Tame (betweenChecks pc) := by
    apply Tame.bind
    · apply Tame.attempt
      apply Tame.mapError
      exact hsteps.loads.tame_fetchInstruction coreConfig pc
    · exact hsteps.tame_stepWithRaw coreConfig
  have hkept := htame.preserves h
  rw [hrun] at hkept
  exact hkept

/-- Nothing is pending where a step from a silent board looks. -/
theorem LooksAt.silent {s u : Board} (h : LooksAt s u) (hsilent : Silent s)
    (hexact : Exact s) : Silent u ∧ Exact u := by
  have hsilent' : Silent (clearEvents s) := ⟨hsilent.mute, hsilent.mtip⟩
  have hexact' : Exact (clearEvents s) := hexact
  cases h with
  | first => exact ⟨hsilent', hexact'⟩
  | second hrun =>
      exact ⟨preserves_betweenChecks steps_silent hrun hsilent',
        preserves_betweenChecks steps_exact hrun hexact'⟩

end Checks

/-- On a silent board only software interrupts and those of the supervisor are
ready. -/
theorem Silent.not_line {s : Board} (h : Silent s) (hexact : Exact s)
    {interrupt : Interrupt}
    (hready : highestPriorityReadyInterrupt s = some interrupt) :
    ¬ interrupt.Line := by
  intro hline
  have hpending := pending_of_highestPriorityReady hready
  have hmeip : s.meip = false :=
    hexact.line.trans h.mute.disabled.needsInterrupt
  cases interrupt with
  | machineTimerInterrupt =>
      exact Bool.noConfusion (h.mtip.symm.trans hpending)
  | machineExternalInterrupt =>
      exact Bool.noConfusion (hmeip.symm.trans hpending)
  | _ => exact hline

/-- In every run from a new board, whatever the guest does, the timer and the
external interrupt are never pending: mtimecmp stays zero, no source but the
reserved one is ever enabled, and neither of the two looks that a step takes
for interrupts finds the interrupt of a device. -/
theorem silent_of_run [Build] {config : Config} {fresh s : Board}
    (hnew : new config = some fresh) (hrun : Run fresh s) :
    s.bus.clint.mtimecmp = 0 ∧
      (∀ source, 1 ≤ source → s.bus.plic.enabled.bit source = false) ∧
      s.mtip = false ∧ s.meip = false ∧
      ∀ u, LooksAt s u → ∀ interrupt,
        highestPriorityReadyInterrupt u = some interrupt →
          ¬ interrupt.Line := by
  obtain ⟨hsilent, hexact⟩ := silent_new hnew
  have hs := silent_run hrun hsilent
  have he := exact_run hrun hexact
  refine ⟨hs.mute.mtimecmp, hs.mute.disabled, hs.mtip,
    he.line.trans hs.mute.disabled.needsInterrupt, ?_⟩
  intro u hlooks interrupt hready
  obtain ⟨hsilent', hexact'⟩ := hlooks.silent hs he
  exact hsilent'.not_line hexact' hready

/-- The first step of the guest, after which the timer has gone on. -/
theorem silent_of_run_guest :
    ∃ s, @Run Build.debug guestBoard s ∧ s.bus.clint.mtime = 1 ∧
      s.mtip = false ∧ s.meip = false := by
  let _ : Build := Build.debug
  have hpanic : (step guestBoard).panicked = false := by decide +kernel
  have hmtime : (step guestBoard).state.bus.clint.mtime = 1 := by
    decide +kernel
  have hrun : Run guestBoard (step guestBoard).state :=
    .step .start (step_eq_ok hpanic)
  obtain ⟨_, _, hmtip, hmeip, _⟩ :=
    silent_of_run (Option.some_get _).symm hrun
  exact ⟨_, hrun, hmtime, hmtip, hmeip⟩

/-! ### The timer line -/

/-- In every run from a new board the timer is due and MTIP is clear. -/
theorem due_of_run [Build] {config : Config} {fresh s : Board}
    (hnew : new config = some fresh) (hrun : Run fresh s) :
    s.Due ∧ s.mtip = false := by
  have hsilent := silent_run hrun (silent_new hnew).1
  refine ⟨?_, hsilent.mtip⟩
  rw [← needsInterrupt_iff]
  exact Clint.needsInterrupt_of_mtimecmp hsilent.mute.mtimecmp

/-- MTIP never tells whether the timer is due: in no state of any run from a
new board does it agree with `mtimecmp <= mtime`. -/
theorem mtip_of_run [Build] {config : Config} {fresh s : Board}
    (hnew : new config = some fresh) (hrun : Run fresh s) :
    ¬ (s.mtip = true ↔ s.Due) := by
  obtain ⟨hdue, hclear⟩ := due_of_run hnew hrun
  intro h
  rw [hclear] at h
  exact Bool.false_ne_true (h.2 hdue)

/-- The guest after its first step, and a reset of the CLINT. -/
theorem mtip_of_run_guest :
    ∃ s, @Run Build.debug guestBoard s ∧
      s.registers.pc ≠ guestBoard.registers.pc ∧
      ¬ (s.mtip = true ↔ s.Due) := by
  let _ : Build := Build.debug
  have hpanic : (step guestBoard).panicked = false := by decide +kernel
  have hpc : (resetClint (step guestBoard).state).registers.pc
      ≠ guestBoard.registers.pc := by
    decide +kernel
  have hrun : Run guestBoard (resetClint (step guestBoard).state) :=
    .resetClint (.step .start (step_eq_ok hpanic))
  exact ⟨_, hrun, hpc, mtip_of_run (Option.some_get _).symm hrun⟩

/-- The board of the reset vector, not stepped yet. -/
theorem fresh_due_without_mtip :
    new guestConfig = some guestBoard ∧
      ¬ (guestBoard.mtip = true ↔ guestBoard.Due) := by
  have hnew : new guestConfig = some guestBoard := (Option.some_get _).symm
  obtain ⟨hclear, hdue⟩ := due_new hnew
  refine ⟨hnew, fun h => ?_⟩
  rw [hclear] at h
  exact nomatch h.2 hdue

end Board

end RedPlanet
