import RedPlanet.Core.Rules

/-!
# What memory accesses and ordinary instructions leave alone

A `BusContract` states what a proof may use of a system bus: which accesses
it panics on, which states it stays in, and which interrupts its devices are
wired to.  Over a bus with a contract, translation, loads, stores and all
instructions other than CSR operations and trap returns change only the
general purpose registers, the bus, and the wired bits of mip.  This is the
discipline `memory K`.
-/

namespace RedPlanet.Core

open RedPlanet.Verified Discipline

/-- What is known about a system bus.  `bad` is the set of accesses that
panic in a healthy state. -/
structure BusContract (β : Type) [SystemBus β] where
  healthy : β → Prop
  bad : BitVec 32 → Nat → Prop
  wired : Nat → Prop
  healthy_read : ∀ {address : BitVec 32} {buf buf' : List (BitVec 8)}
    {bus bus' : β} {calls : List IrqCall},
    SystemBus.read address buf bus = some (buf', bus', calls) →
      healthy bus → healthy bus'
  healthy_write : ∀ {address : BitVec 32} {buf : List (BitVec 8)}
    {bus bus' : β} {calls : List IrqCall},
    SystemBus.write address buf bus = some (bus', calls) →
      healthy bus → healthy bus'
  wired_read : ∀ {address : BitVec 32} {buf buf' : List (BitVec 8)}
    {bus bus' : β} {calls : List IrqCall},
    SystemBus.read address buf bus = some (buf', bus', calls) →
      ∀ call ∈ calls, wired call.code.toNat
  wired_write : ∀ {address : BitVec 32} {buf : List (BitVec 8)}
    {bus bus' : β} {calls : List IrqCall},
    SystemBus.write address buf bus = some (bus', calls) →
      ∀ call ∈ calls, wired call.code.toNat
  read_panics : ∀ {address : BitVec 32} {buf : List (BitVec 8)} {bus : β},
    healthy bus →
      (SystemBus.read address buf bus = none ↔ bad address buf.length)
  write_panics : ∀ {address : BitVec 32} {buf : List (BitVec 8)} {bus : β},
    healthy bus →
      (SystemBus.write address buf bus = none ↔ bad address buf.length)

variable {β ε : Type} [SystemBus β]

/-- The contract every bus has: nothing is known about it. -/
def BusContract.trivial : BusContract β where
  healthy := fun _ => False
  bad := fun _ _ => False
  wired := fun _ => True
  healthy_read := fun _ h => h
  healthy_write := fun _ h => h
  wired_read := fun _ _ _ => True.intro
  wired_write := fun _ _ _ => True.intro
  read_panics := fun h => h.elim
  write_panics := fun h => h.elim

/-- The only fields that may differ are the registers, the bus, the events
and the wired bits of mip. -/
structure MemFrame (K : BusContract β) (s t : State β) : Prop where
  privilegeMode : t.privilegeMode = s.privilegeMode
  status : t.status = s.status
  counters : t.counters = s.counters
  counterControl : t.counterControl = s.counterControl
  trap : t.trap = s.trap
  envcfg : t.envcfg = s.envcfg
  interrupts : Interrupts.AgreesOutside K.wired s.interrupts t.interrupts
  healthy : K.healthy s.bus → K.healthy t.bus

namespace MemFrame

variable {K : BusContract β}

theorem refl (s : State β) : MemFrame K s s where
  privilegeMode := rfl
  status := rfl
  counters := rfl
  counterControl := rfl
  trap := rfl
  envcfg := rfl
  interrupts := Interrupts.AgreesOutside.refl _
  healthy := id

/-- The fields that may differ are the same for both steps. -/
theorem trans {s t u : State β} (hst : MemFrame K s t) (htu : MemFrame K t u) :
    MemFrame K s u where
  privilegeMode := htu.privilegeMode.trans hst.privilegeMode
  status := htu.status.trans hst.status
  counters := htu.counters.trans hst.counters
  counterControl := htu.counterControl.trans hst.counterControl
  trap := htu.trap.trans hst.trap
  envcfg := htu.envcfg.trans hst.envcfg
  interrupts := hst.interrupts.trans htu.interrupts
  healthy := fun h => htu.healthy (hst.healthy h)

theorem onRegisters (f : Registers → Registers) (s : State β) :
    MemFrame K s (s.onRegisters f) := { refl s with }

/-- Noting an event changes nothing else. -/
theorem record (event : Event) (s : State β) :
    MemFrame K s (s.record event) := { refl s with }

end MemFrame

/-- The invariant of the core on which the absence of panics rests. -/
structure Sound (K : BusContract β) (s : State β) : Prop where
  bus : K.healthy s.bus
  status : s.status.Legal
  trap : s.trap.Aligned

section Discipline

variable [Build]

/-- The events at which the code panics: a bad access, or, when overflow is
checked, an interrupt whose vector lies past the end of the address space. -/
def BusContract.badEvent (K : BusContract β) : Event → Prop
  | .access address size => K.bad address size
  | .vectored base code =>
      Build.overflowChecks = true ∧ 2 ^ 32 ≤ base.toNat + 4 * code

/-- No event so far was bad. -/
def Unharmed (K : BusContract β) (s : State β) : Prop :=
  ∀ event ∈ s.events, ¬ K.badEvent event

/-- Change only the registers, the bus and the wired bits of mip, and panic
exactly at a bad event. -/
def memory (K : BusContract β) : Discipline (State β) where
  step := MemFrame K
  inv := Sound K
  clean := Unharmed K
  refl := MemFrame.refl
  trans := MemFrame.trans
  inv_step := by
    intro s t hst hs
    exact
      { bus := hst.healthy hs.bus
        status := hst.status ▸ hs.status
        trap := hst.trap ▸ hs.trap }

end Discipline

section Tame

variable [Build] {K : BusContract β}

/-! ## The bus -/

/-- An event is noted without harm just if it is not a bad one. -/
theorem unharmed_record {event : Event} {s : State β} (h : Unharmed K s) :
    Unharmed K (s.record event) ↔ ¬ K.badEvent event := by
  constructor
  · intro hrec
    exact hrec event (List.mem_cons_self ..)
  · intro hgood other hmem
    cases hmem with
    | head => exact hgood
    | tail _ hmem => exact h other hmem

/-- A read from the bus panics just at a bad access, and is noted. -/
theorem tame_busRead (address : BitVec 32) (buf : List (BitVec 8)) :
    (memory K).Tame (busRead address buf : CoreM β ε _) := by
  intro s
  unfold busRead
  have hbus : (s.record (.access address buf.length)).bus = s.bus := rfl
  cases h : SystemBus.read address buf s.bus with
  | none =>
      simp only [hbus, h]
      refine ⟨MemFrame.record _ s, fun hinv hclean => ?_⟩
      have hbad := (K.read_panics hinv.bus).1 h
      have hnot : ¬ Unharmed K (s.record (.access address buf.length)) := by
        rw [unharmed_record hclean]
        exact fun hgood => hgood hbad
      exact iff_of_true rfl hnot
  | some reply =>
      obtain ⟨buf', bus', calls⟩ := reply
      simp only [hbus, h]
      refine ⟨?_, fun hinv hclean => ?_⟩
      · have hcalls := Interrupts.agreesOutside_deliverAll calls s.interrupts
          (K.wired_read h)
        have hsame : MemFrame K s s := MemFrame.refl s
        exact { hsame with
          interrupts := hcalls
          healthy := K.healthy_read h }
      · have hgood : ¬ K.badEvent (.access address buf.length) := by
          show ¬ K.bad address buf.length
          rw [← K.read_panics hinv.bus, h]
          exact fun hnone => nomatch hnone
        have hclean' := (unharmed_record hclean).2 hgood
        exact iff_of_false Bool.false_ne_true fun hbad => hbad hclean'

theorem tame_busWrite (address : BitVec 32) (buf : List (BitVec 8)) :
    (memory K).Tame (busWrite address buf : CoreM β ε _) := by
  intro s
  unfold busWrite
  have hbus : (s.record (.access address buf.length)).bus = s.bus := rfl
  cases h : SystemBus.write address buf s.bus with
  | none =>
      simp only [hbus, h]
      refine ⟨MemFrame.record _ s, fun hinv hclean => ?_⟩
      have hbad := (K.write_panics hinv.bus).1 h
      have hnot : ¬ Unharmed K (s.record (.access address buf.length)) := by
        rw [unharmed_record hclean]
        exact fun hgood => hgood hbad
      exact iff_of_true rfl hnot
  | some reply =>
      obtain ⟨bus', calls⟩ := reply
      simp only [hbus, h]
      refine ⟨?_, fun hinv hclean => ?_⟩
      · have hcalls := Interrupts.agreesOutside_deliverAll calls s.interrupts
          (K.wired_write h)
        have hsame : MemFrame K s s := MemFrame.refl s
        exact { hsame with
          interrupts := hcalls
          healthy := K.healthy_write h }
      · have hgood : ¬ K.badEvent (.access address buf.length) := by
          show ¬ K.bad address buf.length
          rw [← K.write_panics hinv.bus, h]
          exact fun hnone => nomatch hnone
        have hclean' := (unharmed_record hclean).2 hgood
        exact iff_of_false Bool.false_ne_true fun hbad => hbad hclean'

/-- A change of the registers alone. -/
theorem tame_updateRegisters (f : Registers → Registers) :
    (memory K).Tame (updateRegisters f : CoreM β ε Unit) := by
  apply Tame.modify
  · intro s
    exact MemFrame.onRegisters f s
  · intro s hs
    exact hs

/-- All that ordinary instructions are made of keeps to this discipline, and
so by the rules do the instructions. -/
theorem executes_memory : Executes (memory K) :=
  Accesses.executes
    { legal := fun hs => hs.status
      aligned := fun hs => hs.trap
      read := tame_busRead
      write := fun address buf _ => tame_busWrite address buf }
    tame_updateRegisters

end Tame

end RedPlanet.Core
