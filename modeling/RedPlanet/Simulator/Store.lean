import Mathlib.Logic.Function.Basic

/-!
# The snapshot store under the simulator

`simulator.rs` is written against `SpaceTime`: an allocator that holds a
current state (HEAD) and named snapshots of earlier states.  The simulator
never looks inside it.  This module states what the simulator relies on, as
an interface with laws, so that its correctness does not depend on how the
snapshots are represented.

`SnapshotStore` is the interface, `LawfulSnapshotStore` the laws, and
`CopyStore` the plainest store that has them; `Simulator.OnSpaceTime` is about
the real one.
-/

namespace RedPlanet.Simulator

/-- The calls the simulator makes on `SpaceTime`.  `view` is the state that is
visible at HEAD and `captured` the state a stored snapshot holds; neither is a
call, they are what the laws below speak about.  `none` stands for the
`Err(InvalidSnapshotIdError)` of `checkout` and `drop_snapshot`. -/
class SnapshotStore (A : Type) (V SnapshotId : outParam Type) where
  new : A
  view : A → V
  captured : A → SnapshotId → Option V
  makeSnapshot : A → SnapshotId × A
  checkout : SnapshotId → A → Option A
  dropSnapshot : SnapshotId → A → Option A

open SnapshotStore

/-- The laws of a snapshot store: `make_snapshot` captures the visible state
under an unused id, `checkout` restores what was captured, `drop_snapshot`
forgets one id, and none of them disturbs any other snapshot. -/
class LawfulSnapshotStore (A : Type) (V SnapshotId : outParam Type)
    [SnapshotStore A V SnapshotId] : Prop where
  view_makeSnapshot : ∀ a : A, view (makeSnapshot a).2 = view a
  captured_fresh : ∀ a : A, captured a (makeSnapshot a).1 = none
  captured_new : ∀ a : A,
    captured (makeSnapshot a).2 (makeSnapshot a).1 = some (view a)
  captured_makeSnapshot : ∀ (a : A) (id : SnapshotId),
    id ≠ (makeSnapshot a).1 →
      captured (makeSnapshot a).2 id = captured a id
  checkout_spec : ∀ (a : A) (id : SnapshotId) (v : V),
    captured a id = some v →
      ∃ a', checkout id a = some a' ∧ view a' = v ∧
        captured a' = captured a
  dropSnapshot_spec : ∀ (a : A) (id : SnapshotId) (v : V),
    captured a id = some v →
      ∃ a', dropSnapshot id a = some a' ∧ view a' = view a ∧
        ∀ id', id' ≠ id → captured a' id' = captured a id'

/-- A transformation of the allocator is deterministic when the state visible
after it is determined by the state visible before it.  It reaches the
allocator through the `Allocator` trait only, which offers no access to the
snapshots, so these are kept. -/
structure Deterministic {A V SnapshotId : Type} [SnapshotStore A V SnapshotId]
    (f : A → A) : Prop where
  view_congr : ∀ a b : A, view a = view b → view (f a) = view (f b)
  captured_eq : ∀ a : A, captured (f a) = captured a

/-- A store whose visible state can be changed, as through the `Allocator`
trait. -/
class ModifiableStore (A : Type) (V SnapshotId : outParam Type)
    extends SnapshotStore A V SnapshotId where
  modify : (V → V) → A → A

/-- A change is one of the visible state only.  A new store has no snapshots,
and an id that names none, or none any more, is refused. -/
class LawfulModifiableStore (A : Type) (V SnapshotId : outParam Type)
    [ModifiableStore A V SnapshotId] : Prop
    extends LawfulSnapshotStore A V SnapshotId where
  view_modify : ∀ (f : V → V) (a : A),
    view (ModifiableStore.modify f a) = f (view a)
  captured_modify : ∀ (f : V → V) (a : A),
    captured (ModifiableStore.modify f a) = captured a
  checkout_none : ∀ (a : A) (id : SnapshotId), captured a id = none →
    checkout id a = none
  dropSnapshot_none : ∀ (a : A) (id : SnapshotId), captured a id = none →
    dropSnapshot id a = none
  captured_empty : ∀ id : SnapshotId, captured (new : A) id = none
  captured_dropped : ∀ (a a' : A) (id : SnapshotId),
    dropSnapshot id a = some a' → captured a' id = none

section Modifiable

variable {A V SnapshotId : Type} [ModifiableStore A V SnapshotId]
  [LawfulModifiableStore A V SnapshotId] {a a' : A} {id : SnapshotId}

/-- A checkout that succeeds shows what was captured. -/
theorem captured_checkout (h : checkout id a = some a') :
    captured a id = some (view a') ∧ captured a' = captured a := by
  cases hcaptured : captured a id with
  | none =>
      rw [LawfulModifiableStore.checkout_none a id hcaptured] at h
      cases h
  | some v =>
      obtain ⟨a'', h', hview, hsame⟩ :=
        LawfulSnapshotStore.checkout_spec a id v hcaptured
      rw [h] at h'
      rw [Option.some.inj h', hview]
      exact ⟨rfl, hsame⟩

/-- A snapshot that is dropped is the only one that is gone. -/
theorem captured_dropSnapshot (h : dropSnapshot id a = some a') :
    view a' = view a ∧ captured a' id = none ∧
      ∀ id', id' ≠ id → captured a' id' = captured a id' := by
  cases hcaptured : captured a id with
  | none =>
      rw [LawfulModifiableStore.dropSnapshot_none a id hcaptured] at h
      cases h
  | some v =>
      have hdropped := LawfulModifiableStore.captured_dropped a a' id h
      obtain ⟨a'', h', hview, hsame⟩ :=
        LawfulSnapshotStore.dropSnapshot_spec a id v hcaptured
      rw [h] at h'
      rw [← Option.some.inj h'] at hview hsame
      exact ⟨hview, hdropped, hsame⟩

/-- A change of the visible state is deterministic. -/
theorem Deterministic.modify (f : V → V) :
    Deterministic (ModifiableStore.modify f : A → A) where
  view_congr a b h := by
    rw [LawfulModifiableStore.view_modify, LawfulModifiableStore.view_modify,
      h]
  captured_eq a := LawfulModifiableStore.captured_modify f a

end Modifiable

/-! ## A store that keeps whole copies -/

/-- The simplest snapshot store: snapshots are copies of the whole state,
named by consecutive numbers. -/
structure CopyStore (V : Type) where
  value : V
  copies : Nat → Option V
  nextId : Nat

namespace CopyStore

variable {V : Type}

/-- Forget a copy. -/
def erase (store : CopyStore V) (id : Nat) : CopyStore V :=
  { store with copies := Function.update store.copies id none }

/-- Apply a function to the current state. -/
def modify (f : V → V) (store : CopyStore V) : CopyStore V :=
  { store with value := f store.value }

instance [Inhabited V] : SnapshotStore (CopyStore V) V Nat where
  new := { value := default, copies := fun _ => none, nextId := 0 }
  view store := store.value
  captured store id := if id < store.nextId then store.copies id else none
  makeSnapshot store :=
    (store.nextId,
      { store with
        copies := Function.update store.copies store.nextId (some store.value)
        nextId := store.nextId + 1 })
  checkout id store :=
    if id < store.nextId then
      (store.copies id).map fun v => { store with value := v }
    else none
  dropSnapshot id store :=
    if id < store.nextId then
      (store.copies id).map fun _ => store.erase id
    else none

instance [Inhabited V] : LawfulSnapshotStore (CopyStore V) V Nat where
  view_makeSnapshot _ := rfl
  captured_fresh store := by simp [captured, makeSnapshot]
  captured_new store := by simp [captured, makeSnapshot, view]
  captured_makeSnapshot store id hid := by
    have hne : id ≠ store.nextId := hid
    have hlt : id < store.nextId + 1 ↔ id < store.nextId := by omega
    simp [captured, makeSnapshot, hlt, Function.update_of_ne hne]
  checkout_spec store id v h := by
    simp only [captured] at h
    split at h
    · rename_i hid
      refine ⟨{ store with value := v }, ?_, rfl, rfl⟩
      simp [checkout, hid, h]
    · exact absurd h (by simp)
  dropSnapshot_spec store id v h := by
    simp only [captured] at h
    split at h
    · rename_i hid
      refine ⟨store.erase id, ?_, rfl, ?_⟩
      · simp [dropSnapshot, hid, h]
      · intro id' hne
        simp [captured, erase, Function.update_of_ne hne]
    · exact absurd h (by simp)

instance [Inhabited V] : ModifiableStore (CopyStore V) V Nat where
  modify := modify

instance [Inhabited V] : LawfulModifiableStore (CopyStore V) V Nat where
  view_modify _ _ := rfl
  captured_modify _ _ := rfl
  checkout_none store id h := by
    simp only [captured] at h
    split at h
    · rename_i hid
      simp [checkout, h]
    · rename_i hid
      simp [checkout, hid]
  dropSnapshot_none store id h := by
    simp only [captured] at h
    split at h
    · rename_i hid
      simp [dropSnapshot, h]
    · rename_i hid
      simp [dropSnapshot, hid]
  captured_empty id := by simp [captured, new]
  captured_dropped store store' id h := by
    simp only [dropSnapshot] at h
    split at h
    · obtain ⟨_, -, rfl⟩ := Option.map_eq_some_iff.1 h
      simp [captured, erase]
    · cases h

theorem deterministic_modify [Inhabited V] (f : V → V) :
    Deterministic (modify f : CopyStore V → CopyStore V) where
  view_congr _ _ h := congrArg f h
  captured_eq _ := rfl

end CopyStore

end RedPlanet.Simulator
