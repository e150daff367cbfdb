import RedPlanet.SpaceTime.Snapshots

/-!
# Runs of a space time

One step of any operation keeps the invariant, and all stored snapshots but
the one that it drops (`Valid.step`); so does every run (`Reachable.valid`).

What runs are about is a condition on the operations: `Typed` is the one that
the ids of the source express by their type parameter, `Within` says that no
limit is exceeded, and further ones are added by the results that need them
(`Reachable.imp`).
-/

set_option linter.dupNamespace false

namespace RedPlanet.SpaceTime

open RedPlanet.Core RedPlanet.Verified Limited

variable {ι : Type} [DecidableEq ι] {A : Type → Type} [Arena A]
  {Ty : ι → Type}

/-! ## One step -/

variable [Build]

/-- Ids are used at the type of the entry that they name in HEAD. -/
def Operation.Typed (op : Operation Ty) (space : SpaceTime A Ty) : Prop :=
  match op with
  | .remove τ id | .pop τ id | .getMut τ id _ =>
      ∀ ptr, space.ptrAt id = some ptr → ptr.typeId = τ
  | .removeArray τ id | .getArrayMut τ id _ =>
      ∀ array, space.arrayAt id = some array → array.typeId = τ
  | .insert _ _ | .insertArray _ _ _ | .makeSnapshot | .dropSnapshot _
  | .checkout _ => True

/-- No count or link runs into the mask bit. -/
def Operation.Within (op : Operation Ty) (space : SpaceTime A Ty) : Prop :=
  (op.run space).exceeded = false

/-- The pointers that no snapshot has any more after the operation, but are
still counted. -/
def Operation.forgets (op : Operation Ty) (space : SpaceTime A Ty) :
    ι → TablePtr → ℕ :=
  match op with
  | .makeSnapshot => (SpaceTime.headRefs space.head).1
  | _ => 0

namespace SpaceTime

/-- The invariant, and the snapshots that are left. -/
structure Stepped (op : Operation Ty) (space space' : SpaceTime A Ty)
    (leak : Refs ι) : Prop where
  valid : ∃ leak' : Refs ι, leak'.1 = op.forgets space ∧
    Valid space' (leak' + leak)
  kept : ∀ id snapshot, Arena.get id space.snapshots = some snapshot →
    op ≠ .dropSnapshot id →
      Arena.get id space'.snapshots = some snapshot ∧
        Kept (snapshotRefs snapshot) space.storage space'.storage

variable [LawfulArena A] {space space' : SpaceTime A Ty} {leak : Refs ι}

omit [Build] in
/-- What all stored snapshots see, each of them sees. -/
theorem kept_stored {storage storage' : SpaceTimeStorage Ty}
    {snapshots : A (Snapshot A ι)} {id : Index} {snapshot : Snapshot A ι}
    (hget : Arena.get id snapshots = some snapshot) {extra rest : Refs ι}
    (h : Kept (extra + storedRefs snapshots + rest) storage storage') :
    Kept (snapshotRefs snapshot) storage storage' := by
  obtain ⟨others, hothers⟩ :=
    storedRefs_of_mem (Arena.mem_values.2 ⟨id, hget⟩)
  rw [hothers] at h
  exact ((h.right rest).left extra).right others

omit [Build] in
/-- The operations that leave the snapshots alone. -/
theorem Edits.stepped {op : Operation Ty} {snapshot : Snapshot A ι}
    {leak' extra rest : Refs ι} (h : Edits space space' snapshot (leak' + leak))
    (hforgets : leak'.1 = op.forgets space)
    (hkept : Kept (extra + storedRefs space.snapshots + rest) space.storage
      space'.storage) : Stepped op space space' leak where
  valid := ⟨leak', hforgets, h.valid⟩
  kept := fun id snapshot' hget _ => by
    rw [h.snapshots]
    exact ⟨hget, kept_stored hget hkept⟩

omit [Build] in
theorem Edits.stepped' {op : Operation Ty} {snapshot : Snapshot A ι}
    {extra rest : Refs ι} (h : Edits space space' snapshot leak)
    (hforgets : 0 = op.forgets space)
    (hkept : Kept (extra + storedRefs space.snapshots + rest) space.storage
      space'.storage) : Stepped op space space' leak := by
  have h' : Edits space space' snapshot (0 + leak) := by
    rw [zero_add]
    exact h
  exact h'.stepped hforgets hkept

/-- One lemma for all operations, from the specification of each. -/
theorem Valid.step (h : Valid space leak) {op : Operation Ty}
    (htyped : op.Typed space) :
    (op.run space).Ensures fun r => Stepped op space r.2 leak := by
  cases op with
  | insert τ object =>
      apply Ensures.bind (insert_spec h τ object)
      rintro ⟨index, space'⟩ ⟨snapshot, p, _, _, hedits, _, hkept⟩
      exact Ensures.pure (hedits.stepped' rfl hkept)
  | insertArray τ object n =>
      apply Ensures.bind (insertArray_spec h τ object n)
      rintro ⟨index, space'⟩ ⟨snapshot, inst, _, _, hedits, _, hkept⟩
      exact Ensures.pure (hedits.stepped' rfl hkept)
  | remove τ id =>
      apply Ensures.bind (remove_spec h htyped)
      rintro ⟨result, space'⟩ ⟨_, snapshot, _, hedits, hkept⟩
      unfold refs at hkept
      rw [hedits.snapshots] at hkept
      exact Ensures.pure (hedits.stepped' rfl hkept)
  | removeArray τ id =>
      apply Ensures.bind (removeArray_spec h htyped)
      rintro ⟨result, space'⟩ ⟨_, snapshot, _, hedits, hkept⟩
      unfold refs at hkept
      rw [hedits.snapshots] at hkept
      refine Ensures.pure (hedits.stepped ?_ hkept)
      cases space.arrayAt id with
      | none => rfl
      | some array => rfl
  | pop τ id =>
      apply Ensures.bind (pop_spec h htyped)
      rintro ⟨result, space'⟩ ⟨_, snapshot, _, hedits, hkept⟩
      unfold refs at hkept
      rw [hedits.snapshots] at hkept
      exact Ensures.pure (hedits.stepped' rfl hkept)
  | getMut τ id f =>
      apply Ensures.bind (getMut_spec h f htyped)
      rintro ⟨result, space'⟩ ⟨snapshot, _, hcases⟩
      apply Ensures.pure
      rcases hcases with ⟨_, _, hedits, hkept⟩ |
          ⟨p, p', x, _, _, _, hedits, _, hkept⟩
      · exact hedits.stepped' rfl (hkept (0 + storedRefs space.snapshots + 0))
      · exact hedits.stepped' rfl hkept
  | getArrayMut τ id access =>
      apply Ensures.bind (getArrayMut_spec h access htyped)
      rintro ⟨result, space'⟩ ⟨snapshot, _, hcases⟩
      apply Ensures.pure
      rcases hcases with ⟨_, _, hedits, hkept⟩ |
          ⟨inst, inst', content, value, _, _, _, hedits, _, hkept⟩
      · exact hedits.stepped' rfl (hkept (0 + storedRefs space.snapshots + 0))
      · exact hedits.stepped' rfl hkept
  | makeSnapshot =>
      apply Ensures.bind (makeSnapshot_spec h)
      rintro ⟨index, space'⟩ ⟨snapshot, _, hindex, _, hsnapshots, hvalid, hkept⟩
      apply Ensures.pure
      refine ⟨⟨_, rfl, hvalid⟩, ?_⟩
      intro id snapshot' hget _
      have hfresh := LawfulArena.insert_fresh snapshot.collected space.snapshots
      have hne : id ≠ (Arena.insert snapshot.collected space.snapshots).1 := by
        intro heq
        rw [← heq, hget] at hfresh
        exact nomatch hfresh
      dsimp only at hsnapshots ⊢
      rw [hsnapshots, LawfulArena.get_insert_ne _ _ _ hne]
      exact ⟨hget, hkept _⟩
  | dropSnapshot snapshotId =>
      apply Ensures.bind (dropSnapshot_spec h snapshotId)
      rintro ⟨result, space'⟩ ⟨_, hsnapshots, _, leak', hleak, hvalid, hkept⟩
      apply Ensures.pure
      refine ⟨⟨leak', hleak, hvalid⟩, ?_⟩
      intro id snapshot' hget hop
      have hne : id ≠ snapshotId := by
        intro heq
        exact hop (by rw [heq])
      have hget' : Arena.get id space'.snapshots = some snapshot' := by
        dsimp only at hsnapshots
        rw [hsnapshots, LawfulArena.get_remove_ne _ _ _ hne]
        exact hget
      exact ⟨hget', kept_stored hget' hkept⟩
  | checkout snapshotId =>
      apply Ensures.bind (checkout_spec h snapshotId)
      rintro ⟨result, space'⟩ ⟨_, hsnapshots, _, leak', hleak, hvalid, hkept⟩
      apply Ensures.pure
      refine ⟨⟨leak', hleak, hvalid⟩, ?_⟩
      intro id snapshot' hget _
      have hget' : Arena.get id space'.snapshots = some snapshot' := by
        dsimp only at hsnapshots
        rw [hsnapshots]
        exact hget
      exact ⟨hget', kept_stored hget' hkept⟩

end SpaceTime

/-! ## Runs -/

/-- The states after runs whose steps all meet the condition. -/
inductive Reachable (C : Operation Ty → SpaceTime A Ty → Prop) :
    SpaceTime A Ty → Prop where
  | new : Reachable C SpaceTime.new
  | step {space space' : SpaceTime A Ty} {op : Operation Ty}
      {reply : Reply Ty} (h : Reachable C space) (hop : C op space)
      (hrun : (op.run space).result = .ok (reply, space')) :
      Reachable C space'

/-- The state after a call; the state before, if the call stops. -/
def Operation.after (op : Operation Ty) (space : SpaceTime A Ty) :
    SpaceTime A Ty :=
  match (op.run space).result with
  | .ok (_, space') => space'
  | .error _ => space

theorem Reachable.after {C : Operation Ty → SpaceTime A Ty → Prop}
    {space : SpaceTime A Ty} (h : Reachable C space) (op : Operation Ty)
    (hop : C op space) : Reachable C (op.after space) := by
  unfold Operation.after
  cases hrun : (op.run space).result with
  | ok r =>
      obtain ⟨reply, space'⟩ := r
      exact h.step hop hrun
  | error stop => exact h

theorem Reachable.imp {C C' : Operation Ty → SpaceTime A Ty → Prop}
    {space : SpaceTime A Ty} (h : Reachable C space)
    (himp : ∀ op space, C op space → C' op space) : Reachable C' space := by
  induction h with
  | new => exact .new
  | step _ hop hrun ih => exact ih.step (himp _ _ hop) hrun

variable [LawfulArena A] {C : Operation Ty → SpaceTime A Ty → Prop}

theorem Reachable.valid (hC : ∀ op space, C op space →
      op.Typed space ∧ op.Within space) {space : SpaceTime A Ty}
    (h : Reachable C space) : ∃ leak, space.Valid leak := by
  induction h with
  | new => exact ⟨0, SpaceTime.valid_new⟩
  | step _ hop hrun ih =>
      obtain ⟨leak, hvalid⟩ := ih
      obtain ⟨htyped, hwithin⟩ := hC _ _ hop
      have hstep := (hvalid.step htyped).of_ok hwithin hrun
      obtain ⟨leak', _, hvalid'⟩ := hstep.valid
      exact ⟨_, hvalid'⟩

end RedPlanet.SpaceTime
