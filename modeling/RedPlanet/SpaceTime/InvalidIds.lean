import RedPlanet.SpaceTime.Runs

/-!
# Invalid ids

`remove`, `remove_array`, `pop`, `get_mut` and `get_array_mut` fetch HEAD for
writing before they look the id up.  A dirty HEAD is fetched as it is, and an
id that names nothing in it changes nothing.  A HEAD that is checked out is
cloned first, so that it is dirty when the id turns out to be invalid, although
nothing has been written.

`Operation.changesNothing_iff` says that such a call changes nothing exactly
if HEAD was dirty before, and `failed_remove_dirties` is a call on a HEAD that
was not.
-/

set_option linter.dupNamespace false

namespace RedPlanet.SpaceTime

open RedPlanet.Core RedPlanet.Verified Limited

variable {ι : Type} {A : Type → Type} {Ty : ι → Type}

/-! ## Leaving HEAD dirty -/

namespace SpaceTime

variable {α β : Type} {space : SpaceTime A Ty} {snapshot : Snapshot A ι}

/-- Where the call returns, HEAD is dirty. -/
def LeavesDirty (m : Limited (α × SpaceTime A Ty)) : Prop :=
  ∀ a space', m.result = .ok (a, space') → space'.headId = none

theorem LeavesDirty.pure {a : α} (h : space.headId = none) :
    LeavesDirty (Pure.pure (a, space)) := by
  intro a' space' hresult
  cases hresult
  exact h

/-- The last part decides. -/
theorem LeavesDirty.bind {m : Limited β}
    {f : β → Limited (α × SpaceTime A Ty)} (h : ∀ b, LeavesDirty (f b)) :
    LeavesDirty (m >>= f) := by
  intro a space' hresult
  obtain ⟨b, -, hb⟩ := exists_of_bind_ok hresult
  exact h b a space' hb

/-- The last part goes on from a dirty HEAD. -/
theorem LeavesDirty.andThen {m : Limited (β × SpaceTime A Ty)}
    {f : β × SpaceTime A Ty → Limited (α × SpaceTime A Ty)}
    (hm : LeavesDirty m)
    (h : ∀ b space', space'.headId = none → LeavesDirty (f (b, space'))) :
    LeavesDirty (m >>= f) := by
  intro a space' hresult
  obtain ⟨⟨b, mid⟩, hmid, hb⟩ := exists_of_bind_ok hresult
  exact h b mid (hm b mid hmid) a space' hb

theorem setHead_self (h : space.head = .dirty snapshot) :
    space.setHead snapshot = space := by
  unfold setHead
  rw [← h]

variable [Arena A]

theorem ptrAt_of_dirty (h : space.head = .dirty snapshot) (id : Index) :
    space.ptrAt id = Arena.get id snapshot.tablePtrs := by
  simp [ptrAt, headSnapshot, h]

theorem arrayAt_of_dirty (h : space.head = .dirty snapshot) (id : Index) :
    space.arrayAt id = Arena.get id snapshot.instances := by
  simp [arrayAt, headSnapshot, h]

end SpaceTime

/-! ## What can be observed -/

variable [DecidableEq ι] [Arena A]

/-- The call is made with an id that names nothing in HEAD. -/
def Operation.Misses (op : Operation Ty) (space : SpaceTime A Ty) : Prop :=
  match op with
  | .remove _ id | .pop _ id | .getMut _ id _ => space.ptrAt id = none
  | .removeArray _ id | .getArrayMut _ id _ => space.arrayAt id = none
  | .insert _ _ | .insertArray _ _ _ | .makeSnapshot | .dropSnapshot _
  | .checkout _ => False

section Build

variable [Build]

/-- HEAD shows the same under every id, of whatever type. -/
structure SpaceTime.ShowsSame (space space' : SpaceTime A Ty) : Prop where
  objects : ∀ (τ : ι) (id : Index),
    (space'.get τ id).result = (space.get τ id).result
  arrays : ∀ (τ : ι) (id : Index) (access : ReadAccess (Ty τ)),
    (space'.getArray τ id access).result
      = (space.getArray τ id access).result

/-- The same snapshot is checked out, if any, there are the same snapshots,
and HEAD shows the same, now and after any checkout. -/
structure SpaceTime.LooksSame (space space' : SpaceTime A Ty) : Prop where
  head : space'.headId = space.headId
  snapshots : ∀ id, space'.contains id = space.contains id
  shows : space.ShowsSame space'
  checkouts : ∀ (id : Index) (reply : Reply Ty) (after : SpaceTime A Ty),
    ((Operation.checkout id).run space).result = .ok (reply, after) →
      ∃ after', ((Operation.checkout id).run space').result
          = .ok (reply, after') ∧ after.ShowsSame after'

/-- The call returns `InvalidIdError`, and nothing has changed. -/
def Operation.ChangesNothing (op : Operation Ty) (space : SpaceTime A Ty) :
    Prop :=
  ∃ space', (op.run space).result = .ok (.invalid, space') ∧
    space.LooksSame space'

namespace SpaceTime

variable {space : SpaceTime A Ty} {snapshot : Snapshot A ι}

theorem LooksSame.refl : space.LooksSame space where
  head := rfl
  snapshots := fun _ => rfl
  shows := ⟨fun _ _ => rfl, fun _ _ _ => rfl⟩
  checkouts := fun _ _ after h => ⟨after, h, fun _ _ => rfl, fun _ _ _ => rfl⟩

/-! ## A dirty HEAD -/

theorem getHeadMut_of_dirty (h : space.head = .dirty snapshot) :
    space.getHeadMut = pure (snapshot, space) := by
  unfold getHeadMut
  rw [h]

section Dirty

variable [SteadyArena A] {id : Index}

theorem remove_of_dirty (h : space.head = .dirty snapshot)
    (hget : Arena.get id snapshot.tablePtrs = none) (τ : ι) :
    space.remove τ id = pure (.error {}, space) := by
  unfold remove
  rw [getHeadMut_of_dirty h, pure_bind]
  dsimp only
  rw [SteadyArena.remove_none id _ hget]
  dsimp only
  rw [setHead_self h]

theorem removeArray_of_dirty (h : space.head = .dirty snapshot)
    (hget : Arena.get id snapshot.instances = none) (τ : ι) :
    space.removeArray τ id = pure (.error {}, space) := by
  unfold removeArray
  rw [getHeadMut_of_dirty h, pure_bind]
  dsimp only
  rw [SteadyArena.remove_none id _ hget]
  dsimp only
  rw [setHead_self h]

theorem pop_of_dirty (h : space.head = .dirty snapshot)
    (hget : Arena.get id snapshot.tablePtrs = none) (τ : ι) :
    space.pop τ id = pure (.error {}, space) := by
  unfold pop
  rw [getHeadMut_of_dirty h, pure_bind]
  dsimp only
  rw [SteadyArena.remove_none id _ hget]
  dsimp only
  rw [setHead_self h]

omit [SteadyArena A] in
theorem getMut_of_dirty (h : space.head = .dirty snapshot)
    (hget : Arena.get id snapshot.tablePtrs = none) (τ : ι) (f : Ty τ → Ty τ) :
    space.getMut τ id f = pure (.error {}, space) := by
  unfold getMut
  rw [getHeadMut_of_dirty h, pure_bind]
  dsimp only
  rw [hget]

omit [SteadyArena A] in
theorem getArrayMut_of_dirty (h : space.head = .dirty snapshot)
    (hget : Arena.get id snapshot.instances = none) (τ : ι)
    (access : ArrayAccess (Ty τ)) :
    space.getArrayMut τ id access = pure (.error {}, space) := by
  unfold getArrayMut
  rw [getHeadMut_of_dirty h, pure_bind]
  dsimp only
  rw [hget]

/-- The call returns the space time that it was made on. -/
theorem run_of_dirty (h : space.head = .dirty snapshot) {op : Operation Ty}
    (hmiss : op.Misses space) : op.run space = pure (.invalid, space) := by
  cases op with
  | remove τ id =>
      have hget := (ptrAt_of_dirty h id).symm.trans hmiss
      show (space.remove τ id >>= _) = _
      rw [remove_of_dirty h hget]
      rfl
  | removeArray τ id =>
      have hget := (arrayAt_of_dirty h id).symm.trans hmiss
      show (space.removeArray τ id >>= _) = _
      rw [removeArray_of_dirty h hget]
      rfl
  | pop τ id =>
      have hget := (ptrAt_of_dirty h id).symm.trans hmiss
      show (space.pop τ id >>= _) = _
      rw [pop_of_dirty h hget]
      rfl
  | getMut τ id f =>
      have hget := (ptrAt_of_dirty h id).symm.trans hmiss
      show (space.getMut τ id f >>= _) = _
      rw [getMut_of_dirty h hget]
      rfl
  | getArrayMut τ id access =>
      have hget := (arrayAt_of_dirty h id).symm.trans hmiss
      show (space.getArrayMut τ id access >>= _) = _
      rw [getArrayMut_of_dirty h hget]
      rfl
  | insert τ object => exact hmiss.elim
  | insertArray τ object n => exact hmiss.elim
  | makeSnapshot => exact hmiss.elim
  | dropSnapshot snapshotId => exact hmiss.elim
  | checkout snapshotId => exact hmiss.elim

end Dirty

/-! ## A HEAD that is checked out -/

theorem leavesDirty_getHeadMut : LeavesDirty space.getHeadMut := by
  unfold getHeadMut
  cases hhead : space.head with
  | dirty snapshot =>
      apply LeavesDirty.pure
      unfold headId
      rw [hhead]
  | checkout snapshotId =>
      apply LeavesDirty.bind
      intro refHead
      exact LeavesDirty.bind fun _ => LeavesDirty.pure rfl

/-- A call with an id that names nothing never returns with HEAD checked
out. -/
theorem leavesDirty_run {op : Operation Ty} (hmiss : op.Misses space) :
    LeavesDirty (op.run space) := by
  cases op with
  | remove τ id =>
      refine LeavesDirty.andThen ?_ fun _ _ h => LeavesDirty.pure h
      apply LeavesDirty.bind
      rintro ⟨snapshot, space'⟩
      dsimp only
      cases (Arena.remove id snapshot.tablePtrs).1 with
      | none => exact LeavesDirty.pure rfl
      | some ptr =>
          exact LeavesDirty.bind fun _ => LeavesDirty.bind fun _ =>
            LeavesDirty.pure rfl
  | removeArray τ id =>
      refine LeavesDirty.andThen ?_ fun _ _ h => LeavesDirty.pure h
      apply LeavesDirty.bind
      rintro ⟨snapshot, space'⟩
      dsimp only
      cases (Arena.remove id snapshot.instances).1 with
      | none => exact LeavesDirty.pure rfl
      | some array =>
          exact LeavesDirty.bind fun _ => LeavesDirty.bind fun _ =>
            LeavesDirty.pure rfl
  | pop τ id =>
      refine LeavesDirty.andThen ?_ fun _ _ h => LeavesDirty.pure h
      apply LeavesDirty.bind
      rintro ⟨snapshot, space'⟩
      dsimp only
      cases (Arena.remove id snapshot.tablePtrs).1 with
      | none => exact LeavesDirty.pure rfl
      | some ptr =>
          exact LeavesDirty.bind fun _ => LeavesDirty.bind fun _ =>
            LeavesDirty.pure rfl
  | getMut τ id f =>
      refine LeavesDirty.andThen ?_ fun _ _ h => LeavesDirty.pure h
      apply leavesDirty_getHeadMut.andThen
      intro snapshot space' hdirty
      dsimp only
      cases Arena.get id snapshot.tablePtrs with
      | none => exact LeavesDirty.pure hdirty
      | some ptr =>
          apply LeavesDirty.bind
          intro t
          apply LeavesDirty.bind
          intro unique
          exact LeavesDirty.bind fun _ => LeavesDirty.bind fun _ =>
            LeavesDirty.pure rfl
  | getArrayMut τ id access =>
      refine LeavesDirty.andThen ?_ fun _ _ h => LeavesDirty.pure h
      apply leavesDirty_getHeadMut.andThen
      intro snapshot space' hdirty
      dsimp only
      cases Arena.get id snapshot.instances with
      | none => exact LeavesDirty.pure hdirty
      | some array =>
          exact LeavesDirty.bind fun _ => LeavesDirty.bind fun _ =>
            LeavesDirty.pure rfl
  | insert τ object => exact hmiss.elim
  | insertArray τ object n => exact hmiss.elim
  | makeSnapshot => exact hmiss.elim
  | dropSnapshot snapshotId => exact hmiss.elim
  | checkout snapshotId => exact hmiss.elim

end SpaceTime

/-! ## The condition -/

/-- In every state a call with an id that names nothing in HEAD changes
nothing if and only if HEAD is dirty. -/
theorem Operation.changesNothing_iff [SteadyArena A] {space : SpaceTime A Ty}
    {op : Operation Ty} (hmiss : op.Misses space) :
    op.ChangesNothing space ↔ space.headId = none := by
  constructor
  · intro ⟨space', hresult, hsame⟩
    rw [← hsame.head]
    exact SpaceTime.leavesDirty_run hmiss _ _ hresult
  · intro hid
    cases hhead : space.head with
    | checkout snapshotId =>
        unfold SpaceTime.headId at hid
        rw [hhead] at hid
        exact absurd hid (Option.some_ne_none snapshotId)
    | dirty snapshot =>
        refine ⟨space, ?_, .refl⟩
        rw [SpaceTime.run_of_dirty hhead hmiss]
        rfl

end Build

/-- A dirty HEAD with one object, asked for another one. -/
theorem Operation.changesNothing_iff_insert :
    @Operation.ChangesNothing _ GenArena (fun _ : Unit => Bool) _ _
      Build.debug (.getMut () ⟨1, 0⟩ not)
      (@Operation.after _ _ _ _ _ Build.debug (.insert () true) .new) := by
  have hmiss : @Operation.Misses _ GenArena (fun _ : Unit => Bool) _
      (.getMut () ⟨1, 0⟩ not)
      (@Operation.after _ _ _ _ _ Build.debug (.insert () true) .new) := rfl
  exact (@Operation.changesNothing_iff _ _ _ _ _ Build.debug _ _ _ hmiss).2 rfl

/-- After a failed `remove` the snapshot is no longer checked out. -/
theorem failed_remove_dirties :
    ∃ space : SpaceTime GenArena fun _ : Unit => Bool,
      @Reachable _ _ _ _ _ Build.debug (fun op space => op.Typed space ∧
        @Operation.Within _ _ _ _ _ Build.debug op space) space ∧
      Operation.Misses (.remove () ⟨0, 0⟩) space ∧
      space.headId = some ⟨0, 0⟩ ∧
      (∃ space', (@Operation.run _ _ _ _ _ Build.debug (.remove () ⟨0, 0⟩)
        space).result = .ok (.invalid, space') ∧ space'.headId = none) ∧
      ¬ @Operation.ChangesNothing _ _ _ _ _ Build.debug (.remove () ⟨0, 0⟩)
        space := by
  have hnew := @Reachable.new Unit _ GenArena _ (fun _ => Bool) Build.debug
    (fun op space => op.Typed space ∧
      @Operation.Within _ _ _ _ _ Build.debug op space)
  have hmake := @Reachable.after _ _ _ _ _ Build.debug _ _ hnew .makeSnapshot
    ⟨True.intro, rfl⟩
  refine ⟨_, hmake, rfl, rfl, ⟨_, rfl, rfl⟩, ?_⟩
  intro ⟨space', hresult, hsame⟩
  have hhead := @SpaceTime.LooksSame.head _ _ _ _ _ Build.debug _ _ hsame
  cases hresult
  exact nomatch hhead

end RedPlanet.SpaceTime
