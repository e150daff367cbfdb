import Mathlib.Logic.Relation
import RedPlanet.SpaceTime.Overflow
import RedPlanet.SpaceTime.Reading

/-!
# Snapshot isolation

A stored snapshot denotes the same objects and the same arrays after every
operation but the one that drops it (`Reachable.isolated`).  So HEAD shows them
again when the snapshot is checked out, whatever has happened in between.

Most operations only have to keep what a snapshot holds (`Valid.agrees`); the
ones on snapshots have a lemma each.  The limits are needed:
`insert_not_isolated` is a run beyond them, in which an insertion overwrites
the object of a snapshot.
-/

set_option linter.dupNamespace false

namespace RedPlanet.SpaceTime

open RedPlanet.Core RedPlanet.Verified Limited

variable {ι : Type} [DecidableEq ι] {A : Type → Type} [Arena A]
  {Ty : ι → Type}

/-- The entries denote the same objects and arrays in both storages. -/
structure Snapshot.Unchanged (snapshot : Snapshot A ι)
    (storage storage' : SpaceTimeStorage Ty) : Prop where
  objects : ∀ ptr ∈ Arena.values snapshot.tablePtrs, ∃ x : Ty ptr.typeId,
    (storage.table ptr.typeId).item ptr.tablePtr = some x ∧
      (storage'.table ptr.typeId).item ptr.tablePtr = some x
  arrays : ∀ array ∈ Arena.values snapshot.instances,
    ∃ (content : Flat (Ty array.typeId)) (value : Ty array.typeId),
      Represents (storage.arrays array.typeId) array.array content value ∧
        Represents (storage'.arrays array.typeId) array.array content value

namespace SpaceTime

variable [Build]

/-- HEAD shows the same under every id. -/
structure Agrees (space space' : SpaceTime A Ty) : Prop where
  objects : ∀ (τ : ι) (id : Index),
    (∀ ptr, space.ptrAt id = some ptr → ptr.typeId = τ) →
      (space'.get τ id).result = (space.get τ id).result
  arrays : ∀ (τ : ι) (id : Index) (access : ReadAccess (Ty τ)),
    (∀ array, space.arrayAt id = some array → array.typeId = τ) →
      (space'.getArray τ id access).result
        = (space.getArray τ id access).result

end SpaceTime

/-- One operation that meets the condition. -/
def Next [Build] (C : Operation Ty → SpaceTime A Ty → Prop)
    (space space' : SpaceTime A Ty) : Prop :=
  ∃ (op : Operation Ty) (reply : Reply Ty), C op space ∧
    (op.run space).result = .ok (reply, space')

variable [LawfulArena A] {space space' : SpaceTime A Ty}
  {leak leak' : Refs ι}

/-! ## One step -/

namespace SpaceTime

/-- What a snapshot holds is there, and stays as it is. -/
theorem Valid.unchanged (h : Valid space leak) {id : Index}
    {snapshot : Snapshot A ι}
    (hget : Arena.get id space.snapshots = some snapshot)
    {storage' : SpaceTimeStorage Ty}
    (hkept : Kept (snapshotRefs snapshot) space.storage storage') :
    snapshot.Unchanged space.storage storage' where
  objects := fun ptr hptr => by
    have hmem := Arena.mem_values.2 ⟨id, hget⟩
    obtain ⟨rest, hrest⟩ := storedRefs_of_mem hmem
    have hpos := snapshotRefs_ptr_pos hptr (headRefs space.head + rest + leak)
    have hrefs : space.refs + leak
        = snapshotRefs snapshot + (headRefs space.head + rest + leak) := by
      unfold refs
      rw [hrest, add_left_comm, add_assoc, add_assoc]
    have hcounted := h.held.objects ptr.typeId
    rw [hrefs] at hcounted
    obtain ⟨x, hx⟩ := hcounted.item_of_pos hpos
    have hpos' := snapshotRefs_ptr_pos hptr 0
    rw [add_zero] at hpos'
    exact ⟨x, hx, (hkept.objects _ _ hpos').trans hx⟩
  arrays := fun array harray => by
    have hmem := Arena.mem_values.2 ⟨id, hget⟩
    obtain ⟨content, value, hshows, _⟩ := h.shown snapshot hmem array harray
    refine ⟨content, value, hshows, hshows.keeps (hkept.pages array.typeId) ?_⟩
    intro q hq
    have hpos := snapshotRefs_array_pos harray 0 hq
    rw [add_zero] at hpos
    exact hpos

variable [Build]

omit [DecidableEq ι] [LawfulArena A] [Build] in
/-- Where HEAD has the same snapshot, every id names the same. -/
theorem entries_of_headSnapshot
    (h : space'.headSnapshot = space.headSnapshot) :
    (∀ id, space'.ptrAt id = space.ptrAt id) ∧
      ∀ id, space'.arrayAt id = space.arrayAt id := by
  unfold ptrAt arrayAt
  rw [h]
  exact ⟨fun _ => rfl, fun _ => rfl⟩

/-- Every id names the same entry in HEAD, and the entries are kept. -/
theorem Valid.agrees (h : Valid space leak) (h' : Valid space' leak')
    {snapshot : Snapshot A ι} (hhead : space.headSnapshot = some snapshot)
    (hentries : (∀ id, space'.ptrAt id = space.ptrAt id) ∧
      ∀ id, space'.arrayAt id = space.arrayAt id)
    (hkept : Kept (snapshotRefs snapshot) space.storage space'.storage) :
    space.Agrees space' where
  objects := fun τ id htype => by
    have hsame := hentries.1 id
    cases hptr : space.ptrAt id with
    | none =>
        rw [hptr] at hsame
        rw [get_none h hptr, get_none h' hsame]
    | some ptr =>
        obtain ⟨p, τ'⟩ := ptr
        cases htype _ hptr
        rw [hptr] at hsame
        obtain ⟨x, hx⟩ := h.item_of_ptrAt hptr
        have hget : Arena.get id snapshot.tablePtrs = some ⟨p, τ'⟩ := by
          rw [← ptrAt_eq hhead]
          exact hptr
        have hpos := snapshotRefs_ptr_pos (Arena.mem_values.2 ⟨id, hget⟩) 0
        rw [add_zero] at hpos
        have hx' := (hkept.objects _ _ hpos).trans hx
        rw [get_some h hptr hx, get_some h' hsame hx']
  arrays := fun τ id access htype => by
    have hsame := hentries.2 id
    cases harray : space.arrayAt id with
    | none =>
        rw [harray] at hsame
        rw [getArray_none h access harray, getArray_none h' access hsame]
    | some array =>
        obtain ⟨inst, τ'⟩ := array
        cases htype _ harray
        rw [harray] at hsame
        obtain ⟨content, value, hshows, hsize⟩ := h.shows_of_arrayAt harray
        have hget : Arena.get id snapshot.instances = some ⟨inst, τ'⟩ := by
          rw [← arrayAt_eq hhead]
          exact harray
        have hshows' := hshows.keeps (hkept.pages τ') fun q hq => by
          have hpos := snapshotRefs_array_pos
            (Arena.mem_values.2 ⟨id, hget⟩) 0 hq
          rw [add_zero] at hpos
          exact hpos
        rw [getArray_some h access harray hshows hsize,
          getArray_some h' access hsame hshows' hsize]

/-! ## Runs -/

/-- A stored snapshot that is not dropped, and what it holds. -/
theorem Valid.kept_run (h : Valid space leak) {id : Index}
    {snapshot : Snapshot A ι}
    (hget : Arena.get id space.snapshots = some snapshot)
    (hrun : Relation.ReflTransGen (Next fun op space => op.Typed space ∧
      op.Within space ∧ op ≠ .dropSnapshot id) space space') :
    (∃ leak', Valid space' leak') ∧
      Arena.get id space'.snapshots = some snapshot ∧
      Kept (snapshotRefs snapshot) space.storage space'.storage := by
  induction hrun with
  | refl => exact ⟨⟨leak, h⟩, hget, Kept.refl⟩
  | tail _ hnext ih =>
      obtain ⟨⟨leak', hvalid⟩, hget', hkept⟩ := ih
      obtain ⟨op, reply, ⟨htyped, hwithin, hdrop⟩, hrun⟩ := hnext
      have hstep := (hvalid.step htyped).of_ok hwithin hrun
      obtain ⟨leak'', _, hvalid'⟩ := hstep.valid
      obtain ⟨hget'', hkept'⟩ := hstep.kept id snapshot hget' hdrop
      exact ⟨⟨_, hvalid'⟩, hget'', hkept.trans hkept'⟩

/-- The snapshot that was checked out is checked out again. -/
theorem Valid.agrees_checkout (h : Valid space leak) {id : Index}
    (hhead : space.head = .checkout id) {space₂ space₃ : SpaceTime A Ty}
    {reply : Reply Ty}
    (hrun : Relation.ReflTransGen (Next fun op space => op.Typed space ∧
      op.Within space ∧ op ≠ .dropSnapshot id) space space₂)
    (hwithin : Operation.Within (.checkout id) space₂)
    (hcheckout : ((Operation.checkout id).run space₂).result
      = .ok (reply, space₃)) : space.Agrees space₃ := by
  obtain ⟨snapshot, hsnapshot⟩ := h.headSnapshot
  have hget : Arena.get id space.snapshots = some snapshot := by
    simpa [SpaceTime.headSnapshot, hhead] using hsnapshot
  obtain ⟨⟨leak', hvalid⟩, hget', hkept⟩ := h.kept_run hget hrun
  have hcontains : space₂.contains id = true := by
    unfold contains
    rw [hget']
    rfl
  have hspec : ((Operation.checkout id).run space₂).Ensures fun r =>
      r.2.snapshots = space₂.snapshots ∧ r.2.head = .checkout id := by
    apply Ensures.bind (checkout_spec hvalid id)
    rintro ⟨result, space'⟩ ⟨_, hsnapshots, hhead', _⟩
    rw [if_pos hcontains] at hhead'
    exact Ensures.pure ⟨hsnapshots, hhead'⟩
  obtain ⟨hsnapshots, hhead₃⟩ := hspec.of_ok hwithin hcheckout
  have htyped : Operation.Typed (.checkout id) space₂ := True.intro
  have hstep := (hvalid.step htyped).of_ok hwithin hcheckout
  obtain ⟨leak'', _, hvalid₃⟩ := hstep.valid
  have hother : (Operation.checkout id : Operation Ty) ≠ .dropSnapshot id := by
    intro heq
    cases heq
  obtain ⟨_, hkept₃⟩ := hstep.kept id snapshot hget' hother
  apply h.agrees hvalid₃ hsnapshot _ (hkept.trans hkept₃)
  apply entries_of_headSnapshot
  rw [hsnapshot]
  unfold SpaceTime.headSnapshot
  dsimp only at hsnapshots hhead₃
  rw [hhead₃, hsnapshots]
  exact hget'

/-- A snapshot is dropped, also if it is the one that is checked out. -/
theorem Valid.agrees_drop (h : Valid space leak) {id : Index}
    {reply : Reply Ty}
    (hwithin : Operation.Within (.dropSnapshot id) space)
    (hrun : ((Operation.dropSnapshot id).run space).result
      = .ok (reply, space')) : space.Agrees space' := by
  obtain ⟨snapshot, hsnapshot⟩ := h.headSnapshot
  have hspec : ((Operation.dropSnapshot id).run space).Ensures fun r =>
      r.2.headSnapshot = space.headSnapshot ∧
        Kept (r.2.refs + leak) space.storage r.2.storage := by
    apply Ensures.bind (dropSnapshot_spec h id)
    rintro ⟨result, space'⟩ ⟨_, _, hhead', _, _, _, hkept⟩
    exact Ensures.pure ⟨hhead', hkept⟩
  obtain ⟨hhead', hkept⟩ := hspec.of_ok hwithin hrun
  have htyped : Operation.Typed (.dropSnapshot id) space := True.intro
  have hstep := (h.step htyped).of_ok hwithin hrun
  obtain ⟨leak', _, hvalid'⟩ := hstep.valid
  dsimp only at hhead' hkept
  obtain ⟨rest, hrest⟩ := refs_of_headSnapshot (hhead'.trans hsnapshot)
  rw [hrest, add_assoc] at hkept
  exact h.agrees hvalid' hsnapshot (entries_of_headSnapshot hhead')
    (hkept.right _)

end SpaceTime

/-- Within the limits, snapshots are isolated. -/
theorem Reachable.isolated [Build]
    (h : Reachable (fun op space => op.Typed space ∧ op.Within space) space) :
    (∀ (id : Index) (snapshot : Snapshot A ι),
      Arena.get id space.snapshots = some snapshot →
        ∀ (op : Operation Ty) (reply : Reply Ty) (space' : SpaceTime A Ty),
          op ≠ .dropSnapshot id → op.Typed space → op.Within space →
            (op.run space).result = .ok (reply, space') →
              Arena.get id space'.snapshots = some snapshot ∧
                snapshot.Unchanged space.storage space'.storage) ∧
    (∀ (id : Index) (space₁ space₂ space₃ : SpaceTime A Ty) (reply : Reply Ty),
      Operation.Within .makeSnapshot space →
        (Operation.makeSnapshot.run space).result = .ok (.id id, space₁) →
          Relation.ReflTransGen (Next fun op space => op.Typed space ∧
              op.Within space ∧ op ≠ .dropSnapshot id) space₁ space₂ →
            Operation.Within (.checkout id) space₂ →
              ((Operation.checkout id).run space₂).result
                  = .ok (reply, space₃) → space₁.Agrees space₃) ∧
    ∀ (id : Index) (reply : Reply Ty) (space' : SpaceTime A Ty),
      Operation.Within (.dropSnapshot id) space →
        ((Operation.dropSnapshot id).run space).result = .ok (reply, space') →
          space.Agrees space' := by
  obtain ⟨leak, hvalid⟩ := h.valid fun _ _ hop => hop
  refine ⟨?_, ?_, ?_⟩
  · intro id snapshot hget op reply space' hdrop htyped hwithin hrun
    have hstep := (hvalid.step htyped).of_ok hwithin hrun
    obtain ⟨hget', hkept⟩ := hstep.kept id snapshot hget hdrop
    exact ⟨hget', hvalid.unchanged hget hkept⟩
  · intro id space₁ space₂ space₃ reply hwithin hmake hrun hwithin₂ hcheckout
    have hspec : (Operation.makeSnapshot.run space).Ensures fun r =>
        ∀ id, r.1 = .id id → r.2.head = .checkout id := by
      apply Ensures.bind (SpaceTime.makeSnapshot_spec hvalid)
      rintro ⟨index, space'⟩ ⟨_, _, _, hhead, _⟩
      apply Ensures.pure
      intro id hid
      cases hid
      exact hhead
    have hhead := hspec.of_ok hwithin hmake id rfl
    have htyped : Operation.Typed .makeSnapshot space := True.intro
    have hstep := (hvalid.step htyped).of_ok hwithin hmake
    obtain ⟨leak', _, hvalid₁⟩ := hstep.valid
    exact hvalid₁.agrees_checkout hhead hrun hwithin₂ hcheckout
  · intro id reply space' hwithin hrun
    exact hvalid.agrees_drop hwithin hrun

/-- An object is changed after a snapshot, which is checked out again. -/
theorem Reachable.isolated_copy :
    @SpaceTime.Agrees _ GenArena _ (fun _ : Unit => Bool) Build.debug
      (@Operation.after _ _ _ _ _ Build.debug .makeSnapshot
        (@Operation.after _ _ _ _ _ Build.debug (.insert () true) .new))
      (@Operation.after _ _ _ _ _ Build.debug (.checkout ⟨0, 0⟩)
        (@Operation.after _ _ _ _ _ Build.debug (.getMut () ⟨0, 0⟩ not)
          (@Operation.after _ _ _ _ _ Build.debug .makeSnapshot
            (@Operation.after _ _ _ _ _ Build.debug (.insert () true)
              .new)))) := by
  have hnew := @Reachable.new Unit _ GenArena _ (fun _ => Bool) Build.debug
    (fun op space => op.Typed space ∧
      @Operation.Within _ _ _ _ _ Build.debug op space)
  have hinsert := @Reachable.after _ _ _ _ _ Build.debug _ _ hnew
    (.insert () true) ⟨True.intro, rfl⟩
  refine (@Reachable.isolated _ _ _ _ _ _ _ Build.debug hinsert).2.1 ⟨0, 0⟩ _
    (@Operation.after _ _ _ _ _ Build.debug (.getMut () ⟨0, 0⟩ not)
      (@Operation.after _ _ _ _ _ Build.debug .makeSnapshot
        (@Operation.after _ _ _ _ _ Build.debug (.insert () true) .new)))
    _ (.done true) rfl rfl ?_ rfl rfl
  apply Relation.ReflTransGen.single
  exact ⟨.getMut () ⟨0, 0⟩ not, .done true,
    ⟨fun _ _ => rfl, rfl, nofun⟩, rfl⟩

/-- An insertion overwrites the object of a snapshot. -/
theorem insert_not_isolated :
    ∃ (space space' : SpaceTime GenArena fun _ : Unit => Bool) (id : Index)
      (snapshot : Snapshot GenArena Unit) (op : Operation fun _ : Unit => Bool)
      (reply : Reply fun _ : Unit => Bool),
      @Reachable _ _ _ _ _ Build.release (fun op space => op.Typed space)
        space ∧
      Arena.get id space.snapshots = some snapshot ∧
      op ≠ .dropSnapshot id ∧ op.Typed space ∧
      (@Operation.run _ _ _ _ _ Build.release op space).result
        = .ok (reply, space') ∧
      ¬ snapshot.Unchanged space.storage space'.storage := by
  obtain ⟨space, space', hover⟩ := overflows
  obtain ⟨reply, hrun⟩ := hover.run
  have hget : Arena.get ⟨0, 0⟩ space.snapshots = some saved := by
    rw [hover.snapshots]
    rfl
  refine ⟨space, space', ⟨0, 0⟩, saved, .insert () false, reply,
    @Reachable.imp _ _ _ _ _ Build.release _ _ _ hover.reachable
      (fun _ _ hop => hop.1), hget, nofun, True.intro, hrun, ?_⟩
  intro hsame
  obtain ⟨x, hbefore, hafter⟩ := hsame.objects ⟨⟨0⟩, ()⟩ (by decide)
  rw [hover.before] at hbefore
  rw [hover.after, ← hbefore] at hafter
  exact absurd hafter (by decide)

end RedPlanet.SpaceTime
