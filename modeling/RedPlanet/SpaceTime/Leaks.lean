import RedPlanet.SpaceTime.Entries

/-!
# Objects that no snapshot has

`make_snapshot` clones HEAD into the new snapshot and then checks it out.  The
HEAD that it replaces is discarded, not deleted: the objects of a dirty HEAD
keep a count for it.

In runs where there is none to forget, the counts are exact, and the first
step that forgets one ends this (`Reachable.exact`).  `leaked_not_exact` is a
run that does.
-/

set_option linter.dupNamespace false

namespace RedPlanet.SpaceTime

open RedPlanet.Core RedPlanet.Verified Limited

variable {ι : Type} [DecidableEq ι] {A : Type → Type} [Arena A]
  {Ty : ι → Type}

/-- The slot of the pointer holds an item. -/
def Table.Filled {α : Type} (t : Table α) (ptr : TablePtr) : Prop :=
  ∃ data, t.metadata[ptr.index]? = some data ∧ data.isFilled = true

/-- The reference counts of objects are numbers of entries; what has no entry
is free. -/
structure SpaceTime.Exact (space : SpaceTime A Ty) : Prop where
  counts : ∀ (τ : ι) (ptr : TablePtr) (data : ItemMetaData),
    (space.storage.table τ).metadata[ptr.index]? = some data →
      data.isFilled = true →
        data.refCount = space.entries.count { tablePtr := ptr, typeId := τ }
  free : ∀ (τ : ι) (ptr : TablePtr),
    { tablePtr := ptr, typeId := τ } ∉ space.entries →
      ¬ (space.storage.table τ).Filled ptr

/-- No snapshot is made of a dirty HEAD that has objects. -/
def Operation.Deletes (op : Operation Ty) (space : SpaceTime A Ty) : Prop :=
  match op with
  | .makeSnapshot => ∀ snapshot, space.head = .dirty snapshot →
      Arena.values snapshot.tablePtrs = []
  | _ => True

namespace SpaceTime

variable {space : SpaceTime A Ty} {leak : Refs ι}

theorem Valid.refs_count (h : Valid space leak) (τ : ι) (ptr : TablePtr) :
    (space.storage.table τ).refs ptr
      = space.entries.count ⟨ptr, τ⟩ + leak.1 τ ptr := by
  rw [(h.held.objects τ).refs, ← refs_objects]
  rfl

/-- Counts are exact as long as nothing was forgotten. -/
theorem Valid.exact_iff (h : Valid space leak) :
    space.Exact ↔ leak.1 = 0 := by
  constructor
  · intro hexact
    funext τ ptr
    show leak.1 τ ptr = 0
    have hrefs := h.refs_count τ ptr
    rcases Nat.eq_zero_or_pos ((space.storage.table τ).refs ptr) with
      hzero | hpos
    · omega
    · obtain ⟨data, hdata, hfilled, hcount⟩ := Table.filled_of_refs hpos
      have hentries := hexact.counts τ ptr data hdata hfilled
      omega
  · intro hleak
    have hrefs : ∀ (τ : ι) (ptr : TablePtr),
        (space.storage.table τ).refs ptr = space.entries.count ⟨ptr, τ⟩ := by
      intro τ ptr
      rw [h.refs_count, hleak]
      rfl
    refine ⟨?_, ?_⟩
    · intro τ ptr data hdata hfilled
      rw [← hrefs, Table.refs_of_filled hdata hfilled]
    · rintro τ ptr hnot ⟨data, hdata, hfilled⟩
      have hpos := (h.held.objects τ).wf.counted _ data hdata hfilled
      have hzero := hrefs τ ptr
      rw [Table.refs_of_filled hdata hfilled, List.count_eq_zero.2 hnot]
        at hzero
      omega

theorem forgets_eq_zero_iff {op : Operation Ty} :
    op.forgets space = 0 ↔ op.Deletes space := by
  unfold Operation.Deletes Operation.forgets
  cases op with
  | makeSnapshot =>
      dsimp only
      cases hhead : space.head with
      | checkout snapshotId => exact ⟨fun _ => nofun, fun _ => rfl⟩
      | dirty snapshot =>
          show (snapshotRefs snapshot).1 = 0 ↔ _
          rw [snapshotRefs_objects]
          constructor
          · intro hzero snapshot' heq
            cases heq
            rw [List.eq_nil_iff_forall_not_mem]
            intro ptr hptr
            have hpos := List.count_pos_iff.2 hptr
            rw [← ptrsRefs_count, hzero] at hpos
            exact Nat.lt_irrefl 0 hpos
          · intro hnil
            rw [hnil snapshot rfl]
            rfl
  | _ => exact ⟨fun _ => True.intro, fun _ => rfl⟩

end SpaceTime

section Build

variable [LawfulArena A] [Build]

theorem Reachable.valid_of_deletes {space : SpaceTime A Ty}
    (h : Reachable (fun op space => op.Typed space ∧ op.Within space ∧
      op.Deletes space) space) :
    ∃ leak : Refs ι, leak.1 = 0 ∧ space.Valid leak := by
  induction h with
  | new => exact ⟨0, rfl, SpaceTime.valid_new⟩
  | step _ hop hrun ih =>
      obtain ⟨leak, hzero, hvalid⟩ := ih
      obtain ⟨htyped, hwithin, hdeletes⟩ := hop
      have hstep := (hvalid.step htyped).of_ok hwithin hrun
      obtain ⟨leak', hleak', hvalid'⟩ := hstep.valid
      refine ⟨leak' + leak, ?_, hvalid'⟩
      rw [Prod.fst_add, hleak', SpaceTime.forgets_eq_zero_iff.2 hdeletes,
        hzero, zero_add]

/-- In runs that delete every HEAD they leave, counts are exact; the first
step that does not do so ends this. -/
theorem Reachable.exact {space : SpaceTime A Ty}
    (h : Reachable (fun op space => op.Typed space ∧ op.Within space ∧
      op.Deletes space) space) :
    space.Exact ∧
      ∀ (op : Operation Ty) (reply : Reply Ty) (space' : SpaceTime A Ty),
        op.Typed space → op.Within space →
          (op.run space).result = .ok (reply, space') →
            (space'.Exact ↔ op.Deletes space) := by
  obtain ⟨leak, hzero, hvalid⟩ := h.valid_of_deletes
  refine ⟨hvalid.exact_iff.2 hzero, ?_⟩
  intro op reply space' htyped hwithin hrun
  obtain ⟨leak', hleak', hvalid'⟩ :=
    ((hvalid.step htyped).of_ok hwithin hrun).valid
  rw [hvalid'.exact_iff, Prod.fst_add, hzero, add_zero, hleak']
  exact SpaceTime.forgets_eq_zero_iff

end Build

/-- A snapshot of nothing, and an object in a copy of it. -/
theorem Reachable.exact_insert :
    ((@Operation.after _ _ GenArena _ (fun _ : Unit => Bool) Build.debug
      (.insert () true) (@Operation.after _ _ _ _ _ Build.debug
        .makeSnapshot .new))).Exact := by
  have hnew := @Reachable.new Unit _ GenArena _ (fun _ => Bool) Build.debug
    (fun op space => op.Typed space ∧
      @Operation.Within _ _ _ _ _ Build.debug op space ∧ op.Deletes space)
  have hnil : Operation.Deletes .makeSnapshot
      (SpaceTime.new : SpaceTime GenArena fun _ : Unit => Bool) := by
    intro snapshot hhead
    cases hhead
    rfl
  have hmake := @Reachable.after _ _ _ _ _ Build.debug _ _ hnew
    .makeSnapshot ⟨True.intro, rfl, hnil⟩
  have hinsert := @Reachable.after _ _ _ _ _ Build.debug _ _ hmake
    (.insert () true) ⟨True.intro, rfl, True.intro⟩
  exact (@Reachable.exact _ _ _ _ _ _ Build.debug _ hinsert).1

/-- An object, a snapshot of it, and the object after that. -/
def leaked : SpaceTime GenArena fun _ : Unit => Bool :=
  @Operation.after _ _ _ _ _ Build.debug .makeSnapshot
    (@Operation.after _ _ _ _ _ Build.debug (.insert () true) .new)

/-- The object of the HEAD that the snapshot replaced is counted for nobody.
-/
theorem leaked_not_exact : ∃ space : SpaceTime GenArena fun _ : Unit => Bool,
    (@Reachable _ _ _ _ _ Build.debug (fun op space => op.Typed space ∧
      @Operation.Within _ _ _ _ _ Build.debug op space) space) ∧
    ¬ space.Exact := by
  refine ⟨leaked, ?_, ?_⟩
  · have hnew := @Reachable.new Unit _ GenArena _ (fun _ => Bool) Build.debug
      (fun op space => op.Typed space ∧
        @Operation.Within _ _ _ _ _ Build.debug op space)
    have hinsert := @Reachable.after _ _ _ _ _ Build.debug _ _ hnew
      (.insert () true) ⟨True.intro, rfl⟩
    exact @Reachable.after _ _ _ _ _ Build.debug _ _ hinsert
      .makeSnapshot ⟨True.intro, rfl⟩
  · intro h
    have hcount := h.counts () ⟨0⟩ ⟨2⟩ rfl rfl
    exact absurd hcount (by decide)

end RedPlanet.SpaceTime
