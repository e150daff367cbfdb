import RedPlanet.SpaceTime.Held

/-!
# The invariant of a space time

Counts are numbers of holders, where the entries of HEAD, if it is dirty, and
of the stored snapshots are holders.  `leak` counts those that no snapshot has
any more.

Every operation goes through HEAD: `getHeadMut` makes it dirty
(`getHeadMut_spec`), then entries are added, taken away or exchanged
(`Edits`).  The specifications in `SpaceTime.Objects` and `SpaceTime.Arrays`
are of this form.
-/

set_option linter.dupNamespace false

namespace RedPlanet.SpaceTime

open RedPlanet.Core RedPlanet.Verified Limited

variable {ι : Type} [DecidableEq ι] {A : Type → Type} [Arena A]
  {Ty : ι → Type}

/-- Arrays show flat arrays. -/
def Shown (storage : SpaceTimeStorage Ty) (arrays : List (TypedInstance ι)) :
    Prop :=
  ∀ array ∈ arrays, ∃ (content : Flat (Ty array.typeId))
    (value : Ty array.typeId),
    Represents (storage.arrays array.typeId) array.array content value ∧
      content.size < 2 ^ 64

namespace SpaceTime

def headRefs : Head A ι → Refs ι
  | .dirty snapshot => snapshotRefs snapshot
  | .checkout _ => 0

/-- What the stored snapshots hold. -/
def storedRefs (snapshots : A (Snapshot A ι)) : Refs ι :=
  ((Arena.values snapshots).map snapshotRefs).sum

/-- What the entries of a dirty HEAD and of the stored snapshots hold. -/
def refs (space : SpaceTime A Ty) : Refs ι :=
  headRefs space.head + storedRefs space.snapshots

/-- The snapshot that HEAD shows. -/
def headSnapshot (space : SpaceTime A Ty) : Option (Snapshot A ι) :=
  match space.head with
  | .dirty snapshot => some snapshot
  | .checkout snapshotId => Arena.get snapshotId space.snapshots

structure Valid (space : SpaceTime A Ty) (leak : Refs ι) : Prop where
  held : Held space.storage (space.refs + leak)
  shown : ∀ snapshot ∈ Arena.values space.snapshots,
    Shown space.storage (Arena.values snapshot.instances)
  headShown : ∀ snapshot, space.head = .dirty snapshot →
    Shown space.storage (Arena.values snapshot.instances)
  collected : ∀ snapshot ∈ Arena.values space.snapshots,
    snapshot.collected = snapshot
  checkout : ∀ snapshotId, space.head = .checkout snapshotId →
    Arena.get snapshotId space.snapshots ≠ none

end SpaceTime

/-! ## Frames -/

omit [DecidableEq ι] in
/-- Arrays whose pages are kept show what they showed. -/
theorem Shown.kept {storage storage' : SpaceTimeStorage Ty}
    {arrays : List (TypedInstance ι)} (h : Shown storage arrays)
    {refs : Refs ι} (hkept : Kept refs storage storage')
    (hpos : ∀ array ∈ arrays, ∀ q ∈ array.array.ptrs,
      0 < refs.2 array.typeId q) : Shown storage' arrays := by
  intro array harray
  obtain ⟨content, value, hshows, hsize⟩ := h array harray
  exact ⟨content, value,
    hshows.keeps (hkept.pages array.typeId) (hpos array harray), hsize⟩

theorem Shown.kept_snapshot {storage storage' : SpaceTimeStorage Ty}
    {snapshot : Snapshot A ι}
    (h : Shown storage (Arena.values snapshot.instances)) {refs : Refs ι}
    (hkept : Kept (snapshotRefs snapshot + refs) storage storage') :
    Shown storage' (Arena.values snapshot.instances) :=
  h.kept hkept fun _ harray _ hq => snapshotRefs_array_pos harray refs hq

theorem storedRefs_of_mem {snapshots : A (Snapshot A ι)}
    {snapshot : Snapshot A ι} (h : snapshot ∈ Arena.values snapshots) :
    ∃ rest, SpaceTime.storedRefs snapshots = snapshotRefs snapshot + rest := by
  obtain ⟨before, after, hsplit⟩ := List.append_of_mem h
  refine ⟨(before.map snapshotRefs).sum + (after.map snapshotRefs).sum, ?_⟩
  unfold SpaceTime.storedRefs
  rw [hsplit, List.map_append, List.sum_append, List.map_cons, List.sum_cons,
    add_left_comm]

/-! ## The beginning -/

theorem Table.counted_new {α : Type} : (Table.new : Table α).Counted 0 where
  wf := Table.wf_new
  refs := fun ptr => by simp [Table.refs, Table.new]

theorem holders_new : holders Table.new = 0 := by
  funext ptr
  show Table.total _ _ = 0
  unfold Table.total
  apply Finset.sum_eq_zero
  intro i _
  simp [Table.weight, Table.item, Table.refs, Table.new]

theorem owned_new {T : Type} (layers : ℕ) :
    Owned (ArrayStorage.new layers : ArrayStorage T layers) 0 := by
  have hlength : ∀ {α : Type} (ptr : TablePtr) (page : List α),
      (Table.new : Table (List α)).item ptr = some page →
        page.length = PAGE_SIZE := by
    intro α ptr page hpage
    simp [Table.item, Table.refs, Table.new] at hpage
  induction layers with
  | zero => exact ⟨Table.counted_new, hlength⟩
  | succ layers ih =>
      refine ⟨⟨Table.counted_new, hlength⟩, ?_⟩
      rw [holders_new]
      exact ih

namespace SpaceTime

variable {space space' : SpaceTime A Ty} {leak leak' : Refs ι}

/-- All stored snapshots show what they showed. -/
theorem shown_stored {storage storage' : SpaceTimeStorage Ty}
    {snapshots : A (Snapshot A ι)}
    (h : ∀ snapshot ∈ Arena.values snapshots,
      Shown storage (Arena.values snapshot.instances))
    {refs : Refs ι} (hkept : Kept (storedRefs snapshots + refs) storage storage') :
    ∀ snapshot ∈ Arena.values snapshots,
      Shown storage' (Arena.values snapshot.instances) := by
  intro snapshot hmem
  obtain ⟨rest, hrest⟩ := storedRefs_of_mem hmem
  rw [hrest, add_assoc] at hkept
  exact (h snapshot hmem).kept_snapshot hkept

/-- The storage changes in a way that the snapshots do not see. -/
theorem Valid.setStorage (h : Valid space leak) {storage : SpaceTimeStorage Ty}
    (hheld : Held storage (space.refs + leak'))
    (hkept : Kept space.refs space.storage storage) :
    Valid (space.setStorage storage) leak' where
  held := hheld
  shown := by
    have hkept' := hkept
    unfold refs at hkept'
    rw [add_comm] at hkept'
    exact shown_stored h.shown hkept'
  headShown := fun snapshot hhead => by
    have hkept' := hkept
    unfold refs at hkept'
    have hhead' : space.head = .dirty snapshot := hhead
    rw [hhead'] at hkept'
    exact (h.headShown snapshot hhead').kept_snapshot hkept'
  collected := h.collected
  checkout := h.checkout

/-- HEAD changes, the storage does not. -/
theorem Valid.setHead (h : Valid space leak) {snapshot : Snapshot A ι}
    (hrefs : snapshotRefs snapshot + leak' = headRefs space.head + leak)
    (hshown : Shown space.storage (Arena.values snapshot.instances)) :
    Valid (space.setHead snapshot) leak' where
  held := by
    have hsum : (space.setHead snapshot).refs + leak' = space.refs + leak := by
      have hleft : (space.setHead snapshot).refs + leak'
          = storedRefs space.snapshots + (snapshotRefs snapshot + leak') := by
        rw [← add_assoc, add_comm (storedRefs _)]
        rfl
      have hright : space.refs + leak
          = storedRefs space.snapshots + (headRefs space.head + leak) := by
        rw [← add_assoc, add_comm (storedRefs _)]
        rfl
      rw [hleft, hright, hrefs]
    rw [hsum]
    exact h.held
  shown := h.shown
  headShown := fun snapshot' hhead => by
    cases hhead
    exact hshown
  collected := h.collected
  checkout := nofun

variable [LawfulArena A]

theorem valid_new : Valid (new : SpaceTime A Ty) 0 where
  held := by
    have hstored : storedRefs (Arena.new : A (Snapshot A ι)) = 0 := by
      unfold storedRefs
      rw [Arena.values_new]
      rfl
    have hhead : snapshotRefs (Snapshot.default : Snapshot A ι) = 0 := by
      unfold snapshotRefs Snapshot.default
      rw [Arena.values_new, Arena.values_new]
      rfl
    have hrefs : (new : SpaceTime A Ty).refs + 0 = 0 := by
      unfold refs new headRefs
      dsimp only
      rw [hstored, hhead]
      rfl
    rw [hrefs]
    exact ⟨fun _ => Table.counted_new, fun _ => owned_new 3⟩
  shown := fun snapshot hmem =>
    absurd hmem (Arena.not_mem_values_new snapshot)
  headShown := fun snapshot hhead => by
    cases hhead
    intro array harray
    exact absurd harray (Arena.not_mem_values_new array)
  collected := fun snapshot hmem =>
    absurd hmem (Arena.not_mem_values_new snapshot)
  checkout := nofun

/-! ## HEAD -/

omit [DecidableEq ι] in
theorem collected_collected (snapshot : Snapshot A ι) :
    snapshot.collected.collected = snapshot.collected := by
  unfold Snapshot.collected
  rw [Arena.values_collect, Arena.values_collect]

omit [LawfulArena A] in
theorem Valid.headSnapshot (h : Valid space leak) :
    ∃ snapshot, space.headSnapshot = some snapshot := by
  cases hhead : space.head with
  | dirty snapshot => exact ⟨snapshot, by simp [SpaceTime.headSnapshot, hhead]⟩
  | checkout snapshotId =>
      have hsome := h.checkout snapshotId hhead
      rw [Option.ne_none_iff_exists'] at hsome
      obtain ⟨snapshot, hsnapshot⟩ := hsome
      exact ⟨snapshot, by simp [SpaceTime.headSnapshot, hhead, hsnapshot]⟩

omit [DecidableEq ι] [LawfulArena A] in
theorem getHead_spec {snapshot : Snapshot A ι}
    (h : space.headSnapshot = some snapshot) :
    space.getHead = pure snapshot := by
  unfold SpaceTime.headSnapshot at h
  unfold getHead
  cases hhead : space.head with
  | dirty snapshot' =>
      simp only [hhead, Option.some_inj] at h
      rw [h]
  | checkout snapshotId =>
      simp only [hhead] at h
      simp [h]

/-- HEAD is dirty and holds this snapshot; the other snapshots are as they
were. -/
structure Edits (space space' : SpaceTime A Ty) (snapshot : Snapshot A ι)
    (leak : Refs ι) : Prop where
  head : space'.head = .dirty snapshot
  snapshots : space'.snapshots = space.snapshots
  valid : Valid space' leak

variable [Build]

/-- The entries of a HEAD that is checked out are cloned under their names. -/
theorem getHeadMut_spec (h : Valid space leak) :
    space.getHeadMut.Ensures fun r =>
      space.headSnapshot = some r.1 ∧ Edits space r.2 r.1 leak ∧
        ∀ refs, Kept refs space.storage r.2.storage := by
  unfold getHeadMut
  cases hhead : space.head with
  | dirty snapshot =>
      refine Ensures.pure ⟨?_, ⟨hhead, rfl, h⟩, fun _ => Kept.refl⟩
      simp [SpaceTime.headSnapshot, hhead]
  | checkout snapshotId =>
      obtain ⟨snapshot, hsnapshot⟩ := h.headSnapshot
      have hget : Arena.get snapshotId space.snapshots = some snapshot := by
        simpa [SpaceTime.headSnapshot, hhead] using hsnapshot
      have hmem := Arena.mem_values.2 ⟨snapshotId, hget⟩
      obtain ⟨rest, hrest⟩ := storedRefs_of_mem hmem
      have hrefs : space.refs = snapshotRefs snapshot + rest := by
        unfold refs
        rw [hhead, hrest]
        exact zero_add _
      have hheld := h.held
      rw [hrefs, add_assoc] at hheld
      dsimp only
      apply Ensures.bind (Ensures.unwrap hget)
      intro _ hsame
      subst hsame
      apply Ensures.bind (SpaceTimeStorage.cloneSnapshot_spec hheld)
      rintro ⟨clone, storage⟩ ⟨hclone, hadds⟩
      dsimp only at hclone hadds ⊢
      rw [h.collected _ hmem] at hclone
      subst hclone
      have hvalid : Valid (space.setStorage storage)
          (snapshotRefs clone + leak) := by
        apply h.setStorage _ (hadds.kept _)
        have hsum : space.refs + (snapshotRefs clone + leak)
            = snapshotRefs clone + (snapshotRefs clone + (rest + leak)) := by
          rw [hrefs, add_assoc, add_left_comm rest]
        rw [hsum]
        exact hadds.held
      refine Ensures.pure ⟨hsnapshot, ⟨rfl, rfl, ?_⟩, fun refs => hadds.kept refs⟩
      apply hvalid.setHead
      · have hzero : headRefs (space.setStorage storage).head = 0 := by
          unfold setStorage
          dsimp only
          rw [hhead]
          rfl
        rw [hzero, zero_add]
      · exact (h.shown clone hmem).kept_snapshot
          (hadds.kept (snapshotRefs clone + 0))

end SpaceTime

end RedPlanet.SpaceTime
