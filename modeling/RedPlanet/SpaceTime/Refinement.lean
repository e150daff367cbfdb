import RedPlanet.SpaceTime.Heap

/-!
# The space time refines the heap

One lemma for each call, by its specification: HEAD shows the heap after the
call, and no saved version changes (`Versions.simulates`).  Then runs, call by
call (`SpaceTime.Calls.refines_heap`).

The relation is `Shows`: the arenas of HEAD and of the snapshots name their
entries in the order of the heap, and each entry denotes what the heap has
there.
-/

set_option linter.dupNamespace false

namespace RedPlanet.SpaceTime

open RedPlanet.Core RedPlanet.Verified Limited

variable {ι : Type} {A : Type → Type} [Arena A] {Ty : ι → Type}

/-! ## Frames -/

section Frames

variable {storage storage' : SpaceTimeStorage Ty}
  {snapshot : Snapshot A ι} {heap : Heap Ty} {refs : Refs ι}

omit [Arena A] in
/-- An object that is counted stays where it is. -/
theorem ObjectAt.kept {ptr : TypedTablePtr ι} {x : (τ : ι) × Ty τ}
    (h : ObjectAt storage ptr x) (hkept : Kept refs storage storage')
    (hpos : 0 < refs.1 ptr.typeId ptr.tablePtr) : ObjectAt storage' ptr x := by
  obtain ⟨y, hx, hitem⟩ := h
  exact ⟨y, hx, (hkept.objects _ _ hpos).trans hitem⟩

omit [Arena A] in
theorem ArrayAt.kept {array : TypedInstance ι}
    {x : (τ : ι) × Resettable (Ty τ)}
    (h : ArrayAt storage array x) (hkept : Kept refs storage storage')
    (hpos : ∀ q ∈ array.array.ptrs, 0 < refs.2 array.typeId q) :
    ArrayAt storage' array x := by
  obtain ⟨y, hx, hshows⟩ := h
  exact ⟨y, hx, hshows.keeps (hkept.pages _) hpos⟩

variable [DecidableEq ι] [LawfulArena A]

/-- A snapshot whose entries are counted denotes the same. -/
theorem Snapshot.Denotes.kept (h : snapshot.Denotes storage heap)
    (hkept : Kept (snapshotRefs snapshot + refs) storage storage') :
    snapshot.Denotes storage' heap where
  objects := h.objects.imp fun i _ _ hget hat => hat.kept hkept
    (snapshotRefs_ptr_pos (Arena.mem_values.2 ⟨i, hget⟩) refs)
  arrays := h.arrays.imp fun i _ _ hget hat => hat.kept hkept
    fun _ hq => snapshotRefs_array_pos (Arena.mem_values.2 ⟨i, hget⟩) refs hq

end Frames

/-- Both arenas are as they were collected. -/
theorem Snapshot.collected_eq_iff {snapshot : Snapshot A ι} :
    snapshot.collected = snapshot ↔
      Arena.Dense snapshot.tablePtrs ∧ Arena.Dense snapshot.instances := by
  obtain ⟨tablePtrs, instances⟩ := snapshot
  unfold Snapshot.collected Arena.Dense
  rw [Snapshot.mk.injEq]

variable [DecidableEq ι]

/-! ## Arrays that agree -/

section Agree

variable {T : Type} {layers : ℕ} {storage : ArrayStorage T layers}
  {array : Instance} {content content' : Flat T} {value value' : T}

omit [Arena A] [DecidableEq ι] in
/-- An array shows one content, as far as it can be read. -/
theorem Represents.agree (h : Represents storage array content value)
    (h' : Represents storage array content' value') :
    value = value' ∧ content.Agree content' := by
  constructor
  · have hreset := h.reset 0 (capacity_pos layers)
    rw [h'.reset 0 (capacity_pos layers)] at hreset
    exact (Option.some.inj hreset).symm
  · have hsize : content.size = content'.size := h.size.symm.trans h'.size
    refine ⟨hsize, fun i hi => ?_⟩
    have helem := h.elements i hi
    rw [h'.elements i (hsize ▸ hi)] at helem
    exact (Option.some.inj helem).symm

omit [Arena A] [DecidableEq ι] in
theorem Represents.congr (h : Represents storage array content value)
    (hagree : content.Agree content') :
    Represents storage array content' value where
  size := h.size.trans hagree.size
  count := h.count
  room := h.room
  elements := fun i hi => by
    rw [← hagree.elem i (hagree.size ▸ hi)]
    exact h.elements i (hagree.size ▸ hi)
  reset := h.reset

omit [Arena A] [DecidableEq ι] in
/-- An access does the same to arrays that agree. -/
theorem ArrayAccess.apply_agree (access : ArrayAccess T)
    (hagree : content.Agree content') (value : T) :
    (access.apply content value).1 = (access.apply content' value).1 ∧
      (access.apply content value).2.Agree
        (access.apply content' value).2 := by
  have hreplaced : ∀ {o o' : Option (Flat T)}, Option.Rel Flat.Agree o o' →
      o.isSome = o'.isSome ∧ (o.getD content).Agree (o'.getD content') := by
    intro o o' hrel
    cases hrel with
    | none => exact ⟨rfl, hagree⟩
    | some h => exact ⟨rfl, h⟩
  cases access with
  | leave => exact ⟨rfl, hagree⟩
  | getMut index f =>
      simp only [ArrayAccess.apply]
      by_cases hlt : index.toNat < content.size
      · have helem := hagree.elem _ hlt
        rw [← helem]
        exact hreplaced (hagree.set _ _)
      · have hlt' : ¬ index.toNat < content'.size := hagree.size ▸ hlt
        unfold Flat.set
        rw [if_neg hlt, if_neg hlt']
        exact ⟨rfl, hagree⟩
  | write index buf => exact hreplaced (hagree.write _ _)
  | reset =>
      unfold ArrayAccess.apply
      rw [hagree.size]
      exact ⟨rfl, .refl⟩

end Agree

namespace SpaceTime

variable {space space' : SpaceTime A Ty} {versions : Versions Ty}
  {leak leak' : Refs ι}

/-- HEAD changes, the saved versions do not. -/
theorem Shows.edits [LawfulArena A] (h : space.Shows versions)
    {snapshot : Snapshot A ι} (hedits : Edits space space' snapshot leak)
    {extra rest : Refs ι}
    (hkept : Kept (extra + storedRefs space.snapshots + rest) space.storage
      space'.storage) {heap : Heap Ty}
    (hcollected : snapshot.collected = snapshot)
    (hdenotes : snapshot.Denotes space'.storage heap) :
    space'.Shows { versions with head := heap } where
  head := by
    refine ⟨snapshot, ?_, hcollected, hdenotes⟩
    simp [SpaceTime.headSnapshot, hedits.head]
  saved := by
    intro id
    rw [hedits.snapshots]
    refine rel_imp (h.saved id) fun stored heap hget hstored => ?_
    have hkept' := kept_stored hget hkept
    rw [← add_zero (snapshotRefs stored)] at hkept'
    exact hstored.kept hkept'

omit [DecidableEq ι] in
theorem shows_new [SequentialArena A] :
    (SpaceTime.new : SpaceTime A Ty).Shows .empty where
  head := by
    refine ⟨.default, rfl, Snapshot.collected_eq_iff.2
      ⟨Arena.dense_new, Arena.dense_new⟩, ?_⟩
    exact ⟨Arena.lists_new, Arena.lists_new⟩
  saved := by
    intro id
    show Option.Rel _ (Arena.get id Arena.new) _
    rw [LawfulArena.get_new]
    exact .none

variable [SequentialArena A] [Build]

/-! ## The calls -/

theorem Shows.insert (h : space.Shows versions) (hvalid : Valid space leak)
    (τ : ι) (object : Ty τ) :
    (space.insert τ object).Ensures fun r =>
      Valid r.2 leak ∧ r.1 = (versions.head.insert τ object).1 ∧
        r.2.Shows { versions with
          head := (versions.head.insert τ object).2 } := by
  obtain ⟨snapshot, hhead, hcollected, hdenotes⟩ := h.head
  obtain ⟨hdense, hdense'⟩ := Snapshot.collected_eq_iff.1 hcollected
  apply (insert_spec hvalid τ object).imp
  rintro ⟨index, space'⟩ ⟨snapshot', p, hhead', hindex, hedits, hitem, hkept⟩
  rw [hhead] at hhead'
  cases hhead'
  dsimp only at hindex hedits hitem hkept ⊢
  obtain ⟨rest, hrest⟩ := refs_of_headSnapshot hhead
  have hkeptHead := hkept
  rw [hrest, add_assoc] at hkeptHead
  have hold := hdenotes.kept hkeptHead
  have hnew : ObjectAt space'.storage ⟨p, τ⟩ ⟨τ, object⟩ := ⟨object, rfl, hitem⟩
  obtain ⟨hname, hlists⟩ := hold.objects.insert hdense
    (fun _ _ _ _ hat => hat) hnew
  refine ⟨hedits.valid, hindex.trans hname, ?_⟩
  apply h.edits hedits hkept
  · exact Snapshot.collected_eq_iff.2 ⟨hdense.insert _, hdense'⟩
  · exact ⟨hlists, hold.arrays⟩

theorem Shows.insertArray (h : space.Shows versions)
    (hvalid : Valid space leak) (τ : ι) (object : Ty τ) (n : BitVec 64) :
    (space.insertArray τ object n).Ensures fun r =>
      Valid r.2 leak ∧ r.1 = (versions.head.insertArray τ object n).1 ∧
        r.2.Shows { versions with
          head := (versions.head.insertArray τ object n).2 } := by
  obtain ⟨snapshot, hhead, hcollected, hdenotes⟩ := h.head
  obtain ⟨hdense, hdense'⟩ := Snapshot.collected_eq_iff.1 hcollected
  apply (insertArray_spec hvalid τ object n).imp
  rintro ⟨index, space'⟩ ⟨snapshot', inst, hhead', hindex, hedits, hshows,
    hkept⟩
  rw [hhead] at hhead'
  cases hhead'
  dsimp only at hindex hedits hshows hkept ⊢
  obtain ⟨rest, hrest⟩ := refs_of_headSnapshot hhead
  have hkeptHead := hkept
  rw [hrest, add_assoc] at hkeptHead
  have hold := hdenotes.kept hkeptHead
  have hnew : ArrayAt space'.storage ⟨inst, τ⟩
      ⟨τ, ⟨Flat.replicate n.toNat object, object⟩⟩ := ⟨_, rfl, hshows⟩
  obtain ⟨hname, hlists⟩ := hold.arrays.insert hdense'
    (fun _ _ _ _ hat => hat) hnew
  refine ⟨hedits.valid, hindex.trans hname, ?_⟩
  apply h.edits hedits hkept
  · exact Snapshot.collected_eq_iff.2 ⟨hdense, hdense'.insert _⟩
  · exact ⟨hold.objects, hlists⟩

omit [Build] [SequentialArena A] in
/-- What an id names in the heap. -/
theorem Denotes.object_eq {snapshot : Snapshot A ι} {heap : Heap Ty}
    (h : snapshot.Denotes space.storage heap) {id : Index} {p : TablePtr}
    {τ : ι} {x : Ty τ}
    (hget : Arena.get id snapshot.tablePtrs = some ⟨p, τ⟩)
    (hitem : (space.storage.table τ).item p = some x) :
    heap.object τ id = some x := by
  obtain ⟨_, hentry, y, rfl, hy⟩ := h.objects.of_get hget
  rw [hitem] at hy
  cases hy
  unfold Heap.object
  rw [hentry]
  exact Heap.ofType_self τ x

omit [Build] [SequentialArena A] in
theorem Denotes.object_eq_none {snapshot : Snapshot A ι} {heap : Heap Ty}
    (h : snapshot.Denotes space.storage heap) {id : Index} (τ : ι)
    (hget : Arena.get id snapshot.tablePtrs = none) :
    heap.object τ id = none := by
  unfold Heap.object
  rw [h.objects.get_eq_none_iff.1 hget]
  rfl

omit [Build] [SequentialArena A] in
theorem Denotes.array_eq {snapshot : Snapshot A ι} {heap : Heap Ty}
    (h : snapshot.Denotes space.storage heap) {id : Index} {inst : Instance}
    {τ : ι} (hget : Arena.get id snapshot.instances = some ⟨inst, τ⟩) :
    ∃ x, heap.array τ id = some x ∧
      Represents (space.storage.arrays τ) inst x.content x.value := by
  obtain ⟨_, hentry, y, rfl, hy⟩ := h.arrays.of_get hget
  refine ⟨y, ?_, hy⟩
  unfold Heap.array
  rw [hentry]
  exact Heap.ofType_self (P := fun τ => Resettable (Ty τ)) τ y

omit [Build] [SequentialArena A] in
theorem Denotes.array_eq_none {snapshot : Snapshot A ι} {heap : Heap Ty}
    (h : snapshot.Denotes space.storage heap) {id : Index} (τ : ι)
    (hget : Arena.get id snapshot.instances = none) :
    heap.array τ id = none := by
  unfold Heap.array
  rw [h.arrays.get_eq_none_iff.1 hget]
  rfl

theorem Shows.getMut (h : space.Shows versions) (hvalid : Valid space leak)
    {τ : ι} {id : Index} (f : Ty τ → Ty τ)
    (htype : ∀ ptr, space.ptrAt id = some ptr → ptr.typeId = τ) :
    (space.getMut τ id f).Ensures fun r =>
      Valid r.2 leak ∧ r.1 = (versions.head.getMut τ id f).1 ∧
        r.2.Shows { versions with
          head := (versions.head.getMut τ id f).2 } := by
  obtain ⟨snapshot, hhead, hcollected, hdenotes⟩ := h.head
  obtain ⟨hdense, hdense'⟩ := Snapshot.collected_eq_iff.1 hcollected
  apply (getMut_spec hvalid f htype).imp
  rintro ⟨result, space'⟩ ⟨snapshot', hhead', hcases⟩
  rw [hhead] at hhead'
  cases hhead'
  have hat := ptrAt_eq hhead id
  unfold Heap.getMut
  rcases hcases with ⟨hptr, hresult, hedits, hkept⟩ |
      ⟨p, p', x, hptr, hitem, hresult, hedits, hitem', hkept⟩
  · rw [hptr] at hat
    rw [Denotes.object_eq_none hdenotes τ hat.symm]
    refine ⟨hedits.valid, hresult, ?_⟩
    exact h.edits hedits (hkept (0 + storedRefs space.snapshots + 0))
      hcollected (hdenotes.kept (hkept (snapshotRefs snapshot + 0)))
  · rw [hptr] at hat
    rw [Denotes.object_eq hdenotes hat.symm hitem]
    dsimp only at hresult hedits hitem' hkept ⊢
    refine ⟨hedits.valid, hresult, ?_⟩
    have hkept' := hkept
    rw [add_assoc] at hkept'
    apply h.edits hedits hkept
    · refine Snapshot.collected_eq_iff.2 ⟨hdense.set _ _ ?_, hdense'⟩
      rw [← hat]
      exact Option.some_ne_none _
    · constructor
      · refine hdenotes.objects.set hat.symm ?_ ⟨f x, rfl, hitem'⟩
        intro j ptr _ hj hget hobject
        apply hobject.kept hkept'
        apply snapshotRefs_ptr_pos (Arena.mem_values.2 ⟨j, ?_⟩)
        exact (LawfulArena.get_remove_ne _ _ _ hj).trans hget
      · apply hdenotes.arrays.imp
        intro j array _ hget harray
        apply harray.kept hkept'
        intro q hq
        have hmem : array ∈ Arena.values (snapshot.withPtrs
            (Arena.remove id snapshot.tablePtrs).2).instances :=
          Arena.mem_values.2 ⟨j, hget⟩
        exact snapshotRefs_array_pos hmem _ hq

theorem Shows.getArrayMut (h : space.Shows versions)
    (hvalid : Valid space leak) {τ : ι} {id : Index}
    (access : ArrayAccess (Ty τ))
    (htype : ∀ array, space.arrayAt id = some array → array.typeId = τ) :
    (space.getArrayMut τ id access).Ensures fun r =>
      Valid r.2 leak ∧ r.1 = (versions.head.getArrayMut τ id access).1 ∧
        r.2.Shows { versions with
          head := (versions.head.getArrayMut τ id access).2 } := by
  obtain ⟨snapshot, hhead, hcollected, hdenotes⟩ := h.head
  obtain ⟨hdense, hdense'⟩ := Snapshot.collected_eq_iff.1 hcollected
  apply (getArrayMut_spec hvalid access htype).imp
  rintro ⟨result, space'⟩ ⟨snapshot', hhead', hcases⟩
  rw [hhead] at hhead'
  cases hhead'
  have hat := arrayAt_eq hhead id
  unfold Heap.getArrayMut
  rcases hcases with ⟨harray, hresult, hedits, hkept⟩ |
      ⟨inst, inst', content, value, harray, hshows, hresult, hedits, hshows',
        hkept⟩
  · rw [harray] at hat
    rw [Denotes.array_eq_none hdenotes τ hat.symm]
    refine ⟨hedits.valid, hresult, ?_⟩
    exact h.edits hedits (hkept (0 + storedRefs space.snapshots + 0))
      hcollected (hdenotes.kept (hkept (snapshotRefs snapshot + 0)))
  · rw [harray] at hat
    obtain ⟨x, hx, hdenoted⟩ := Denotes.array_eq hdenotes hat.symm
    rw [hx]
    dsimp only at hresult hedits hshows' hkept ⊢
    -- the array of the heap is the one that the specification speaks about
    obtain ⟨rfl, hagree⟩ := hshows.agree hdenoted
    obtain ⟨hsame, hagree'⟩ := access.apply_agree hagree x.value
    refine ⟨hedits.valid, by rw [hresult, hsame], ?_⟩
    have hkept' := hkept
    rw [add_assoc] at hkept'
    apply h.edits hedits hkept
    · refine Snapshot.collected_eq_iff.2 ⟨hdense, hdense'.set _ _ ?_⟩
      rw [← hat]
      exact Option.some_ne_none _
    · constructor
      · apply hdenotes.objects.imp
        intro j ptr _ hget hobject
        apply hobject.kept hkept'
        have hmem : ptr ∈ Arena.values (snapshot.withInstances
            (Arena.remove id snapshot.instances).2).tablePtrs :=
          Arena.mem_values.2 ⟨j, hget⟩
        exact snapshotRefs_ptr_pos hmem _
      · refine hdenotes.arrays.set hat.symm ?_
          ⟨_, rfl, hshows'.congr hagree'⟩
        intro j array _ hj hget hdenotes'
        apply hdenotes'.kept hkept'
        intro q hq
        apply snapshotRefs_array_pos (Arena.mem_values.2 ⟨j, ?_⟩) _ hq
        exact (LawfulArena.get_remove_ne _ _ _ hj).trans hget

omit [Build] in
/-- Reading an object returns what the heap has. -/
theorem Shows.get (h : space.Shows versions) (hvalid : Valid space leak)
    {τ : ι} {id : Index}
    (htype : ∀ ptr, space.ptrAt id = some ptr → ptr.typeId = τ) :
    (space.get τ id).result = .ok (versions.head.get τ id) := by
  obtain ⟨snapshot, hhead, _, hdenotes⟩ := h.head
  have hat := ptrAt_eq hhead id
  unfold Heap.get
  cases hptr : space.ptrAt id with
  | none =>
      rw [hptr] at hat
      rw [get_none hvalid hptr, Denotes.object_eq_none hdenotes τ hat.symm]
  | some ptr =>
      obtain ⟨p, τ'⟩ := ptr
      cases htype _ hptr
      obtain ⟨x, hx⟩ := hvalid.item_of_ptrAt hptr
      rw [hptr] at hat
      rw [get_some hvalid hptr hx, Denotes.object_eq hdenotes hat.symm hx]

theorem Shows.getArray (h : space.Shows versions) (hvalid : Valid space leak)
    {τ : ι} {id : Index} (access : ReadAccess (Ty τ))
    (htype : ∀ array, space.arrayAt id = some array → array.typeId = τ) :
    (space.getArray τ id access).result
      = .ok (versions.head.getArray τ id access) := by
  obtain ⟨snapshot, hhead, _, hdenotes⟩ := h.head
  have hat := arrayAt_eq hhead id
  unfold Heap.getArray
  cases harray : space.arrayAt id with
  | none =>
      rw [harray] at hat
      rw [getArray_none hvalid access harray,
        Denotes.array_eq_none hdenotes τ hat.symm]
  | some array =>
      obtain ⟨inst, τ'⟩ := array
      cases htype _ harray
      obtain ⟨content, value, hshows, hsize⟩ := hvalid.shows_of_arrayAt harray
      rw [harray] at hat
      obtain ⟨x, hx, hdenoted⟩ := Denotes.array_eq hdenotes hat.symm
      obtain ⟨_, hagree⟩ := hshows.agree hdenoted
      rw [getArray_some hvalid access harray hdenoted (hagree.size ▸ hsize), hx]

/-! ## Snapshots -/

/-- The snapshot that is made is of HEAD, under a name that is not in use. -/
theorem Shows.makeSnapshot (h : space.Shows versions)
    (hvalid : Valid space leak) :
    space.makeSnapshot.Ensures fun r =>
      Valid r.2 (headRefs space.head + leak) ∧ versions.saved r.1 = none ∧
        r.2.Shows { versions with
          saved := Function.update versions.saved r.1
            (some versions.head) } := by
  obtain ⟨snapshot, hhead, hcollected, hdenotes⟩ := h.head
  apply (makeSnapshot_spec hvalid).imp
  rintro ⟨id, space'⟩ ⟨snapshot', hhead', hid, hcheckout, hsnapshots, hvalid',
    hkept⟩
  rw [hhead] at hhead'
  cases hhead'
  rw [hcollected] at hid hsnapshots
  dsimp only at hid hcheckout hsnapshots hvalid' hkept ⊢
  have hfresh := LawfulArena.insert_fresh snapshot space.snapshots
  have hself := LawfulArena.get_insert_self snapshot space.snapshots
  rw [← hid] at hfresh hself
  rw [← hsnapshots] at hself
  have hnone := h.saved id
  rw [hfresh] at hnone
  have hdenotes' := hdenotes.kept (hkept (snapshotRefs snapshot + 0))
  refine ⟨hvalid', rel_none_left hnone, ?_⟩
  constructor
  · refine ⟨snapshot, ?_, hcollected, hdenotes'⟩
    unfold SpaceTime.headSnapshot
    rw [hcheckout]
    exact hself
  · intro j
    dsimp only
    by_cases hj : j = id
    · rw [hj, hself, Function.update_self]
      exact .some hdenotes'
    · have hne : j ≠ (Arena.insert snapshot space.snapshots).1 := by
        rw [← hid]
        exact hj
      rw [hsnapshots, LawfulArena.get_insert_ne _ _ _ hne,
        Function.update_of_ne hj]
      exact rel_imp (h.saved j) fun stored heap _ hstored =>
        hstored.kept (hkept (snapshotRefs stored + 0))

omit [DecidableEq ι] [SequentialArena A] [Build] in
theorem Shows.contains (h : space.Shows versions) (id : Index) :
    space.contains id = (versions.saved id).isSome := by
  unfold SpaceTime.contains
  have hid := h.saved id
  cases hsaved : versions.saved id with
  | none =>
      rw [hsaved] at hid
      rw [rel_none_right hid]
      rfl
  | some heap =>
      rw [hsaved] at hid
      obtain ⟨stored, hstored, _⟩ := rel_some_right hid
      rw [hstored]
      rfl

/-- What HEAD shows stays in HEAD, whichever snapshot is dropped. -/
theorem Shows.dropSnapshot (h : space.Shows versions)
    (hvalid : Valid space leak) (id : Index) :
    (space.dropSnapshot id).Ensures fun r =>
      (∃ leak' : Refs ι, Valid r.2 (leak' + leak)) ∧
        r.1 = (if space.contains id then .ok () else .error {}) ∧
        r.2.Shows { versions with
          saved := Function.update versions.saved id none } := by
  obtain ⟨snapshot, hhead, hcollected, hdenotes⟩ := h.head
  apply (dropSnapshot_spec hvalid id).imp
  rintro ⟨result, space'⟩ ⟨hresult, hsnapshots, hhead', leak', _, hvalid',
    hkept⟩
  dsimp only at hresult hsnapshots hhead' hvalid' hkept ⊢
  rw [hhead] at hhead'
  refine ⟨⟨leak', hvalid'⟩, hresult, ?_⟩
  constructor
  · refine ⟨snapshot, hhead', hcollected, ?_⟩
    obtain ⟨rest, hrest⟩ := refs_of_headSnapshot hhead'
    rw [hrest, add_assoc] at hkept
    exact hdenotes.kept hkept
  · intro j
    dsimp only
    by_cases hj : j = id
    · rw [hj, hsnapshots, LawfulArena.get_remove_self, Function.update_self]
      exact .none
    · have hget : Arena.get j space'.snapshots
          = Arena.get j space.snapshots := by
        rw [hsnapshots, LawfulArena.get_remove_ne _ _ _ hj]
      rw [hget, Function.update_of_ne hj]
      refine rel_imp (h.saved j) fun stored heap hstored hdenotes' => ?_
      have hkept' := kept_stored (hget.trans hstored) hkept
      rw [← add_zero (snapshotRefs stored)] at hkept'
      exact hdenotes'.kept hkept'

/-- HEAD shows what was saved, and a dirty HEAD is given up. -/
theorem Shows.checkout (h : space.Shows versions)
    (hvalid : Valid space leak) (id : Index) :
    (space.checkout id).Ensures fun r =>
      (∃ leak' : Refs ι, Valid r.2 (leak' + leak)) ∧
        r.1 = (if space.contains id then .ok () else .error {}) ∧
        r.2.Shows { versions with
          head := (versions.saved id).getD versions.head } := by
  apply (checkout_spec hvalid id).imp
  rintro ⟨result, space'⟩ ⟨hresult, hsnapshots, hhead', leak', _, hvalid',
    hkept⟩
  dsimp only at hresult hsnapshots hhead' hvalid' hkept ⊢
  refine ⟨⟨leak', hvalid'⟩, hresult, ?_⟩
  have hsaved : ∀ j, Option.Rel
      (fun snapshot heap => snapshot.Denotes space'.storage heap)
      (Arena.get j space'.snapshots) (versions.saved j) := by
    intro j
    rw [hsnapshots]
    refine rel_imp (h.saved j) fun stored heap hstored hdenotes => ?_
    have hkept' := kept_stored (hsnapshots ▸ hstored) hkept
    rw [← add_zero (snapshotRefs stored)] at hkept'
    exact hdenotes.kept hkept'
  refine ⟨?_, hsaved⟩
  have hid := hsaved id
  rw [h.contains id] at hhead'
  cases hversion : versions.saved id with
  | none =>
      rw [hversion] at hhead'
      obtain ⟨snapshot, hhead, hcollected, hdenotes⟩ := h.head
      have hsame : space'.headSnapshot = some snapshot := by
        unfold SpaceTime.headSnapshot at hhead ⊢
        rw [hhead', hsnapshots]
        exact hhead
      refine ⟨snapshot, hsame, hcollected, ?_⟩
      obtain ⟨rest, hrest⟩ := refs_of_headSnapshot hsame
      rw [hrest, add_assoc] at hkept
      exact hdenotes.kept hkept
  | some heap =>
      rw [hversion] at hid hhead'
      obtain ⟨stored, hstored, hdenotes⟩ := rel_some_right hid
      have hsame : space'.headSnapshot = some stored := by
        unfold SpaceTime.headSnapshot
        rw [hhead']
        exact hstored
      exact ⟨stored, hsame, hvalid'.collected stored
        (Arena.mem_values.2 ⟨id, hstored⟩), hdenotes⟩

end SpaceTime

/-! ## Runs -/

variable {space space' : SpaceTime A Ty} {versions : Versions Ty}

section Step

variable [SequentialArena A] [Build] {leak : Refs ι}

/-- Each call does what it does to the heap and its saved versions. -/
theorem Versions.simulates (h : space.Shows versions)
    (hvalid : space.Valid leak) {op : Operation Ty} (htyped : op.Typed space)
    (hremoves : ¬ op.Removes) :
    (op.run space).Ensures fun r =>
      (∃ leak' : Refs ι, r.2.Valid (leak' + leak)) ∧
        ∃ versions', Versions.Step versions op r.1 versions' ∧
          r.2.Shows versions' := by
  have hzero : ∀ {space' : SpaceTime A Ty}, space'.Valid leak →
      ∃ leak' : Refs ι, space'.Valid (leak' + leak) := by
    intro space' hvalid'
    refine ⟨0, ?_⟩
    rw [zero_add]
    exact hvalid'
  cases op with
  | insert τ object =>
      apply Ensures.bind (h.insert hvalid τ object)
      rintro ⟨id, space'⟩ ⟨hvalid', rfl, hshows⟩
      exact Ensures.pure ⟨hzero hvalid', _, .change True.intro, hshows⟩
  | insertArray τ object n =>
      apply Ensures.bind (h.insertArray hvalid τ object n)
      rintro ⟨id, space'⟩ ⟨hvalid', rfl, hshows⟩
      exact Ensures.pure ⟨hzero hvalid', _, .change True.intro, hshows⟩
  | getMut τ id f =>
      apply Ensures.bind (h.getMut hvalid f htyped)
      rintro ⟨result, space'⟩ ⟨hvalid', rfl, hshows⟩
      exact Ensures.pure ⟨hzero hvalid', _, .change True.intro, hshows⟩
  | getArrayMut τ id access =>
      apply Ensures.bind (h.getArrayMut hvalid access htyped)
      rintro ⟨result, space'⟩ ⟨hvalid', rfl, hshows⟩
      exact Ensures.pure ⟨hzero hvalid', _, .change True.intro, hshows⟩
  | makeSnapshot =>
      apply Ensures.bind (h.makeSnapshot hvalid)
      rintro ⟨id, space'⟩ ⟨hvalid', hfresh, hshows⟩
      exact Ensures.pure ⟨⟨_, hvalid'⟩, _, .save hfresh, hshows⟩
  | dropSnapshot id =>
      apply Ensures.bind (h.dropSnapshot hvalid id)
      rintro ⟨result, space'⟩ ⟨hvalid', hresult, hshows⟩
      dsimp only at hvalid' hresult hshows
      rw [h.contains id] at hresult
      cases hsaved : versions.saved id with
      | none =>
          rw [hsaved] at hresult
          rw [hresult]
          refine Ensures.pure ⟨hvalid', _, .noForget hsaved, ?_⟩
          rw [← hsaved, Function.update_eq_self] at hshows
          exact hshows
      | some heap =>
          rw [hsaved] at hresult
          rw [hresult]
          exact Ensures.pure ⟨hvalid', _, .forget hsaved, hshows⟩
  | checkout id =>
      apply Ensures.bind (h.checkout hvalid id)
      rintro ⟨result, space'⟩ ⟨hvalid', hresult, hshows⟩
      dsimp only at hvalid' hresult hshows
      rw [h.contains id] at hresult
      cases hsaved : versions.saved id with
      | none =>
          rw [hsaved] at hresult hshows
          rw [hresult]
          exact Ensures.pure ⟨hvalid', _, .noRestore hsaved, hshows⟩
      | some heap =>
          rw [hsaved] at hresult hshows
          rw [hresult]
          exact Ensures.pure ⟨hvalid', _, .restore hsaved, hshows⟩
  | remove τ id => exact absurd True.intro hremoves
  | removeArray τ id => exact absurd True.intro hremoves
  | pop τ id => exact absurd True.intro hremoves

end Step

/-- The calls of a run from the new space time, with what they returned: ids
are used at their types, no limit is exceeded, and nothing is removed. -/
inductive SpaceTime.Calls [Build] : List (Operation Ty × Reply Ty) →
    SpaceTime A Ty → Prop where
  | new : Calls [] SpaceTime.new
  | snoc {calls : List (Operation Ty × Reply Ty)}
      {space space' : SpaceTime A Ty} {op : Operation Ty} {reply : Reply Ty}
      (before : Calls calls space) (htyped : op.Typed space)
      (hwithin : op.Within space) (hremoves : ¬ op.Removes)
      (hrun : (op.run space).result = .ok (reply, space')) :
      Calls (calls ++ [(op, reply)]) space'

variable [SequentialArena A] [Build]
  {calls : List (Operation Ty × Reply Ty)}

theorem SpaceTime.Calls.run (h : SpaceTime.Calls calls space) :
    ∃ (versions : Versions Ty) (leak : Refs ι),
      Versions.Run .empty calls versions ∧ space.Valid leak ∧
        space.Shows versions := by
  induction h with
  | new =>
      exact ⟨.empty, 0, .nil _, SpaceTime.valid_new, SpaceTime.shows_new⟩
  | snoc _ htyped hwithin hremoves hrun ih =>
      obtain ⟨versions, leak, hsteps, hvalid, hshows⟩ := ih
      obtain ⟨⟨leak', hvalid'⟩, versions', hstep, hshows'⟩ :=
        (Versions.simulates hshows hvalid htyped hremoves).of_ok hwithin hrun
      exact ⟨versions', _, hsteps.snoc hstep, hvalid', hshows'⟩

/-- Every run is a run of the heap with its saved versions.  Call by call both
return the same, and so do all accesses afterwards that only read. -/
theorem SpaceTime.Calls.refines_heap (h : SpaceTime.Calls calls space) :
    ∃ versions : Versions Ty, Versions.Run .empty calls versions ∧
      (∀ id, space.contains id = (versions.saved id).isSome) ∧
      (∀ (τ : ι) (id : Index),
        (∀ ptr, space.ptrAt id = some ptr → ptr.typeId = τ) →
          (space.get τ id).result = .ok (versions.head.get τ id)) ∧
      ∀ (τ : ι) (id : Index) (access : ReadAccess (Ty τ)),
        (∀ array, space.arrayAt id = some array → array.typeId = τ) →
          (space.getArray τ id access).result
            = .ok (versions.head.getArray τ id access) := by
  obtain ⟨versions, leak, hrun, hvalid, hshows⟩ := h.run
  exact ⟨versions, hrun, fun id => hshows.contains id,
    fun _ _ htype => hshows.get hvalid htype,
    fun _ _ access htype => hshows.getArray hvalid access htype⟩

omit [Build] in
/-- An object is changed after a snapshot, which is checked out again. -/
theorem SpaceTime.Calls.refines_heap_copy :
    ∃ versions : Versions fun _ : Unit => Bool,
      Versions.Run .empty
        [(.insert () true, .id ⟨0, 0⟩), (.makeSnapshot, .id ⟨0, 0⟩),
          (.getMut () ⟨0, 0⟩ not, .done true),
          (.checkout ⟨0, 0⟩, .done true)] versions ∧
        versions.head.get () ⟨0, 0⟩ = .ok true := by
  have hnew := @SpaceTime.Calls.new Unit GenArena _ (fun _ => Bool) _
    Build.debug
  have hinsert := @SpaceTime.Calls.snoc _ _ _ _ _ Build.debug _ _ _
    (.insert () true) _ hnew True.intro rfl nofun rfl
  have hsave := @SpaceTime.Calls.snoc _ _ _ _ _ Build.debug _ _ _
    .makeSnapshot _ hinsert True.intro rfl nofun rfl
  have hchange := @SpaceTime.Calls.snoc _ _ _ _ _ Build.debug _ _ _
    (.getMut () ⟨0, 0⟩ not) _ hsave (fun _ _ => rfl) rfl nofun rfl
  have hrestore := @SpaceTime.Calls.snoc _ _ _ _ _ Build.debug _ _ _
    (.checkout ⟨0, 0⟩) _ hchange True.intro rfl nofun rfl
  obtain ⟨versions, hrun, _, hget, _⟩ :=
    @SpaceTime.Calls.refines_heap _ _ _ _ _ _ _ Build.debug _ hrestore
  refine ⟨versions, hrun, ?_⟩
  have hread := hget () ⟨0, 0⟩ fun _ _ => rfl
  exact (Except.ok.inj hread).symm

end RedPlanet.SpaceTime
