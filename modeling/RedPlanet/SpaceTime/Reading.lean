import RedPlanet.SpaceTime.Snapshots

/-!
# Reading

Reading meets no limits: nothing is counted, and no room is needed.  What
`get` and an accessor return is what the entry of HEAD denotes.

The specifications of `SpaceTime.Elements` are about computations that may
stop at a limit; the functions that only read are shown not to, one by one in
the order in which they call one another, and `getArray_some` and
`getArray_none` are the results for the accessor.
-/

set_option linter.dupNamespace false

namespace RedPlanet.SpaceTime

open RedPlanet.Core RedPlanet.Verified Limited

variable {ι : Type} [DecidableEq ι] {A : Type → Type} [Arena A]
  {Ty : ι → Type} {T α : Type}

/-! ## No limits -/

section Build

variable [Build] {layers : ℕ}

omit [Build] in
theorem Table.getItem_unlimited (t : Table α) (ptr : TablePtr) :
    (t.getItem ptr).Unlimited :=
  (Unlimited.unwrap _).bind fun _ => Unlimited.ite (Unlimited.unwrap _)
    Unlimited.panic

omit [Build] in
theorem divU64_unlimited (a b : ℕ) : (divU64 a b).Unlimited :=
  Unlimited.ite Unlimited.panic (Unlimited.pure _)

omit [Build] in
theorem divCeilU64_unlimited (a b : ℕ) : (divCeilU64 a b).Unlimited :=
  Unlimited.ite Unlimited.panic (Unlimited.pure _)

theorem mulU64_unlimited (a b : ℕ) : (mulU64 a b).Unlimited :=
  Unlimited.ite (Unlimited.pure _)
    (Unlimited.ite Unlimited.panic (Unlimited.pure _))

theorem subU64_unlimited (a b : ℕ) : (subU64 a b).Unlimited :=
  Unlimited.ite (Unlimited.pure _)
    (Unlimited.ite Unlimited.panic (Unlimited.pure _))

theorem powU64_unlimited (a b : ℕ) : (powU64 a b).Unlimited :=
  Unlimited.ite (Unlimited.pure _)
    (Unlimited.ite Unlimited.panic (Unlimited.pure _))

omit [Build] in
theorem slice_unlimited (buf : List α) (start stop : ℕ) :
    (slice buf start stop).Unlimited :=
  Unlimited.ite (Unlimited.pure _) Unlimited.panic

theorem spans_unlimited (divisor index len : ℕ) :
    (spans divisor index len).Unlimited := by
  apply (divU64_unlimited _ _).bind
  intro firstPage
  apply (divCeilU64_unlimited _ _).bind
  intro lastPage
  apply Unlimited.mapM
  intro i
  apply (mulU64_unlimited _ _).bind
  intro low
  apply (mulU64_unlimited _ _).bind
  intro high
  exact (subU64_unlimited _ _).bind fun _ => Unlimited.pure _

theorem ranges_unlimited (divisor index len : ℕ) :
    (ranges divisor index len).Unlimited := by
  apply (divU64_unlimited _ _).bind
  intro firstPage
  apply (divCeilU64_unlimited _ _).bind
  intro lastPage
  apply Unlimited.mapM
  intro i
  apply (mulU64_unlimited _ _).bind
  intro low
  apply (subU64_unlimited _ _).bind
  intro left
  exact (subU64_unlimited _ _).bind fun _ => Unlimited.pure _

omit [Build] in
theorem readSpans_unlimited {read : List T → TablePtr → ℕ → Limited (List T)}
    (hread : ∀ part ptr index, (read part ptr index).Unlimited)
    (tables : List TablePtr) (list : List Span) (buf : List T) :
    (readSpans read tables list buf).Unlimited := by
  induction list generalizing buf with
  | nil => exact Unlimited.pure _
  | cons span rest ih =>
      apply (slice_unlimited _ _ _).bind
      intro part
      apply (Unlimited.unwrap _).bind
      intro ptr
      exact (hread _ _ _).bind fun _ => ih _

omit [Build] in
theorem iterSpans_unlimited {iter : TablePtr → ℕ → ℕ → Limited (List T)}
    (hiter : ∀ ptr index len, (iter ptr index len).Unlimited)
    (tables : List TablePtr) (list : List Span) :
    (iterSpans iter tables list).Unlimited := by
  induction list with
  | nil => exact Unlimited.pure _
  | cons span rest ih =>
      apply (Unlimited.unwrap _).bind
      intro ptr
      apply (hiter _ _ _).bind
      intro items
      exact ih.bind fun _ => Unlimited.pure _

namespace ArrayStorage

theorem getImpl_unlimited (storage : ArrayStorage T layers) (ptr : TablePtr)
    (index divisor : ℕ) : (storage.getImpl ptr index divisor).Unlimited := by
  induction storage generalizing ptr index divisor with
  | data t =>
      apply (Unlimited.assert _).bind
      intro _
      exact (t.getItem_unlimited ptr).bind fun _ => Unlimited.unwrap _
  | pages t next ih =>
      apply (t.getItem_unlimited ptr).bind
      intro page
      apply (divU64_unlimited _ _).bind
      intro i
      exact (Unlimited.unwrap _).bind fun _ => ih _ _ _

theorem readImpl_unlimited (storage : ArrayStorage T layers) (buf : List T)
    (ptr : TablePtr) (index divisor : ℕ) :
    (storage.readImpl buf ptr index divisor).Unlimited := by
  induction storage generalizing buf ptr index divisor with
  | data t =>
      apply (Unlimited.assert _).bind
      intro _
      apply (Unlimited.assert _).bind
      intro _
      exact (t.getItem_unlimited ptr).bind fun _ => slice_unlimited _ _ _
  | pages t next ih =>
      apply (spans_unlimited _ _ _).bind
      intro list
      apply (t.getItem_unlimited ptr).bind
      intro tables
      exact readSpans_unlimited (fun _ _ _ => ih _ _ _ _) _ _ _

theorem iterRangeImpl_unlimited (storage : ArrayStorage T layers)
    (ptr : TablePtr) (index len divisor : ℕ) :
    (storage.iterRangeImpl ptr index len divisor).Unlimited := by
  induction storage generalizing ptr index len divisor with
  | data t =>
      apply (Unlimited.assert _).bind
      intro _
      apply (Unlimited.assert _).bind
      intro _
      exact (t.getItem_unlimited ptr).bind fun _ => slice_unlimited _ _ _
  | pages t next ih =>
      apply (ranges_unlimited _ _ _).bind
      intro list
      apply (t.getItem_unlimited ptr).bind
      intro tables
      exact iterSpans_unlimited (fun _ _ _ => ih _ _ _ _) _ _

end ArrayStorage

theorem itemsPerTopLevelPage_unlimited (layers : ℕ) :
    (ArrayStorage.itemsPerTopLevelPage layers).Unlimited :=
  powU64_unlimited _ _

namespace Instance

theorem get_unlimited (storage : ArrayStorage T layers) (array : Instance)
    (index : ℕ) : (array.get storage index).Unlimited := by
  apply Unlimited.ite (Unlimited.pure _)
  apply (itemsPerTopLevelPage_unlimited layers).bind
  intro items
  apply (divU64_unlimited _ _).bind
  intro page
  apply (Unlimited.unwrap _).bind
  intro ptr
  apply Unlimited.bind _ fun _ => Unlimited.pure _
  exact (itemsPerTopLevelPage_unlimited layers).bind fun _ =>
    storage.getImpl_unlimited _ _ _

theorem read_unlimited (storage : ArrayStorage T layers) (array : Instance)
    (buf : List T) (index : ℕ) :
    (array.read storage buf index).Unlimited := by
  apply Unlimited.ite (Unlimited.pure _)
  apply (itemsPerTopLevelPage_unlimited layers).bind
  intro items
  apply (spans_unlimited _ _ _).bind
  intro list
  apply Unlimited.bind _ fun _ => Unlimited.pure _
  apply readSpans_unlimited
  intro part ptr index
  exact (itemsPerTopLevelPage_unlimited layers).bind fun _ =>
    storage.readImpl_unlimited _ _ _ _

theorem iterRange_unlimited (storage : ArrayStorage T layers)
    (array : Instance) (start len : ℕ) :
    (array.iterRange storage start len).Unlimited := by
  apply Unlimited.ite (Unlimited.pure _)
  apply (itemsPerTopLevelPage_unlimited layers).bind
  intro items
  apply (ranges_unlimited _ _ _).bind
  intro list
  apply Unlimited.bind _ fun _ => Unlimited.pure _
  apply iterSpans_unlimited
  intro ptr index len
  exact (itemsPerTopLevelPage_unlimited layers).bind fun _ =>
    storage.iterRangeImpl_unlimited _ _ _ _

end Instance

theorem ReadAccess.run_unlimited (access : ReadAccess T)
    (storage : DefaultStorage T) (array : Instance) :
    (access.run storage array).Unlimited := by
  cases access with
  | get index =>
      exact (array.get_unlimited storage _).bind fun _ => Unlimited.pure _
  | read buf index =>
      exact (array.read_unlimited storage _ _).bind fun _ => Unlimited.pure _
  | iterRange start len => exact array.iterRange_unlimited storage _ _

namespace SpaceTime

omit [Build] [DecidableEq ι] in
theorem getHead_unlimited (space : SpaceTime A Ty) : space.getHead.Unlimited := by
  unfold getHead
  cases space.head with
  | dirty snapshot => exact Unlimited.pure _
  | checkout snapshotId => exact Unlimited.unwrap _

omit [Build] [DecidableEq ι] in
theorem get_unlimited (space : SpaceTime A Ty) (τ : ι) (id : Index) :
    (space.get τ id).Unlimited := by
  apply space.getHead_unlimited.bind
  intro snapshot
  cases Arena.get id snapshot.tablePtrs with
  | none => exact Unlimited.pure _
  | some ptr =>
      apply (Unlimited.unwrap _).bind
      intro t
      exact (t.getItem_unlimited _).bind fun _ => Unlimited.pure _

omit [DecidableEq ι] in
theorem getArray_unlimited (space : SpaceTime A Ty) (τ : ι) (id : Index)
    (access : ReadAccess (Ty τ)) : (space.getArray τ id access).Unlimited := by
  apply space.getHead_unlimited.bind
  intro snapshot
  cases Arena.get id snapshot.instances with
  | none => exact Unlimited.pure _
  | some array =>
      apply (Unlimited.unwrap _).bind
      intro s
      exact (access.run_unlimited _ _).bind fun _ => Unlimited.pure _

/-! ## What is read -/

variable [LawfulArena A] {space : SpaceTime A Ty} {leak : Refs ι}
  {τ : ι} {id : Index}

omit [Build] in
theorem Valid.ptr_held (h : Valid space leak) {ptr : TypedTablePtr ι}
    (hptr : space.ptrAt id = some ptr) :
    0 < (space.refs + leak).1 ptr.typeId ptr.tablePtr := by
  obtain ⟨snapshot, hsnapshot⟩ := h.headSnapshot
  obtain ⟨rest, hrest⟩ := refs_of_headSnapshot hsnapshot
  have hget : Arena.get id snapshot.tablePtrs = some ptr := by
    rw [← ptrAt_eq hsnapshot]
    exact hptr
  rw [hrest, add_assoc]
  exact snapshotRefs_ptr_pos (Arena.mem_values.2 ⟨id, hget⟩) _

omit [Build] in
/-- An entry of HEAD denotes an object. -/
theorem Valid.item_of_ptrAt (h : Valid space leak) {p : TablePtr}
    (hptr : space.ptrAt id = some ⟨p, τ⟩) :
    ∃ x, (space.storage.table τ).item p = some x :=
  (h.held.objects τ).item_of_pos (h.ptr_held hptr)

omit [Build] in
theorem get_some (h : Valid space leak) {p : TablePtr} {x : Ty τ}
    (hptr : space.ptrAt id = some ⟨p, τ⟩)
    (hx : (space.storage.table τ).item p = some x) :
    (space.get τ id).result = .ok (.ok x) := by
  obtain ⟨snapshot, hsnapshot⟩ := h.headSnapshot
  have hget : Arena.get id snapshot.tablePtrs = some ⟨p, τ⟩ := by
    rw [← ptrAt_eq hsnapshot]
    exact hptr
  have hspec : (space.get τ id).Ensures fun r => r = .ok x := by
    unfold SpaceTime.get
    rw [getHead_spec hsnapshot, pure_bind, hget]
    dsimp only
    apply Ensures.bind (Ensures.unwrap (h.held.tables_of_pos (h.ptr_held hptr)))
    intro t ht
    subst ht
    apply Ensures.bind (Table.getItem_spec (h.held.objects τ).wf
      (Table.refs_of_item hx).1)
    intro y hy
    rw [hx] at hy
    cases hy
    exact Ensures.pure rfl
  obtain ⟨r, hresult, hr⟩ := (space.get_unlimited τ id).ok_of_ensures hspec
  rw [hresult, hr]

omit [Build] [LawfulArena A] in
theorem get_none (h : Valid space leak) (hptr : space.ptrAt id = none) :
    (space.get τ id).result = .ok (.error {}) := by
  obtain ⟨snapshot, hsnapshot⟩ := h.headSnapshot
  have hget : Arena.get id snapshot.tablePtrs = none := by
    rw [← ptrAt_eq hsnapshot]
    exact hptr
  unfold SpaceTime.get
  rw [getHead_spec hsnapshot, pure_bind, hget]
  rfl

omit [Build] in
theorem Valid.array_held (h : Valid space leak) {array : TypedInstance ι}
    (harray : space.arrayAt id = some array) :
    ∀ q ∈ array.array.ptrs, 0 < (space.refs + leak).2 array.typeId q := by
  intro q hq
  obtain ⟨snapshot, hsnapshot⟩ := h.headSnapshot
  obtain ⟨rest, hrest⟩ := refs_of_headSnapshot hsnapshot
  have hget : Arena.get id snapshot.instances = some array := by
    rw [← arrayAt_eq hsnapshot]
    exact harray
  rw [hrest, add_assoc]
  exact snapshotRefs_array_pos (Arena.mem_values.2 ⟨id, hget⟩) _ hq

omit [Build] in
/-- An array entry of HEAD denotes an array. -/
theorem Valid.shows_of_arrayAt (h : Valid space leak) {inst : Instance}
    (harray : space.arrayAt id = some ⟨inst, τ⟩) :
    ∃ (content : Flat (Ty τ)) (value : Ty τ),
      Represents (space.storage.arrays τ) inst content value ∧
        content.size < 2 ^ 64 := by
  obtain ⟨snapshot, hsnapshot⟩ := h.headSnapshot
  have hget : Arena.get id snapshot.instances = some ⟨inst, τ⟩ := by
    rw [← arrayAt_eq hsnapshot]
    exact harray
  exact h.shown_headSnapshot hsnapshot _ (Arena.mem_values.2 ⟨id, hget⟩)

theorem getArray_some (h : Valid space leak) {inst : Instance}
    {content : Flat (Ty τ)} {value : Ty τ} (access : ReadAccess (Ty τ))
    (harray : space.arrayAt id = some ⟨inst, τ⟩)
    (hshows : Represents (space.storage.arrays τ) inst content value)
    (hsize : content.size < 2 ^ 64) :
    (space.getArray τ id access).result
      = .ok (.ok (access.apply content)) := by
  obtain ⟨snapshot, hsnapshot⟩ := h.headSnapshot
  have hget : Arena.get id snapshot.instances = some ⟨inst, τ⟩ := by
    rw [← arrayAt_eq hsnapshot]
    exact harray
  have hheld := h.array_held harray
  have hspec : (space.getArray τ id access).Ensures fun r =>
      r = .ok (access.apply content) := by
    unfold getArray
    rw [getHead_spec hsnapshot, pure_bind, hget]
    dsimp only
    have hsome := h.held.arrayStorage_of_pos (hheld _ List.mem_cons_self)
    apply Ensures.bind (Ensures.unwrap hsome)
    intro s hs
    subst hs
    apply Ensures.bind (access.run_spec (h.held.pages τ) hheld hshows hsize)
    intro r hr
    subst hr
    exact Ensures.pure rfl
  obtain ⟨r, hresult, hr⟩ :=
    (space.getArray_unlimited τ id access).ok_of_ensures hspec
  rw [hresult, hr]

omit [LawfulArena A] in
theorem getArray_none (h : Valid space leak) (access : ReadAccess (Ty τ))
    (harray : space.arrayAt id = none) :
    (space.getArray τ id access).result = .ok (.error {}) := by
  obtain ⟨snapshot, hsnapshot⟩ := h.headSnapshot
  have hget : Arena.get id snapshot.instances = none := by
    rw [← arrayAt_eq hsnapshot]
    exact harray
  unfold getArray
  rw [getHead_spec hsnapshot, pure_bind, hget]
  rfl

end SpaceTime

end Build

end RedPlanet.SpaceTime
