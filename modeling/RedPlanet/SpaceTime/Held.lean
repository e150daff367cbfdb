import Mathlib.Algebra.BigOperators.Group.List.Basic
import Mathlib.Algebra.Group.Prod
import Mathlib.Algebra.Group.Pi.Basic
import RedPlanet.SpaceTime.Holders
import RedPlanet.SpaceTime.Instances

/-!
# Snapshots in the storage

`Refs` counts holders: of the objects and of the top level pages of every
type.  `Held storage refs` is the counting invariant of the whole storage.
Cloning and deleting a snapshot add and take away the holders that
`snapshotRefs` counts, and those who are left see no difference (`Kept`).

`cloneSnapshot_spec` and `deleteSnapshot_spec` are the results.  A snapshot is
a list of entries of many types, so that each is an induction on the entries,
with a step on the tables of one type.
-/

namespace RedPlanet.SpaceTime

open RedPlanet.Core RedPlanet.Verified Limited

/-- The holders of the objects, and of the pages, of every type. -/
abbrev Refs (ι : Type) : Type := (ι → TablePtr → ℕ) × (ι → TablePtr → ℕ)

variable {ι : Type} {Ty : ι → Type}

/-- Reference counts are numbers of holders. -/
structure Held (storage : SpaceTimeStorage Ty) (refs : Refs ι) : Prop where
  objects : ∀ τ, (storage.table τ).Counted (refs.1 τ)
  pages : ∀ τ, Owned (storage.arrays τ) (refs.2 τ)

/-- Those who are counted see the same objects and elements. -/
structure Kept (refs : Refs ι) (storage storage' : SpaceTimeStorage Ty) :
    Prop where
  objects : ∀ τ q, 0 < refs.1 τ q →
    (storage'.table τ).item q = (storage.table τ).item q
  pages : ∀ τ, Keeps (refs.2 τ) (storage.arrays τ) (storage'.arrays τ)

namespace Kept

variable {refs : Refs ι} {storage storage' storage'' : SpaceTimeStorage Ty}

theorem refl : Kept refs storage storage where
  objects := fun _ _ _ => rfl
  pages := fun _ => Keeps.refl

theorem trans (h : Kept refs storage storage')
    (h' : Kept refs storage' storage'') : Kept refs storage storage'' where
  objects := fun τ q hq => (h'.objects τ q hq).trans (h.objects τ q hq)
  pages := fun τ => (h.pages τ).trans (h'.pages τ)

/-- Fewer holders. -/
theorem left (extra : Refs ι) (h : Kept (extra + refs) storage storage') :
    Kept refs storage storage' where
  objects := fun τ q hq => h.objects τ q (Nat.add_pos_right _ hq)
  pages := fun τ => (h.pages τ).imp fun _ hq => Nat.add_pos_right _ hq

theorem right (extra : Refs ι) (h : Kept (refs + extra) storage storage') :
    Kept refs storage storage' := by
  rw [add_comm] at h
  exact h.left

end Kept

namespace Held

variable {refs : Refs ι} {storage : SpaceTimeStorage Ty} {τ : ι}

/-- A table that is held from is there. -/
theorem tables_of_pos (h : Held storage refs) {ptr : TablePtr}
    (hpos : 0 < refs.1 τ ptr) :
    storage.tables τ = some (storage.table τ) := by
  have hrefs := (h.objects τ).refs ptr
  unfold SpaceTimeStorage.table at hrefs ⊢
  cases htable : storage.tables τ with
  | some t => rfl
  | none =>
      rw [htable] at hrefs
      have hnew : (Table.new : Table (Ty τ)).refs ptr = 0 := by
        simp [Table.refs, Table.new]
      rw [Option.getD_none, hnew] at hrefs
      omega

theorem arrayStorage_of_pos (h : Held storage refs) {ptr : TablePtr}
    (hpos : 0 < refs.2 τ ptr) :
    storage.arrayStorage τ = some (storage.arrays τ) := by
  have howned := h.pages τ
  unfold SpaceTimeStorage.arrays at howned ⊢
  cases hstorage : storage.arrayStorage τ with
  | some s => rfl
  | none =>
      rw [hstorage] at howned
      have hrefs := howned.1.refs ptr
      have hnew : (Table.new : Table (List TablePtr)).refs ptr = 0 := by
        simp [Table.refs, Table.new]
      rw [hnew] at hrefs
      omega

end Held

variable [DecidableEq ι] {A : Type → Type} [Arena A]

def ptrRefs (ptr : TypedTablePtr ι) : Refs ι :=
  (fun τ => if τ = ptr.typeId then [ptr.tablePtr].count else 0, 0)

def arrayRefs (array : TypedInstance ι) : Refs ι :=
  (0, fun τ => if τ = array.typeId then array.array.ptrs.count else 0)

/-- What is left of an array when its pages are dropped. -/
def resetRefs (array : TypedInstance ι) : Refs ι :=
  (0, fun τ => if τ = array.typeId then [array.array.resetPage].count else 0)

def ptrsRefs (ptrs : List (TypedTablePtr ι)) : Refs ι :=
  (ptrs.map ptrRefs).sum

def arraysRefs (arrays : List (TypedInstance ι)) : Refs ι :=
  (arrays.map arrayRefs).sum

def resetsRefs (arrays : List (TypedInstance ι)) : Refs ι :=
  (arrays.map resetRefs).sum

/-- What the entries of a snapshot hold. -/
def snapshotRefs (snapshot : Snapshot A ι) : Refs ι :=
  ptrsRefs (Arena.values snapshot.tablePtrs)
    + arraysRefs (Arena.values snapshot.instances)

/-! ## Sums of holders -/

@[simp] theorem ptrsRefs_cons (ptr : TypedTablePtr ι)
    (ptrs : List (TypedTablePtr ι)) :
    ptrsRefs (ptr :: ptrs) = ptrRefs ptr + ptrsRefs ptrs := List.sum_cons

@[simp] theorem arraysRefs_cons (array : TypedInstance ι)
    (arrays : List (TypedInstance ι)) :
    arraysRefs (array :: arrays) = arrayRefs array + arraysRefs arrays :=
  List.sum_cons

theorem ptrsRefs_perm {l l' : List (TypedTablePtr ι)} (h : l.Perm l') :
    ptrsRefs l = ptrsRefs l' := (h.map ptrRefs).sum_eq

theorem arraysRefs_perm {l l' : List (TypedInstance ι)} (h : l.Perm l') :
    arraysRefs l = arraysRefs l' := (h.map arrayRefs).sum_eq

theorem ptrRefs_self (ptr : TypedTablePtr ι) (refs : Refs ι) :
    (ptrRefs ptr + refs).1 ptr.typeId
      = holding [ptr.tablePtr] (refs.1 ptr.typeId) := by
  funext q
  simp [ptrRefs, holding]

theorem ptrRefs_ne {ptr : TypedTablePtr ι} {τ : ι} (h : τ ≠ ptr.typeId)
    (refs : Refs ι) : (ptrRefs ptr + refs).1 τ = refs.1 τ := by
  funext q
  simp [ptrRefs, h]

theorem ptrRefs_pages (ptr : TypedTablePtr ι) (refs : Refs ι) :
    (ptrRefs ptr + refs).2 = refs.2 := by
  funext τ q
  simp [ptrRefs]

theorem arrayRefs_self (array : TypedInstance ι) (refs : Refs ι) :
    (arrayRefs array + refs).2 array.typeId
      = holding array.array.ptrs (refs.2 array.typeId) := by
  funext q
  simp [arrayRefs, holding]

theorem arrayRefs_ne {array : TypedInstance ι} {τ : ι}
    (h : τ ≠ array.typeId) (refs : Refs ι) :
    (arrayRefs array + refs).2 τ = refs.2 τ := by
  funext q
  simp [arrayRefs, h]

theorem arrayRefs_objects (array : TypedInstance ι) (refs : Refs ι) :
    (arrayRefs array + refs).1 = refs.1 := by
  funext τ q
  simp [arrayRefs]

theorem resetsRefs_objects (arrays : List (TypedInstance ι)) :
    (resetsRefs arrays).1 = 0 := by
  induction arrays with
  | nil => rfl
  | cons array arrays ih =>
      show (resetRefs array).1 + (resetsRefs arrays).1 = 0
      rw [ih, add_zero]
      rfl

theorem ptrsRefs_pos {ptr : TypedTablePtr ι} {ptrs : List (TypedTablePtr ι)}
    (h : ptr ∈ ptrs) (refs : Refs ι) :
    0 < (ptrsRefs ptrs + refs).1 ptr.typeId ptr.tablePtr := by
  induction ptrs with
  | nil => exact absurd h List.not_mem_nil
  | cons p ptrs ih =>
      rw [ptrsRefs_cons, add_assoc]
      rcases List.mem_cons.1 h with heq | hmem
      · rw [heq, ptrRefs_self]
        exact holding_pos_of_mem List.mem_cons_self _
      · exact Nat.add_pos_right _ (ih hmem)

theorem arraysRefs_pos {array : TypedInstance ι}
    {arrays : List (TypedInstance ι)} (h : array ∈ arrays) (refs : Refs ι)
    {q : TablePtr} (hq : q ∈ array.array.ptrs) :
    0 < (arraysRefs arrays + refs).2 array.typeId q := by
  induction arrays with
  | nil => exact absurd h List.not_mem_nil
  | cons a arrays ih =>
      rw [arraysRefs_cons, add_assoc]
      rcases List.mem_cons.1 h with heq | hmem
      · rw [← heq, arrayRefs_self]
        exact holding_pos_of_mem hq _
      · exact Nat.add_pos_right _ (ih hmem)

theorem snapshotRefs_ptr_pos {snapshot : Snapshot A ι}
    {ptr : TypedTablePtr ι} (h : ptr ∈ Arena.values snapshot.tablePtrs)
    (refs : Refs ι) :
    0 < (snapshotRefs snapshot + refs).1 ptr.typeId ptr.tablePtr := by
  unfold snapshotRefs
  rw [add_assoc]
  exact ptrsRefs_pos h _

theorem snapshotRefs_array_pos {snapshot : Snapshot A ι}
    {array : TypedInstance ι} (h : array ∈ Arena.values snapshot.instances)
    (refs : Refs ι) {q : TablePtr} (hq : q ∈ array.array.ptrs) :
    0 < (snapshotRefs snapshot + refs).2 array.typeId q := by
  unfold snapshotRefs
  rw [add_comm (ptrsRefs _), add_assoc]
  exact arraysRefs_pos h _ hq

/-! ## The tables of a storage -/

namespace SpaceTimeStorage

variable {storage : SpaceTimeStorage Ty} {τ τ' : ι}

@[simp] theorem table_setTable_self (t : Table (Ty τ)) :
    (storage.setTable τ t).table τ = t := by
  simp [table, setTable]

theorem table_setTable_ne (h : τ' ≠ τ) (t : Table (Ty τ)) :
    (storage.setTable τ t).table τ' = storage.table τ' := by
  simp [table, setTable, h]

@[simp] theorem arrays_setTable (t : Table (Ty τ)) :
    (storage.setTable τ t).arrays τ' = storage.arrays τ' := rfl

@[simp] theorem arrays_setArrays_self (s : DefaultStorage (Ty τ)) :
    (storage.setArrays τ s).arrays τ = s := by
  simp [arrays, setArrays]

theorem arrays_setArrays_ne (h : τ' ≠ τ) (s : DefaultStorage (Ty τ)) :
    (storage.setArrays τ s).arrays τ' = storage.arrays τ' := by
  simp [arrays, setArrays, h]

@[simp] theorem table_setArrays (s : DefaultStorage (Ty τ)) :
    (storage.setArrays τ s).table τ' = storage.table τ' := rfl

end SpaceTimeStorage

namespace Held

variable {refs refs' : Refs ι} {storage : SpaceTimeStorage Ty} {τ : ι}

theorem setTable (h : Held storage refs) {t : Table (Ty τ)}
    (ht : t.Counted (refs'.1 τ)) (hne : ∀ τ', τ' ≠ τ → refs'.1 τ' = refs.1 τ')
    (hpages : refs'.2 = refs.2) : Held (storage.setTable τ t) refs' where
  objects := fun τ' => by
    by_cases hτ : τ' = τ
    · subst hτ
      rw [SpaceTimeStorage.table_setTable_self]
      exact ht
    · rw [SpaceTimeStorage.table_setTable_ne hτ, hne τ' hτ]
      exact h.objects τ'
  pages := fun τ' => by
    rw [hpages]
    exact h.pages τ'

theorem setArrays (h : Held storage refs) {s : DefaultStorage (Ty τ)}
    (hs : Owned s (refs'.2 τ)) (hne : ∀ τ', τ' ≠ τ → refs'.2 τ' = refs.2 τ')
    (hobjects : refs'.1 = refs.1) : Held (storage.setArrays τ s) refs' where
  objects := fun τ' => by
    rw [hobjects]
    exact h.objects τ'
  pages := fun τ' => by
    by_cases hτ : τ' = τ
    · subst hτ
      rw [SpaceTimeStorage.arrays_setArrays_self]
      exact hs
    · rw [SpaceTimeStorage.arrays_setArrays_ne hτ, hne τ' hτ]
      exact h.pages τ'

end Held

/-! ## Cloning and deleting -/

/-- The storage is held, and nothing in it has changed. -/
structure Adds (storage storage' : SpaceTimeStorage Ty) (refs : Refs ι) :
    Prop where
  held : Held storage' refs
  kept : ∀ refs' : Refs ι, Kept refs' storage storage'

omit [DecidableEq ι] in
/-- Cloning all entries of a list. -/
theorem mapItems_adds {storage : SpaceTimeStorage Ty} {refs : Refs ι}
    {β : Type} {clone : β → SpaceTimeStorage Ty →
      Limited (β × SpaceTimeStorage Ty)} {count : β → Refs ι}
    {C : Refs ι → β → Prop}
    (hclone : ∀ storage refs x, Held storage refs → C refs x →
      (clone x storage).Ensures fun r =>
        r.1 = x ∧ Adds storage r.2 (count x + refs))
    (hmono : ∀ refs extra x, C refs x → C (extra + refs) x)
    {items : List β} (h : Held storage refs)
    (hitems : ∀ x ∈ items, C refs x) :
    (mapItems clone items storage).Ensures fun r =>
      r.1 = items ∧ Adds storage r.2 ((items.map count).sum + refs) := by
  induction items generalizing storage refs with
  | nil =>
      refine Ensures.pure ⟨rfl, ?_, fun _ => Kept.refl⟩
      rw [List.map_nil, List.sum_nil, zero_add]
      exact h
  | cons x items ih =>
      unfold mapItems
      apply Ensures.bind (hclone storage refs x h (hitems x List.mem_cons_self))
      rintro ⟨x', storage'⟩ ⟨hx, hadds⟩
      apply Ensures.bind (ih hadds.held fun y hy =>
        hmono refs _ y (hitems y (List.mem_cons_of_mem _ hy)))
      rintro ⟨items', storage''⟩ ⟨hitems', hadds'⟩
      apply Ensures.pure
      refine ⟨congrArg₂ List.cons hx hitems', ?_, ?_⟩
      · have hsum : ((x :: items).map count).sum + refs
            = (items.map count).sum + (count x + refs) := by
          rw [List.map_cons, List.sum_cons, add_assoc, add_left_comm]
        rw [hsum]
        exact hadds'.held
      · exact fun refs' => (hadds.kept refs').trans (hadds'.kept refs')

namespace SpaceTimeStorage

variable [Build] {storage : SpaceTimeStorage Ty} {refs : Refs ι}

theorem clonePtr_spec {ptr : TypedTablePtr ι} (h : Held storage refs)
    (hpos : 0 < refs.1 ptr.typeId ptr.tablePtr) :
    (clonePtr ptr storage).Ensures fun r =>
      r.1 = ptr ∧ Adds storage r.2 (ptrRefs ptr + refs) := by
  unfold clonePtr
  apply Ensures.bind (Ensures.unwrap (h.tables_of_pos hpos))
  intro t ht
  subst ht
  apply Ensures.bind ((h.objects ptr.typeId).cloneTablePtr_spec hpos)
  rintro ⟨ptr', t'⟩ ⟨hptr, hcounted, hitem⟩
  dsimp only at hptr hcounted hitem ⊢
  subst hptr
  refine Ensures.pure ⟨rfl, ?_, ?_⟩
  · apply h.setTable
    · rw [ptrRefs_self]
      exact hcounted
    · exact fun τ' hτ' => ptrRefs_ne hτ' refs
    · exact ptrRefs_pages ptr refs
  · intro refs'
    refine ⟨?_, fun τ => Keeps.refl⟩
    intro τ q _
    by_cases hτ : τ = ptr.typeId
    · subst hτ
      rw [table_setTable_self]
      exact hitem q
    · rw [table_setTable_ne hτ]

theorem cloneArray_spec {array : TypedInstance ι} (h : Held storage refs)
    (hpos : ∀ q ∈ array.array.ptrs, 0 < refs.2 array.typeId q) :
    (cloneArray array storage).Ensures fun r =>
      r.1 = array ∧ Adds storage r.2 (arrayRefs array + refs) := by
  unfold cloneArray
  have hsome := h.arrayStorage_of_pos (hpos _ List.mem_cons_self)
  apply Ensures.bind (Ensures.unwrap hsome)
  intro s hs
  subst hs
  apply Ensures.bind (cloneInstance_spec (h.pages array.typeId) hpos)
  rintro ⟨inst, s'⟩ ⟨hinst, howned, hlookup⟩
  dsimp only at hinst howned hlookup ⊢
  subst hinst
  refine Ensures.pure ⟨rfl, ?_, ?_⟩
  · apply h.setArrays
    · rw [arrayRefs_self]
      exact howned
    · exact fun τ' hτ' => arrayRefs_ne hτ' refs
    · exact arrayRefs_objects array refs
  · intro refs'
    refine ⟨fun τ q _ => rfl, ?_⟩
    intro τ
    by_cases hτ : τ = array.typeId
    · subst hτ
      rw [arrays_setArrays_self]
      exact Keeps.of_eq hlookup
    · rw [arrays_setArrays_ne hτ]
      exact Keeps.refl

end SpaceTimeStorage

/-- The snapshot after `clone_snapshot`: its entries are numbered anew. -/
def Snapshot.collected (snapshot : Snapshot A ι) : Snapshot A ι where
  tablePtrs := Arena.collect (Arena.values snapshot.tablePtrs)
  instances := Arena.collect (Arena.values snapshot.instances)

theorem snapshotRefs_collected [LawfulArena A] (snapshot : Snapshot A ι) :
    snapshotRefs snapshot.collected = snapshotRefs snapshot := by
  unfold snapshotRefs Snapshot.collected
  rw [Arena.values_collect, Arena.values_collect]

namespace SpaceTimeStorage

variable [Build] {storage : SpaceTimeStorage Ty} {refs : Refs ι}

theorem clonePtrs_spec {ptrs : List (TypedTablePtr ι)} (h : Held storage refs)
    (hpos : ∀ ptr ∈ ptrs, 0 < refs.1 ptr.typeId ptr.tablePtr) :
    (mapItems clonePtr ptrs storage).Ensures fun r =>
      r.1 = ptrs ∧ Adds storage r.2 (ptrsRefs ptrs + refs) := by
  apply mapItems_adds (C := fun refs ptr => 0 < refs.1 ptr.typeId ptr.tablePtr)
    _ _ h hpos
  · intro storage refs ptr h hpos
    exact clonePtr_spec h hpos
  · intro refs extra ptr hpos
    exact Nat.add_pos_right _ hpos

theorem cloneArrays_spec {arrays : List (TypedInstance ι)}
    (h : Held storage refs) (hpos : ∀ array ∈ arrays,
      ∀ q ∈ array.array.ptrs, 0 < refs.2 array.typeId q) :
    (mapItems cloneArray arrays storage).Ensures fun r =>
      r.1 = arrays ∧ Adds storage r.2 (arraysRefs arrays + refs) := by
  apply mapItems_adds (C := fun refs array =>
    ∀ q ∈ array.array.ptrs, 0 < refs.2 array.typeId q) _ _ h hpos
  · intro storage refs array h hpos
    exact cloneArray_spec h hpos
  · intro refs extra array hpos q hq
    exact Nat.add_pos_right _ (hpos q hq)

theorem cloneSnapshot_spec {snapshot : Snapshot A ι}
    (h : Held storage (snapshotRefs snapshot + refs)) :
    (cloneSnapshot snapshot storage).Ensures fun r =>
      r.1 = snapshot.collected ∧
        Adds storage r.2 (snapshotRefs snapshot
          + (snapshotRefs snapshot + refs)) := by
  unfold cloneSnapshot
  apply Ensures.bind (clonePtrs_spec h fun ptr hptr =>
    snapshotRefs_ptr_pos hptr refs)
  rintro ⟨ptrs, storage'⟩ ⟨hptrs, hadds⟩
  dsimp only at hptrs hadds ⊢
  apply Ensures.bind (cloneArrays_spec hadds.held fun array harray q hq =>
    Nat.add_pos_right _ (snapshotRefs_array_pos harray refs hq))
  rintro ⟨arrays, storage''⟩ ⟨harrays, hadds'⟩
  dsimp only at harrays hadds' ⊢
  subst hptrs harrays
  refine Ensures.pure ⟨rfl, ?_, ?_⟩
  · have hsum : snapshotRefs snapshot + (snapshotRefs snapshot + refs)
        = arraysRefs (Arena.values snapshot.instances)
          + (ptrsRefs (Arena.values snapshot.tablePtrs)
            + (snapshotRefs snapshot + refs)) := by
      rw [← add_assoc (arraysRefs _), add_comm (arraysRefs _)]
      rfl
    rw [hsum]
    exact hadds'.held
  · exact fun refs' => (hadds.kept refs').trans (hadds'.kept refs')

theorem dropPtrs_spec {ptrs : List (TypedTablePtr ι)}
    (h : Held storage (ptrsRefs ptrs + refs)) :
    (dropPtrs ptrs storage).Ensures fun storage' =>
      Held storage' refs ∧ Kept refs storage storage' := by
  induction ptrs generalizing storage with
  | nil =>
      have hzero : ptrsRefs ([] : List (TypedTablePtr ι)) + refs = refs :=
        zero_add refs
      rw [hzero] at h
      exact Ensures.pure ⟨h, Kept.refl⟩
  | cons ptr ptrs ih =>
      have hpos : 0 < (ptrsRefs (ptr :: ptrs) + refs).1 ptr.typeId
          ptr.tablePtr := ptrsRefs_pos List.mem_cons_self refs
      have htable := h.tables_of_pos hpos
      have hcounted := h.objects ptr.typeId
      rw [ptrsRefs_cons, add_assoc] at h hcounted
      rw [ptrRefs_self] at hcounted
      unfold dropPtrs
      apply Ensures.bind (Ensures.unwrap htable)
      intro t ht
      subst ht
      apply Ensures.bind hcounted.dropTablePtr_spec
      rintro t' ⟨hcounted', hkeep⟩
      have hheld : Held (storage.setTable ptr.typeId t')
          (ptrsRefs ptrs + refs) := by
        apply h.setTable hcounted'
        · exact fun τ' hτ' => (ptrRefs_ne hτ' _).symm
        · exact (ptrRefs_pages ptr _).symm
      have hkept : Kept (ptrsRefs ptrs + refs) storage
          (storage.setTable ptr.typeId t') := by
        refine ⟨?_, fun τ => Keeps.refl⟩
        intro τ q hq
        by_cases hτ : τ = ptr.typeId
        · subst hτ
          rw [table_setTable_self]
          exact hkeep q hq
        · rw [table_setTable_ne hτ]
      apply (ih hheld).imp
      rintro storage'' ⟨hheld', hkept'⟩
      exact ⟨hheld', (hkept.left _).trans hkept'⟩

/-- Only the pages are dropped. -/
theorem dropArrays_spec {arrays : List (TypedInstance ι)}
    (h : Held storage (arraysRefs arrays + refs)) :
    (dropArrays arrays storage).Ensures fun storage' =>
      Held storage' (resetsRefs arrays + refs) ∧
        Kept refs storage storage' := by
  induction arrays generalizing storage refs with
  | nil => exact Ensures.pure ⟨h, Kept.refl⟩
  | cons array arrays ih =>
      have hpos : 0 < (arraysRefs (array :: arrays) + refs).2 array.typeId
          array.array.resetPage :=
        arraysRefs_pos List.mem_cons_self refs List.mem_cons_self
      have hstorage := h.arrayStorage_of_pos hpos
      have howned := h.pages array.typeId
      rw [arraysRefs_cons, add_assoc] at h howned
      rw [arrayRefs_self, holding_ptrs] at howned
      have hreset : ∀ refs : Refs ι, holding [array.array.resetPage]
          (refs.2 array.typeId) = (resetRefs array + refs).2 array.typeId := by
        intro refs
        funext q
        simp [resetRefs, holding]
      have hreset' : ∀ (refs : Refs ι) (τ : ι), τ ≠ array.typeId →
          (resetRefs array + refs).2 τ = refs.2 τ := by
        intro refs τ hτ
        funext q
        simp [resetRefs, hτ]
      have hresetObjects : ∀ refs : Refs ι,
          (resetRefs array + refs).1 = refs.1 := by
        intro refs
        funext τ q
        simp [resetRefs]
      rw [hreset] at howned
      unfold dropArrays
      apply Ensures.bind (Ensures.unwrap hstorage)
      intro s hs
      subst hs
      apply Ensures.bind (dropPages_spec howned)
      rintro s' ⟨howned', hkeep⟩
      have hheld : Held (storage.setArrays array.typeId s')
          (arraysRefs arrays + (resetRefs array + refs)) := by
        rw [add_left_comm]
        apply h.setArrays howned'
        · intro τ' hτ'
          rw [hreset' _ _ hτ', arrayRefs_ne hτ']
        · rw [hresetObjects, arrayRefs_objects]
      have hkept : Kept (arraysRefs arrays + (resetRefs array + refs)) storage
          (storage.setArrays array.typeId s') := by
        rw [add_left_comm]
        refine ⟨fun τ q _ => rfl, ?_⟩
        intro τ
        by_cases hτ : τ = array.typeId
        · subst hτ
          rw [arrays_setArrays_self]
          exact hkeep
        · rw [arrays_setArrays_ne hτ]
          exact Keeps.refl
      apply (ih hheld).imp
      rintro storage'' ⟨hheld', hkept'⟩
      have hsum : resetsRefs (array :: arrays) + refs
          = resetsRefs arrays + (resetRefs array + refs) := by
        rw [add_left_comm, ← add_assoc]
        rfl
      rw [hsum]
      exact ⟨hheld', Kept.trans ((hkept.left _).left _) (hkept'.left _)⟩

theorem deleteSnapshot_spec {snapshot : Snapshot A ι}
    (h : Held storage (snapshotRefs snapshot + refs)) :
    (deleteSnapshot snapshot storage).Ensures fun storage' =>
      Held storage' (resetsRefs (Arena.values snapshot.instances) + refs) ∧
        Kept refs storage storage' := by
  unfold snapshotRefs at h
  rw [add_assoc] at h
  unfold deleteSnapshot
  apply Ensures.bind (dropPtrs_spec h)
  rintro storage' ⟨hheld, hkept⟩
  apply (dropArrays_spec hheld).imp
  rintro storage'' ⟨hheld', hkept'⟩
  exact ⟨hheld', (hkept.left _).trans hkept'⟩

end SpaceTimeStorage

end RedPlanet.SpaceTime
