import RedPlanet.SpaceTime.Runs

/-!
# The entries of a space time

`Refs` adds up holders; here they are listed.  The snapshots that hold are the
dirty HEAD and the stored ones, and a count is the number of times that a
pointer stands among their entries (`refs_eq_sum`, `refs_objects`,
`refs_pages`).  The results about leaks and freed objects are stated with the
lists, since these name the snapshots and not only their number.
-/

set_option linter.dupNamespace false

namespace RedPlanet.SpaceTime

open RedPlanet.Core RedPlanet.Verified Limited

variable {ι : Type} {A : Type → Type} [Arena A] {Ty : ι → Type}

namespace SpaceTime

/-- The dirty HEAD and the stored snapshots. -/
def liveSnapshots (space : SpaceTime A Ty) : List (Snapshot A ι) :=
  match space.head with
  | .dirty snapshot => snapshot :: Arena.values space.snapshots
  | .checkout _ => Arena.values space.snapshots

/-- The object entries of these. -/
def entries (space : SpaceTime A Ty) : List (TypedTablePtr ι) :=
  space.liveSnapshots.flatMap fun snapshot => Arena.values snapshot.tablePtrs

/-- The array entries of these. -/
def arrayEntries (space : SpaceTime A Ty) : List (TypedInstance ι) :=
  space.liveSnapshots.flatMap fun snapshot => Arena.values snapshot.instances

end SpaceTime

variable [DecidableEq ι]

/-- The pointers of the arrays of one type. -/
def pagePtrs (τ : ι) (arrays : List (TypedInstance ι)) : List TablePtr :=
  (arrays.filter fun array => array.typeId = τ).flatMap fun array =>
    array.array.ptrs

/-- The pointers to pages of one type that the array entries hold. -/
def SpaceTime.pageEntries (τ : ι) (space : SpaceTime A Ty) : List TablePtr :=
  pagePtrs τ space.arrayEntries

/-- All pointers that are held, with the number of their holders: `R` on top,
the entries of filled slots below. -/
def ArrayStorage.EachPtr {T : Type}
    (P : {α : Type} → Table α → TablePtr → ℕ → Prop) :
    {layers : ℕ} → ArrayStorage T layers → (TablePtr → ℕ) → Prop
  | _, .data t, R => ∀ ptr, 0 < R ptr → P t ptr (R ptr)
  | _, .pages t next, R =>
      (∀ ptr, 0 < R ptr → P t ptr (R ptr)) ∧ next.EachPtr P (holders t)

/-- Fewer than `2^31` references to every slot. -/
structure SpaceTime.Few (space : SpaceTime A Ty) : Prop where
  objects : ∀ ptr, space.entries.count ptr < 2 ^ 31
  pages : ∀ τ s, space.storage.arrayStorage τ = some s →
    s.EachPtr (fun _ _ n => n < 2 ^ 31) (space.pageEntries τ).count

/-! ## Counting -/

theorem ptrsRefs_count (ptrs : List (TypedTablePtr ι)) (τ : ι)
    (q : TablePtr) : (ptrsRefs ptrs).1 τ q = ptrs.count ⟨q, τ⟩ := by
  induction ptrs with
  | nil => rfl
  | cons ptr ptrs ih =>
      obtain ⟨p, τ'⟩ := ptr
      rw [ptrsRefs_cons, List.count_cons, ← ih]
      by_cases hτ : τ = τ'
      · subst hτ
        have hself := congrFun (ptrRefs_self ⟨p, τ⟩ (ptrsRefs ptrs)) q
        dsimp only at hself
        rw [hself]
        simp [holding, List.count_cons, Nat.add_comm]
      · have hne : τ ≠ (TypedTablePtr.mk p τ').typeId := hτ
        rw [ptrRefs_ne hne]
        simp [Ne.symm hτ]

theorem arraysRefs_count (arrays : List (TypedInstance ι)) (τ : ι)
    (q : TablePtr) : (arraysRefs arrays).2 τ q = (pagePtrs τ arrays).count q := by
  induction arrays with
  | nil => rfl
  | cons array arrays ih =>
      rw [arraysRefs_cons]
      unfold pagePtrs at ih ⊢
      by_cases hτ : array.typeId = τ
      · subst hτ
        rw [arrayRefs_self, List.filter_cons_of_pos (by simp),
          List.flatMap_cons, List.count_append, ← ih]
        rfl
      · rw [arrayRefs_ne (Ne.symm hτ), List.filter_cons_of_neg (by simp [hτ])]
        exact ih

theorem snapshotRefs_objects (snapshot : Snapshot A ι) :
    (snapshotRefs snapshot).1
      = (ptrsRefs (Arena.values snapshot.tablePtrs)).1 := by
  have hzero : ∀ arrays : List (TypedInstance ι),
      (arraysRefs arrays).1 = 0 := by
    intro arrays
    induction arrays with
    | nil => rfl
    | cons array arrays ih => rw [arraysRefs_cons, arrayRefs_objects, ih]
  unfold snapshotRefs
  rw [Prod.fst_add, hzero, add_zero]

theorem snapshotRefs_pages (snapshot : Snapshot A ι) :
    (snapshotRefs snapshot).2
      = (arraysRefs (Arena.values snapshot.instances)).2 := by
  have hzero : ∀ ptrs : List (TypedTablePtr ι), (ptrsRefs ptrs).2 = 0 := by
    intro ptrs
    induction ptrs with
    | nil => rfl
    | cons ptr ptrs ih => rw [ptrsRefs_cons, ptrRefs_pages, ih]
  unfold snapshotRefs
  rw [Prod.snd_add, hzero, zero_add]

namespace SpaceTime

theorem refs_eq_sum (space : SpaceTime A Ty) :
    space.refs = (space.liveSnapshots.map snapshotRefs).sum := by
  unfold refs liveSnapshots
  cases space.head with
  | dirty snapshot => exact List.sum_cons.symm
  | checkout snapshotId => exact zero_add _

/-- Objects are held by the object entries. -/
theorem refs_objects (space : SpaceTime A Ty) (τ : ι) (q : TablePtr) :
    space.refs.1 τ q = space.entries.count ⟨q, τ⟩ := by
  rw [refs_eq_sum]
  unfold entries
  induction space.liveSnapshots with
  | nil => rfl
  | cons snapshot snapshots ih =>
      rw [List.map_cons, List.sum_cons, List.flatMap_cons, List.count_append,
        ← ih, ← ptrsRefs_count, ← snapshotRefs_objects]
      rfl

/-- Pages are held by the array entries. -/
theorem refs_pages (space : SpaceTime A Ty) (τ : ι) (q : TablePtr) :
    space.refs.2 τ q = (space.pageEntries τ).count q := by
  rw [refs_eq_sum]
  unfold pageEntries arrayEntries
  induction space.liveSnapshots with
  | nil => rfl
  | cons snapshot snapshots ih =>
      have happend : ∀ arrays arrays' : List (TypedInstance ι),
          pagePtrs τ (arrays ++ arrays')
            = pagePtrs τ arrays ++ pagePtrs τ arrays' := by
        intro arrays arrays'
        simp [pagePtrs]
      rw [List.map_cons, List.sum_cons, List.flatMap_cons, happend,
        List.count_append, ← ih, ← arraysRefs_count, ← snapshotRefs_pages]
      rfl

end SpaceTime

end RedPlanet.SpaceTime
