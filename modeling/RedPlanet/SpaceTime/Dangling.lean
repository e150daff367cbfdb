import RedPlanet.SpaceTime.Overflow
import RedPlanet.SpaceTime.Reading

/-!
# No dangling pointer

Every pointer that is held designates a filled slot whose count is at least
the number of its holders.  It holds in all runs in which no count and no link
runs into the mask bit, and no such run panics (`Reachable.no_dangling`).

The condition on links is needed: `add_item` goes on to index `2^32 - 2`, but
a free list that reaches `2^31` loses the top bit.  `reachable_dangling` is a
run that gets there, which is put together in `SpaceTime.Overflow`.
-/

set_option linter.dupNamespace false

namespace RedPlanet.SpaceTime

open RedPlanet.Core RedPlanet.Verified Limited

variable {ι : Type} [DecidableEq ι] {A : Type → Type} [Arena A]
  {Ty : ι → Type} {T α : Type}

/-! ## Designated slots -/

/-- The slot is filled, and counted at least `n` times. -/
def Table.Designates (t : Table α) (ptr : TablePtr) (n : ℕ) : Prop :=
  ptr.index < t.table.length ∧ ∃ data, t.metadata[ptr.index]? = some data ∧
    data.isFilled = true ∧ n ≤ data.refCount

namespace SpaceTime

/-- Objects are held by object entries, pages by array entries and by pages. -/
structure Sound (space : SpaceTime A Ty) : Prop where
  objects : ∀ ptr ∈ space.entries,
    ∃ t, space.storage.tables ptr.typeId = some t ∧
      t.Designates ptr.tablePtr (space.entries.count ptr)
  arrays : ∀ array ∈ space.arrayEntries,
    space.storage.arrayStorage array.typeId ≠ none
  pages : ∀ τ s, space.storage.arrayStorage τ = some s →
    s.EachPtr Table.Designates (space.pageEntries τ).count

end SpaceTime

theorem Table.Counted.designates {t : Table α} {R : TablePtr → ℕ}
    (h : t.Counted R) {ptr : TablePtr} {n : ℕ} (hpos : 0 < n)
    (hle : n ≤ R ptr) : t.Designates ptr n := by
  rw [← h.refs] at hle
  obtain ⟨data, hdata, hfilled, hrefs⟩ :=
    Table.filled_of_refs (Nat.lt_of_lt_of_le hpos hle)
  have hlt := (List.getElem?_eq_some_iff.1 hdata).1
  rw [h.wf.length] at hlt
  rw [hrefs] at hle
  exact ⟨hlt, data, hdata, hfilled, hle⟩

/-- There may be more holders than those that are asked for. -/
theorem Owned.designates {layers : ℕ} {storage : ArrayStorage T layers}
    {R R' : TablePtr → ℕ} (h : Owned storage R) (hle : ∀ q, R' q ≤ R q) :
    storage.EachPtr Table.Designates R' := by
  induction storage generalizing R R' with
  | data t => exact fun ptr hpos => h.toCounted.designates hpos (hle ptr)
  | pages t next ih =>
      refine ⟨fun ptr hpos => h.1.toCounted.designates hpos (hle ptr), ?_⟩
      exact ih h.2 fun q => Nat.le_refl _

namespace SpaceTime

variable {space : SpaceTime A Ty} {leak : Refs ι}

theorem Valid.sound (h : Valid space leak) : space.Sound where
  objects := fun ptr hptr => by
    have hcount := List.count_pos_iff.2 hptr
    have hle : space.entries.count ptr
        ≤ (space.refs + leak).1 ptr.typeId ptr.tablePtr := by
      rw [← refs_objects space ptr.typeId ptr.tablePtr]
      exact Nat.le_add_right _ _
    exact ⟨_, h.held.tables_of_pos (Nat.lt_of_lt_of_le hcount hle),
      (h.held.objects ptr.typeId).designates hcount hle⟩
  arrays := fun array harray => by
    have hmem : array.array.resetPage ∈ space.pageEntries array.typeId := by
      apply List.mem_flatMap.2
      refine ⟨array, List.mem_filter.2 ⟨harray, by simp⟩, ?_⟩
      exact List.mem_cons_self
    have hcount := List.count_pos_iff.2 hmem
    rw [← refs_pages] at hcount
    rw [h.held.arrayStorage_of_pos (Nat.add_pos_left hcount _)]
    exact Option.some_ne_none _
  pages := fun τ s hs => by
    have howned := h.held.pages τ
    have heq : space.storage.arrays τ = s := by
      simp [SpaceTimeStorage.arrays, hs]
    rw [heq] at howned
    apply howned.designates
    intro q
    rw [← refs_pages]
    exact Nat.le_add_right _ _

end SpaceTime

section Build

variable [Build]

/-! ## Runs -/

/-- Within the limits no pointer dangles, and nothing panics. -/
theorem Reachable.no_dangling [LawfulArena A] {space : SpaceTime A Ty}
    (h : Reachable (fun op space => op.Typed space ∧ op.Within space) space) :
    space.Sound ∧
      (∀ op : Operation Ty, op.Typed space → op.Within space →
        (op.run space).result ≠ .error .panic) ∧
      (∀ (τ : ι) (id : Index),
        (∀ ptr, space.ptrAt id = some ptr → ptr.typeId = τ) →
          (space.get τ id).result ≠ .error .panic) ∧
      ∀ (τ : ι) (id : Index) (access : ReadAccess (Ty τ)),
        (∀ array, space.arrayAt id = some array → array.typeId = τ) →
          (space.getArray τ id access).result ≠ .error .panic := by
  obtain ⟨leak, hvalid⟩ := h.valid fun _ _ hop => hop
  refine ⟨hvalid.sound, ?_, ?_, ?_⟩
  · intro op htyped hwithin
    exact (hvalid.step htyped).ne_panic hwithin
  · intro τ id htype hpanic
    cases hptr : space.ptrAt id with
    | none =>
        rw [SpaceTime.get_none hvalid hptr] at hpanic
        exact nomatch hpanic
    | some ptr =>
        obtain ⟨p, τ'⟩ := ptr
        cases htype _ hptr
        obtain ⟨x, hx⟩ := hvalid.item_of_ptrAt hptr
        rw [SpaceTime.get_some hvalid hptr hx] at hpanic
        exact nomatch hpanic
  · intro τ id access htype hpanic
    cases harray : space.arrayAt id with
    | none =>
        rw [SpaceTime.getArray_none hvalid access harray] at hpanic
        exact nomatch hpanic
    | some array =>
        obtain ⟨inst, τ'⟩ := array
        cases htype _ harray
        obtain ⟨content, value, hshows, hsize⟩ :=
          hvalid.shows_of_arrayAt harray
        rw [SpaceTime.getArray_some hvalid access harray hshows hsize]
          at hpanic
        exact nomatch hpanic

end Build

/-- An object, a snapshot of it, and a copy that is changed. -/
theorem Reachable.no_dangling_copy :
    (@Operation.after _ _ GenArena _ (fun _ : Unit => Bool) Build.debug
      (.getMut () ⟨0, 0⟩ not) (@Operation.after _ _ _ _ _ Build.debug
        .makeSnapshot (@Operation.after _ _ _ _ _ Build.debug
          (.insert () true) .new))).Sound := by
  have hnew := @Reachable.new Unit _ GenArena _ (fun _ => Bool) Build.debug
    (fun op space => op.Typed space ∧
      @Operation.Within _ _ _ _ _ Build.debug op space)
  have hinsert := @Reachable.after _ _ _ _ _ Build.debug _ _ hnew
    (.insert () true) ⟨True.intro, rfl⟩
  have hmake := @Reachable.after _ _ _ _ _ Build.debug _ _ hinsert
    .makeSnapshot ⟨True.intro, rfl⟩
  have hget := @Reachable.after _ _ _ _ _ Build.debug _ _ hmake
    (.getMut () ⟨0, 0⟩ not) ⟨fun _ _ => rfl, rfl⟩
  exact (@Reachable.no_dangling _ _ _ _ _ Build.debug _ _ hget).1

/-- After two fillings of the first slot. -/
theorem reachable_dangling :
    ∃ space : SpaceTime GenArena fun _ : Unit => Bool,
      @Reachable _ _ _ _ _ Build.release
        (fun op space => op.Typed space ∧ space.Few) space ∧
      space.Few ∧ ¬ space.Sound := by
  obtain ⟨_, space, hover⟩ := overflows
  refine ⟨space, hover.reachable', hover.few, ?_⟩
  intro hsound
  have hmem : ⟨⟨0⟩, ()⟩ ∈ space.entries := by
    apply List.count_pos_iff.1
    exact Nat.lt_of_lt_of_le Nat.zero_lt_two hover.count
  obtain ⟨t, ht, _, data, hdata, _, hle⟩ := hsound.objects _ hmem
  obtain ⟨t', ht', hfilled⟩ := hover.metadata
  rw [ht] at ht'
  cases ht'
  rw [hdata] at hfilled
  cases hfilled
  have hcount := Nat.le_trans hover.count hle
  rw [Table.filled_refCount] at hcount
  omega

end RedPlanet.SpaceTime
