import RedPlanet.SpaceTime.Entries

/-!
# A free list that loses a bit

`add_item` goes on to index `2^32 - 2`, the links have room for 31 bits.  In a
release build, a table of `2^31` objects links the first slot that is freed to
slot zero: that slot is filled again while others hold it.

The table is filled by induction (`filled_all`), since a run of this length
cannot be evaluated; `overflows` frees a slot and inserts twice, and the second
insertion overwrites the first object.
-/

set_option linter.dupNamespace false

namespace RedPlanet.SpaceTime

open RedPlanet.Core RedPlanet.Verified Limited

/-! ## Tables -/

namespace Table

variable {α : Type} {t : Table α} {ptr : TablePtr}

/-- The next empty slot is reused, whatever its metadata is. -/
theorem addItem_reuse {data : ItemMetaData} (item : α)
    (hdata : t.metadata[t.nextEmpty]? = some data)
    (hlt : t.nextEmpty < t.table.length) :
    t.addItem item = pure (⟨t.nextEmpty⟩,
      { metadata := t.metadata.set t.nextEmpty .filled
        table := t.table.set t.nextEmpty item
        nextEmpty := data.nextEmpty }) := by
  have hend : t.nextEmpty ≠ t.table.length := by omega
  unfold addItem
  dsimp only
  rw [if_neg hend, hdata, List.getElem?_eq_getElem hlt, unwrap_some,
    unwrap_some, pure_bind, pure_bind]

/-- The last pointer to an item is dropped, in a release build. -/
theorem dropTablePtr_release
    (hdata : t.metadata[ptr.index]? = some .filled)
    (hlt : ptr.index < t.table.length) :
    (@dropTablePtr _ Build.release ptr t).result
      = .ok { t with
          metadata := t.metadata.set ptr.index
            ⟨BitVec.ofNat 32 t.nextEmpty ||| EMPTY_MASK⟩
          nextEmpty := ptr.index } := by
  have hempty : (@ItemMetaData.empty Build.release t.nextEmpty).result
      = .ok ⟨BitVec.ofNat 32 t.nextEmpty ||| EMPTY_MASK⟩ := rfl
  have hremove : @ItemMetaData.removeRef Build.release .filled = pure ⟨0⟩ :=
    rfl
  have hzero : ItemMetaData.refCount ⟨0⟩ = 0 := rfl
  unfold dropTablePtr popItem
  dsimp only
  rw [hdata, unwrap_some, pure_bind, if_pos filled_isFilled, hremove,
    pure_bind, if_pos hzero, List.getElem?_eq_getElem hlt]
  simp only [bind_assoc, unwrap_some, pure_bind]
  rw [(bind_of_ok hempty _).1]
  rfl

/-- All slots are filled; the first one has three pointers. -/
structure Packed (t : Table Bool) (n : ℕ) : Prop where
  nextEmpty : t.nextEmpty = n
  metadata : t.metadata.length = n
  length : t.table.length = n
  first : t.metadata[0]? = some ⟨3⟩
  second : t.metadata[1]? = some .filled
  item : t.table[0]? = some true

theorem Packed.addItem {t : Table Bool} {n : ℕ} (h : t.Packed n)
    (hn : n + 1 < 2 ^ 32) :
    ∃ t', t.addItem true = pure (⟨n⟩, t') ∧ t'.Packed (n + 1) := by
  have hend : t.nextEmpty = t.table.length := by rw [h.nextEmpty, h.length]
  have hkeep : ∀ {β : Type} {l : List β} {x y : β} {i : ℕ},
      l[i]? = some x → (l ++ [y])[i]? = some x := by
    intro β l x y i hx
    rw [List.getElem?_append_left (List.getElem?_eq_some_iff.1 hx).1, hx]
  refine ⟨{ metadata := t.metadata ++ [.filled], table := t.table ++ [true],
            nextEmpty := n + 1 }, ?_, ?_⟩
  · unfold Table.addItem
    dsimp only
    rw [h.nextEmpty] at hend ⊢
    rw [if_pos hend, if_pos hn]
  · exact {
      nextEmpty := rfl
      metadata := by simp [h.metadata]
      length := by simp [h.length]
      first := hkeep h.first
      second := hkeep h.second
      item := hkeep h.item }

theorem item_of_filled {data : ItemMetaData} {x : α}
    (hdata : t.metadata[ptr.index]? = some data)
    (hfilled : data.isFilled = true) (hpos : 0 < data.refCount)
    (hx : t.table[ptr.index]? = some x) : t.item ptr = some x := by
  unfold item
  rw [refs_of_filled hdata hfilled, if_pos hpos, hx]

/-- Slot one is freed and filled, then slot zero is filled. -/
theorem Packed.overflows {t : Table Bool} {n : ℕ} (h : t.Packed n)
    (hn : n = 2 ^ 31) :
    ∃ t₁ t₂ t₃, (@dropTablePtr _ Build.release ⟨1⟩ t).result = .ok t₁ ∧
      t₁.addItem true = pure (⟨1⟩, t₂) ∧
      t₂.addItem false = pure (⟨0⟩, t₃) ∧
      t₂.item ⟨0⟩ = some true ∧ t₃.item ⟨0⟩ = some false ∧
      t₃.metadata[0]? = some .filled := by
  obtain ⟨metadata, table, nextEmpty⟩ := t
  have hnext := h.nextEmpty
  have hlength := h.length
  have hmetadata := h.metadata
  dsimp only at hnext hlength hmetadata
  subst hnext
  have hlink : ItemMetaData.nextEmpty
      ⟨BitVec.ofNat 32 nextEmpty ||| EMPTY_MASK⟩ = 0 := by
    rw [ItemMetaData.nextEmpty_link, hn, Nat.mod_self]
  have hthree : ItemMetaData.isFilled ⟨3⟩ = true := by decide
  have hfirst : ((metadata.set 1 ⟨BitVec.ofNat 32 nextEmpty ||| EMPTY_MASK⟩).set
      1 .filled)[0]? = some ⟨3⟩ := by
    rw [List.getElem?_set_ne (by decide), List.getElem?_set_ne (by decide)]
    exact h.first
  have hitem : (table.set 1 true)[0]? = some true := by
    rw [List.getElem?_set_ne (by decide)]
    exact h.item
  have hone : 1 < table.length := by omega
  have hzero : 0 < (table.set 1 true).length := by
    rw [List.length_set]
    omega
  have hreuse := @addItem_reuse _
    { metadata := metadata.set 1 ⟨BitVec.ofNat 32 nextEmpty ||| EMPTY_MASK⟩
      table := table, nextEmpty := 1 } _ true
    (List.getElem?_set_self (by omega)) hone
  rw [hlink] at hreuse
  have hagain := @addItem_reuse _
    { metadata := (metadata.set 1
        ⟨BitVec.ofNat 32 nextEmpty ||| EMPTY_MASK⟩).set 1 .filled
      table := table.set 1 true, nextEmpty := 0 } _ false hfirst hzero
  have hmeta : (((metadata.set 1 ⟨BitVec.ofNat 32 nextEmpty ||| EMPTY_MASK⟩).set
      1 .filled).set 0 .filled)[0]? = some .filled :=
    List.getElem?_set_self (by rw [List.length_set, List.length_set]; omega)
  refine ⟨_, _, _, dropTablePtr_release h.second hone,
    hreuse, hagain, item_of_filled hfirst hthree (by decide) hitem,
    item_of_filled hmeta filled_isFilled Nat.one_pos ?_, hmeta⟩
  exact List.getElem?_set_self hzero

end Table

/-! ## One step -/

variable {A : Type → Type} [Arena A] {t t' : Table Bool} {ptr : TablePtr}
  {a : A (TypedTablePtr Unit)} {snapshots : A (Snapshot A Unit)}
  {space : SpaceTime A fun _ : Unit => Bool}

/-- HEAD is dirty, and all objects are in one table. -/
structure OneTable (space : SpaceTime A fun _ : Unit => Bool) (t : Table Bool)
    (a : A (TypedTablePtr Unit)) (snapshots : A (Snapshot A Unit)) : Prop where
  table : space.storage.tables () = some t
  arrays : ∀ τ, space.storage.arrayStorage τ = none
  head : space.head = .dirty { tablePtrs := a, instances := Arena.new }
  snapshots : space.snapshots = snapshots

namespace OneTable

theorem setTable (h : OneTable space t a snapshots) (t' : Table Bool)
    (a' : A (TypedTablePtr Unit)) :
    OneTable ((space.setStorage (space.storage.setTable () t')).setHead
      { tablePtrs := a', instances := Arena.new }) t' a' snapshots where
  table := by
    simp [SpaceTime.setHead, SpaceTime.setStorage, SpaceTimeStorage.setTable]
  arrays := h.arrays
  head := rfl
  snapshots := h.snapshots

theorem getHeadMut [Build] (h : OneTable space t a snapshots) :
    space.getHeadMut
      = pure ({ tablePtrs := a, instances := Arena.new }, space) := by
  unfold SpaceTime.getHeadMut
  rw [h.head]

theorem insert [Build] (h : OneTable space t a snapshots) {x : Bool}
    (hadd : t.addItem x = pure (ptr, t')) :
    ∃ reply space', ((Operation.insert () x).run space).result
        = .ok (reply, space') ∧
      OneTable space' t' (Arena.insert ⟨ptr, ()⟩ a).2 snapshots := by
  have htable : space.storage.table () = t := by
    simp [SpaceTimeStorage.table, h.table]
  have hhead : (space.setStorage (space.storage.setTable () t')).getHeadMut
      = pure ({ tablePtrs := a, instances := Arena.new },
        space.setStorage (space.storage.setTable () t')) := by
    unfold SpaceTime.getHeadMut SpaceTime.setStorage
    dsimp only
    rw [h.head]
  refine ⟨.id (Arena.insert ⟨ptr, ()⟩ a).1, _, ?_, h.setTable t' _⟩
  unfold Operation.run SpaceTime.insert
  dsimp only
  rw [htable, hadd, pure_bind, hhead, pure_bind]
  rfl

theorem remove [Build] (h : OneTable space t a snapshots) {id : Index}
    (hid : (Arena.remove id a).1 = some ⟨ptr, ()⟩)
    (hdrop : (t.dropTablePtr ptr).result = .ok t') :
    ∃ reply space', ((Operation.remove () id).run space).result
        = .ok (reply, space') ∧
      OneTable space' t' (Arena.remove id a).2 snapshots := by
  refine ⟨.done true, (space.setHead
    { tablePtrs := (Arena.remove id a).2, instances := Arena.new }).setStorage
      (space.storage.setTable () t'), ?_, h.setTable t' _⟩
  unfold Operation.run SpaceTime.remove
  dsimp only
  rw [h.getHeadMut, pure_bind]
  dsimp only
  rw [hid]
  have htable : (space.setHead { tablePtrs := (Arena.remove id a).2
                                 instances := Arena.new }).storage.tables ()
      = some t := h.table
  dsimp only
  rw [htable, unwrap_some, pure_bind]
  simp only [bind_assoc, pure_bind]
  rw [(bind_of_ok hdrop _).1]
  rfl

theorem entries (h : OneTable space t a snapshots) :
    space.entries = Arena.values a ++ (Arena.values snapshots).flatMap
      fun snapshot => Arena.values snapshot.tablePtrs := by
  unfold SpaceTime.entries SpaceTime.liveSnapshots
  rw [h.head, h.snapshots]
  rfl

theorem few (h : OneTable space t a snapshots)
    (hcount : ∀ ptr, space.entries.count ptr < 2 ^ 31) : space.Few where
  objects := hcount
  pages := fun τ s hs => by
    rw [h.arrays τ] at hs
    exact nomatch hs

end OneTable

/-! ## The run -/

/-- The pointers to the first slots. -/
def firstPtrs (n : ℕ) : List (TypedTablePtr Unit) :=
  (List.range n).map fun i => ⟨⟨i⟩, ()⟩

theorem firstPtrs_count (n : ℕ) (ptr : TypedTablePtr Unit) :
    (firstPtrs n).count ptr ≤ 1 := by
  apply List.nodup_iff_count_le_one.1
  apply List.Nodup.map _ List.nodup_range
  intro i j heq
  exact congrArg (fun ptr => ptr.tablePtr.index) heq

/-- A snapshot of the object in slot zero. -/
def saved : Snapshot GenArena Unit where
  tablePtrs := Arena.collect [⟨⟨0⟩, ()⟩]
  instances := Arena.collect []

/-- The arena with this snapshot. -/
def savedArena : GenArena (Snapshot GenArena Unit) :=
  (Arena.insert saved Arena.new).2

theorem savedArena_entries : ((Arena.values savedArena).flatMap fun snapshot =>
    Arena.values snapshot.tablePtrs) = [⟨⟨0⟩, ()⟩] := rfl

theorem OneTable.few_of_count {space : SpaceTime GenArena fun _ : Unit => Bool}
    {a : GenArena (TypedTablePtr Unit)} (h : OneTable space t a savedArena)
    (hcount : ∀ ptr, (Arena.values a).count ptr ≤ 3) : space.Few := by
  apply h.few
  intro ptr
  have hle := hcount ptr
  have hlast : [(⟨⟨0⟩, ()⟩ : TypedTablePtr Unit)].count ptr ≤ 1 :=
    List.count_le_length
  rw [h.entries, savedArena_entries, List.count_append]
  omega

/-- HEAD has the objects of the first slots. -/
structure Filled (space : SpaceTime GenArena fun _ : Unit => Bool)
    (t : Table Bool) (a : GenArena (TypedTablePtr Unit)) (n : ℕ) : Prop where
  reachable : @Reachable _ _ _ _ _ Build.release
    (fun op space => op.Typed space ∧ space.Few) space
  table : OneTable space t a savedArena
  packed : t.Packed n
  perm : (Arena.values a).Perm (firstPtrs n)

/-- An object, a snapshot, and another object. -/
theorem filled_two : ∃ space t a, Filled space t a 2 := by
  have hfew : ∀ space : SpaceTime GenArena fun _ : Unit => Bool,
      space.entries.length < 2 ^ 31 →
        (∀ τ, space.storage.arrayStorage τ = none) → space.Few := by
    intro space hlength harrays
    refine ⟨fun ptr => Nat.lt_of_le_of_lt List.count_le_length hlength, ?_⟩
    intro τ s hs
    rw [harrays] at hs
    exact nomatch hs
  have hnew := @Reachable.new Unit _ GenArena _ (fun _ => Bool) Build.release
    (fun op space => op.Typed space ∧ space.Few)
  have hinsert := @Reachable.after _ _ _ _ _ Build.release _ _ hnew
    (.insert () true) ⟨True.intro, hfew _ (by decide) fun _ => rfl⟩
  have hmake := @Reachable.after _ _ _ _ _ Build.release _ _ hinsert
    .makeSnapshot ⟨True.intro, hfew _ (by decide) fun _ => rfl⟩
  have hagain := @Reachable.after _ _ _ _ _ Build.release _ _ hmake
    (.insert () true) ⟨True.intro, hfew _ (by decide) fun _ => rfl⟩
  exact ⟨_, ⟨[⟨3⟩, .filled], [true, true], 2⟩,
    Arena.collect [⟨⟨0⟩, ()⟩, ⟨⟨1⟩, ()⟩], hagain,
    ⟨rfl, fun _ => rfl, rfl, rfl⟩, ⟨rfl, rfl, rfl, rfl, rfl, rfl⟩,
    List.Perm.refl _⟩

/-- Any number of insertions. -/
theorem filled_all {n : ℕ} (hpos : 2 ≤ n) (hn : n ≤ 2 ^ 31) :
    ∃ space t a, Filled space t a n := by
  induction n, hpos using Nat.le_induction with
  | base => exact filled_two
  | succ n hpos ih =>
      obtain ⟨space, t, a, h⟩ := ih (by omega)
      obtain ⟨t', hadd, hpacked⟩ := h.packed.addItem (by omega)
      obtain ⟨reply, space', hrun, htable⟩ :=
        @OneTable.insert _ _ _ _ _ _ _ _ Build.release h.table _ hadd
      have hfew : space.Few := by
        apply h.table.few_of_count
        intro ptr
        rw [h.perm.count_eq]
        exact (firstPtrs_count n ptr).trans (by omega)
      have htyped : Operation.Typed (.insert () true) space := True.intro
      refine ⟨space', t', _,
        @Reachable.step _ _ _ _ _ Build.release _ _ _ _ _ h.reachable
          ⟨htyped, hfew⟩ hrun, htable, hpacked, ?_⟩
      have hinsert := Arena.values_insert (⟨⟨n⟩, ()⟩ : TypedTablePtr Unit) a
      have hfirst : firstPtrs (n + 1) = firstPtrs n ++ [⟨⟨n⟩, ()⟩] := by
        simp [firstPtrs, List.range_succ]
      rw [hfirst]
      apply hinsert.trans
      apply (h.perm.cons _).trans
      exact (List.perm_append_singleton _ _).symm

/-- An insertion fills a slot that others hold. -/
structure Overflows (space space' : SpaceTime GenArena fun _ : Unit => Bool) :
    Prop where
  reachable : @Reachable _ _ _ _ _ Build.release
    (fun op space => op.Typed space ∧ space.Few) space
  reachable' : @Reachable _ _ _ _ _ Build.release
    (fun op space => op.Typed space ∧ space.Few) space'
  run : ∃ reply, (@Operation.run _ _ _ _ _ Build.release (.insert () false)
    space).result = .ok (reply, space')
  snapshots : space.snapshots = savedArena
  few : space'.Few
  before : (space.storage.table ()).item ⟨0⟩ = some true
  after : (space'.storage.table ()).item ⟨0⟩ = some false
  metadata : ∃ t, space'.storage.tables () = some t ∧
    t.metadata[0]? = some .filled
  count : 2 ≤ space'.entries.count ⟨⟨0⟩, ()⟩

/-- An object is removed from a table of `2 ^ 31`, then two are inserted. -/
theorem overflows : ∃ space space', Overflows space space' := by
  obtain ⟨n, hn⟩ : ∃ n : ℕ, n = 2 ^ 31 := ⟨_, rfl⟩
  obtain ⟨space₀, t₀, a, h⟩ := @filled_all n (by omega) (by omega)
  have hpacked := h.packed
  have hfirst : ∀ ptr, (Arena.values a).count ptr ≤ 1 := by
    intro ptr
    rw [h.perm.count_eq]
    exact firstPtrs_count n ptr
  have hmem : ∀ i, i < n → ⟨⟨i⟩, ()⟩ ∈ Arena.values a := by
    intro i hi
    apply h.perm.mem_iff.2
    exact List.mem_map.2 ⟨i, List.mem_range.2 hi, rfl⟩
  obtain ⟨id, hid⟩ := Arena.mem_values.1 (hmem 1 (by omega))
  obtain ⟨t₁, t₂, t₃, hdrop, hreuse, hagain, hbefore, hafter, hmetadata⟩ :=
    h.packed.overflows hn
  obtain ⟨_, space₁, hrun₁, htable₁⟩ :=
    @OneTable.remove _ _ _ _ _ _ _ _ Build.release h.table id
      (by rw [LawfulArena.remove_fst, hid]) hdrop
  obtain ⟨_, space₂, hrun₂, htable₂⟩ :=
    @OneTable.insert _ _ _ _ _ _ _ _ Build.release htable₁ _ hreuse
  obtain ⟨reply, space₃, hrun₃, htable₃⟩ :=
    @OneTable.insert _ _ _ _ _ _ _ _ Build.release htable₂ _ hagain
  -- what HEAD has in the four states
  have hremoved := Arena.values_remove hid
  have hsecond := Arena.values_insert (⟨⟨1⟩, ()⟩ : TypedTablePtr Unit)
    (Arena.remove id a).2
  have hthird := Arena.values_insert (⟨⟨0⟩, ()⟩ : TypedTablePtr Unit)
    (Arena.insert (⟨⟨1⟩, ()⟩ : TypedTablePtr Unit) (Arena.remove id a).2).2
  have hsame := hsecond.trans hremoved.symm
  have hcount₁ : ∀ ptr,
      (Arena.values (Arena.remove id a).2).count ptr ≤ 3 := by
    intro ptr
    have hle := hfirst ptr
    rw [hremoved.count_eq, List.count_cons] at hle
    omega
  have hcount₂ : ∀ ptr, (Arena.values (Arena.insert
      (⟨⟨1⟩, ()⟩ : TypedTablePtr Unit) (Arena.remove id a).2).2).count ptr
        ≤ 1 := by
    intro ptr
    rw [hsame.count_eq]
    exact hfirst ptr
  have hremove : Operation.Typed (.remove () id) space₀ := fun _ _ => rfl
  have hinsert₁ : Operation.Typed (.insert () true) space₁ := True.intro
  have hinsert₂ : Operation.Typed (.insert () false) space₂ := True.intro
  have hreach₁ := @Reachable.step _ _ _ _ _ Build.release _ _ _ _ _
    h.reachable ⟨hremove, h.table.few_of_count fun ptr =>
      (hfirst ptr).trans (by omega)⟩ hrun₁
  have hreach₂ := @Reachable.step _ _ _ _ _ Build.release _ _ _ _ _
    hreach₁ ⟨hinsert₁, htable₁.few_of_count hcount₁⟩ hrun₂
  have hreach₃ := @Reachable.step _ _ _ _ _ Build.release _ _ _ _ _
    hreach₂ ⟨hinsert₂, htable₂.few_of_count fun ptr =>
      (hcount₂ ptr).trans (by omega)⟩ hrun₃
  refine ⟨space₂, space₃, ⟨hreach₂, hreach₃, ⟨reply, hrun₃⟩,
    htable₂.snapshots, ?_, ?_, ?_, ⟨t₃, htable₃.table, hmetadata⟩, ?_⟩⟩
  · apply htable₃.few_of_count
    intro ptr
    have hle := hcount₂ ptr
    rw [hthird.count_eq, List.count_cons]
    split <;> omega
  · have htable : space₂.storage.table () = t₂ := by
      simp [SpaceTimeStorage.table, htable₂.table]
    rw [htable, hbefore]
  · have htable : space₃.storage.table () = t₃ := by
      simp [SpaceTimeStorage.table, htable₃.table]
    rw [htable, hafter]
  · have hpos := List.count_pos_iff.2 (hmem 0 (by omega))
    rw [htable₃.entries, List.count_append, hthird.count_eq,
      List.count_cons_self, hsame.count_eq]
    omega

end RedPlanet.SpaceTime
