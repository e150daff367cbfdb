import RedPlanet.SpaceTime.Valid

/-!
# Objects

What the operations on objects do: to the entries of HEAD, to the object they
are about, and to nothing else that is held.

There is a specification for each of `insert`, `remove`, `pop` and `get_mut`,
from a state that satisfies the invariant (`Valid`).  Where an object is shared
with a snapshot it is cloned before it is changed or returned, so that the
snapshot goes on holding what it held.
-/

set_option linter.dupNamespace false

namespace RedPlanet.SpaceTime

open RedPlanet.Core RedPlanet.Verified Limited

variable {ι : Type} {A : Type → Type}

/-- The snapshot with another arena of pointers. -/
def Snapshot.withPtrs (snapshot : Snapshot A ι)
    (tablePtrs : A (TypedTablePtr ι)) : Snapshot A ι :=
  { snapshot with tablePtrs := tablePtrs }

variable [DecidableEq ι] [Arena A] {Ty : ι → Type}

theorem snapshotRefs_withPtrs {snapshot : Snapshot A ι}
    {tablePtrs : A (TypedTablePtr ι)} {ptr : TypedTablePtr ι}
    {rest : List (TypedTablePtr ι)}
    (h : (Arena.values tablePtrs).Perm (ptr :: rest)) :
    snapshotRefs (snapshot.withPtrs tablePtrs)
      = ptrRefs ptr + (ptrsRefs rest
        + arraysRefs (Arena.values snapshot.instances)) := by
  unfold snapshotRefs Snapshot.withPtrs
  dsimp only
  rw [ptrsRefs_perm h, ptrsRefs_cons, add_assoc]

namespace SpaceTime

variable {space : SpaceTime A Ty} {leak : Refs ι}

/-! ## A pointer that no snapshot has -/

/-- The objects of a table, when one of its pointers is about to go. -/
theorem Valid.counted {p : TablePtr} {τ : ι}
    (h : Valid space (ptrRefs ⟨p, τ⟩ + leak)) :
    (space.storage.table τ).Counted
      (holding [p] ((space.refs + leak).1 τ)) := by
  have hcounted := h.held.objects τ
  have hself := ptrRefs_self ⟨p, τ⟩ (space.refs + leak)
  dsimp only at hself
  rw [add_left_comm, hself] at hcounted
  exact hcounted

theorem Valid.tables {p : TablePtr} {τ : ι}
    (h : Valid space (ptrRefs ⟨p, τ⟩ + leak)) :
    space.storage.tables τ = some (space.storage.table τ) := by
  have hpos : 0 < (space.refs + (ptrRefs ⟨p, τ⟩ + leak)).1 τ p := by
    have hself := ptrRefs_self ⟨p, τ⟩ (space.refs + leak)
    dsimp only at hself
    rw [add_left_comm, hself]
    exact holding_pos_of_mem List.mem_cons_self _
  exact h.held.tables_of_pos hpos

/-- One table changes, for those who do not hold its objects. -/
theorem kept_setTable {refs : Refs ι} {storage : SpaceTimeStorage Ty} {τ : ι}
    {t : Table (Ty τ)}
    (hkeep : ∀ q, 0 < refs.1 τ q → t.item q = (storage.table τ).item q) :
    Kept refs storage (storage.setTable τ t) where
  objects := fun τ' q hq => by
    by_cases hτ : τ' = τ
    · subst hτ
      rw [SpaceTimeStorage.table_setTable_self]
      exact hkeep q hq
    · rw [SpaceTimeStorage.table_setTable_ne hτ]
  pages := fun _ => Keeps.refl

/-- A table changes for one holder. -/
theorem Valid.setTable {extra : Refs ι} {τ : ι} {t : Table (Ty τ)}
    (h : Valid space (extra + leak)) {extra' : Refs ι}
    (hcounted : t.Counted ((extra' + (space.refs + leak)).1 τ))
    (hne : ∀ τ', τ' ≠ τ → extra'.1 τ' = extra.1 τ')
    (hpages : extra'.2 = extra.2)
    (hkeep : ∀ q, 0 < (space.refs + leak).1 τ q →
      t.item q = (space.storage.table τ).item q) :
    Valid (space.setStorage (space.storage.setTable τ t)) (extra' + leak) ∧
      Kept (space.refs + leak) space.storage
        (space.storage.setTable τ t) := by
  have hkept := kept_setTable hkeep
  have hheld := h.held
  rw [add_left_comm] at hheld
  refine ⟨h.setStorage ?_ (hkept.right _), hkept⟩
  rw [add_left_comm]
  apply hheld.setTable hcounted
  · intro τ' hτ'
    funext q
    show extra'.1 τ' q + _ = extra.1 τ' q + _
    rw [hne τ' hτ']
  · funext τ' q
    show extra'.2 τ' q + _ = extra.2 τ' q + _
    rw [hpages]

/-- The pointer is gone. -/
theorem Valid.dropPtr {p : TablePtr} {τ : ι} {t : Table (Ty τ)}
    (h : Valid space (ptrRefs ⟨p, τ⟩ + leak))
    (hcounted : t.Counted ((space.refs + leak).1 τ))
    (hkeep : ∀ q, 0 < (space.refs + leak).1 τ q →
      t.item q = (space.storage.table τ).item q) :
    Valid (space.setStorage (space.storage.setTable τ t)) leak ∧
      Kept (space.refs + leak) space.storage
        (space.storage.setTable τ t) := by
  have hset := @Valid.setTable _ _ _ _ _ space leak _ τ t h 0
  rw [zero_add, zero_add] at hset
  apply hset hcounted _ rfl hkeep
  intro τ' hτ'
  simp [ptrRefs, hτ']

/-- The pointer is exchanged for another one. -/
theorem Valid.movePtr {p p' : TablePtr} {τ : ι} {t : Table (Ty τ)}
    (h : Valid space (ptrRefs ⟨p, τ⟩ + leak))
    (hcounted : t.Counted (holding [p'] ((space.refs + leak).1 τ)))
    (hkeep : ∀ q, 0 < (space.refs + leak).1 τ q →
      t.item q = (space.storage.table τ).item q) :
    Valid (space.setStorage (space.storage.setTable τ t))
        (ptrRefs ⟨p', τ⟩ + leak) ∧
      Kept (space.refs + leak) space.storage
        (space.storage.setTable τ t) := by
  have hself := ptrRefs_self ⟨p', τ⟩ (space.refs + leak)
  dsimp only at hself
  rw [← hself] at hcounted
  apply h.setTable hcounted _ rfl hkeep
  intro τ' hτ'
  simp [ptrRefs, hτ']

/-! ## Entries of HEAD -/

/-- An entry is put into HEAD. -/
theorem Valid.putPtr {s : Snapshot A ι}
    {tablePtrs : A (TypedTablePtr ι)} {ptr : TypedTablePtr ι}
    (h : Valid space (ptrRefs ptr + leak))
    (hhead : space.head = .dirty s)
    (hperm : (Arena.values tablePtrs).Perm
      (ptr :: Arena.values s.tablePtrs)) :
    Valid (space.setHead (s.withPtrs tablePtrs)) leak := by
  apply h.setHead
  · rw [snapshotRefs_withPtrs hperm, hhead, add_assoc, add_left_comm]
    rfl
  · exact h.headShown s hhead

variable [LawfulArena A]

/-- An entry is taken out of HEAD. -/
theorem Valid.takePtr {snapshot : Snapshot A ι} {id : Index}
    {ptr : TypedTablePtr ι} (h : Valid space leak)
    (hhead : space.head = .dirty snapshot)
    (hget : Arena.get id snapshot.tablePtrs = some ptr) :
    Valid (space.setHead (snapshot.withPtrs
      (Arena.remove id snapshot.tablePtrs).2)) (ptrRefs ptr + leak) := by
  apply h.setHead
  · have hperm := Arena.values_remove hget
    have hold : snapshotRefs (snapshot.withPtrs snapshot.tablePtrs) = _ :=
      snapshotRefs_withPtrs hperm
    rw [hhead]
    show _ = snapshotRefs (snapshot.withPtrs snapshot.tablePtrs) + leak
    rw [hold, ← add_assoc, add_comm _ (ptrRefs ptr)]
    rfl
  · exact h.headShown snapshot hhead

/-! ## The operations -/

/-- The entry that an id names in HEAD. -/
def ptrAt (space : SpaceTime A Ty) (id : Index) : Option (TypedTablePtr ι) :=
  space.headSnapshot.bind fun snapshot => Arena.get id snapshot.tablePtrs

omit [DecidableEq ι] [LawfulArena A] in
theorem ptrAt_eq {space : SpaceTime A Ty} {snapshot : Snapshot A ι}
    (h : space.headSnapshot = some snapshot) (id : Index) :
    space.ptrAt id = Arena.get id snapshot.tablePtrs := by
  unfold ptrAt
  rw [h]
  rfl

variable [Build]

/-- The new object lies in a slot of its own. -/
theorem insert_spec (h : Valid space leak) (τ : ι) (object : Ty τ) :
    (space.insert τ object).Ensures fun r =>
      ∃ snapshot p, space.headSnapshot = some snapshot ∧
        r.1 = (Arena.insert ⟨p, τ⟩ snapshot.tablePtrs).1 ∧
        Edits space r.2 (snapshot.withPtrs
          (Arena.insert ⟨p, τ⟩ snapshot.tablePtrs).2) leak ∧
        (r.2.storage.table τ).item p = some object ∧
        Kept (space.refs + leak) space.storage r.2.storage := by
  unfold insert
  apply Ensures.bind ((h.held.objects τ).addItem_spec object)
  rintro ⟨p, t⟩ ⟨_, hcounted, hobject, hkeep⟩
  dsimp only at hcounted hobject hkeep ⊢
  have hvalid : Valid space (0 + leak) := by
    rw [zero_add]
    exact h
  have hself := ptrRefs_self ⟨p, τ⟩ (space.refs + leak)
  dsimp only at hself
  rw [← hself] at hcounted
  have hset := hvalid.setTable hcounted
    (fun τ' hτ' => by simp [ptrRefs, hτ']) rfl hkeep
  apply Ensures.bind (getHeadMut_spec hset.1)
  rintro ⟨snapshot, space'⟩ ⟨hhead, hedits, hkept⟩
  dsimp only at hhead hedits hkept ⊢
  apply Ensures.pure
  refine ⟨snapshot, p, hhead, rfl, ⟨rfl, hedits.snapshots, ?_⟩, ?_, ?_⟩
  · exact hedits.valid.putPtr hedits.head (Arena.values_insert _ _)
  · have hobject' := (hkept (ptrRefs ⟨p, τ⟩ + 0)).objects τ p (by
      have hself' := ptrRefs_self ⟨p, τ⟩ (0 : Refs ι)
      dsimp only at hself'
      rw [hself']
      exact holding_pos_of_mem List.mem_cons_self _)
    show (space'.storage.table τ).item p = some object
    rw [hobject']
    show ((space.storage.setTable τ t).table τ).item p = some object
    rw [SpaceTimeStorage.table_setTable_self]
    exact hobject
  · exact hset.2.trans (hkept _)

/-- What `remove` and `pop` begin with: the entry leaves HEAD. -/
theorem removePtr_spec (h : Valid space leak) (id : Index) :
    space.getHeadMut.Ensures fun r =>
      space.headSnapshot = some r.1 ∧
      (Arena.remove id r.1.tablePtrs).1 = space.ptrAt id ∧
      Edits space
        (r.2.setHead (r.1.withPtrs (Arena.remove id r.1.tablePtrs).2))
        (r.1.withPtrs (Arena.remove id r.1.tablePtrs).2)
        (((space.ptrAt id).map ptrRefs).getD 0 + leak) ∧
      ∀ refs, Kept refs space.storage r.2.storage := by
  apply (getHeadMut_spec h).imp
  rintro ⟨snapshot, space'⟩ ⟨hhead, hedits, hkept⟩
  dsimp only at hhead hedits hkept ⊢
  have hptr : space.ptrAt id = Arena.get id snapshot.tablePtrs :=
    ptrAt_eq hhead id
  refine ⟨hhead, ?_, ⟨rfl, hedits.snapshots, ?_⟩, hkept⟩
  · rw [LawfulArena.remove_fst, hptr]
  · rw [hptr]
    cases hget : Arena.get id snapshot.tablePtrs with
    | some ptr => exact hedits.valid.takePtr hedits.head hget
    | none =>
        rw [Option.map_none, Option.getD_none, zero_add]
        apply hedits.valid.setHead
        · rw [hedits.head]
          unfold snapshotRefs Snapshot.withPtrs headRefs
          dsimp only
          rw [ptrsRefs_perm (Arena.values_remove_none hget)]
          rfl
        · exact hedits.valid.headShown snapshot hedits.head

/-- The pointer that leaves HEAD is dropped. -/
theorem remove_spec (h : Valid space leak) {τ : ι} {id : Index}
    (htype : ∀ ptr, space.ptrAt id = some ptr → ptr.typeId = τ) :
    (space.remove τ id).Ensures fun r =>
      r.1 = (if (space.ptrAt id).isSome then .ok () else .error {}) ∧
      ∃ snapshot, space.headSnapshot = some snapshot ∧
        Edits space r.2 (snapshot.withPtrs
          (Arena.remove id snapshot.tablePtrs).2) leak ∧
        Kept (r.2.refs + leak) space.storage r.2.storage := by
  unfold remove
  apply Ensures.bind (removePtr_spec h id)
  rintro ⟨snapshot, space'⟩ ⟨hhead, hptr, hedits, hkept⟩
  dsimp only at hhead hptr hedits hkept ⊢
  rcases hremove : Arena.remove id snapshot.tablePtrs with ⟨ptr, tablePtrs⟩
  rw [hremove] at hptr hedits
  dsimp only at hptr hedits ⊢
  rw [← hptr] at hedits htype ⊢
  cases ptr with
  | none =>
      rw [Option.map_none, Option.getD_none, zero_add] at hedits
      exact Ensures.pure ⟨rfl, snapshot, hhead, by rw [hremove]; exact hedits,
        hkept _⟩
  | some ptr =>
      obtain ⟨p, τ'⟩ := ptr
      cases htype _ rfl
      rw [Option.map_some, Option.getD_some] at hedits
      have hvalid := hedits.valid
      dsimp only
      apply Ensures.bind (Ensures.unwrap hvalid.tables)
      intro t ht
      subst ht
      apply Ensures.bind hvalid.counted.dropTablePtr_spec
      rintro t ⟨hcounted, hkeep⟩
      have hdrop := hvalid.dropPtr hcounted hkeep
      apply Ensures.pure
      refine ⟨rfl, snapshot, hhead, ⟨?_, hedits.snapshots, hdrop.1⟩, ?_⟩
      · rw [hremove]
        rfl
      · exact (hkept _).trans hdrop.2

/-- The object that is returned is the one that the pointer led to. -/
theorem pop_spec (h : Valid space leak) {τ : ι} {id : Index}
    (htype : ∀ ptr, space.ptrAt id = some ptr → ptr.typeId = τ) :
    (space.pop τ id).Ensures fun r =>
      ((∃ ptr x, space.ptrAt id = some ptr ∧
          (space.storage.table τ).item ptr.tablePtr = some x ∧
          r.1 = .ok x) ∨
        space.ptrAt id = none ∧ r.1 = .error {}) ∧
      ∃ snapshot, space.headSnapshot = some snapshot ∧
        Edits space r.2 (snapshot.withPtrs
          (Arena.remove id snapshot.tablePtrs).2) leak ∧
        Kept (r.2.refs + leak) space.storage r.2.storage := by
  unfold pop
  apply Ensures.bind (removePtr_spec h id)
  rintro ⟨snapshot, space'⟩ ⟨hhead, hptr, hedits, hkept⟩
  dsimp only at hhead hptr hedits hkept ⊢
  rcases hremove : Arena.remove id snapshot.tablePtrs with ⟨ptr, tablePtrs⟩
  rw [hremove] at hptr hedits
  dsimp only at hptr hedits ⊢
  rw [← hptr] at hedits htype ⊢
  cases ptr with
  | none =>
      rw [Option.map_none, Option.getD_none, zero_add] at hedits
      exact Ensures.pure ⟨Or.inr ⟨rfl, rfl⟩, snapshot, hhead,
        by rw [hremove]; exact hedits, hkept _⟩
  | some ptr =>
      obtain ⟨p, τ'⟩ := ptr
      cases htype _ rfl
      rw [Option.map_some, Option.getD_some] at hedits
      have hvalid := hedits.valid
      have hpos : 0 < holding [p]
          (((space'.setHead (snapshot.withPtrs tablePtrs)).refs + leak).1 τ')
          p := holding_pos_of_mem List.mem_cons_self _
      obtain ⟨x, hx⟩ := hvalid.counted.item_of_pos hpos
      dsimp only
      apply Ensures.bind (Ensures.unwrap hvalid.tables)
      intro t ht
      subst ht
      apply Ensures.bind (hvalid.counted.popOrGetItem_spec hx)
      rintro ⟨y, t⟩ ⟨hy, hcounted, hkeep⟩
      dsimp only at hy hcounted hkeep ⊢
      have hdrop := hvalid.dropPtr hcounted hkeep
      -- the copy of HEAD has the objects of HEAD
      have hold : (space.storage.table τ').item p = some x := by
        have hself := ptrRefs_self ⟨p, τ'⟩ (0 : Refs ι)
        dsimp only at hself
        rw [← (hkept (ptrRefs ⟨p, τ'⟩ + 0)).objects τ' p (by
          rw [hself]
          exact holding_pos_of_mem List.mem_cons_self _)]
        exact hx
      apply Ensures.pure
      refine ⟨Or.inl ⟨_, x, rfl, hold, by rw [hy]⟩, snapshot, hhead,
        ⟨?_, hedits.snapshots, hdrop.1⟩, ?_⟩
      · rw [hremove]
        rfl
      · exact (hkept _).trans hdrop.2

/-- The object is cloned if others hold it, too: only HEAD sees the change. -/
theorem getMut_spec (h : Valid space leak) {τ : ι} {id : Index}
    (f : Ty τ → Ty τ)
    (htype : ∀ ptr, space.ptrAt id = some ptr → ptr.typeId = τ) :
    (space.getMut τ id f).Ensures fun r =>
      ∃ snapshot, space.headSnapshot = some snapshot ∧
        ((space.ptrAt id = none ∧ r.1 = .error {} ∧
            Edits space r.2 snapshot leak ∧
            ∀ refs, Kept refs space.storage r.2.storage) ∨
          ∃ p p' x, space.ptrAt id = some ⟨p, τ⟩ ∧
            (space.storage.table τ).item p = some x ∧ r.1 = .ok () ∧
            Edits space r.2 (snapshot.withPtrs
              (Arena.set id ⟨p', τ⟩ snapshot.tablePtrs)) leak ∧
            (r.2.storage.table τ).item p' = some (f x) ∧
            Kept (snapshotRefs (snapshot.withPtrs
                (Arena.remove id snapshot.tablePtrs).2)
              + storedRefs space.snapshots + leak) space.storage
              r.2.storage) := by
  unfold getMut
  apply Ensures.bind (getHeadMut_spec h)
  rintro ⟨snapshot, space'⟩ ⟨hhead, hedits, hkept⟩
  dsimp only at hhead hedits hkept ⊢
  have hptr : space.ptrAt id = Arena.get id snapshot.tablePtrs :=
    ptrAt_eq hhead id
  rw [hptr] at htype ⊢
  cases hget : Arena.get id snapshot.tablePtrs with
  | none =>
      exact Ensures.pure ⟨snapshot, hhead, Or.inl ⟨rfl, rfl, hedits, hkept⟩⟩
  | some ptr =>
      obtain ⟨p, τ'⟩ := ptr
      cases htype _ hget
      have hvalid := hedits.valid.takePtr hedits.head hget
      have hcounted := hvalid.counted
      have hpos : 0 < holding [p]
          (((space'.setHead (snapshot.withPtrs
            (Arena.remove id snapshot.tablePtrs).2)).refs + leak).1 τ') p :=
        holding_pos_of_mem List.mem_cons_self _
      obtain ⟨x, hx⟩ := hcounted.item_of_pos hpos
      dsimp only
      apply Ensures.bind (Ensures.unwrap hvalid.tables)
      intro t ht
      subst ht
      apply Ensures.bind (hcounted.uniqueObject_spec hx)
      rintro ⟨p', t⟩ ⟨hfresh, hcounted', hx', hkeep⟩
      dsimp only at hfresh hcounted' hx' hkeep ⊢
      have hone : t.refs p' = 1 := by
        rw [hcounted'.refs, holding_self, hfresh]
      apply Ensures.bind (Table.getItemMut_spec hcounted'.wf hone)
      rintro o ⟨ho, _⟩
      rw [hx'] at ho
      apply Ensures.bind (Ensures.unwrap ho)
      intro y hy
      subst hy
      have hrefs : 0 < t.refs p' := by omega
      have hbecomes := Table.becomes_setItem hcounted'.wf hrefs (f y)
      have hset : (t.setItem p' (f y)).Counted (holding [p']
          (((space'.setHead (snapshot.withPtrs
            (Arena.remove id snapshot.tablePtrs).2)).refs + leak).1 τ')) :=
        hcounted'.becomes hbecomes (hcounted'.refs p').symm fun _ _ => rfl
      have hkeep' : ∀ q, 0 < ((space'.setHead (snapshot.withPtrs
            (Arena.remove id snapshot.tablePtrs).2)).refs + leak).1 τ' q →
          (t.setItem p' (f y)).item q
            = (space'.storage.table τ').item q := by
        intro q hq
        have hne : q ≠ p' := by
          intro heq
          rw [heq] at hq
          omega
        rw [hbecomes.item_ne hne]
        exact hkeep q hq
      have hmove := hvalid.movePtr hset hkeep'
      have hself := ptrRefs_self ⟨p, τ'⟩ (0 : Refs ι)
      dsimp only at hself
      have hold : (space.storage.table τ').item p = some y := by
        rw [← (hkept (ptrRefs ⟨p, τ'⟩ + 0)).objects τ' p (by
          rw [hself]
          exact holding_pos_of_mem List.mem_cons_self _)]
        exact hx
      apply Ensures.pure
      refine ⟨snapshot, hhead, Or.inr ⟨p, p', y, rfl, hold, rfl,
        ⟨rfl, hedits.snapshots, ?_⟩, ?_, ?_⟩⟩
      · exact hmove.1.putPtr
          (s := snapshot.withPtrs (Arena.remove id snapshot.tablePtrs).2) rfl
          (Arena.values_set _ hget)
      · show ((space'.storage.setTable τ' _).table τ').item p' = _
        rw [SpaceTimeStorage.table_setTable_self]
        exact hbecomes.item_self
      · have hkept' := hmove.2
        have hsnapshots : storedRefs space.snapshots
            = storedRefs space'.snapshots := by rw [hedits.snapshots]
        rw [hsnapshots]
        exact (hkept _).trans hkept'

end SpaceTime

end RedPlanet.SpaceTime
