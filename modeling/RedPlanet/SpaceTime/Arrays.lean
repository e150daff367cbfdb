import RedPlanet.SpaceTime.Objects

/-!
# Arrays in a space time

What the operations on arrays do: to the entries of HEAD and to the array they
are about.  A reset page outlives its array.

There is a specification for each of `insert_array`, `remove_array` and
`get_array_mut`, from a state that satisfies the invariant (`Valid`): the call
keeps the invariant, with one more page that leaks where an array goes, HEAD
denotes what it should, and all else that is held shows what it showed
(`represents_kept`).
-/

set_option linter.dupNamespace false

namespace RedPlanet.SpaceTime

open RedPlanet.Core RedPlanet.Verified Limited

variable {ι : Type} {A : Type → Type}

/-- The snapshot with another arena of arrays. -/
def Snapshot.withInstances (snapshot : Snapshot A ι)
    (instances : A (TypedInstance ι)) : Snapshot A ι :=
  { snapshot with instances := instances }

/-- What an access does to a flat array, and what it returns. -/
def ArrayAccess.apply {T : Type} (access : ArrayAccess T) (content : Flat T)
    (value : T) : Bool × Flat T :=
  match access with
  | .leave => (true, content)
  | .getMut index f =>
      let result := content.set index.toNat (f (content.elem index.toNat))
      (result.isSome, result.getD content)
  | .write index buf =>
      let result := content.write index.toNat buf
      (result.isSome, result.getD content)
  | .reset => (true, Flat.replicate content.size value)

theorem ArrayAccess.apply_size {T : Type} (access : ArrayAccess T)
    (content : Flat T) (value : T) :
    (access.apply content value).2.size = content.size := by
  cases access with
  | leave => rfl
  | getMut index f =>
      unfold apply Flat.set
      by_cases hindex : index.toNat < content.size
      · simp [hindex]
      · simp [hindex]
  | write index buf =>
      unfold apply Flat.write
      by_cases hfits : index.toNat + buf.length ≤ content.size
      · simp [hfits]
      · simp [hfits]
  | reset => rfl

/-- What a reading access returns of a flat array. -/
def ReadAccess.apply {T : Type} (access : ReadAccess T) (content : Flat T) :
    Option (List T) :=
  match access with
  | .get index => (content.get index.toNat).map fun x => [x]
  | .read buf index => content.read index.toNat buf.length
  | .iterRange start len => content.read start.toNat len.toNat

/-- Arrays of a space time have three layers, and fewer than `2 ^ 31` pages. -/
theorem Represents.room_of_layers {T : Type} {storage : DefaultStorage T}
    {array : Instance} {content : Flat T} {value : T}
    (h : Represents storage array content value) (n : ℕ) :
    min n content.size + 2 * capacity 3 ≤ 2 ^ 64 := by
  have hcapacity : capacity 3 = 2 ^ 24 := by decide
  have hsize := h.size
  have hcount := h.count
  have hroom := h.room
  rw [hcapacity] at hroom ⊢
  omega

section Build

variable [Build]

theorem ReadAccess.run_spec {T : Type} {storage : DefaultStorage T}
    {array : Instance} {content : Flat T} {value : T} {R : TablePtr → ℕ}
    (h : Owned storage R) (hheld : ∀ ptr ∈ array.ptrs, 0 < R ptr)
    (hshows : Represents storage array content value)
    (hsize : content.size < 2 ^ 64) (access : ReadAccess T) :
    (access.run storage array).Ensures fun r => r = access.apply content := by
  cases access with
  | get index =>
      unfold ReadAccess.run
      apply Ensures.bind
        (Instance.get_spec h (by decide) hheld hshows index.toNat)
      intro x hx
      rw [hx]
      exact Ensures.pure rfl
  | read buf index =>
      unfold ReadAccess.run
      apply Ensures.bind (Instance.read_spec h (by decide) hheld hshows
        index.toNat (hshows.room_of_layers buf.length))
      rintro ⟨result, items⟩ hresult
      apply Ensures.pure
      simp only [ReadAccess.apply]
      rcases hresult with ⟨items', hitems, heq⟩ | ⟨hnone, heq⟩
      · cases heq
        rw [hitems]
        rfl
      · cases heq
        rw [hnone]
        rfl
  | iterRange start len =>
      exact Instance.iterRange_spec h (by decide) hheld hshows start.toNat
        len.toNat hsize

theorem ArrayAccess.run_spec {T : Type} {storage : DefaultStorage T}
    {array : Instance} {content : Flat T} {value : T} {R : TablePtr → ℕ}
    (h : Owned storage (holding array.ptrs R))
    (hshows : Represents storage array content value)
    (access : ArrayAccess T) :
    (access.run storage array).Ensures fun r =>
      r.1 = (access.apply content value).1 ∧
        Updates storage r.2.2 r.2.1 (access.apply content value).2 value R := by
  have hsame : Updates storage storage array content value R :=
    ⟨h, Keeps.refl, hshows⟩
  cases access with
  | leave => exact Ensures.pure ⟨rfl, hsame⟩
  | getMut index f =>
      apply (Instance.getMut_spec f h (by decide) hshows index.toNat).imp
      rintro ⟨result, array', storage'⟩ hresult
      simp only [ArrayAccess.apply]
      rcases hresult with ⟨content', hset, htrue, hupdates⟩ | ⟨hset, hnone⟩
      · rw [hset]
        exact ⟨htrue, hupdates⟩
      · rw [hset]
        cases hnone
        exact ⟨rfl, hsame⟩
  | write index buf =>
      apply (Instance.write_spec h (by decide) hshows index.toNat
        (hshows.room_of_layers buf.length)).imp
      rintro ⟨result, array', storage'⟩ hresult
      simp only [ArrayAccess.apply]
      rcases hresult with ⟨content', hset, htrue, hupdates⟩ | ⟨hset, hnone⟩
      · rw [hset]
        exact ⟨htrue, hupdates⟩
      · rw [hset]
        cases hnone
        exact ⟨rfl, hsame⟩
  | reset =>
      unfold ArrayAccess.run
      apply Ensures.bind (Instance.reset_spec h hshows)
      rintro ⟨array', storage'⟩ hupdates
      exact Ensures.pure ⟨rfl, hupdates⟩

end Build

variable [DecidableEq ι] [Arena A] {Ty : ι → Type}

theorem snapshotRefs_withInstances {snapshot : Snapshot A ι}
    {instances : A (TypedInstance ι)} {array : TypedInstance ι}
    {rest : List (TypedInstance ι)}
    (h : (Arena.values instances).Perm (array :: rest)) :
    snapshotRefs (snapshot.withInstances instances)
      = arrayRefs array + (ptrsRefs (Arena.values snapshot.tablePtrs)
        + arraysRefs rest) := by
  unfold snapshotRefs Snapshot.withInstances
  dsimp only
  rw [arraysRefs_perm h, arraysRefs_cons, add_left_comm]

omit [DecidableEq ι] in
theorem Shown.perm {storage : SpaceTimeStorage Ty}
    {arrays arrays' : List (TypedInstance ι)} (h : Shown storage arrays)
    (hmem : ∀ array, array ∈ arrays' → array ∈ arrays) :
    Shown storage arrays' := fun array harray => h array (hmem array harray)

namespace SpaceTime

variable {space : SpaceTime A Ty} {leak : Refs ι}

/-! ## An array that no snapshot has -/

theorem Valid.owned {inst : Instance} {τ : ι}
    (h : Valid space (arrayRefs ⟨inst, τ⟩ + leak)) :
    Owned (space.storage.arrays τ)
      (holding inst.ptrs ((space.refs + leak).2 τ)) := by
  have howned := h.held.pages τ
  have hself := arrayRefs_self ⟨inst, τ⟩ (space.refs + leak)
  dsimp only at hself
  rw [add_left_comm, hself] at howned
  exact howned

theorem Valid.arrayStorage {inst : Instance} {τ : ι}
    (h : Valid space (arrayRefs ⟨inst, τ⟩ + leak)) :
    space.storage.arrayStorage τ = some (space.storage.arrays τ) := by
  have hpos : 0 < (space.refs + (arrayRefs ⟨inst, τ⟩ + leak)).2 τ
      inst.resetPage := by
    have hself := arrayRefs_self ⟨inst, τ⟩ (space.refs + leak)
    dsimp only at hself
    rw [add_left_comm, hself]
    exact holding_pos_of_mem List.mem_cons_self _
  exact h.held.arrayStorage_of_pos hpos

theorem kept_setArrays {refs : Refs ι} {storage : SpaceTimeStorage Ty} {τ : ι}
    {s : DefaultStorage (Ty τ)}
    (hkeep : Keeps (refs.2 τ) (storage.arrays τ) s) :
    Kept refs storage (storage.setArrays τ s) where
  objects := fun _ _ _ => rfl
  pages := fun τ' => by
    by_cases hτ : τ' = τ
    · subst hτ
      rw [SpaceTimeStorage.arrays_setArrays_self]
      exact hkeep
    · rw [SpaceTimeStorage.arrays_setArrays_ne hτ]
      exact Keeps.refl

/-- The arrays of one type change for one holder. -/
theorem Valid.setArrays {extra : Refs ι} {τ : ι} {s : DefaultStorage (Ty τ)}
    (h : Valid space (extra + leak)) {extra' : Refs ι}
    (howned : Owned s ((extra' + (space.refs + leak)).2 τ))
    (hne : ∀ τ', τ' ≠ τ → extra'.2 τ' = extra.2 τ')
    (hobjects : extra'.1 = extra.1)
    (hkeep : Keeps ((space.refs + leak).2 τ) (space.storage.arrays τ) s) :
    Valid (space.setStorage (space.storage.setArrays τ s)) (extra' + leak) ∧
      Kept (space.refs + leak) space.storage
        (space.storage.setArrays τ s) := by
  have hkept := kept_setArrays hkeep
  have hheld := h.held
  rw [add_left_comm] at hheld
  refine ⟨h.setStorage ?_ (hkept.right _), hkept⟩
  rw [add_left_comm]
  apply hheld.setArrays howned
  · intro τ' hτ'
    funext q
    show extra'.2 τ' q + _ = extra.2 τ' q + _
    rw [hne τ' hτ']
  · funext τ' q
    show extra'.1 τ' q + _ = extra.1 τ' q + _
    rw [hobjects]

/-- The pages are gone. -/
theorem Valid.dropArray {inst : Instance} {τ : ι} {s : DefaultStorage (Ty τ)}
    (h : Valid space (arrayRefs ⟨inst, τ⟩ + leak))
    (howned : Owned s (holding [inst.resetPage] ((space.refs + leak).2 τ)))
    (hkeep : Keeps ((space.refs + leak).2 τ) (space.storage.arrays τ) s) :
    Valid (space.setStorage (space.storage.setArrays τ s))
        (resetRefs ⟨inst, τ⟩ + leak) ∧
      Kept (space.refs + leak) space.storage
        (space.storage.setArrays τ s) := by
  have hreset : (resetRefs ⟨inst, τ⟩ + (space.refs + leak)).2 τ
      = holding [inst.resetPage] ((space.refs + leak).2 τ) := by
    funext q
    simp [resetRefs, holding]
  rw [← hreset] at howned
  apply h.setArrays howned _ rfl hkeep
  intro τ' hτ'
  simp [resetRefs, arrayRefs, hτ']

/-- The array is exchanged for another one. -/
theorem Valid.moveArray {inst inst' : Instance} {τ : ι}
    {s : DefaultStorage (Ty τ)}
    (h : Valid space (arrayRefs ⟨inst, τ⟩ + leak))
    (howned : Owned s (holding inst'.ptrs ((space.refs + leak).2 τ)))
    (hkeep : Keeps ((space.refs + leak).2 τ) (space.storage.arrays τ) s) :
    Valid (space.setStorage (space.storage.setArrays τ s))
        (arrayRefs ⟨inst', τ⟩ + leak) ∧
      Kept (space.refs + leak) space.storage
        (space.storage.setArrays τ s) := by
  have hself := arrayRefs_self ⟨inst', τ⟩ (space.refs + leak)
  dsimp only at hself
  rw [← hself] at howned
  apply h.setArrays howned _ rfl hkeep
  intro τ' hτ'
  simp [arrayRefs, hτ']

/-! ## Entries of HEAD -/

/-- An array is put into HEAD. -/
theorem Valid.putArray {s : Snapshot A ι}
    {instances : A (TypedInstance ι)} {inst : Instance} {τ : ι}
    (h : Valid space (arrayRefs ⟨inst, τ⟩ + leak))
    (hhead : space.head = .dirty s)
    (hperm : (Arena.values instances).Perm
      (⟨inst, τ⟩ :: Arena.values s.instances))
    {content : Flat (Ty τ)} {value : Ty τ}
    (hshows : Represents (space.storage.arrays τ) inst content value)
    (hsize : content.size < 2 ^ 64) :
    Valid (space.setHead (s.withInstances instances)) leak := by
  apply h.setHead
  · rw [snapshotRefs_withInstances hperm, hhead, add_assoc, add_left_comm]
    rfl
  · intro array harray
    rcases List.mem_cons.1 (hperm.mem_iff.1 harray) with heq | hmem
    · rw [heq]
      exact ⟨content, value, hshows, hsize⟩
    · exact h.headShown s hhead array hmem

variable [LawfulArena A]

/-- An array is taken out of HEAD. -/
theorem Valid.takeArray {snapshot : Snapshot A ι} {id : Index}
    {array : TypedInstance ι} (h : Valid space leak)
    (hhead : space.head = .dirty snapshot)
    (hget : Arena.get id snapshot.instances = some array) :
    Valid (space.setHead (snapshot.withInstances
      (Arena.remove id snapshot.instances).2)) (arrayRefs array + leak) := by
  have hperm := Arena.values_remove hget
  apply h.setHead
  · have hold : snapshotRefs (snapshot.withInstances snapshot.instances) = _ :=
      snapshotRefs_withInstances hperm
    rw [hhead]
    show _ = snapshotRefs (snapshot.withInstances snapshot.instances) + leak
    rw [hold, ← add_assoc, add_comm _ (arrayRefs array)]
    rfl
  · apply (h.headShown snapshot hhead).perm
    intro array' harray'
    exact hperm.mem_iff.2 (List.mem_cons_of_mem _ harray')

/-! ## The operations -/

/-- The array that an id names in HEAD. -/
def arrayAt (space : SpaceTime A Ty) (id : Index) :
    Option (TypedInstance ι) :=
  space.headSnapshot.bind fun snapshot => Arena.get id snapshot.instances

omit [DecidableEq ι] [LawfulArena A] in
theorem arrayAt_eq {space : SpaceTime A Ty} {snapshot : Snapshot A ι}
    (h : space.headSnapshot = some snapshot) (id : Index) :
    space.arrayAt id = Arena.get id snapshot.instances := by
  unfold arrayAt
  rw [h]
  rfl

/-- The pages of an array that is held are the same in all storages that keep
them. -/
theorem represents_kept {storage storage' : SpaceTimeStorage Ty} {τ : ι}
    {inst : Instance} {content : Flat (Ty τ)} {value : Ty τ}
    (h : Represents (storage.arrays τ) inst content value)
    (hkept : ∀ refs : Refs ι, Kept refs storage storage') :
    Represents (storage'.arrays τ) inst content value := by
  apply h.keeps ((hkept (arrayRefs ⟨inst, τ⟩ + 0)).pages τ)
  intro q hq
  have hself := arrayRefs_self ⟨inst, τ⟩ (0 : Refs ι)
  dsimp only at hself
  rw [hself]
  exact holding_pos_of_mem hq _

variable [Build]

/-- The new array shows its value everywhere. -/
theorem insertArray_spec (h : Valid space leak) (τ : ι) (object : Ty τ)
    (n : BitVec 64) :
    (space.insertArray τ object n).Ensures fun r =>
      ∃ snapshot inst, space.headSnapshot = some snapshot ∧
        r.1 = (Arena.insert ⟨inst, τ⟩ snapshot.instances).1 ∧
        Edits space r.2 (snapshot.withInstances
          (Arena.insert ⟨inst, τ⟩ snapshot.instances).2) leak ∧
        Represents (r.2.storage.arrays τ) inst
          (Flat.replicate n.toNat object) object ∧
        Kept (space.refs + leak) space.storage r.2.storage := by
  unfold insertArray
  apply Ensures.bind
    (newInstance_spec object n.toNat (h.held.pages τ) (by decide))
  rintro ⟨inst, s⟩ ⟨howned, hkeep, hshows⟩
  dsimp only at howned hkeep hshows ⊢
  have hvalid : Valid space (0 + leak) := by
    rw [zero_add]
    exact h
  have hself := arrayRefs_self ⟨inst, τ⟩ (space.refs + leak)
  dsimp only at hself
  rw [← hself] at howned
  have hset := hvalid.setArrays howned
    (fun τ' hτ' => by simp [arrayRefs, hτ']) rfl hkeep
  apply Ensures.bind (getHeadMut_spec hset.1)
  rintro ⟨snapshot, space'⟩ ⟨hhead, hedits, hkept⟩
  dsimp only at hhead hedits hkept ⊢
  have hshows' : Represents (space'.storage.arrays τ) inst
      (Flat.replicate n.toNat object) object := by
    apply represents_kept _ hkept
    show Represents ((space.storage.setArrays τ s).arrays τ) _ _ _
    rw [SpaceTimeStorage.arrays_setArrays_self]
    exact hshows
  apply Ensures.pure
  refine ⟨snapshot, inst, hhead, rfl, ⟨rfl, hedits.snapshots, ?_⟩, hshows', ?_⟩
  · exact hedits.valid.putArray hedits.head (Arena.values_insert _ _) hshows'
      n.isLt
  · exact hset.2.trans (hkept _)

/-- The pages that leave HEAD are dropped, the reset page is not. -/
theorem removeArray_spec (h : Valid space leak) {τ : ι} {id : Index}
    (htype : ∀ array, space.arrayAt id = some array → array.typeId = τ) :
    (space.removeArray τ id).Ensures fun r =>
      r.1 = (if (space.arrayAt id).isSome then .ok () else .error {}) ∧
      ∃ snapshot, space.headSnapshot = some snapshot ∧
        Edits space r.2 (snapshot.withInstances
            (Arena.remove id snapshot.instances).2)
          (((space.arrayAt id).map resetRefs).getD 0 + leak) ∧
        Kept (r.2.refs + leak) space.storage r.2.storage := by
  unfold removeArray
  apply Ensures.bind (getHeadMut_spec h)
  rintro ⟨snapshot, space'⟩ ⟨hhead, hedits, hkept⟩
  dsimp only at hhead hedits hkept ⊢
  have hat : space.arrayAt id = (Arena.remove id snapshot.instances).1 := by
    rw [LawfulArena.remove_fst]
    exact arrayAt_eq hhead id
  have hget := LawfulArena.remove_fst id snapshot.instances
  have hnone := Arena.values_remove_none (i := id) (a := snapshot.instances)
  have htake : ∀ array, Arena.get id snapshot.instances = some array →
      Valid (space'.setHead (snapshot.withInstances
        (Arena.remove id snapshot.instances).2)) (arrayRefs array + leak) :=
    fun array harray => hedits.valid.takeArray hedits.head harray
  rcases hremove : Arena.remove id snapshot.instances with ⟨array, instances⟩
  rw [hremove] at hat hget hnone htake
  dsimp only at hat hget hnone htake ⊢
  rw [hat] at htype ⊢
  cases array with
  | none =>
      rw [Option.map_none, Option.getD_none, zero_add]
      refine Ensures.pure ⟨rfl, snapshot, hhead,
        ⟨by rw [hremove]; rfl, hedits.snapshots, ?_⟩, hkept _⟩
      apply hedits.valid.setHead
      · rw [hedits.head]
        unfold snapshotRefs headRefs
        dsimp only
        rw [arraysRefs_perm (hnone hget.symm)]
        rfl
      · apply (hedits.valid.headShown snapshot hedits.head).perm
        intro array harray
        exact (hnone hget.symm).mem_iff.1 harray
  | some array =>
      obtain ⟨inst, τ'⟩ := array
      cases htype _ rfl
      have hvalid := htake _ hget.symm
      rw [Option.map_some, Option.getD_some]
      dsimp only
      apply Ensures.bind (Ensures.unwrap hvalid.arrayStorage)
      intro s hs
      subst hs
      have howned := hvalid.owned
      rw [holding_ptrs] at howned
      apply Ensures.bind (dropPages_spec howned)
      rintro s ⟨howned', hkeep⟩
      have hdrop := hvalid.dropArray howned'
        (hkeep.imp fun _ hq => holding_pos hq _)
      apply Ensures.pure
      refine ⟨rfl, snapshot, hhead, ⟨?_, hedits.snapshots, hdrop.1⟩, ?_⟩
      · rw [hremove]
        rfl
      · exact (hkept _).trans hdrop.2

/-- The array that an id names is exchanged for the one after the access. -/
theorem getArrayMut_spec (h : Valid space leak) {τ : ι} {id : Index}
    (access : ArrayAccess (Ty τ))
    (htype : ∀ array, space.arrayAt id = some array → array.typeId = τ) :
    (space.getArrayMut τ id access).Ensures fun r =>
      ∃ snapshot, space.headSnapshot = some snapshot ∧
        ((space.arrayAt id = none ∧ r.1 = .error {} ∧
            Edits space r.2 snapshot leak ∧
            ∀ refs, Kept refs space.storage r.2.storage) ∨
          ∃ inst inst' content value, space.arrayAt id = some ⟨inst, τ⟩ ∧
            Represents (space.storage.arrays τ) inst content value ∧
            r.1 = .ok (access.apply content value).1 ∧
            Edits space r.2 (snapshot.withInstances
              (Arena.set id ⟨inst', τ⟩ snapshot.instances)) leak ∧
            Represents (r.2.storage.arrays τ) inst'
              (access.apply content value).2 value ∧
            Kept (snapshotRefs (snapshot.withInstances
                (Arena.remove id snapshot.instances).2)
              + storedRefs space.snapshots + leak) space.storage
              r.2.storage) := by
  unfold getArrayMut
  apply Ensures.bind (getHeadMut_spec h)
  rintro ⟨snapshot, space'⟩ ⟨hhead, hedits, hkept⟩
  dsimp only at hhead hedits hkept ⊢
  have hat : space.arrayAt id = Arena.get id snapshot.instances :=
    arrayAt_eq hhead id
  rw [hat] at htype ⊢
  cases hget : Arena.get id snapshot.instances with
  | none =>
      exact Ensures.pure ⟨snapshot, hhead, Or.inl ⟨rfl, rfl, hedits, hkept⟩⟩
  | some array =>
      obtain ⟨inst, τ'⟩ := array
      cases htype _ hget
      have hmem := Arena.mem_values.2 ⟨id, hget⟩
      obtain ⟨content, value, hshows, hsize⟩ :=
        hedits.valid.headShown snapshot hedits.head _ hmem
      dsimp only at content value hshows hsize
      have hvalid := hedits.valid.takeArray hedits.head hget
      dsimp only
      apply Ensures.bind (Ensures.unwrap hvalid.arrayStorage)
      intro s hs
      subst hs
      apply Ensures.bind (access.run_spec hvalid.owned hshows)
      rintro ⟨result, inst', s⟩ ⟨hresult, hupdates⟩
      dsimp only at hresult hupdates ⊢
      have hmove := hvalid.moveArray hupdates.owned hupdates.keeps
      have hshows' : Represents
          (((space'.storage.setArrays τ' s).arrays τ')) inst'
          (access.apply content value).2 value := by
        rw [SpaceTimeStorage.arrays_setArrays_self]
        exact hupdates.shows
      have hold : Represents (space.storage.arrays τ') inst content value := by
        have hback : ∀ refs : Refs ι, Kept refs space'.storage space.storage :=
          fun refs => ⟨fun τ q hq => ((hkept refs).objects τ q hq).symm,
            fun τ q hq i => ((hkept refs).pages τ q hq i).symm⟩
        exact represents_kept hshows hback
      apply Ensures.pure
      refine ⟨snapshot, hhead, Or.inr ⟨inst, inst', content, value, rfl, hold,
        by rw [hresult], ⟨rfl, hedits.snapshots, ?_⟩, hshows', ?_⟩⟩
      · exact hmove.1.putArray
          (s := snapshot.withInstances (Arena.remove id snapshot.instances).2)
          rfl (Arena.values_set _ hget) hshows'
          (by rw [access.apply_size]; exact hsize)
      · have hkept' := hmove.2
        have hsnapshots : storedRefs space.snapshots
            = storedRefs space'.snapshots := by rw [hedits.snapshots]
        rw [hsnapshots]
        exact (hkept _).trans hkept'

end SpaceTime

end RedPlanet.SpaceTime
