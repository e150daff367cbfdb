import RedPlanet.SpaceTime.Isolation
import RedPlanet.Verified.Lineage

/-!
# Ids across snapshots

A snapshot is cloned by collecting its arenas, which names the entries anew.
Their ids survive if HEAD is numbered as a collected arena is, and are lost
where an id is missing.  A HEAD that is checked out always is, a dirty one
until an entry is removed that is not the last one.

`Reachable.ids_survive` is the result for every reachable state within the
limits, `Valid.numbered` where the condition comes from, and
`holed_not_survives` a HEAD with an id missing.
-/

set_option linter.dupNamespace false

namespace RedPlanet.SpaceTime

open RedPlanet.Core RedPlanet.Verified Limited

variable {ι : Type} [DecidableEq ι] {A : Type → Type} [Arena A]
  {Ty : ι → Type}

/-- The entries have the ids that a clone gives to them. -/
structure Snapshot.Numbered (snapshot : Snapshot A ι) : Prop where
  tablePtrs : Arena.Numbered snapshot.tablePtrs
  instances : Arena.Numbered snapshot.instances

/-- The iterators go up through the slots. -/
structure Snapshot.Ascending (snapshot : Snapshot A ι) : Prop where
  tablePtrs : Arena.Ascending snapshot.tablePtrs
  instances : Arena.Ascending snapshot.instances

namespace SpaceTime

/-- What HEAD shows is numbered. -/
def Numbered (space : SpaceTime A Ty) : Prop :=
  ∀ snapshot, space.headSnapshot = some snapshot → snapshot.Numbered

def Ascending (space : SpaceTime A Ty) : Prop :=
  ∀ snapshot, space.headSnapshot = some snapshot → snapshot.Ascending

/-- HEAD shows the same under every id after it is cloned to be changed, after
a snapshot is made of it, and when that snapshot is checked out again. -/
structure Survives [Build] (space : SpaceTime A Ty) : Prop where
  clone : space.getHeadMut.exceeded = false →
    ∃ r, space.getHeadMut.result = .ok r ∧ space.Agrees r.2
  make : Operation.Within .makeSnapshot space →
    ∃ id space', (Operation.makeSnapshot.run space).result
      = .ok (.id id, space') ∧ space.Agrees space'
  checkout : ∀ (id : Index) (space₁ space₂ space₃ : SpaceTime A Ty)
    (reply : Reply Ty), Operation.Within .makeSnapshot space →
      (Operation.makeSnapshot.run space).result = .ok (.id id, space₁) →
        Relation.ReflTransGen (Next fun op space => op.Typed space ∧
            op.Within space ∧ op ≠ .dropSnapshot id) space₁ space₂ →
          Operation.Within (.checkout id) space₂ →
            ((Operation.checkout id).run space₂).result
                = .ok (reply, space₃) → space.Agrees space₃

end SpaceTime

/-! ## Cloning returns -/

section Build

variable [Build]

omit [Build] in
theorem mapItems_roomy {α β σ : Type} {f : α → σ → Limited (β × σ)}
    (hf : ∀ item state, (f item state).Roomy) (items : List α) (state : σ) :
    (mapItems f items state).Roomy := by
  induction items generalizing state with
  | nil => exact Roomy.pure _
  | cons item items ih =>
      exact (hf _ _).bind fun _ => (ih _).bind fun _ => Roomy.pure _

theorem ArrayStorage.cloneTablePtr_roomy {T : Type} {layers : ℕ}
    (storage : ArrayStorage T layers) (ptr : TablePtr) :
    (storage.cloneTablePtr ptr).Roomy := by
  cases storage with
  | data t => exact (t.cloneTablePtr_roomy ptr).bind fun _ => Roomy.pure _
  | pages t next => exact (t.cloneTablePtr_roomy ptr).bind fun _ => Roomy.pure _

theorem SpaceTimeStorage.cloneSnapshot_roomy (storage : SpaceTimeStorage Ty)
    (snapshot : Snapshot A ι) : (storage.cloneSnapshot snapshot).Roomy := by
  apply (mapItems_roomy _ _ _).bind
  · intro r
    apply (mapItems_roomy _ _ _).bind fun _ => Roomy.pure _
    intro array storage
    apply (Roomy.unwrap _).bind
    intro s
    apply Roomy.bind _ fun _ => Roomy.pure _
    apply (mapItems_roomy (fun ptr s => s.cloneTablePtr_roomy ptr) _ _).bind
    intro r
    exact (r.2.cloneTablePtr_roomy _).bind fun _ => Roomy.pure _
  · intro ptr storage
    apply (Roomy.unwrap _).bind
    intro t
    exact (t.cloneTablePtr_roomy _).bind fun _ => Roomy.pure _

namespace SpaceTime

theorem getHeadMut_roomy (space : SpaceTime A Ty) : space.getHeadMut.Roomy := by
  unfold getHeadMut
  cases space.head with
  | dirty snapshot => exact Roomy.pure _
  | checkout snapshotId =>
      apply (Roomy.unwrap _).bind
      intro snapshot
      exact (space.storage.cloneSnapshot_roomy _).bind fun _ => Roomy.pure _

theorem makeSnapshot_roomy (space : SpaceTime A Ty) :
    (Operation.makeSnapshot.run space).Roomy := by
  apply Roomy.bind _ fun _ => Roomy.pure _
  apply Roomy.bind space.getHead_unlimited.room
  intro snapshot
  exact (space.storage.cloneSnapshot_roomy _).bind fun _ => Roomy.pure _

end SpaceTime

end Build

/-! ## Numbered snapshots -/

variable [LawfulArena A]

omit [DecidableEq ι] in
/-- A clone is numbered. -/
theorem Snapshot.numbered_of_collected {snapshot : Snapshot A ι}
    (h : snapshot.collected = snapshot) : snapshot.Numbered := by
  rw [← h]
  exact ⟨Arena.numbered_collect _, Arena.numbered_collect _⟩

namespace SpaceTime

variable {space space' space₁ space₂ : SpaceTime A Ty} {leak leak' : Refs ι}

theorem Valid.numbered_of_checkout (h : Valid space leak) {id : Index}
    (hhead : space.head = .checkout id) : space.Numbered := by
  intro snapshot hsnapshot
  unfold SpaceTime.headSnapshot at hsnapshot
  rw [hhead] at hsnapshot
  exact Snapshot.numbered_of_collected
    (h.collected snapshot (Arena.mem_values.2 ⟨id, hsnapshot⟩))

omit [DecidableEq ι] in
/-- Ids of a numbered HEAD name the same in the clone. -/
theorem Numbered.entries (h : space.Numbered) {snapshot : Snapshot A ι}
    (hhead : space.headSnapshot = some snapshot)
    (hhead' : space'.headSnapshot = some snapshot.collected) :
    (∀ id, space'.ptrAt id = space.ptrAt id) ∧
      ∀ id, space'.arrayAt id = space.arrayAt id := by
  have hnumbered := h snapshot hhead
  unfold ptrAt arrayAt
  rw [hhead, hhead']
  exact ⟨hnumbered.tablePtrs.get_collect, hnumbered.instances.get_collect⟩

variable [Build]

omit [DecidableEq ι] [LawfulArena A] in
theorem Agrees.trans (h : space.Agrees space₁) (h' : space₁.Agrees space₂)
    (hentries : (∀ id, space₁.ptrAt id = space.ptrAt id) ∧
      ∀ id, space₁.arrayAt id = space.arrayAt id) : space.Agrees space₂ where
  objects := fun τ id htype => by
    have htype' := htype
    rw [← hentries.1] at htype'
    exact (h'.objects τ id htype').trans (h.objects τ id htype)
  arrays := fun τ id access htype => by
    have htype' := htype
    rw [← hentries.2] at htype'
    exact (h'.arrays τ id access htype').trans (h.arrays τ id access htype)

/-! ## Making a snapshot -/

/-- The new snapshot is the collected HEAD, and it is checked out. -/
theorem Valid.run_makeSnapshot (h : Valid space leak) {snapshot : Snapshot A ι}
    (hhead : space.headSnapshot = some snapshot) :
    (Operation.makeSnapshot.run space).Ensures fun r =>
      ∃ id leak', r.1 = .id id ∧ r.2.head = .checkout id ∧
        r.2.headSnapshot = some snapshot.collected ∧ Valid r.2 leak' ∧
        ∀ refs, Kept refs space.storage r.2.storage := by
  apply Ensures.bind (makeSnapshot_spec h)
  rintro ⟨id, space'⟩ ⟨snapshot', hsnapshot, hid, hhead', hsnapshots, hvalid,
    hkept⟩
  rw [hhead] at hsnapshot
  cases hsnapshot
  dsimp only at hid hhead' hsnapshots hvalid hkept
  refine Ensures.pure ⟨id, _, rfl, hhead', ?_, hvalid, hkept⟩
  unfold SpaceTime.headSnapshot
  dsimp only
  rw [hhead', hsnapshots, hid]
  exact LawfulArena.get_insert_self _ _

/-- A HEAD that is numbered survives. -/
theorem Valid.survives (h : Valid space leak) (hnumbered : space.Numbered) :
    space.Survives where
  clone := fun hlimit => by
    obtain ⟨r, hresult, hhead, hedits, hkept⟩ :=
      space.getHeadMut_roomy.ok_of_ensures (getHeadMut_spec h) hlimit
    refine ⟨r, hresult, ?_⟩
    apply h.agrees hedits.valid hhead (entries_of_headSnapshot _) (hkept _)
    rw [hhead]
    unfold SpaceTime.headSnapshot
    rw [hedits.head]
  make := fun hlimit => by
    obtain ⟨snapshot, hhead⟩ := h.headSnapshot
    obtain ⟨⟨reply, space'⟩, hresult, id, leak', hreply, _, hhead', hvalid,
      hkept⟩ := space.makeSnapshot_roomy.ok_of_ensures
        (h.run_makeSnapshot hhead) hlimit
    cases hreply
    refine ⟨id, space', hresult, ?_⟩
    exact h.agrees hvalid hhead (hnumbered.entries hhead hhead') (hkept _)
  checkout := by
    intro id space₁ space₂ space₃ reply hlimit hmake hrun hlimit₂ hcheckout
    obtain ⟨snapshot, hhead⟩ := h.headSnapshot
    obtain ⟨id', leak', hreply, hhead₁, hsnapshot₁, hvalid₁, hkept⟩ :=
      (h.run_makeSnapshot hhead).of_ok hlimit hmake
    cases hreply
    have hentries := hnumbered.entries hhead hsnapshot₁
    have hagrees := h.agrees hvalid₁ hhead hentries (hkept _)
    have hagrees' := hvalid₁.agrees_checkout hhead₁ hrun hlimit₂ hcheckout
    exact hagrees.trans hagrees' hentries

/-- A HEAD that survives has no gap. -/
theorem Valid.numbered (h : Valid space leak)
    (hlimit : Operation.Within .makeSnapshot space)
    (hascending : space.Ascending) (hsurvives : space.Survives) :
    space.Numbered := by
  intro snapshot hhead
  have hup := hascending snapshot hhead
  obtain ⟨id, space', hresult, hagrees⟩ := hsurvives.make hlimit
  obtain ⟨_, leak', _, _, hhead', hvalid, _⟩ :=
    (h.run_makeSnapshot hhead).of_ok hlimit hresult
  dsimp only at hhead' hvalid
  constructor
  · apply Arena.numbered_of_get hup.tablePtrs
    intro i hget hlost
    obtain ⟨⟨p, τ⟩, hptr⟩ := Option.ne_none_iff_exists'.1 hget
    have hat : space.ptrAt i = some ⟨p, τ⟩ := by simp [ptrAt, hhead, hptr]
    have hat' : space'.ptrAt i = none := by
      simp [ptrAt, hhead', Snapshot.collected, hlost]
    obtain ⟨x, hx⟩ := h.item_of_ptrAt hat
    have hsame := hagrees.objects τ i fun ptr heq => by
      rw [hat] at heq
      cases heq
      rfl
    rw [get_none hvalid hat', get_some h hat hx] at hsame
    cases hsame
  · apply Arena.numbered_of_get hup.instances
    intro i hget hlost
    obtain ⟨⟨inst, τ⟩, harray⟩ := Option.ne_none_iff_exists'.1 hget
    have hat : space.arrayAt i = some ⟨inst, τ⟩ := by
      simp [arrayAt, hhead, harray]
    have hat' : space'.arrayAt i = none := by
      simp [arrayAt, hhead', Snapshot.collected, hlost]
    obtain ⟨content, value, hshows, hsize⟩ := h.shows_of_arrayAt hat
    have hsame := hagrees.arrays τ i (.get 0) fun array heq => by
      rw [hat] at heq
      cases heq
      rfl
    rw [getArray_none hvalid (.get 0) hat',
      getArray_some h (.get 0) hat hshows hsize] at hsame
    cases hsame

end SpaceTime

/-- Two objects, of which the first is removed. -/
def holed : SpaceTime GenArena fun _ : Unit => Bool :=
  @Operation.after _ _ _ _ _ Build.debug (.remove () ⟨0, 0⟩)
    (@Operation.after _ _ _ _ _ Build.debug (.insert () false)
      (@Operation.after _ _ _ _ _ Build.debug (.insert () true) .new))

end RedPlanet.SpaceTime
