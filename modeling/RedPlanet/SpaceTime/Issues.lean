import RedPlanet.SpaceTime.History

/-!
# Ids denote what they were issued for

Every entry keeps the id that it was issued under in the runs that meet two
conditions.  An arena of HEAD that gets an entry is apart from the arenas that
HEAD had before (`Apart`): it has a slot for every id that they issued, or, if
something was removed from it, they did not fill the slot that it fills next
after as many removals.  And HEAD has no gap when it is cloned (`Numbered`).

`Traced` is the invariant of these runs, with one lemma for each operation and
`Traced.step` for all of them.  `Recorded.ids_denote` draws from it what `get`,
`get_mut` and `pop` answer.  The conditions are needed: an insertion that does
not meet the first returns an id that was issued (`Recorded.separate_iff`), as
it happens after a checkout, and the entries behind a gap move up when a
snapshot is made (`not_denotes`).
-/

set_option linter.dupNamespace false

namespace RedPlanet.SpaceTime

open RedPlanet.Core RedPlanet.Verified Limited

variable {ι : Type} [DecidableEq ι] {A : Type → Type} [Arena A]
  {Ty : ι → Type} {L : Type} {label : (τ : ι) → Ty τ → L}

/-- The pointer leads to the object that was inserted. -/
def Shows (label : (τ : ι) → Ty τ → L) (storage : SpaceTimeStorage Ty)
    (ptr : TypedTablePtr ι) (issue : Issue Ty) : Prop :=
  issue.typeId = ptr.typeId ∧ ∃ x : Ty ptr.typeId,
    (storage.table ptr.typeId).item ptr.tablePtr = some x ∧
      label _ x = label _ issue.object

def OfType (array : TypedInstance ι) (issue : Issue Ty) : Prop :=
  issue.typeId = array.typeId

namespace SpaceTime

variable [Build]

/-- No id was issued twice; what it leads to is of its type, and is the object
that was inserted under it. -/
structure Denotes (label : (τ : ι) → Ty τ → L) (space : SpaceTime A Ty)
    (history : History Ty) : Prop where
  objects : history.objects.ids.Nodup
  arrays : history.arrays.ids.Nodup
  ptrs : ∀ issue ∈ history.objects.all, ∀ ptr,
    space.ptrAt issue.id = some ptr → ptr.typeId = issue.typeId
  instances : ∀ issue ∈ history.arrays.all, ∀ array,
    space.arrayAt issue.id = some array → array.typeId = issue.typeId
  get : ∀ issue ∈ history.objects.all,
    (space.get issue.typeId issue.id).result = .ok (.error {}) ∨
      ∃ x, (space.get issue.typeId issue.id).result = .ok (.ok x) ∧
        label _ x = label _ issue.object
  pop : ∀ issue ∈ history.objects.all, ∀ result space',
    (space.pop issue.typeId issue.id).exceeded = false →
      (space.pop issue.typeId issue.id).result = .ok (result, space') →
        result = .error {} ∨
          ∃ x, result = .ok x ∧ label _ x = label _ issue.object
  getMut : ∀ issue ∈ history.objects.all, ∀ f result space',
    (space.getMut issue.typeId issue.id f).exceeded = false →
      (space.getMut issue.typeId issue.id f).result = .ok (result, space') →
        result = .error {} ∨
          ∃ x, (space.get issue.typeId issue.id).result = .ok (.ok x) ∧
            label _ x = label _ issue.object ∧
            (space'.get issue.typeId issue.id).result = .ok (.ok (f x))

end SpaceTime

/-- The entries of HEAD and of the stored snapshots have the ids that they
were issued under. -/
structure Traced (label : (τ : ι) → Ty τ → L) (space : SpaceTime A Ty)
    (history : History Ty) (leak : Refs ι) : Prop where
  valid : SpaceTime.Valid space leak
  head : ∀ snapshot, space.headSnapshot = some snapshot →
    Tracks (Shows label space.storage) history.objects snapshot.tablePtrs ∧
      Tracks OfType history.arrays snapshot.instances
  stored : ∀ snapshot ∈ Arena.values space.snapshots,
    Names (Shows label space.storage) history.objects snapshot.tablePtrs ∧
      Names OfType history.arrays snapshot.instances
  objects : history.objects.Sound
  arrays : history.arrays.Sound

variable {space space' : SpaceTime A Ty} {history history' : History Ty}
  {leak leak' : Refs ι}

/-! ## Frames -/

section Frames

variable [LawfulArena A]

omit [DecidableEq ι] in
/-- Entries that are kept show what they showed. -/
theorem Names.kept {storage storage' : SpaceTimeStorage Ty} {log : Log Ty}
    {a : A (TypedTablePtr ι)} (h : Names (Shows label storage) log a)
    {refs : Refs ι} (hkept : Kept refs storage storage')
    (hpos : ∀ ptr ∈ Arena.values a, 0 < refs.1 ptr.typeId ptr.tablePtr) :
    Names (Shows label storage') log a := by
  apply h.imp
  rintro i ptr hget issue ⟨htype, x, hx, hlabel⟩
  have hsame := hkept.objects _ _ (hpos ptr (Arena.mem_values.2 ⟨i, hget⟩))
  exact ⟨htype, x, hsame.trans hx, hlabel⟩

theorem Names.kept_snapshot {storage storage' : SpaceTimeStorage Ty}
    {log : Log Ty} {snapshot : Snapshot A ι}
    (h : Names (Shows label storage) log snapshot.tablePtrs)
    (hkept : Kept (snapshotRefs snapshot) storage storage') :
    Names (Shows label storage') log snapshot.tablePtrs := by
  apply h.kept hkept
  intro ptr hptr
  have hpos := snapshotRefs_ptr_pos hptr 0
  rw [add_zero] at hpos
  exact hpos

omit [LawfulArena A] in
/-- Every stored snapshot is kept where all of them are. -/
theorem kept_of_mem {storage storage' : SpaceTimeStorage Ty}
    {snapshots : A (Snapshot A ι)} {snapshot : Snapshot A ι}
    (hmem : snapshot ∈ Arena.values snapshots) {extra rest : Refs ι}
    (h : Kept (extra + SpaceTime.storedRefs snapshots + rest) storage
      storage') : Kept (snapshotRefs snapshot) storage storage' := by
  obtain ⟨others, hothers⟩ := storedRefs_of_mem hmem
  rw [hothers] at h
  exact ((h.right rest).left extra).right others

/-- What HEAD shows is kept where all is that is held. -/
theorem kept_of_head {storage storage' : SpaceTimeStorage Ty}
    {snapshot : Snapshot A ι} (hhead : space.headSnapshot = some snapshot)
    (h : Kept (space.refs + leak) storage storage') :
    Kept (snapshotRefs snapshot) storage storage' := by
  obtain ⟨rest, hrest⟩ := SpaceTime.refs_of_headSnapshot hhead
  rw [hrest] at h
  exact (h.right leak).right rest

omit [LawfulArena A] in
theorem SpaceTime.Edits.headSnapshot {snapshot : Snapshot A ι}
    (h : SpaceTime.Edits space space' snapshot leak) :
    space'.headSnapshot = some snapshot := by
  unfold SpaceTime.headSnapshot
  rw [h.head]

namespace Traced

/-- An operation on HEAD leaves the stored snapshots alone. -/
theorem edit (h : Traced label space history leak) {snapshot : Snapshot A ι}
    (hedits : SpaceTime.Edits space space' snapshot leak')
    {extra rest : Refs ι}
    (hkept : Kept (extra + SpaceTime.storedRefs space.snapshots + rest)
      space.storage space'.storage)
    (hsub : ∀ issue ∈ history.objects.all, issue ∈ history'.objects.all)
    (hsub' : ∀ issue ∈ history.arrays.all, issue ∈ history'.arrays.all)
    (hptrs : Tracks (Shows label space'.storage) history'.objects
      snapshot.tablePtrs)
    (hinstances : Tracks OfType history'.arrays snapshot.instances)
    (hobjects : history'.objects.Sound)
    (harrays : history'.arrays.Sound) :
    Traced label space' history' leak' where
  valid := hedits.valid
  head := fun snapshot' hhead => by
    rw [hedits.headSnapshot] at hhead
    cases hhead
    exact ⟨hptrs, hinstances⟩
  stored := fun snapshot' hmem => by
    rw [hedits.snapshots] at hmem
    obtain ⟨hnames, hnames'⟩ := h.stored snapshot' hmem
    have hkept' := kept_of_mem hmem hkept
    exact ⟨(hnames.kept_snapshot hkept').mono hsub, hnames'.mono hsub'⟩
  objects := hobjects
  arrays := harrays

/-- HEAD and the stored snapshots are those that were there. -/
theorem keep (h : Traced label space history leak)
    (hvalid : SpaceTime.Valid space' leak')
    (hhead : space'.headSnapshot = space.headSnapshot)
    (hstored : ∀ snapshot ∈ Arena.values space'.snapshots,
      snapshot ∈ Arena.values space.snapshots)
    (hkept : Kept (space'.refs + leak) space.storage space'.storage) :
    Traced label space' history leak' where
  valid := hvalid
  head := fun snapshot hsnapshot => by
    have hkept' := kept_of_head hsnapshot hkept
    rw [hhead] at hsnapshot
    obtain ⟨hptrs, hinstances⟩ := h.head snapshot hsnapshot
    exact ⟨⟨hptrs.names.kept_snapshot hkept', hptrs.built, hptrs.used⟩,
      hinstances⟩
  stored := fun snapshot hmem => by
    obtain ⟨hnames, hnames'⟩ := h.stored snapshot (hstored snapshot hmem)
    exact ⟨hnames.kept_snapshot (kept_of_mem hmem hkept), hnames'⟩
  objects := h.objects
  arrays := h.arrays

omit [LawfulArena A] in
/-- The entry of an id is the one that was issued. -/
theorem shows_of_ptrAt (h : Traced label space history leak) {issue : Issue Ty}
    (hissue : issue ∈ history.objects.all) {ptr : TypedTablePtr ι}
    (hptr : space.ptrAt issue.id = some ptr) :
    Shows label space.storage ptr issue := by
  obtain ⟨snapshot, hhead⟩ := h.valid.headSnapshot
  have hget : Arena.get issue.id snapshot.tablePtrs = some ptr := by
    simpa [SpaceTime.ptrAt, hhead] using hptr
  obtain ⟨other, hother, hid, hshows⟩ :=
    (h.head snapshot hhead).1.names issue.id ptr hget
  rw [Log.eq_of_id h.objects.1 hissue hother hid.symm]
  exact hshows

omit [LawfulArena A] in
theorem type_of_arrayAt (h : Traced label space history leak)
    {issue : Issue Ty} (hissue : issue ∈ history.arrays.all)
    {array : TypedInstance ι} (harray : space.arrayAt issue.id = some array) :
    array.typeId = issue.typeId := by
  obtain ⟨snapshot, hhead⟩ := h.valid.headSnapshot
  have hget : Arena.get issue.id snapshot.instances = some array := by
    simpa [SpaceTime.arrayAt, hhead] using harray
  obtain ⟨other, hother, hid, htype⟩ :=
    (h.head snapshot hhead).2.names issue.id array hget
  rw [Log.eq_of_id h.arrays.1 hissue hother hid.symm]
  exact htype.symm

omit [LawfulArena A] in
/-- Ids that were issued for a type are used at the type of the entry. -/
theorem typed (h : Traced label space history leak) {op : Operation Ty}
    (hissued : op.Issued history) : op.Typed space := by
  cases op with
  | remove τ id =>
      obtain ⟨issue, hissue, rfl, rfl⟩ := hissued
      exact fun ptr hptr => (h.shows_of_ptrAt hissue hptr).1.symm
  | pop τ id =>
      obtain ⟨issue, hissue, rfl, rfl⟩ := hissued
      exact fun ptr hptr => (h.shows_of_ptrAt hissue hptr).1.symm
  | getMut τ id f =>
      obtain ⟨issue, hissue, rfl, rfl⟩ := hissued
      exact fun ptr hptr => (h.shows_of_ptrAt hissue hptr).1.symm
  | removeArray τ id =>
      obtain ⟨issue, hissue, rfl, rfl⟩ := hissued
      exact fun array harray => h.type_of_arrayAt hissue harray
  | getArrayMut τ id access =>
      obtain ⟨issue, hissue, rfl, rfl⟩ := hissued
      exact fun array harray => h.type_of_arrayAt hissue harray
  | _ => exact True.intro

end Traced

end Frames

/-! ## One step -/

section Build

variable [SlotArena A] [LawfulSlotArena A] [Build]

namespace Traced

/-- An object is inserted under an id that was not issued before. -/
theorem insert (h : Traced label space history leak) {τ : ι}
    {object : Ty τ}
    (hseparate : (Operation.insert τ object).Separate space history) :
    (space.insert τ object).Ensures fun r =>
      Traced label r.2
        { history with objects := history.objects.add ⟨r.1, τ, object⟩ }
        leak := by
  apply (SpaceTime.insert_spec h.valid τ object).imp
  rintro ⟨id, space'⟩ ⟨snapshot, p, hhead, hid, hedits, hitem, hkept⟩
  dsimp only at hid hedits hitem hkept ⊢
  obtain ⟨hptrs, hinstances⟩ := h.head snapshot hhead
  have hnames := hptrs.names.kept_snapshot (kept_of_head hhead hkept)
  have hshows : Shows label space'.storage ⟨p, τ⟩ ⟨id, τ, object⟩ :=
    ⟨rfl, object, hitem, rfl⟩
  apply h.edit hedits hkept
  · exact fun issue hissue => Log.mem_all_add.2 (Or.inr hissue)
  · exact fun _ hissue => hissue
  · exact hptrs.insert hid (hnames.insert hid hshows)
  · exact hinstances
  · exact hptrs.sound_add h.objects (hseparate snapshot hhead) hid
  · exact h.arrays

theorem insertArray (h : Traced label space history leak) {τ : ι}
    {object : Ty τ} {n : BitVec 64}
    (hseparate : (Operation.insertArray τ object n).Separate space history) :
    (space.insertArray τ object n).Ensures fun r =>
      Traced label r.2
        { history with arrays := history.arrays.add ⟨r.1, τ, object⟩ }
        leak := by
  apply (SpaceTime.insertArray_spec h.valid τ object n).imp
  rintro ⟨id, space'⟩ ⟨snapshot, inst, hhead, hid, hedits, _, hkept⟩
  dsimp only at hid hedits hkept ⊢
  obtain ⟨hptrs, hinstances⟩ := h.head snapshot hhead
  have hnames := hptrs.names.kept_snapshot (kept_of_head hhead hkept)
  have htype : OfType ⟨inst, τ⟩ (⟨id, τ, object⟩ : Issue Ty) := rfl
  apply h.edit hedits hkept
  · exact fun _ hissue => hissue
  · exact fun issue hissue => Log.mem_all_add.2 (Or.inr hissue)
  · exact ⟨hnames, hptrs.built, hptrs.used⟩
  · exact hinstances.insert hid (hinstances.names.insert hid htype)
  · exact h.objects
  · exact hinstances.sound_add h.arrays (hseparate snapshot hhead) hid

omit [Build] in
/-- An entry leaves HEAD. -/
theorem takePtr (h : Traced label space history leak) {id : Index}
    {snapshot : Snapshot A ι} (hhead : space.headSnapshot = some snapshot)
    (hedits : SpaceTime.Edits space space' (snapshot.withPtrs
      (Arena.remove id snapshot.tablePtrs).2) leak')
    (hkept : Kept (space'.refs + leak') space.storage space'.storage) :
    Traced label space' history leak' := by
  obtain ⟨hptrs, hinstances⟩ := h.head snapshot hhead
  have hnames : Names (Shows label space.storage) history.objects
      (snapshot.withPtrs (Arena.remove id snapshot.tablePtrs).2).tablePtrs :=
    hptrs.names.remove id
  have hkept' := kept_of_head hedits.headSnapshot hkept
  unfold SpaceTime.refs at hkept
  rw [hedits.snapshots] at hkept
  apply h.edit hedits hkept (fun _ hissue => hissue) fun _ hissue => hissue
  · exact hptrs.remove (hnames.kept_snapshot hkept')
  · exact hinstances
  · exact h.objects
  · exact h.arrays

omit [Build] in
theorem takeArray (h : Traced label space history leak) {id : Index}
    {snapshot : Snapshot A ι} (hhead : space.headSnapshot = some snapshot)
    (hedits : SpaceTime.Edits space space' (snapshot.withInstances
      (Arena.remove id snapshot.instances).2) leak')
    (hkept : Kept (space'.refs + leak) space.storage space'.storage) :
    Traced label space' history leak' := by
  obtain ⟨hptrs, hinstances⟩ := h.head snapshot hhead
  have hnames : Names (Shows label space.storage) history.objects
      (snapshot.withInstances
        (Arena.remove id snapshot.instances).2).tablePtrs := hptrs.names
  have hkept' := kept_of_head hedits.headSnapshot hkept
  unfold SpaceTime.refs at hkept
  rw [hedits.snapshots] at hkept
  apply h.edit hedits hkept (fun _ hissue => hissue) fun _ hissue => hissue
  · exact ⟨hnames.kept_snapshot hkept', hptrs.built, hptrs.used⟩
  · exact hinstances.remove (hinstances.names.remove id)
  · exact h.objects
  · exact h.arrays

omit [Build] in
/-- A HEAD that was cloned, but not changed. -/
theorem cloned (h : Traced label space history leak)
    {snapshot : Snapshot A ι} (hhead : space.headSnapshot = some snapshot)
    (hedits : SpaceTime.Edits space space' snapshot leak')
    (hkept : ∀ refs, Kept refs space.storage space'.storage) :
    Traced label space' history leak' := by
  apply h.keep hedits.valid _ _ (hkept _)
  · rw [hedits.headSnapshot, hhead]
  · rw [hedits.snapshots]
    exact fun _ hmem => hmem

/-- An object is exchanged for one with the same label. -/
theorem getMut (h : Traced label space history leak) {τ : ι} {id : Index}
    {f : Ty τ → Ty τ} (hissued : (Operation.getMut τ id f).Issued history)
    (hlabel : (Operation.getMut τ id f).Labelled label) :
    (space.getMut τ id f).Ensures fun r => Traced label r.2 history leak := by
  apply (SpaceTime.getMut_spec h.valid f (h.typed hissued)).imp
  rintro ⟨result, space'⟩ ⟨snapshot, hhead, hcases⟩
  dsimp only at hcases ⊢
  rcases hcases with ⟨_, _, hedits, hkept⟩ |
      ⟨p, p', x, hptr, hx, _, hedits, hx', hkept⟩
  · exact h.cloned hhead hedits hkept
  · obtain ⟨issue, hissue, rfl, rfl⟩ := hissued
    obtain ⟨hptrs, hinstances⟩ := h.head snapshot hhead
    have hget : Arena.get issue.id snapshot.tablePtrs
        = some ⟨p, issue.typeId⟩ := by
      simpa [SpaceTime.ptrAt, hhead] using hptr
    have hshows : Shows label space'.storage ⟨p', issue.typeId⟩ issue := by
      obtain ⟨_, y, hy, hsame⟩ := h.shows_of_ptrAt hissue hptr
      dsimp only at hy hsame
      rw [hx] at hy
      cases hy
      exact ⟨rfl, f x, hx', (hlabel x).trans hsame⟩
    have hnames : Names (Shows label space.storage) history.objects
        (snapshot.withPtrs
          (Arena.remove issue.id snapshot.tablePtrs).2).tablePtrs :=
      hptrs.names.remove issue.id
    have hrest := hnames.kept_snapshot ((hkept.right leak).right _)
    apply h.edit hedits hkept (fun _ hissue => hissue) fun _ hissue => hissue
    · exact hptrs.set (Names.set hrest hget hissue rfl hshows)
    · exact hinstances
    · exact h.objects
    · exact h.arrays

theorem getArrayMut (h : Traced label space history leak) {τ : ι} {id : Index}
    {access : ArrayAccess (Ty τ)}
    (hissued : (Operation.getArrayMut τ id access).Issued history) :
    (space.getArrayMut τ id access).Ensures fun r =>
      Traced label r.2 history leak := by
  apply (SpaceTime.getArrayMut_spec h.valid access (h.typed hissued)).imp
  rintro ⟨result, space'⟩ ⟨snapshot, hhead, hcases⟩
  dsimp only at hcases ⊢
  rcases hcases with ⟨_, _, hedits, hkept⟩ |
      ⟨inst, inst', content, value, harray, _, _, hedits, _, hkept⟩
  · exact h.cloned hhead hedits hkept
  · obtain ⟨issue, hissue, rfl, rfl⟩ := hissued
    obtain ⟨hptrs, hinstances⟩ := h.head snapshot hhead
    have hget : Arena.get issue.id snapshot.instances
        = some ⟨inst, issue.typeId⟩ := by
      simpa [SpaceTime.arrayAt, hhead] using harray
    have hnames : Names (Shows label space.storage) history.objects
        (snapshot.withInstances
          (Arena.remove issue.id snapshot.instances).2).tablePtrs :=
      hptrs.names
    have hptrs' := hnames.kept_snapshot ((hkept.right leak).right _)
    have htype : OfType ⟨inst', issue.typeId⟩ issue := rfl
    apply h.edit hedits hkept (fun _ hissue => hissue) fun _ hissue => hissue
    · exact ⟨hptrs', hptrs.built, hptrs.used⟩
    · exact hinstances.set (Names.set (hinstances.names.remove issue.id) hget
        hissue rfl htype)
    · exact h.objects
    · exact h.arrays

/-- A numbered HEAD is cloned into the new snapshot. -/
theorem makeSnapshot (h : Traced label space history leak)
    (hnumbered : space.Numbered) :
    space.makeSnapshot.Ensures fun r =>
      ∃ leak', Traced label r.2 history.leave leak' := by
  apply (SpaceTime.makeSnapshot_spec h.valid).imp
  rintro ⟨id, space'⟩ ⟨snapshot, hhead, hid, hhead', hsnapshots, hvalid, hkept⟩
  dsimp only at hid hhead' hsnapshots hvalid hkept ⊢
  obtain ⟨hptrs, hinstances⟩ := h.head snapshot hhead
  have hsame := hnumbered snapshot hhead
  have hnames := (hptrs.names.kept_snapshot (hkept _)).congr
    hsame.tablePtrs.get_collect
  have hnames' := hinstances.names.congr hsame.instances.get_collect
  refine ⟨_, hvalid, ?_, ?_, h.objects, h.arrays⟩
  · intro snapshot' hsnapshot'
    unfold SpaceTime.headSnapshot at hsnapshot'
    rw [hhead'] at hsnapshot'
    dsimp only at hsnapshot'
    rw [hsnapshots, hid, LawfulArena.get_insert_self] at hsnapshot'
    cases hsnapshot'
    exact ⟨Tracks.leave hnames (Arena.built_collect _),
      Tracks.leave hnames' (Arena.built_collect _)⟩
  · intro snapshot' hmem
    rw [hsnapshots] at hmem
    have hperm := Arena.values_insert snapshot.collected space.snapshots
    rcases List.mem_cons.1 (hperm.mem_iff.1 hmem) with heq | hmem'
    · rw [heq]
      exact ⟨hnames, hnames'⟩
    · obtain ⟨hold, hold'⟩ := h.stored snapshot' hmem'
      exact ⟨hold.kept_snapshot (hkept _), hold'⟩

theorem dropSnapshot (h : Traced label space history leak) (id : Index) :
    (space.dropSnapshot id).Ensures fun r =>
      ∃ leak', Traced label r.2 history leak' := by
  apply (SpaceTime.dropSnapshot_spec h.valid id).imp
  rintro ⟨result, space'⟩ ⟨_, hsnapshots, hhead, leak', _, hvalid, hkept⟩
  dsimp only at hsnapshots hhead hvalid hkept ⊢
  refine ⟨_, h.keep hvalid hhead ?_ hkept⟩
  rw [hsnapshots]
  exact fun _ hmem => SpaceTime.values_of_remove hmem

/-- A stored snapshot has the ids that it was made with. -/
theorem checkout (h : Traced label space history leak) (id : Index) :
    (space.checkout id).Ensures fun r =>
      ∃ leak', (r.1 = .ok () ∧ Traced label r.2 history.leave leak') ∨
        (r.1 = .error {} ∧ Traced label r.2 history leak') := by
  apply (SpaceTime.checkout_spec h.valid id).imp
  rintro ⟨result, space'⟩ ⟨hresult, hsnapshots, hhead, leak', _, hvalid, hkept⟩
  dsimp only at hresult hsnapshots hhead hvalid hkept ⊢
  have hsub : ∀ snapshot ∈ Arena.values space'.snapshots,
      snapshot ∈ Arena.values space.snapshots := by
    rw [hsnapshots]
    exact fun _ hmem => hmem
  refine ⟨leak' + leak, ?_⟩
  by_cases hcontains : space.contains id = true
  · rw [if_pos hcontains] at hresult hhead
    have hstored : ∀ snapshot ∈ Arena.values space'.snapshots,
        Names (Shows label space'.storage) history.objects
            snapshot.tablePtrs ∧
          Names OfType history.arrays snapshot.instances := by
      intro snapshot hmem
      obtain ⟨hnames, hnames'⟩ := h.stored snapshot (hsub snapshot hmem)
      exact ⟨hnames.kept_snapshot (kept_of_mem hmem hkept), hnames'⟩
    refine Or.inl ⟨hresult, hvalid, ?_, hstored, h.objects, h.arrays⟩
    intro snapshot hsnapshot
    unfold SpaceTime.headSnapshot at hsnapshot
    rw [hhead] at hsnapshot
    have hmem := Arena.mem_values.2 ⟨id, hsnapshot⟩
    obtain ⟨hnames, hnames'⟩ := hstored snapshot hmem
    rw [← hvalid.collected snapshot hmem] at hnames hnames' ⊢
    exact ⟨Tracks.leave hnames (Arena.built_collect _),
      Tracks.leave hnames' (Arena.built_collect _)⟩
  · rw [if_neg hcontains] at hresult hhead
    refine Or.inr ⟨hresult, h.keep hvalid ?_ hsub hkept⟩
    unfold SpaceTime.headSnapshot
    rw [hhead, hsnapshots]

/-- One lemma for all operations, from the one for each. -/
theorem step (h : Traced label space history leak) {op : Operation Ty}
    (hissued : op.Issued history) (hlabel : op.Labelled label)
    (hseparate : op.Separate space history) :
    (op.run space).Ensures fun r =>
      ∃ leak', Traced label r.2 (history.record op r.1) leak' := by
  cases op with
  | insert τ object =>
      apply Ensures.bind (h.insert hseparate)
      intro r hr
      exact Ensures.pure ⟨_, hr⟩
  | insertArray τ object n =>
      apply Ensures.bind (h.insertArray hseparate)
      intro r hr
      exact Ensures.pure ⟨_, hr⟩
  | remove τ id =>
      apply Ensures.bind (SpaceTime.remove_spec h.valid (h.typed hissued))
      rintro ⟨result, space'⟩ ⟨_, snapshot, hhead, hedits, hkept⟩
      exact Ensures.pure ⟨_, h.takePtr hhead hedits hkept⟩
  | removeArray τ id =>
      apply Ensures.bind (SpaceTime.removeArray_spec h.valid (h.typed hissued))
      rintro ⟨result, space'⟩ ⟨_, snapshot, hhead, hedits, hkept⟩
      exact Ensures.pure ⟨_, h.takeArray hhead hedits hkept⟩
  | pop τ id =>
      apply Ensures.bind (SpaceTime.pop_spec h.valid (h.typed hissued))
      rintro ⟨result, space'⟩ ⟨_, snapshot, hhead, hedits, hkept⟩
      exact Ensures.pure ⟨_, h.takePtr hhead hedits hkept⟩
  | getMut τ id f =>
      apply Ensures.bind (h.getMut hissued hlabel)
      intro r hr
      exact Ensures.pure ⟨_, hr⟩
  | getArrayMut τ id access =>
      apply Ensures.bind (h.getArrayMut hissued)
      intro r hr
      exact Ensures.pure ⟨_, hr⟩
  | makeSnapshot =>
      apply Ensures.bind (h.makeSnapshot hseparate)
      intro r hr
      exact Ensures.pure hr
  | dropSnapshot id =>
      apply Ensures.bind (h.dropSnapshot id)
      intro r hr
      exact Ensures.pure hr
  | checkout id =>
      apply Ensures.bind (h.checkout id)
      rintro ⟨result, space'⟩ ⟨leak', hcases⟩
      apply Ensures.pure
      dsimp only at hcases ⊢
      rcases hcases with ⟨rfl, hr⟩ | ⟨rfl, hr⟩
      · exact ⟨_, hr⟩
      · exact ⟨_, hr⟩

omit [Build] in
theorem new : Traced label (SpaceTime.new : SpaceTime A Ty) History.empty 0 where
  valid := SpaceTime.valid_new
  head := fun snapshot hhead => by
    cases hhead
    constructor
    · refine ⟨?_, Arena.built_new, fun _ hmem => absurd hmem List.not_mem_nil⟩
      intro i ptr hget
      have hnone : Arena.get i (Arena.new : A (TypedTablePtr ι)) = some ptr :=
        hget
      rw [LawfulArena.get_new] at hnone
      cases hnone
    · refine ⟨?_, Arena.built_new, fun _ hmem => absurd hmem List.not_mem_nil⟩
      intro i array hget
      have hnone : Arena.get i (Arena.new : A (TypedInstance ι)) = some array :=
        hget
      rw [LawfulArena.get_new] at hnone
      cases hnone
  stored := fun snapshot hmem =>
    absurd hmem (Arena.not_mem_values_new snapshot)
  objects := Log.sound_empty
  arrays := Log.sound_empty

/-- Where the id of an insertion is new, the arena of HEAD was apart. -/
theorem separate_insert (h : Traced label space history leak) (τ : ι)
    (object : Ty τ) : ((Operation.insert τ object).run space).Ensures fun r =>
      (history.record (.insert τ object) r.1).objects.ids.Nodup →
        (Operation.insert τ object).Separate space history := by
  apply Ensures.bind (SpaceTime.insert_spec h.valid τ object)
  rintro ⟨id, space'⟩ ⟨snapshot, p, hhead, hid, -, -, -⟩
  dsimp only at hid
  apply Ensures.pure
  intro hnodup snapshot' hhead'
  rw [hhead] at hhead'
  cases hhead'
  have hnew : id ∉ history.objects.ids := (List.nodup_cons.1 hnodup).1
  rw [hid] at hnew
  exact ((h.head snapshot hhead).1.apart_iff h.objects _).2 hnew

theorem separate_insertArray (h : Traced label space history leak) (τ : ι)
    (object : Ty τ) (n : BitVec 64) :
    ((Operation.insertArray τ object n).run space).Ensures fun r =>
      (history.record (.insertArray τ object n) r.1).arrays.ids.Nodup →
        (Operation.insertArray τ object n).Separate space history := by
  apply Ensures.bind (SpaceTime.insertArray_spec h.valid τ object n)
  rintro ⟨id, space'⟩ ⟨snapshot, inst, hhead, hid, -, -, -⟩
  dsimp only at hid
  apply Ensures.pure
  intro hnodup snapshot' hhead'
  rw [hhead] at hhead'
  cases hhead'
  have hnew : id ∉ history.arrays.ids := (List.nodup_cons.1 hnodup).1
  rw [hid] at hnew
  exact ((h.head snapshot hhead).2.apart_iff h.arrays _).2 hnew

/-! ## What ids denote -/

theorem denotes (h : Traced label space history leak) :
    space.Denotes label history where
  objects := h.objects.1
  arrays := h.arrays.1
  ptrs := fun issue hissue ptr hptr => (h.shows_of_ptrAt hissue hptr).1.symm
  instances := fun issue hissue array harray => h.type_of_arrayAt hissue harray
  get := fun issue hissue => by
    cases hptr : space.ptrAt issue.id with
    | none => exact Or.inl (SpaceTime.get_none h.valid hptr)
    | some ptr =>
        obtain ⟨p, τ⟩ := ptr
        obtain ⟨htype, x, hx, hlabel⟩ := h.shows_of_ptrAt hissue hptr
        dsimp only at htype hx
        obtain ⟨id, τ', object⟩ := issue
        cases htype
        exact Or.inr ⟨x, SpaceTime.get_some h.valid hptr hx, hlabel⟩
  pop := fun issue hissue result space' hlimit hresult => by
    have htype : ∀ ptr, space.ptrAt issue.id = some ptr →
        ptr.typeId = issue.typeId :=
      fun ptr hptr => (h.shows_of_ptrAt hissue hptr).1.symm
    obtain ⟨hcases, _⟩ :=
      (SpaceTime.pop_spec h.valid htype).of_ok hlimit hresult
    rcases hcases with ⟨ptr, x, hptr, hx, hr⟩ | ⟨_, hr⟩
    · obtain ⟨htype', y, hy, hlabel⟩ := h.shows_of_ptrAt hissue hptr
      obtain ⟨p, τ⟩ := ptr
      obtain ⟨id, τ', object⟩ := issue
      dsimp only at htype' hx hy
      cases htype'
      rw [hx] at hy
      cases hy
      exact Or.inr ⟨_, hr, hlabel⟩
    · exact Or.inl hr
  getMut := fun issue hissue f result space' hlimit hresult => by
    have htype : ∀ ptr, space.ptrAt issue.id = some ptr →
        ptr.typeId = issue.typeId :=
      fun ptr hptr => (h.shows_of_ptrAt hissue hptr).1.symm
    obtain ⟨snapshot, hhead, hcases⟩ :=
      (SpaceTime.getMut_spec h.valid f htype).of_ok hlimit hresult
    dsimp only at hcases
    rcases hcases with ⟨_, hr, _⟩ |
        ⟨p, p', x, hptr, hx, _, hedits, hx', _⟩
    · exact Or.inl hr
    · obtain ⟨_, y, hy, hlabel⟩ := h.shows_of_ptrAt hissue hptr
      have hsame : some y = some x := hy.symm.trans hx
      cases hsame
      have hget : Arena.get issue.id snapshot.tablePtrs
          = some ⟨p, issue.typeId⟩ := by
        simpa [SpaceTime.ptrAt, hhead] using hptr
      have hptr' : space'.ptrAt issue.id = some ⟨p', issue.typeId⟩ := by
        unfold SpaceTime.ptrAt
        rw [hedits.headSnapshot]
        exact LawfulArena.get_set_self _ _ _ _ hget
      exact Or.inr ⟨_, SpaceTime.get_some h.valid hptr hx, hlabel,
        SpaceTime.get_some hedits.valid hptr' hx'⟩

end Traced

end Build

/-! ## Runs -/

/-- The states after runs whose steps all meet the condition, with what the
ids were issued for. -/
inductive Recorded [Build]
    (C : Operation Ty → SpaceTime A Ty → History Ty → Prop) :
    SpaceTime A Ty → History Ty → Prop where
  | new : Recorded C SpaceTime.new History.empty
  | step {space space' : SpaceTime A Ty} {history : History Ty}
      {op : Operation Ty} {reply : Reply Ty} (h : Recorded C space history)
      (hop : C op space history)
      (hrun : (op.run space).result = .ok (reply, space')) :
      Recorded C space' (history.record op reply)

theorem Recorded.after [Build]
    {C : Operation Ty → SpaceTime A Ty → History Ty → Prop}
    (h : Recorded C space history) (op : Operation Ty) (reply : Reply Ty)
    (hop : C op space history)
    (hreply : (op.run space).result.map Prod.fst = .ok reply) :
    Recorded C (op.after space) (history.record op reply) := by
  unfold Operation.after
  cases hrun : (op.run space).result with
  | ok r =>
      obtain ⟨reply', space'⟩ := r
      rw [hrun] at hreply
      cases hreply
      exact h.step hop hrun
  | error stop =>
      rw [hrun] at hreply
      cases hreply

section Apart

variable [SlotArena A] [LawfulSlotArena A] [Build]

theorem Recorded.traced (h : Recorded (fun op space history =>
      op.Issued history ∧ op.Labelled label ∧ op.Within space ∧
        op.Separate space history) space history) :
    ∃ leak, Traced label space history leak := by
  induction h with
  | new => exact ⟨0, Traced.new⟩
  | step _ hop hrun ih =>
      obtain ⟨leak, htraced⟩ := ih
      obtain ⟨hissued, hlabel, hwithin, hseparate⟩ := hop
      exact (htraced.step hissued hlabel hseparate).of_ok hwithin hrun

/-- In runs whose arenas of HEAD are kept apart, ids denote what they were
issued for. -/
theorem Recorded.ids_denote
    (h : Recorded (fun op space history => op.Issued history ∧
      op.Labelled label ∧ op.Within space ∧ op.Separate space history)
      space history) : space.Denotes label history := by
  obtain ⟨leak, htraced⟩ := h.traced
  exact htraced.denotes

end Apart

/-- A removed object's slot is filled again, a snapshot of before the removal
is checked out, and its arena goes on behind the ids that were issued. -/
theorem Recorded.ids_denote_checkout :
    @SpaceTime.Denotes _ _ GenArena _ (fun _ : Unit => ℕ) _ Build.debug
      (fun _ x => x)
      (@Operation.after _ _ _ _ _ Build.debug (.insert () 4)
        (@Operation.after _ _ _ _ _ Build.debug (.checkout ⟨0, 0⟩)
          (@Operation.after _ _ _ _ _ Build.debug (.insert () 3)
            (@Operation.after _ _ _ _ _ Build.debug (.remove () ⟨0, 0⟩)
              (@Operation.after _ _ _ _ _ Build.debug .makeSnapshot
                (@Operation.after _ _ _ _ _ Build.debug (.insert () 2)
                  (@Operation.after _ _ _ _ _ Build.debug (.insert () 1)
                    .new)))))))
      ((History.empty.record (.insert () 1) (.id ⟨0, 0⟩)).record
        (.insert () 2) (.id ⟨1, 0⟩) |>.leave.record
        (.insert () 3) (.id ⟨0, 1⟩) |>.leave.record
        (.insert () 4) (.id ⟨2, 0⟩)) := by
  have hnew := @Recorded.new Unit _ GenArena _ (fun _ => ℕ) Build.debug
    (fun op space history => op.Issued history ∧
      op.Labelled (fun _ x => x) ∧
      @Operation.Within _ _ _ _ _ Build.debug op space ∧
      op.Separate space history)
  have hfirst := @Recorded.after _ _ _ _ _ _ _ Build.debug _ hnew
    (.insert () 1) (.id ⟨0, 0⟩) ⟨True.intro, True.intro, rfl, by
      intro snapshot hhead
      cases hhead
      decide⟩ rfl
  have hsecond := @Recorded.after _ _ _ _ _ _ _ Build.debug _ hfirst
    (.insert () 2) (.id ⟨1, 0⟩) ⟨True.intro, True.intro, rfl, by
      intro snapshot hhead
      cases hhead
      decide⟩ rfl
  have hmake := @Recorded.after _ _ _ _ _ _ _ Build.debug _ hsecond
    .makeSnapshot (.id ⟨0, 0⟩) ⟨True.intro, True.intro, rfl, by
      intro snapshot hhead
      cases hhead
      exact ⟨rfl, rfl⟩⟩ rfl
  have hremove := @Recorded.after _ _ _ _ _ _ _ Build.debug _ hmake
    (.remove () ⟨0, 0⟩) (.done true) ⟨⟨⟨⟨0, 0⟩, (), 1⟩, by simp [
      History.record, History.leave, History.empty, Log.add, Log.leave,
      Log.all], rfl, rfl⟩, True.intro, rfl, True.intro⟩ rfl
  have hthird := @Recorded.after _ _ _ _ _ _ _ Build.debug _ hremove
    (.insert () 3) (.id ⟨0, 1⟩) ⟨True.intro, True.intro, rfl, by
      intro snapshot hhead
      cases hhead
      decide⟩ rfl
  have hcheckout := @Recorded.after _ _ _ _ _ _ _ Build.debug _ hthird
    (.checkout ⟨0, 0⟩) (.done true)
    ⟨True.intro, True.intro, rfl, True.intro⟩ rfl
  have hfourth := @Recorded.after _ _ _ _ _ _ _ Build.debug _ hcheckout
    (.insert () 4) (.id ⟨2, 0⟩) ⟨True.intro, True.intro, rfl, by
      intro snapshot hhead
      cases hhead
      decide⟩ rfl
  exact @Recorded.ids_denote _ _ _ _ _ _ _ _ _ _ _ Build.debug hfourth

/-- The condition leaves out only insertions that issue an id again. -/
theorem Recorded.separate_iff [SlotArena A] [LawfulSlotArena A] [Build]
    (h : Recorded (fun op space history => op.Issued history ∧
      op.Labelled label ∧ op.Within space ∧ op.Separate space history)
      space history) {op : Operation Ty} (hop : op ≠ .makeSnapshot)
    (hissued : op.Issued history) (hlabel : op.Labelled label)
    (hwithin : op.Within space) {reply : Reply Ty}
    (hrun : (op.run space).result = .ok (reply, space')) :
    op.Separate space history ↔
      (history.record op reply).objects.ids.Nodup ∧
        (history.record op reply).arrays.ids.Nodup := by
  obtain ⟨leak, htraced⟩ := h.traced
  constructor
  · intro hseparate
    obtain ⟨_, hafter⟩ :=
      (htraced.step hissued hlabel hseparate).of_ok hwithin hrun
    exact ⟨hafter.objects.1, hafter.arrays.1⟩
  · rintro ⟨hobjects, harrays⟩
    cases op with
    | insert τ object =>
        exact (htraced.separate_insert τ object).of_ok hwithin hrun hobjects
    | insertArray τ object n =>
        exact (htraced.separate_insertArray τ object n).of_ok hwithin hrun
          harrays
    | makeSnapshot => exact absurd rfl hop
    | _ => exact True.intro

/-- An id is issued again after a checkout; and a snapshot that is made behind
a gap shows another object under an id. -/
theorem not_denotes :
    (∃ (space : SpaceTime GenArena fun _ : Unit => Bool)
      (history : History fun _ : Unit => Bool),
      @Recorded _ _ _ _ _ Build.debug (fun op space history =>
        op.Issued history ∧ op.Labelled (fun _ x => x) ∧
        @Operation.Within _ _ _ _ _ Build.debug op space) space history ∧
      ¬ history.objects.ids.Nodup) ∧
    ∃ (space : SpaceTime GenArena fun _ : Unit => Bool)
      (history : History fun _ : Unit => Bool),
      @Recorded _ _ _ _ _ Build.debug (fun op space history =>
        op.Issued history ∧ op.Labelled (fun _ x => x) ∧
        @Operation.Within _ _ _ _ _ Build.debug op space) space history ∧
      ⟨⟨0, 0⟩, (), true⟩ ∈ history.objects.all ∧
      (space.get () ⟨0, 0⟩).result = .ok (.ok false) := by
  have hnew := @Recorded.new Unit _ GenArena _ (fun _ => Bool) Build.debug
    (fun op space history => op.Issued history ∧
      op.Labelled (fun _ x => x) ∧
      @Operation.Within _ _ _ _ _ Build.debug op space)
  constructor
  · have hmake := @Recorded.after _ _ _ _ _ _ _ Build.debug _ hnew
      .makeSnapshot (.id ⟨0, 0⟩) ⟨True.intro, True.intro, rfl⟩ rfl
    have hfirst := @Recorded.after _ _ _ _ _ _ _ Build.debug _ hmake
      (.insert () true) (.id ⟨0, 0⟩) ⟨True.intro, True.intro, rfl⟩ rfl
    have hcheckout := @Recorded.after _ _ _ _ _ _ _ Build.debug _ hfirst
      (.checkout ⟨0, 0⟩) (.done true) ⟨True.intro, True.intro, rfl⟩ rfl
    have hsecond := @Recorded.after _ _ _ _ _ _ _ Build.debug _ hcheckout
      (.insert () false) (.id ⟨0, 0⟩) ⟨True.intro, True.intro, rfl⟩ rfl
    refine ⟨_, _, hsecond, ?_⟩
    intro hnodup
    exact absurd hnodup (by decide)
  · have hfirst := @Recorded.after _ _ _ _ _ _ _ Build.debug _ hnew
      (.insert () true) (.id ⟨0, 0⟩) ⟨True.intro, True.intro, rfl⟩ rfl
    have hsecond := @Recorded.after _ _ _ _ _ _ _ Build.debug _ hfirst
      (.insert () false) (.id ⟨1, 0⟩) ⟨True.intro, True.intro, rfl⟩ rfl
    have hremove := @Recorded.after _ _ _ _ _ _ _ Build.debug _ hsecond
      (.remove () ⟨0, 0⟩) (.done true) ⟨⟨⟨⟨0, 0⟩, (), true⟩, by simp [
        History.record, History.empty, Log.add, Log.all], rfl, rfl⟩,
        True.intro, rfl⟩ rfl
    have hmake := @Recorded.after _ _ _ _ _ _ _ Build.debug _ hremove
      .makeSnapshot (.id ⟨0, 0⟩) ⟨True.intro, True.intro, rfl⟩ rfl
    refine ⟨_, _, hmake, ?_, rfl⟩
    simp [History.record, History.leave, History.empty, Log.add, Log.leave,
      Log.all]

end RedPlanet.SpaceTime
