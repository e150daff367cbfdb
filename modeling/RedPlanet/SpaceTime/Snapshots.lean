import RedPlanet.SpaceTime.Arrays

/-!
# Snapshots

What making, dropping and checking out a snapshot does to the holders.  A
dirty HEAD is deleted by `checkout`; `makeSnapshot` forgets its pointers.

`makeSnapshot_spec`, `dropSnapshot_spec` and `checkout_spec` keep the
invariant (`Valid`), the first with the pointers of a dirty HEAD added to those
that no snapshot has any more.
-/

set_option linter.dupNamespace false

namespace RedPlanet.SpaceTime.SpaceTime

open RedPlanet.Core RedPlanet.Verified Limited

variable {ι : Type} [DecidableEq ι] {A : Type → Type} [Arena A]
  {Ty : ι → Type} {space : SpaceTime A Ty} {leak : Refs ι}

/-! ## Arenas of snapshots -/

theorem storedRefs_perm {snapshots : A (Snapshot A ι)}
    {snapshot : Snapshot A ι} {rest : List (Snapshot A ι)}
    (h : (Arena.values snapshots).Perm (snapshot :: rest)) :
    storedRefs snapshots
      = snapshotRefs snapshot + (rest.map snapshotRefs).sum := by
  unfold storedRefs
  rw [(h.map snapshotRefs).sum_eq, List.map_cons, List.sum_cons]

/-- What HEAD shows is held. -/
theorem refs_of_headSnapshot [LawfulArena A] {snapshot : Snapshot A ι}
    (h : space.headSnapshot = some snapshot) :
    ∃ rest, space.refs = snapshotRefs snapshot + rest := by
  unfold headSnapshot at h
  unfold refs
  cases hhead : space.head with
  | dirty snapshot' =>
      rw [hhead] at h
      cases h
      exact ⟨_, rfl⟩
  | checkout snapshotId =>
      rw [hhead] at h
      obtain ⟨rest, hrest⟩ :=
        storedRefs_of_mem (Arena.mem_values.2 ⟨snapshotId, h⟩)
      exact ⟨rest, by rw [hrest]; exact zero_add _⟩

/-- What HEAD shows are arrays. -/
theorem Valid.shown_headSnapshot [LawfulArena A] {snapshot : Snapshot A ι}
    (h : Valid space leak) (hhead : space.headSnapshot = some snapshot) :
    Shown space.storage (Arena.values snapshot.instances) := by
  unfold SpaceTime.headSnapshot at hhead
  cases hspace : space.head with
  | dirty snapshot' =>
      rw [hspace] at hhead
      cases hhead
      exact h.headShown snapshot hspace
  | checkout snapshotId =>
      rw [hspace] at hhead
      exact h.shown snapshot (Arena.mem_values.2 ⟨snapshotId, hhead⟩)

variable [LawfulArena A]

omit [DecidableEq ι] in
/-- The snapshots that are left. -/
theorem values_of_remove {snapshotId : Index} {snapshots : A (Snapshot A ι)}
    {snapshot : Snapshot A ι}
    (h : snapshot ∈ Arena.values (Arena.remove snapshotId snapshots).2) :
    snapshot ∈ Arena.values snapshots := by
  obtain ⟨i, hi⟩ := Arena.mem_values.1 h
  by_cases heq : i = snapshotId
  · rw [heq, LawfulArena.get_remove_self] at hi
    exact nomatch hi
  · rw [LawfulArena.get_remove_ne _ _ _ heq] at hi
    exact Arena.mem_values.2 ⟨i, hi⟩

variable [Build]

/-- The new snapshot is a copy of HEAD.  What a dirty HEAD held is not counted
down. -/
theorem makeSnapshot_spec (h : Valid space leak) :
    space.makeSnapshot.Ensures fun r =>
      ∃ snapshot, space.headSnapshot = some snapshot ∧
        r.1 = (Arena.insert snapshot.collected space.snapshots).1 ∧
        r.2.head = .checkout r.1 ∧
        r.2.snapshots = (Arena.insert snapshot.collected space.snapshots).2 ∧
        Valid r.2 (headRefs space.head + leak) ∧
        ∀ refs, Kept refs space.storage r.2.storage := by
  obtain ⟨snapshot, hsnapshot⟩ := h.headSnapshot
  obtain ⟨rest, hrest⟩ := refs_of_headSnapshot hsnapshot
  have hheld := h.held
  rw [hrest, add_assoc] at hheld
  unfold makeSnapshot
  rw [getHead_spec hsnapshot, pure_bind]
  apply Ensures.bind (SpaceTimeStorage.cloneSnapshot_spec hheld)
  rintro ⟨clone, storage⟩ ⟨hclone, hadds⟩
  dsimp only at hclone hadds ⊢
  subst hclone
  have hperm := Arena.values_insert snapshot.collected space.snapshots
  apply Ensures.pure
  refine ⟨snapshot, hsnapshot, rfl, rfl, rfl, ?_, fun refs => hadds.kept refs⟩
  have hstored := storedRefs_perm hperm
  rw [snapshotRefs_collected] at hstored
  refine ⟨?_, ?_, nofun, ?_, ?_⟩
  · have hsum : 0 + storedRefs (Arena.insert snapshot.collected
          space.snapshots).2 + (headRefs space.head + leak)
        = snapshotRefs snapshot + (snapshotRefs snapshot + (rest + leak)) := by
      have hold : headRefs space.head + (storedRefs space.snapshots + leak)
          = snapshotRefs snapshot + (rest + leak) := by
        rw [← add_assoc, ← add_assoc, ← hrest]
        rfl
      rw [zero_add, hstored, ← hold, add_assoc, add_left_comm (headRefs _)]
      rfl
    show Held storage (0 + _ + _)
    rw [hsum]
    exact hadds.held
  · intro snapshot' hmem
    rcases List.mem_cons.1 (hperm.mem_iff.1 hmem) with heq | hmem'
    · rw [heq]
      have hshown := h.shown_headSnapshot hsnapshot
      have hkept := hshown.kept_snapshot (hadds.kept (snapshotRefs snapshot + 0))
      apply hkept.perm
      intro array harray
      unfold Snapshot.collected at harray
      rw [Arena.values_collect] at harray
      exact harray
    · exact shown_stored h.shown (hadds.kept (storedRefs space.snapshots + 0))
        snapshot' hmem'
  · intro snapshot' hmem
    rcases List.mem_cons.1 (hperm.mem_iff.1 hmem) with heq | hmem'
    · rw [heq]
      exact collected_collected snapshot
    · exact h.collected snapshot' hmem'
  · intro snapshotId hhead
    cases hhead
    dsimp only
    rw [LawfulArena.get_insert_self]
    exact Option.some_ne_none _

/-! ### Dropping a snapshot -/

omit [DecidableEq ι] [Build] in
/-- HEAD shows the same while another snapshot is removed. -/
theorem headSnapshot_of_remove {snapshotId : Index}
    (hhead : space.head ≠ .checkout snapshotId)
    (storage : SpaceTimeStorage Ty) :
    headSnapshot
        { storage := storage
          head := space.head
          snapshots := (Arena.remove snapshotId space.snapshots).2 }
      = space.headSnapshot := by
  unfold headSnapshot
  dsimp only
  cases hspace : space.head with
  | dirty snapshot => rfl
  | checkout i =>
      apply LawfulArena.get_remove_ne
      intro heq
      exact hhead (by rw [hspace, heq])

omit [DecidableEq ι] [Build] in
theorem checkout_of_remove {snapshotId : Index}
    (hcheckout : ∀ i, space.head = .checkout i →
      Arena.get i space.snapshots ≠ none)
    (hhead : space.head ≠ .checkout snapshotId) (i : Index)
    (hspace : space.head = .checkout i) :
    Arena.get i (Arena.remove snapshotId space.snapshots).2 ≠ none := by
  have hne : i ≠ snapshotId := by
    intro heq
    exact hhead (by rw [hspace, heq])
  rw [LawfulArena.get_remove_ne _ _ _ hne]
  exact hcheckout i hspace

omit [Build] in
/-- There is no such snapshot. -/
theorem Valid.remove_none (h : Valid space leak) {snapshotId : Index}
    (hget : Arena.get snapshotId space.snapshots = none) :
    Valid { space with
      snapshots := (Arena.remove snapshotId space.snapshots).2 } leak where
  held := by
    have hperm := Arena.values_remove_none hget
    have hstored : storedRefs (Arena.remove snapshotId space.snapshots).2
        = storedRefs space.snapshots := (hperm.map snapshotRefs).sum_eq
    show Held space.storage (headRefs space.head + storedRefs _ + leak)
    rw [hstored]
    exact h.held
  shown := fun s hs => h.shown s (values_of_remove hs)
  headShown := h.headShown
  collected := fun s hs => h.collected s (values_of_remove hs)
  checkout := by
    apply checkout_of_remove h.checkout
    intro heq
    exact h.checkout snapshotId heq hget

omit [Build] in
/-- The snapshot that is checked out becomes HEAD. -/
theorem Valid.remove_head (h : Valid space leak) {snapshotId : Index}
    {snapshot : Snapshot A ι}
    (hget : Arena.get snapshotId space.snapshots = some snapshot)
    (hhead : space.head = .checkout snapshotId) :
    Valid { space with
      head := .dirty snapshot
      snapshots := (Arena.remove snapshotId space.snapshots).2 } leak where
  held := by
    have hstored := storedRefs_perm (Arena.values_remove hget)
    have hrefs : space.refs = snapshotRefs snapshot
        + storedRefs (Arena.remove snapshotId space.snapshots).2 := by
      unfold refs
      rw [hhead, hstored]
      exact zero_add _
    have hheld := h.held
    rw [hrefs] at hheld
    exact hheld
  shown := fun s hs => h.shown s (values_of_remove hs)
  headShown := fun s hs => by
    cases hs
    exact h.shown snapshot (Arena.mem_values.2 ⟨snapshotId, hget⟩)
  collected := fun s hs => h.collected s (values_of_remove hs)
  checkout := nofun

omit [Build] in
/-- Another snapshot is deleted. -/
theorem Valid.remove_other (h : Valid space leak) {snapshotId : Index}
    {leak' : Refs ι} (hhead : space.head ≠ .checkout snapshotId)
    {storage : SpaceTimeStorage Ty}
    (hheld : Held storage (leak' + (headRefs space.head
      + storedRefs (Arena.remove snapshotId space.snapshots).2 + leak)))
    (hkept : Kept (headRefs space.head
      + storedRefs (Arena.remove snapshotId space.snapshots).2 + leak)
      space.storage storage) :
    Valid { space with
        storage := storage
        snapshots := (Arena.remove snapshotId space.snapshots).2 }
      (leak' + leak) where
  held := by
    rw [add_left_comm] at hheld
    exact hheld
  shown := by
    rw [add_assoc, add_left_comm] at hkept
    exact shown_stored (fun s hs => h.shown s (values_of_remove hs)) hkept
  headShown := fun s hs => by
    have hs' : space.head = .dirty s := hs
    rw [hs', add_assoc] at hkept
    exact (h.headShown s hs').kept_snapshot hkept
  collected := fun s hs => h.collected s (values_of_remove hs)
  checkout := checkout_of_remove h.checkout hhead

omit [DecidableEq ι] [Arena A] [LawfulArena A] [Build] in
theorem headId_eq_some {snapshotId : Index} :
    space.headId = some snapshotId ↔ space.head = .checkout snapshotId := by
  unfold headId
  cases space.head with
  | dirty snapshot => exact ⟨nofun, nofun⟩
  | checkout i => simp

/-- A snapshot that is checked out becomes HEAD, any other one is deleted. -/
theorem dropSnapshot_spec (h : Valid space leak) (snapshotId : Index) :
    (space.dropSnapshot snapshotId).Ensures fun r =>
      r.1 = (if space.contains snapshotId then .ok () else .error {}) ∧
      r.2.snapshots = (Arena.remove snapshotId space.snapshots).2 ∧
      r.2.headSnapshot = space.headSnapshot ∧
      ∃ leak' : Refs ι, leak'.1 = 0 ∧ Valid r.2 (leak' + leak) ∧
        Kept (r.2.refs + leak) space.storage r.2.storage := by
  have hget := LawfulArena.remove_fst snapshotId space.snapshots
  unfold dropSnapshot contains
  rw [← Prod.eta (Arena.remove snapshotId space.snapshots), hget]
  cases hsnapshot : Arena.get snapshotId space.snapshots with
  | none =>
      have hhead : space.head ≠ .checkout snapshotId :=
        fun heq => h.checkout snapshotId heq hsnapshot
      refine Ensures.pure ⟨rfl, rfl, headSnapshot_of_remove hhead _, 0, rfl,
        ?_, Kept.refl⟩
      rw [zero_add]
      exact h.remove_none hsnapshot
  | some snapshot =>
      dsimp only
      by_cases hhead : space.headId = some snapshotId
      · rw [if_pos hhead]
        rw [headId_eq_some] at hhead
        refine Ensures.pure ⟨rfl, rfl, ?_, 0, rfl, ?_, Kept.refl⟩
        · unfold headSnapshot
          rw [hhead]
          exact hsnapshot.symm
        · rw [zero_add]
          exact h.remove_head hsnapshot hhead
      · rw [if_neg hhead]
        rw [headId_eq_some] at hhead
        have hstored := storedRefs_perm (Arena.values_remove hsnapshot)
        have hsum : snapshotRefs snapshot + (headRefs space.head
              + storedRefs (Arena.remove snapshotId space.snapshots).2 + leak)
            = space.refs + leak := by
          unfold refs
          rw [hstored, ← add_assoc, ← add_assoc, ← add_assoc,
            add_comm (snapshotRefs _)]
          rfl
        have hheld := h.held
        rw [← hsum] at hheld
        apply Ensures.bind (SpaceTimeStorage.deleteSnapshot_spec hheld)
        rintro storage ⟨hheld', hkept⟩
        exact Ensures.pure ⟨rfl, rfl, headSnapshot_of_remove hhead _,
          _, resetsRefs_objects _, h.remove_other hhead hheld' hkept, hkept⟩

/-! ### Checking out -/

omit [LawfulArena A] in
/-- HEAD shows the snapshot; a dirty HEAD is deleted. -/
theorem checkout_spec (h : Valid space leak) (snapshotId : Index) :
    (space.checkout snapshotId).Ensures fun r =>
      r.1 = (if space.contains snapshotId then .ok () else .error {}) ∧
      r.2.snapshots = space.snapshots ∧
      r.2.head = (if space.contains snapshotId then .checkout snapshotId
        else space.head) ∧
      ∃ leak' : Refs ι, leak'.1 = 0 ∧ Valid r.2 (leak' + leak) ∧
        Kept (r.2.refs + leak) space.storage r.2.storage := by
  unfold checkout
  by_cases hcontains : space.contains snapshotId = true
  · have hget : Arena.get snapshotId space.snapshots ≠ none := by
      unfold contains at hcontains
      rw [Option.isSome_iff_ne_none] at hcontains
      exact hcontains
    have hcheckout : ∀ i, (Head.checkout snapshotId : Head A ι) = .checkout i →
        Arena.get i space.snapshots ≠ none := by
      intro i heq
      cases heq
      exact hget
    rw [if_pos hcontains, if_pos hcontains, if_pos hcontains]
    cases hhead : space.head with
    | dirty oldHead =>
        have hheld := h.held
        unfold refs at hheld
        rw [hhead, add_assoc] at hheld
        apply Ensures.bind (SpaceTimeStorage.deleteSnapshot_spec hheld)
        rintro storage ⟨hheld', hkept⟩
        have hzero : (0 : Refs ι) + storedRefs space.snapshots + leak
            = storedRefs space.snapshots + leak := by rw [zero_add]
        refine Ensures.pure ⟨rfl, rfl, rfl,
          resetsRefs (Arena.values oldHead.instances), resetsRefs_objects _,
          ⟨?_, shown_stored h.shown hkept, nofun, h.collected, hcheckout⟩, ?_⟩
        · rw [add_left_comm] at hheld'
          show Held storage (0 + storedRefs space.snapshots + (_ + leak))
          rw [zero_add]
          exact hheld'
        · show Kept (0 + storedRefs space.snapshots + leak) space.storage storage
          rw [hzero]
          exact hkept
    | checkout i =>
        refine Ensures.pure ⟨rfl, rfl, rfl, 0, rfl,
          ⟨?_, h.shown, nofun, h.collected, hcheckout⟩, Kept.refl⟩
        have hheld := h.held
        unfold refs at hheld
        rw [hhead] at hheld
        rw [zero_add]
        exact hheld
  · rw [if_neg hcontains, if_neg hcontains, if_neg hcontains]
    refine Ensures.pure ⟨rfl, rfl, rfl, 0, rfl, ?_, Kept.refl⟩
    rw [zero_add]
    exact h

end RedPlanet.SpaceTime.SpaceTime
