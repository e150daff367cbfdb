import RedPlanet.Simulator.Coupling
import RedPlanet.SpaceTime.Program

/-!
# The simulator on its space time

The laws of a snapshot store hold of copies of the whole state.  Of the space
time they hold as long as its limits are kept, and so does what the simulator
needs them for: a simulator on a space time and one that keeps copies of the
heap go through the same states.
-/

namespace RedPlanet.Simulator

open SnapshotStore Verified Verified.Timeline Limited
open RedPlanet.SpaceTime (SpaceTime Heap Versions Program Refs InvalidIdError)

variable {ι : Type} {A : Type → Type} [Arena A] {Ty : ι → Type}

/-! ## The space time as a store -/

section Store

variable [DecidableEq ι] [Core.Build]

/-- A computation that stopped stays as it is.  The results of `checkout` and
`drop_snapshot` are unwrapped. -/
instance : SnapshotStore (Limited (SpaceTime A Ty))
    (Limited (Option (SpaceTime.Snapshot A ι))) Index where
  new := pure SpaceTime.new
  view a := SpaceTime.headSnapshot <$> a
  captured a id :=
    match a.result with
    | .ok space => (Arena.get id space.snapshots).map fun stored =>
        pure (some stored)
    | .error _ => none
  makeSnapshot a :=
    let made := a >>= SpaceTime.makeSnapshot
    (match made.result with
      | .ok (id, _) => id
      | .error _ => ⟨0, 0⟩, Prod.snd <$> made)
  checkout id a := some (do
    let space ← a
    let (result, space) ← space.checkout id
    match result with
    | .ok () => return space
    | .error _ => panic)
  dropSnapshot id a := some (do
    let space ← a
    let (result, space) ← space.dropSnapshot id
    match result with
    | .ok () => return space
    | .error _ => panic)

/-- A simulatable whose tick is a program. -/
structure Guest {ι : Type} (Ty : ι → Type) where
  tick : Program Ty Unit

/-- Run a program where the computation got to. -/
def onSpace (program : Program Ty Unit) (a : Limited (SpaceTime A Ty)) :
    Limited (SpaceTime A Ty) := do
  let space ← a
  let (_, space) ← program.onSpace space
  return space

instance : Simulatable (Guest Ty) (Limited (SpaceTime A Ty)) where
  tick guest := onSpace guest.tick

end Store

section Copies

variable [DecidableEq ι]

instance : Inhabited (Heap Ty) := ⟨.empty⟩

def onCopies (program : Program Ty Unit) :
    CopyStore (Heap Ty) → CopyStore (Heap Ty) :=
  CopyStore.modify fun heap => (program.onHeap heap).2

instance : Simulatable (Guest Ty) (CopyStore (Heap Ty)) where
  tick guest := onCopies guest.tick

/-- On these heaps the program uses its ids at their types, and leaves such a
heap. -/
def Keeps (Fine : Heap Ty → Prop) (program : Program Ty Unit) : Prop :=
  ∀ heap, Fine heap → program.Typed heap ∧ Fine (program.onHeap heap).2

end Copies

/-! ## Both stores -/

section Mirrors

variable [DecidableEq ι]

omit [DecidableEq ι] in
theorem map_ne_of_nodup {α β : Type} {f : α → β} {kept rest : List α} {x y : α}
    (h : ((kept ++ x :: rest).map f).Nodup) (hy : y ∈ kept ++ rest) :
    f y ≠ f x := by
  have hmiddle : (kept ++ x :: rest).Perm (x :: (kept ++ rest)) :=
    List.perm_middle
  have hperm := hmiddle.map f
  rw [hperm.nodup_iff, List.map_cons, List.nodup_cons] at h
  exact fun heq => h.1 (heq ▸ List.mem_map_of_mem hy)

/-- HEAD and the snapshots with these ids show the copies. -/
def ShowsCopies (ids : List (Index × ℕ)) (store : CopyStore (Heap Ty))
    (space : SpaceTime A Ty) : Prop :=
  (ids.map Prod.fst).Nodup ∧
    ∃ (versions : Versions Ty) (leak : Refs ι), space.Valid leak ∧
      space.Shows versions ∧ versions.head = view store ∧
      ∀ pair ∈ ids, versions.saved pair.1 = captured store pair.2

/-- Within the limits, the space time shows what is kept in copies. -/
structure Mirrors (Fine : Heap Ty → Prop) (ids : List (Index × ℕ))
    (a : Limited (SpaceTime A Ty)) (store : CopyStore (Heap Ty)) : Prop where
  fine : Fine (view store)
  copies : ∀ pair ∈ ids, ∃ heap, captured store pair.2 = some heap ∧ Fine heap
  distinct : (ids.map Prod.snd).Nodup
  shows : a.Ensures (ShowsCopies ids store)

variable {Fine : Heap Ty → Prop} {ids : List (Index × ℕ)}
  {a : Limited (SpaceTime A Ty)} {store store' : CopyStore (Heap Ty)}

theorem Mirrors.captured_ne (h : Mirrors Fine ids a store) {pair : Index × ℕ}
    (hmem : pair ∈ ids) : captured store pair.2 ≠ none := by
  obtain ⟨heap, hheap, _⟩ := h.copies pair hmem
  rw [hheap]
  exact Option.some_ne_none heap

variable [SequentialArena A] [Core.Build]

/-- A snapshot on one side, a copy on the other. -/
theorem Mirrors.makeSnapshot (h : Mirrors Fine ids a store) :
    Mirrors Fine (ids ++ [((SnapshotStore.makeSnapshot a).1,
        (SnapshotStore.makeSnapshot store).1)])
      (SnapshotStore.makeSnapshot a).2
      (SnapshotStore.makeSnapshot store).2 := by
  have hfresh := LawfulSnapshotStore.captured_fresh store
  have hself := LawfulSnapshotStore.captured_new store
  have hview := LawfulSnapshotStore.view_makeSnapshot store
  have hold : ∀ pair ∈ ids,
      captured (SnapshotStore.makeSnapshot store).2 pair.2
        = captured store pair.2 := by
    intro pair hmem
    apply LawfulSnapshotStore.captured_makeSnapshot
    intro heq
    exact h.captured_ne hmem (heq ▸ hfresh)
  constructor
  · rw [hview]
    exact h.fine
  · intro pair hmem
    rcases List.mem_append.1 hmem with hmem | hmem
    · rw [hold pair hmem]
      exact h.copies pair hmem
    · rw [List.mem_singleton.1 hmem]
      exact ⟨_, hself, h.fine⟩
  · rw [List.map_append, List.nodup_append]
    refine ⟨h.distinct, List.nodup_singleton _, ?_⟩
    intro id hmem id' hmem' heq
    obtain ⟨pair, hpair, rfl⟩ := List.mem_map.1 hmem
    rw [List.mem_singleton.1 hmem'] at heq
    exact h.captured_ne hpair (heq ▸ hfresh)
  · have hmade : (a >>= SpaceTime.SpaceTime.makeSnapshot).Ensures fun r =>
        ShowsCopies (ids ++ [(r.1, (SnapshotStore.makeSnapshot store).1)])
          (SnapshotStore.makeSnapshot store).2 r.2 := by
      apply h.shows.bind
      rintro space ⟨hnodup, versions, leak, hvalid, hshows, hhead, hsaved⟩
      apply (hshows.makeSnapshot hvalid).imp
      rintro ⟨id, space'⟩ ⟨hvalid', hunused, hshows'⟩
      have hne : ∀ pair ∈ ids, pair.1 ≠ id := by
        intro pair hmem heq
        apply h.captured_ne hmem
        rw [← hsaved pair hmem, heq]
        exact hunused
      refine ⟨?_, _, _, hvalid', hshows', hhead.trans hview.symm, ?_⟩
      · rw [List.map_append, List.nodup_append]
        refine ⟨hnodup, List.nodup_singleton _, ?_⟩
        intro id₁ hmem id₂ hmem' heq
        obtain ⟨pair, hpair, rfl⟩ := List.mem_map.1 hmem
        rw [List.mem_singleton.1 hmem'] at heq
        exact hne pair hpair heq
      · intro pair hmem
        rcases List.mem_append.1 hmem with hmem | hmem
        · rw [hold pair hmem, ← hsaved pair hmem]
          exact Function.update_of_ne (hne pair hmem) _ _
        · rw [List.mem_singleton.1 hmem, hself, ← hhead]
          exact Function.update_self _ _ _
    apply hmade.attach.map
    rintro ⟨id, space'⟩ ⟨hresult, hshows⟩
    have hid : (SnapshotStore.makeSnapshot a).1 = id := by
      show (match (a >>= SpaceTime.SpaceTime.makeSnapshot).result with
        | .ok (id, _) => id
        | .error _ => ⟨0, 0⟩) = id
      rw [hresult]
    rw [hid]
    exact hshows

/-- Both show what was saved. -/
theorem Mirrors.checkout (h : Mirrors Fine ids a store) {pair : Index × ℕ}
    (hmem : pair ∈ ids) :
    Option.Rel (Mirrors Fine ids) (SnapshotStore.checkout pair.1 a)
      (SnapshotStore.checkout pair.2 store) := by
  obtain ⟨heap, hheap, hfine⟩ := h.copies pair hmem
  obtain ⟨store', hrun, hview, hcaptured⟩ :=
    LawfulSnapshotStore.checkout_spec store pair.2 heap hheap
  rw [hrun]
  refine .some ⟨hview ▸ hfine, ?_, h.distinct, ?_⟩
  · rw [hcaptured]
    exact h.copies
  · apply h.shows.bind
    rintro space ⟨hnodup, versions, leak, hvalid, hshows, hhead, hsaved⟩
    apply (hshows.checkout hvalid pair.1).bind
    rintro ⟨result, space'⟩ ⟨⟨leak', hvalid'⟩, hresult, hshows'⟩
    have hfound := (hsaved pair hmem).trans hheap
    dsimp only at hresult hshows' ⊢
    rw [hshows.contains, hfound] at hresult
    rw [hfound] at hshows'
    rw [hresult]
    refine Ensures.pure ⟨hnodup, _, _, hvalid', hshows', hview.symm, ?_⟩
    rw [hcaptured]
    exact hsaved

/-- Both forget what was saved. -/
theorem Mirrors.dropSnapshot {kept rest : List (Index × ℕ)}
    {pair : Index × ℕ} (h : Mirrors Fine (kept ++ pair :: rest) a store) :
    Option.Rel (Mirrors Fine (kept ++ rest))
      (SnapshotStore.dropSnapshot pair.1 a)
      (SnapshotStore.dropSnapshot pair.2 store) := by
  have hmem : pair ∈ kept ++ pair :: rest :=
    List.mem_append_right _ List.mem_cons_self
  have hsub : (kept ++ rest).Sublist (kept ++ pair :: rest) :=
    (List.sublist_cons_self pair rest).append_left kept
  obtain ⟨heap, hheap, hfine⟩ := h.copies pair hmem
  obtain ⟨store', hrun, hview, hcaptured⟩ :=
    LawfulSnapshotStore.dropSnapshot_spec store pair.2 heap hheap
  have hold : ∀ other ∈ kept ++ rest,
      captured store' other.2 = captured store other.2 := by
    intro other hother
    exact hcaptured _ (map_ne_of_nodup h.distinct hother)
  rw [hrun]
  refine .some ⟨hview ▸ h.fine, ?_, h.distinct.sublist (hsub.map _), ?_⟩
  · intro other hother
    rw [hold other hother]
    exact h.copies other (hsub.subset hother)
  · apply h.shows.bind
    rintro space ⟨hnodup, versions, leak, hvalid, hshows, hhead, hsaved⟩
    apply (hshows.dropSnapshot hvalid pair.1).bind
    rintro ⟨result, space'⟩ ⟨⟨leak', hvalid'⟩, hresult, hshows'⟩
    have hfound := (hsaved pair hmem).trans hheap
    dsimp only at hresult hshows' ⊢
    rw [hshows.contains, hfound] at hresult
    rw [hresult]
    refine Ensures.pure ⟨hnodup.sublist (hsub.map _), _, _, hvalid', hshows',
      hhead.trans hview.symm, ?_⟩
    intro other hother
    rw [hold other hother, ← hsaved other (hsub.subset hother)]
    exact Function.update_of_ne (map_ne_of_nodup hnodup hother) _ _

/-! ## Ticks -/

/-- A program that keeps the heaps fine does the same on both sides. -/
theorem Mirrors.onSpace {program : Program Ty Unit}
    (hkeeps : Keeps Fine program) (h : Mirrors Fine ids a store) :
    Mirrors Fine ids (onSpace program a) (onCopies program store) := by
  obtain ⟨htyped, hfine⟩ := hkeeps _ h.fine
  refine ⟨hfine, h.copies, h.distinct, ?_⟩
  apply h.shows.bind
  rintro space ⟨hnodup, versions, leak, hvalid, hshows, hhead, hsaved⟩
  rw [← hhead] at htyped
  apply (program.onSpace_spec hshows hvalid htyped).bind
  rintro ⟨_, space'⟩ ⟨hvalid', _, hshows'⟩
  refine Ensures.pure ⟨hnodup, _, leak, hvalid', hshows', ?_, hsaved⟩
  dsimp only
  rw [hhead]
  rfl

theorem alike_program {S S' : Type} {s : S} {s' : S'}
    {program : Program Ty Unit} (hkeeps : Keeps Fine program) :
    Alike (fun a : Limited (SpaceTime A Ty) => a.Succeeds) (Mirrors Fine) s s'
      (fun _ => onSpace program) fun _ => onCopies program where
  corresponds := fun h => h.onSpace hkeeps
  broken := fun _ _ hbroken h => hbroken h.of_bind

theorem alike_tick {guest : Guest Ty} (hkeeps : Keeps Fine guest.tick) :
    Alike (fun a : Limited (SpaceTime A Ty) => a.Succeeds) (Mirrors Fine) guest
      guest Simulatable.tick
      (Simulatable.tick : Guest Ty → CopyStore (Heap Ty) → _) where
  corresponds := fun h => h.onSpace hkeeps
  broken := fun _ _ hbroken h => hbroken h.of_bind

theorem coupling : Coupling (Guest Ty)
    (fun a : Limited (SpaceTime A Ty) => a.Succeeds) (Mirrors Fine) where
  makeSnapshot := Mirrors.makeSnapshot
  checkout := fun h hmem => h.checkout hmem
  dropSnapshot := Mirrors.dropSnapshot
  broken :=
    { makeSnapshot := fun _ hbroken h => hbroken h.of_map.of_bind
      checkout := by
        rintro a _ id hbroken ⟨rfl⟩ h
        exact hbroken h.of_bind
      dropSnapshot := by
        rintro a _ id hbroken ⟨rfl⟩ h
        exact hbroken h.of_bind
      tick := fun _ _ hbroken h => hbroken h.of_bind }

end Mirrors

/-! ## Sessions -/

/-- What is done to a simulator on a space time.  Ticks and predicates reach
the allocator by programs. -/
inductive Action {ι : Type} (Ty : ι → Type) : Type 1 where
  | step
  | stepWith (name : String) (program : Program Ty Unit)
  | undoStep
  | redoStep
  | undoStepsUntil {R κ : Type} (pred : κ → Program Ty (Option R × κ))
      (env : κ)
  | goTo (steps : ℕ)

namespace Action

variable [DecidableEq ι]

def onSpace [Core.Build] :
    Action Ty → Operation (Guest Ty) (Limited (SpaceTime A Ty)) Index
  | .step => .step
  | .stepWith name program =>
      .stepWith name fun _ a => ((), Simulator.onSpace program a)
  | .undoStep => .undoStep
  | .redoStep => .redoStep
  | .undoStepsUntil pred env => .undoStepsUntil (fun env a _ =>
      match (a >>= (pred env).onSpace).result with
      | .ok (answer, _) => answer
      | .error _ => (none, env)) (fun env _ => env) env
  | .goTo steps => .goTo steps

def onCopies : Action Ty → Operation (Guest Ty) (CopyStore (Heap Ty)) ℕ
  | .step => .step
  | .stepWith name program =>
      .stepWith name fun _ store => ((), Simulator.onCopies program store)
  | .undoStep => .undoStep
  | .redoStep => .redoStep
  | .undoStepsUntil pred env => .undoStepsUntil
      (fun env store _ => ((pred env).onHeap (view store)).1)
      (fun env _ => env) env
  | .goTo steps => .goTo steps

/-- Ticks keep the heaps fine, and predicates only read. -/
def Keeps (Fine : Heap Ty → Prop) : Action Ty → Prop
  | .stepWith _ program => Simulator.Keeps Fine program
  | .undoStepsUntil pred _ => ∀ env, (pred env).Reads ∧
      ∀ heap, Fine heap → (pred env).Typed heap
  | .step | .undoStep | .redoStep | .goTo _ => True

/-- The action looks at what is simulated. -/
def Searches : Action Ty → Prop
  | .undoStepsUntil _ _ => True
  | .step | .stepWith _ _ | .undoStep | .redoStep | .goTo _ => False

/-- The recorded ticks after an action at a position. -/
def timelineAfter (timeline : List (Option (String × Program Ty Unit)))
    (position : ℕ) : Action Ty → List (Option (String × Program Ty Unit))
  | .step => cutAppend timeline position none
  | .stepWith name program =>
      cutAppend timeline position (some (name, program))
  | .goTo steps => timeline ++ List.replicate (steps - timeline.length) none
  | .undoStep | .redoStep | .undoStepsUntil _ _ => timeline

end Action

section Session

variable [DecidableEq ι]

/-- Run the constructor of the simulatable. -/
def construct [Core.Build] (program : Program Ty (Guest Ty))
    (a : Limited (SpaceTime A Ty)) : Guest Ty × Limited (SpaceTime A Ty) :=
  let ran := a >>= program.onSpace
  (match ran.result with
    | .ok (guest, _) => guest
    | .error _ => ⟨.done ()⟩, Prod.snd <$> ran)

def constructCopies (program : Program Ty (Guest Ty))
    (store : CopyStore (Heap Ty)) : Guest Ty × CopyStore (Heap Ty) :=
  let ran := program.onHeap (view store)
  (ran.1, store.modify fun _ => ran.2)

/-- The simulators that are reached without running out of room or exceeding
a limit, with their recorded ticks. -/
inductive SpaceSession [Core.Build] (Fine : Heap Ty → Prop)
    (program : Program Ty (Guest Ty)) :
    Simulator (Guest Ty) (Limited (SpaceTime A Ty)) Index →
    List (Option (String × Program Ty Unit)) → Prop where
  | new (hsucceeds : (Simulator.new (construct program) :
        Simulator (Guest Ty) (Limited (SpaceTime A Ty)) Index).allocator.Succeeds) :
      SpaceSession Fine program (Simulator.new (construct program)) []
  | next {sim sim' : Simulator (Guest Ty) (Limited (SpaceTime A Ty)) Index}
      {timeline : List (Option (String × Program Ty Unit))}
      (session : SpaceSession Fine program sim timeline) (action : Action Ty)
      (hkeeps : action.Keeps Fine) (run : action.onSpace.run sim = some sim')
      (hsucceeds : sim'.allocator.Succeeds) :
      SpaceSession Fine program sim'
        (action.timelineAfter timeline sim.currentSteps)

/-- The heap after some recorded ticks. -/
def replayed (guest : Guest Ty)
    (timeline : List (Option (String × Program Ty Unit))) (heap : Heap Ty) :
    Heap Ty :=
  replay (fun mark heap => (((mark.map Prod.snd).getD guest.tick).onHeap
    heap).2) timeline heap

/-! ## Both simulators -/

/-- A recorded tick, on copies. -/
def toTick (mark : Option (String × Program Ty Unit)) :
    TimelineTick (Guest Ty) (CopyStore (Heap Ty)) :=
  mark.map fun mark =>
    { name := mark.1, tick := fun _ => Simulator.onCopies mark.2 }

theorem view_replay (guest : Guest Ty)
    (timeline : List (Option (String × Program Ty Unit))) :
    ∀ store : CopyStore (Heap Ty),
      view (replay (TimelineTick.run guest) (timeline.map toTick) store)
        = replayed guest timeline (view store) := by
  induction timeline with
  | nil => exact fun _ => rfl
  | cons mark timeline ih =>
      intro store
      refine (ih _).trans ?_
      cases mark with
      | none => rfl
      | some mark => rfl

theorem Action.timelineAfter_toTick (action : Action Ty)
    (timeline : List (Option (String × Program Ty Unit))) (position : ℕ) :
    action.onCopies.timelineAfter (timeline.map toTick) position
      = (action.timelineAfter timeline position).map toTick := by
  have hcut : ∀ mark : Option (String × Program Ty Unit),
      cutAppend (timeline.map toTick) position (toTick mark)
        = (cutAppend timeline position mark).map toTick := by
    intro mark
    unfold cutAppend
    rw [List.map_append, List.map_take]
    rfl
  cases action with
  | step => exact hcut none
  | stepWith name program => exact hcut (some (name, program))
  | goTo steps =>
      unfold Action.onCopies Action.timelineAfter Operation.timelineAfter
      rw [List.map_append, List.map_replicate, List.length_map]
      rfl
  | undoStep => rfl
  | redoStep => rfl
  | undoStepsUntil pred env => rfl

theorem Action.allowed (action : Action Ty) (guest : Guest Ty) :
    action.onCopies.Allowed guest := by
  cases action with
  | stepWith name program =>
      exact CopyStore.deterministic_modify fun heap => (program.onHeap heap).2
  | step | undoStep | redoStep | undoStepsUntil _ _ | goTo _ =>
      exact True.intro

variable [SequentialArena A] [Core.Build] {Fine : Heap Ty → Prop}
  {program : Program Ty (Guest Ty)} {guest : Guest Ty}
  {sim sim₁ : Simulator (Guest Ty) (Limited (SpaceTime A Ty)) Index}
  {sim' : Simulator (Guest Ty) (CopyStore (Heap Ty)) ℕ}
  {timeline : List (Option (String × Program Ty Unit))}

/-- Actions that do not look into the store. -/
theorem Couples.action
    (h : Couples (fun a : Limited (SpaceTime A Ty) => a.Succeeds)
      (Mirrors Fine) guest guest sim sim') {action : Action Ty}
    (hkeeps : action.Keeps Fine) (hblind : ¬ action.Searches) :
    Option.Rel (Couples (fun a : Limited (SpaceTime A Ty) => a.Succeeds)
      (Mirrors Fine) guest guest) (action.onSpace.run sim)
      (action.onCopies.run sim') := by
  cases action with
  | step => exact h.step coupling
  | stepWith name program =>
      exact rel_map (h.stepWith coupling name (alike_program hkeeps))
        fun _ _ h₁ => h₁
  | undoStep => exact rel_map (h.undoStep coupling) fun _ _ h₁ => h₁.2
  | redoStep => exact rel_map (h.redoStep coupling) fun _ _ h₁ => h₁.2
  | goTo steps => exact h.goTo coupling steps
  | undoStepsUntil pred env => exact absurd True.intro hblind

/-- A search asks the same on both sides. -/
theorem sameAnswers {R κ : Type} {pred : κ → Program Ty (Option R × κ)}
    (hreads : ∀ env, (pred env).Reads ∧
      ∀ heap, Fine heap → (pred env).Typed heap) :
    SameAnswers (fun a : Limited (SpaceTime A Ty) => a.Succeeds) (Mirrors Fine)
      guest guest
      (fun env a _ =>
        match (a >>= (pred env).onSpace).result with
        | .ok (answer, _) => answer
        | .error _ => (none, env))
      fun env (store : CopyStore (Heap Ty)) _ =>
        ((pred env).onHeap (view store)).1 := by
  intro ids a store env hgood h
  obtain ⟨space, hspace, _, versions, leak, hvalid, hshows, hhead, _⟩ :=
    hgood.ensures h.shows
  have htyped := (hreads env).2 _ h.fine
  rw [← hhead] at htyped
  have hanswer := (pred env).onSpace_eq (hreads env).1 hshows hvalid htyped
  dsimp only
  rw [(bind_of_ok hspace _).1, hanswer, hhead]

/-- After an action that succeeds the simulators are in the same state. -/
theorem Couples.next
    (h : Couples (fun a : Limited (SpaceTime A Ty) => a.Succeeds)
      (Mirrors Fine) guest guest sim sim') {action : Action Ty}
    (hkeeps : action.Keeps Fine) (hrun : action.onSpace.run sim = some sim₁)
    (hsucceeds : sim₁.allocator.Succeeds) :
    ∃ sim₁', action.onCopies.run sim' = some sim₁' ∧
      Couples (fun a : Limited (SpaceTime A Ty) => a.Succeeds)
        (Mirrors Fine) guest guest sim₁ sim₁' := by
  by_cases hsearches : action.Searches
  · cases action with
    | @undoStepsUntil R κ pred env =>
        obtain ⟨result, hresult, rfl⟩ := Option.map_eq_some_iff.1 hrun
        have hvisit : ∀ (env : κ)
            (sim : Simulator (Guest Ty) (Limited (SpaceTime A Ty)) Index)
            (sim' : Simulator (Guest Ty) (CopyStore (Heap Ty)) ℕ),
            sim.allocator.Succeeds →
            Couples (fun a : Limited (SpaceTime A Ty) => a.Succeeds)
              (Mirrors Fine) guest guest sim sim' →
            (fun env _ => env) env sim = (fun env _ => env) env sim' :=
          fun _ _ _ _ _ => rfl
        obtain ⟨result', hresult', _, _, h₁⟩ :=
          h.undoStepsUntil coupling (sameAnswers hkeeps) hvisit hresult
            hsucceeds
        exact ⟨result'.sim, Option.map_eq_some_iff.2 ⟨result', hresult', rfl⟩,
          h₁⟩
    | step | stepWith _ _ | undoStep | redoStep | goTo _ =>
        exact hsearches.elim
  · have hrel := h.action hkeeps hsearches
    rw [hrun] at hrel
    exact rel_some_left hrel

/-- The constructor allocates the same on both sides. -/
theorem couples_construct (hprogram : program.Typed .empty)
    (hfine : Fine (program.onHeap .empty).2)
    (htick : Keeps Fine (program.onHeap .empty).1.tick)
    (hsucceeds : (construct program SnapshotStore.new :
      Guest Ty × Limited (SpaceTime A Ty)).2.Succeeds) :
    Couples (fun a : Limited (SpaceTime A Ty) => a.Succeeds) (Mirrors Fine)
      (program.onHeap .empty).1 (program.onHeap .empty).1
      (Simulator.new (construct program) :
        Simulator (Guest Ty) (Limited (SpaceTime A Ty)) Index)
      (Simulator.new (constructCopies program) :
        Simulator (Guest Ty) (CopyStore (Heap Ty)) ℕ) := by
  have hspec : (program.onSpace (SpaceTime.new : SpaceTime A Ty)).Ensures _ :=
    program.onSpace_spec SpaceTime.SpaceTime.shows_new
      SpaceTime.SpaceTime.valid_new hprogram
  have hran : (SnapshotStore.new : Limited (SpaceTime A Ty)) >>= program.onSpace
      = program.onSpace SpaceTime.new := pure_bind _ _
  have hsucceeds' : (program.onSpace (SpaceTime.new :
      SpaceTime A Ty)).Succeeds := hran ▸ hsucceeds.of_map
  obtain ⟨⟨guest, space⟩, hresult, _, hguest, _⟩ := hsucceeds'.ensures hspec
  refine Couples.new coupling ?_ rfl ?_ (alike_tick htick)
  · unfold construct
    dsimp only
    rw [hran, hresult]
    exact hguest
  · refine ⟨hfine, nofun, List.nodup_nil, ?_⟩
    unfold construct
    dsimp only
    rw [hran]
    refine hspec.map ?_
    rintro ⟨guest, space⟩ ⟨hvalid, _, hshows⟩
    exact ⟨List.nodup_nil, _, _, hvalid, hshows, rfl, nofun⟩

/-- A simulator in a session on the space time is in the state of one in a
session on copies. -/
theorem SpaceSession.couples (hprogram : program.Typed .empty)
    (hfine : Fine (program.onHeap .empty).2)
    (htick : Keeps Fine (program.onHeap .empty).1.tick)
    (h : SpaceSession Fine program sim timeline) :
    ∃ sim', Session (constructCopies program) sim' (timeline.map toTick) ∧
      Couples (fun a : Limited (SpaceTime A Ty) => a.Succeeds) (Mirrors Fine)
        (program.onHeap .empty).1 (program.onHeap .empty).1 sim sim' := by
  induction h with
  | new hsucceeds =>
      exact ⟨_, .new, couples_construct hprogram hfine htick
        (hsucceeds.of_map.of_bind)⟩
  | next _ action hkeeps hrun hsucceeds ih =>
      obtain ⟨sim', session, hcouples⟩ := ih
      obtain ⟨sim₁', hrun', hcouples'⟩ := hcouples.next hkeeps hrun hsucceeds
      refine ⟨sim₁', ?_, hcouples'⟩
      have hnext := session.next action.onCopies (action.allowed _) hrun'
      rw [action.timelineAfter_toTick] at hnext
      obtain ⟨entries, hcoupled⟩ := hcouples
      rw [hcoupled.currentSteps]
      exact hnext

/-- Time travel on the space time is exact.  What reads HEAD reads the heap
that the recorded ticks up to HEAD make of the constructed one, and the next
action completes and, as long as the limits are kept, does not panic. -/
theorem SpaceSession.timeTravel (hprogram : program.Typed .empty)
    (hfine : Fine (program.onHeap .empty).2)
    (htick : Keeps Fine (program.onHeap .empty).1.tick)
    (h : SpaceSession Fine program sim timeline) :
    sim.currentSteps ≤ timeline.length ∧
      sim.availableSteps = some timeline.length ∧
      (∃ space, sim.allocator.result = .ok space ∧
        ∀ {R : Type} (query : Program Ty R), query.Reads →
          query.Typed (replayed (program.onHeap .empty).1
            (timeline.take sim.currentSteps) (program.onHeap .empty).2) →
          (query.onSpace space).result = .ok ((query.onHeap
            (replayed (program.onHeap .empty).1
              (timeline.take sim.currentSteps) (program.onHeap .empty).2)).1,
            space)) ∧
      ∀ action : Action Ty, action.Keeps Fine → ¬ action.Searches →
        ∃ sim₁, action.onSpace.run sim = some sim₁ ∧
          sim₁.allocator.Ensures fun _ => True := by
  have hdet : Deterministic (Simulatable.tick
      (constructCopies program (SnapshotStore.new : CopyStore (Heap Ty))).1 :
        CopyStore (Heap Ty) → CopyStore (Heap Ty)) :=
    CopyStore.deterministic_modify
      fun heap => ((program.onHeap .empty).1.tick.onHeap heap).2
  have hsucceeds : sim.allocator.Succeeds := by
    cases h with
    | new hsucceeds => exact hsucceeds
    | next _ _ _ _ hsucceeds => exact hsucceeds
  obtain ⟨sim', session, hcouples⟩ := h.couples hprogram hfine htick
  obtain ⟨hview, hwithin, havailable, hnext⟩ := timeTravel_exact hdet session
  obtain ⟨entries, hcoupled⟩ := hcouples
  rw [← hcoupled.currentSteps, ← List.map_take] at hview
  have hheap : view sim'.allocator = replayed (program.onHeap .empty).1
      (timeline.take sim.currentSteps) (program.onHeap .empty).2 :=
    hview.trans (view_replay _ _ _)
  rw [List.length_map] at hwithin havailable
  rw [← hcoupled.currentSteps] at hwithin
  refine ⟨hwithin, hcoupled.availableSteps.trans havailable, ?_, ?_⟩
  · obtain ⟨space, hspace, _, versions, leak, hvalid, hshows, hhead, _⟩ :=
      hsucceeds.ensures hcoupled.store.shows
    refine ⟨space, hspace, fun query hreads htyped => ?_⟩
    rw [← hheap, ← hhead] at htyped ⊢
    exact query.onSpace_eq hreads hshows hvalid htyped
  · intro action hkeeps hblind
    obtain ⟨sim₁', hrun', _⟩ := hnext action.onCopies (action.allowed _)
    have hrel := Couples.action ⟨entries, hcoupled⟩ hkeeps hblind
    rw [hrun'] at hrel
    obtain ⟨sim₁, hrun, entries₁, hcoupled₁⟩ := rel_some_right hrel
    exact ⟨sim₁, hrun, hcoupled₁.store.shows.imp fun _ _ => True.intro⟩

end Session

/-! ## A switch -/

/-- Allocate a switch that every tick toggles. -/
def Switch.program : Program (fun _ : Unit => Bool)
    (Guest fun _ : Unit => Bool) :=
  .insert () true fun id => .done ⟨.getMut () id not fun _ => .done ()⟩

def Switch.read : Program (fun _ : Unit => Bool) (Except InvalidIdError Bool) :=
  .get () ⟨0, 0⟩ .done

/-- Two steps and an undo toggle it once. -/
theorem SpaceSession.timeTravel_switch :
    ∃ sim space, @SpaceSession Unit GenArena _ _ _ Core.Build.debug
      (fun _ => True) Switch.program sim [none, none] ∧
      sim.allocator.result = .ok space ∧
      (@Program.onSpace _ _ _ _ _ _ Core.Build.debug Switch.read space).result
        = .ok (.ok false, space) := by
  have hnew := @SpaceSession.new Unit GenArena _ _ _ Core.Build.debug
    (fun _ => True) Switch.program ⟨rfl, _, rfl⟩
  have hone := @SpaceSession.next _ _ _ _ _ Core.Build.debug _ _ _ _ _ hnew
    .step True.intro rfl ⟨rfl, _, rfl⟩
  have htwo := @SpaceSession.next _ _ _ _ _ Core.Build.debug _ _ _ _ _ hone
    .step True.intro rfl ⟨rfl, _, rfl⟩
  have hback := @SpaceSession.next _ _ _ _ _ Core.Build.debug _ _ _ _ _ htwo
    .undoStep True.intro rfl ⟨rfl, _, rfl⟩
  have hkeeps : Keeps (fun _ => True)
      (Switch.program.onHeap .empty).1.tick :=
    fun _ _ => ⟨⟨fun _ _ => rfl, True.intro⟩, True.intro⟩
  have hprogram : Switch.program.Typed .empty := True.intro
  obtain ⟨_, _, ⟨space, hspace, hread⟩, _⟩ :=
    @SpaceSession.timeTravel _ _ _ _ _ _ Core.Build.debug _ _ _ _ hprogram
      True.intro hkeeps hback
  exact ⟨_, space, hback, hspace,
    hread Switch.read (fun _ => True.intro) ⟨fun _ _ => rfl, True.intro⟩⟩

end RedPlanet.Simulator
