import RedPlanet.Simulator.Reachable

/-!
# Reverse search

`undo_steps_until` on a reachable simulator, for a predicate that is a function
of the simulated state.  The states are those that `go_to` shows, and the
closures are followed through their trace.

`SearchExact` says how a search is to end, with the calls of both closures in
their order; `reverseSearch_exact` that it does, for every reachable
simulator.  The search itself is followed in `Simulator.Search`.
-/

namespace RedPlanet.Simulator

open SnapshotStore Verified Verified.Timeline

variable {S A V SnapshotId R κ : Type} [SnapshotStore A V SnapshotId]
  [Simulatable S A]

/-- The state that `go_to` shows at an index. -/
def shownAt (sim : Simulator S A SnapshotId) (k : Nat) : Option V := do
  let there ← sim.goTo k
  return view there.allocator

/-- What a function of the simulated state answers at an index. -/
def answerAt (answer : S → V → Option R) (sim : Simulator S A SnapshotId)
    (k : Nat) : Option R := do
  let state ← sim.shownAt k
  answer sim.simulatable state

/-- A search from `sim` ends as it should: at the last match before HEAD, or
at the start if there is none.  The predicate has been called once for each
index from `low` on, which the match is not before.  The visits go back, with
at most one in each segment from a snapshot to the next, and nothing recorded
is lost. -/
structure SearchExact (answer : S → V → Option R)
    (sim : Simulator S A SnapshotId) (low : Nat)
    (result : UndoResult S A SnapshotId R (Trace V R κ)) : Prop where
  atMatch : ∀ i r, i < sim.currentSteps → answerAt answer sim i = some r →
    (∀ k, i < k → k < sim.currentSteps → answerAt answer sim k = none) →
      result.reason = .pred r ∧ result.sim.currentSteps = i ∧ low ≤ i ∧
        result.env.visits.getLast? = some i
  atStart : (∀ k < sim.currentSteps, answerAt answer sim k = none) →
    result.reason = .reachedStart ∧ result.sim.currentSteps = 0 ∧ low = 0
  shown : sim.shownAt result.sim.currentSteps =
    some (view result.sim.allocator)
  calls : (result.env.calls.map fun call => some call.1).Perm
    ((List.range' low (sim.currentSteps - low)).map sim.shownAt)
  before : ∀ i ∈ result.env.visits, i < sim.currentSteps
  decreasing : result.env.visits.Pairwise (· > ·)
  segments : (result.env.visits.map result.sim.findBaseSnapshot).Nodup
  available : result.sim.availableSteps = sim.availableSteps
  restored : result.sim.shownAt sim.currentSteps = some (view sim.allocator)

variable {history : Nat → A} {simulatable : S}
  {timeline : List (TimelineTick S A)} {sim : Simulator S A SnapshotId}

/-- States that a snapshot separates have different base snapshots. -/
theorem Recorded.findBaseSnapshot_ne
    (h : Recorded history simulatable timeline sim) {older newer : Nat}
    (hapart : ∃ entry ∈ sim.snapshots,
      older < entry.1.stateIndex ∧ entry.1.stateIndex ≤ newer) :
    sim.findBaseSnapshot newer ≠ sim.findBaseSnapshot older := by
  obtain ⟨entry, hmem, holder, hnewer⟩ := hapart
  obtain ⟨j, hj⟩ := List.mem_iff_getElem?.1 hmem
  obtain ⟨i, hi, ⟨base, hbase, hle⟩, -⟩ := h.findBaseSnapshot older
  obtain ⟨i', hi', -, hafter⟩ := h.findBaseSnapshot newer
  intro heq
  rw [hi, hi'] at heq
  have hsame : i' = i := Option.some.inj heq
  rw [hsame] at hafter
  -- the separating snapshot comes after the base of the older state
  have hlt : i < j := by
    by_contra hge
    rcases Nat.eq_or_lt_of_le (Nat.not_lt.1 hge) with rfl | hji
    · rw [hj] at hbase
      rw [← Option.some.inj hbase] at hle
      omega
    · have := h.lt_of_lt hj hbase hji
      omega
  -- so the next one is at or before the newer state
  have hlen := (List.getElem?_eq_some_iff.1 hj).1
  have hget := List.getElem?_eq_getElem (Nat.lt_of_le_of_lt hlt hlen)
  have hnext := hafter _ hget
  rcases Nat.eq_or_lt_of_le (show i + 1 ≤ j from hlt) with heq' | hlt'
  · rw [heq', hj] at hafter
    have := hafter entry rfl
    omega
  · have := h.lt_of_lt hget hj hlt'
    omega

/-- The answers of a function of the state are those at the indices. -/
theorem Asked.answers_eq {answer : V → Option R} {low : Nat}
    {calls : List (V × Option R)}
    (h : Asked (fun state given => given = answer state) history low calls) :
    calls.map Prod.snd =
      (List.range' low calls.length).map fun k => answer (view (history k)) := by
  have hsnd : calls.map Prod.snd = (calls.map Prod.fst).map answer := by
    rw [List.map_map]
    exact List.map_congr_left h.answered
  rw [hsnd, h.states, List.map_map]
  rfl

omit [Simulatable S A] in
/-- A search with a match stops at the last one. -/
theorem Stopped.of_match {low n i : Nat} {r : R} {f : Nat → Option R}
    {visits : List Nat} {reason : UndoStepStopReason R}
    (h : Stopped low ((List.range' low n).map f) visits reason sim)
    (hi : i < low + n) (hmatch : f i = some r)
    (hafter : ∀ k, i < k → k < low + n → f k = none) :
    reason = .pred r ∧ sim.head.stateIndex = i ∧ low ≤ i ∧
      visits.getLast? = some i := by
  cases h with
  | @atMatch i' r' last reason_eq head visited =>
      obtain ⟨hlow, hlt, hfound, hlater⟩ := (lastMatch_range'_some _ _).1 last
      -- both indices are the last one with an answer
      have hsame : i' = i := by
        rcases Nat.lt_trichotomy i i' with hlt' | heq | hgt
        · have hnone := hafter i' hlt' hlt
          rw [hfound] at hnone
          exact absurd hnone (Option.some_ne_none r')
        · exact heq.symm
        · have hnone := hlater i hgt hi
          rw [hmatch] at hnone
          exact absurd hnone (Option.some_ne_none r)
      subst hsame
      rw [hfound] at hmatch
      cases hmatch
      exact ⟨reason_eq, head, hlow, visited⟩
  | atStart unmatched reason_eq head low_eq =>
      have hnone := (lastMatch_range'_none _ _).1 unmatched i (by omega) hi
      rw [hmatch] at hnone
      exact absurd hnone (Option.some_ne_none r)

omit [Simulatable S A] in
/-- A search without a match goes back to the start. -/
theorem Stopped.of_none {low n : Nat} {f : Nat → Option R}
    {visits : List Nat} {reason : UndoStepStopReason R}
    (h : Stopped low ((List.range' low n).map f) visits reason sim)
    (hnone : ∀ k < low + n, f k = none) :
    reason = .reachedStart ∧ sim.head.stateIndex = 0 ∧ low = 0 := by
  cases h with
  | atMatch last reason_eq head visited =>
      obtain ⟨-, hlt, hfound, -⟩ := (lastMatch_range'_some _ _).1 last
      rw [hnone _ hlt] at hfound
      exact absurd hfound.symm (Option.some_ne_none _)
  | atStart unmatched reason_eq head low_eq => exact ⟨reason_eq, head, low_eq⟩

variable [LawfulSnapshotStore A V SnapshotId]

/-- `go_to` shows the states of the history. -/
theorem WellFormed.shownAt (h : WellFormed history simulatable timeline sim)
    {k : Nat} (hk : k ≤ timeline.length) :
    sim.shownAt k = some (view (history k)) := by
  obtain ⟨there, hgo, hthere, hstate⟩ := h.goTo k hk
  have hview := hthere.atState.view_eq
  rw [hstate] at hview
  rw [Simulator.shownAt, hgo, ← hview]
  rfl

/-- The states asked about are those that `go_to` shows. -/
theorem WellFormed.asked_shown
    (h : WellFormed history simulatable timeline sim) {low : Nat}
    {answers : V → Option R → Prop} {calls : List (V × Option R)}
    (hasked : Asked answers history low calls)
    (hle : low + calls.length ≤ timeline.length + 1) :
    (List.range' low calls.length).map sim.shownAt =
      calls.map fun call => some call.1 := by
  have hsome : (calls.map fun call => some call.1) =
      (calls.map Prod.fst).map some := by
    rw [List.map_map]
    rfl
  rw [hsome, hasked.states, List.map_map]
  apply List.map_congr_left
  intro k hk
  have hlt := (List.mem_range'_1.1 hk).2
  exact h.shownAt (by omega)

/-- On a well-formed simulator a search is exact. -/
theorem WellFormed.searchExact
    (h : WellFormed history simulatable timeline sim)
    (hpos : 0 < sim.currentSteps) {pred : Pred S A R κ}
    {answer : S → V → Option R}
    (hpred : ∀ env allocator simulatable,
      (pred env allocator simulatable).1 =
        answer simulatable (view allocator))
    (visit : κ → Simulator S A SnapshotId → κ) (env : κ) :
    ∃ result low,
      sim.undoStepsUntil (tracedPred pred) (tracedVisit visit)
        { env := env, calls := [], visits := [] } = some result ∧
      SearchExact answer sim low result := by
  have hanswers : Answers simulatable pred fun state given =>
      given = answer simulatable state :=
    fun env allocator => hpred env allocator simulatable
  obtain ⟨result, low, inOrder, calls, visits, hrun, hclean, hcalls, hvisits,
    hsearched⟩ := h.undoStepsUntil_traced hanswers hpos visit
      { env := env, calls := [], visits := [] }
  rw [List.nil_append] at hcalls hvisits
  have hwell : WellFormed history simulatable timeline result.sim := Or.inl hclean
  have hwithin : sim.currentSteps ≤ timeline.length := h.atState.within
  have htop : low + inOrder.length = sim.currentSteps := hsearched.top_eq
  have hanswerAt : ∀ k < sim.currentSteps, answerAt answer sim k =
      answer simulatable (view (history k)) := by
    intro k hk
    rw [answerAt, h.shownAt (by omega), h.recorded.simulatable_eq]
    rfl
  have hasked := hsearched.asked
  have hstopped := hsearched.stopped
  rw [hasked.answers_eq] at hstopped
  refine ⟨result, low, hrun, ?_⟩
  exact
    { atMatch := by
        intro i r hi hmatch hafter
        rw [hanswerAt i hi] at hmatch
        rw [hvisits]
        refine hstopped.of_match (by omega) hmatch ?_
        intro k hk hlt
        rw [← hanswerAt k (by omega)]
        exact hafter k hk (by omega)
      atStart := by
        intro hnone
        apply hstopped.of_none
        intro k hk
        rw [← hanswerAt k (by omega)]
        exact hnone k (by omega)
      shown := by
        rw [hclean.atState.view_eq]
        exact h.shownAt hclean.atState.within
      calls := by
        have hlen : sim.currentSteps - low = inOrder.length := by omega
        rw [hcalls, hlen, h.asked_shown hasked (by omega)]
        exact hsearched.perm.map _
      before := hvisits ▸ hsearched.visits_lt
      decreasing := by
        rw [hvisits]
        refine hsearched.apart.imp fun {newer older} hapart => ?_
        obtain ⟨entry, -, holder, hnewer⟩ := hapart
        omega
      segments := by
        rw [hvisits]
        exact List.pairwise_map.2 (hsearched.apart.imp
          fun hapart => hclean.recorded.findBaseSnapshot_ne hapart)
      available := by
        rw [hwell.availableSteps_eq, h.availableSteps_eq]
      restored := by
        rw [h.atState.view_eq]
        exact hwell.shownAt hwithin }

/-- On every reachable simulator away from the start, a search for a function
of the simulated state is exact, and recording the calls of its closures does
not change it. -/
theorem reverseSearch_exact {simulatableConstructor : A → S × A}
    (hdet : Deterministic (Simulatable.tick
      (simulatableConstructor SnapshotStore.new).1 : A → A))
    (h : Reachable simulatableConstructor sim) (hpos : 0 < sim.currentSteps)
    (pred : Pred S A R κ) (answer : S → V → Option R)
    (hpred : ∀ env allocator simulatable,
      (pred env allocator simulatable).1 =
        answer simulatable (view allocator))
    (visit : κ → Simulator S A SnapshotId → κ) (env : κ) :
    ∃ result low,
      sim.undoStepsUntil (tracedPred pred) (tracedVisit visit)
        { env := env, calls := [], visits := [] } = some result ∧
      sim.undoStepsUntil pred visit env = some result.untraced ∧
      SearchExact answer sim low result := by
  obtain ⟨history, timeline, hwell⟩ := h.wellFormed hdet
  obtain ⟨result, low, hrun, hexact⟩ := hwell.searchExact hpos hpred visit env
  refine ⟨result, low, hrun, ?_, hexact⟩
  have huntraced := undoStepsUntil_untraced sim pred visit
    ({ env := env, calls := [], visits := [] } : Trace V R κ)
  rw [hrun] at huntraced
  exact huntraced

/-- A counter that has forgotten a doubling is searched for an even count. -/
theorem reverseSearch_exact_counter :
    ∃ sim : Simulator Counter (CopyStore Nat) Nat,
      Reachable Counter.construct sim ∧ sim.currentSteps = 4 ∧
      ∃ result low,
        sim.undoStepsUntil
          (tracedPred fun (_ : Unit) store _ =>
            (if store.value % 2 = 0 then some store.value else none, ()))
          (tracedVisit fun _ _ => ())
          { env := (), calls := [], visits := [] } = some result ∧
        SearchExact
          (fun (_ : Counter) count => if count % 2 = 0 then some count else none)
          sim low result := by
  have hdet : Deterministic
      (Simulatable.tick Counter.mk : CopyStore Nat → CopyStore Nat) :=
    CopyStore.deterministic_modify (· + 1)
  have hnew : Reachable Counter.construct
      (Simulator.new Counter.construct) := .new
  have h := (((hnew.operation .step trivial rfl).operation .step trivial
      rfl).operation (.stepWith "double" doubleTick)
      (CopyStore.deterministic_modify (2 * ·)) rfl).operation .step trivial rfl
  have hcleared := h.clearForwardHistory rfl
  obtain ⟨result, low, hrun, -, hexact⟩ := reverseSearch_exact hdet hcleared
    (by decide)
    (fun (_ : Unit) store _ =>
      (if store.value % 2 = 0 then some store.value else none, ()))
    (fun _ count => if count % 2 = 0 then some count else none)
    (fun _ _ _ => rfl) (fun _ _ => ()) ()
  exact ⟨_, hcleared, rfl, result, low, hrun, hexact⟩

end RedPlanet.Simulator
