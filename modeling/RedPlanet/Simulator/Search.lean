import RedPlanet.Simulator.Moves
import RedPlanet.Verified.Matches

/-!
# Searching backwards

`undo_steps_until` goes through the snapshots from the newest one back, and
replays from each of them up to the states already searched.  Its closures are
followed through a `Trace` of their calls: the predicate is asked about each
state of an interval that ends before HEAD, once, and the search stops at the
last state it matched.

The traced closures do what the closures do (`undoLoop_untraced`), so that the
result can be read off the trace.  `Searched` is the invariant of the loop over
the snapshots, and `Stopped` what it comes to at the end.
-/

namespace RedPlanet.Simulator

open SnapshotStore Verified Verified.Timeline

variable {S A V SnapshotId R κ : Type} [SnapshotStore A V SnapshotId]

/-! ## Tracing the closures -/

/-- The states the predicate was called on, with its answers, and the indices
of the states that were visited, next to the state of the closures. -/
structure Trace (V R κ : Type) where
  env : κ
  calls : List (V × Option R)
  visits : List Nat

/-- A predicate that records its calls. -/
def tracedPred (pred : Pred S A R κ) : Pred S A R (Trace V R κ) :=
  fun trace allocator simulatable =>
    let answer := pred trace.env allocator simulatable
    (answer.1,
      { trace with
        env := answer.2
        calls := trace.calls ++ [(view allocator, answer.1)] })

/-- A visitor that records its calls. -/
def tracedVisit (visit : κ → Simulator S A SnapshotId → κ) :
    Trace V R κ → Simulator S A SnapshotId → Trace V R κ :=
  fun trace sim =>
    { trace with
      env := visit trace.env sim
      visits := trace.visits ++ [sim.head.stateIndex] }

/-- Forget the trace. -/
def UndoResult.untraced (result : UndoResult S A SnapshotId R (Trace V R κ)) :
    UndoResult S A SnapshotId R κ :=
  { reason := result.reason, env := result.env.env, sim := result.sim }

/-- What a predicate makes of the state at HEAD. -/
theorem checkPred_traced (pred : Pred S A R κ) (trace : Trace V R κ)
    (lastMatched : Option (Nat × R)) (sim : Simulator S A SnapshotId) :
    checkPred (tracedPred pred) trace lastMatched sim =
      (((pred trace.env sim.allocator sim.simulatable).1.map
          fun r => (sim.head.stateIndex, r)).or lastMatched,
        { trace with
          env := (pred trace.env sim.allocator sim.simulatable).2
          calls := trace.calls ++ [(view sim.allocator,
            (pred trace.env sim.allocator sim.simulatable).1)] }) := by
  unfold checkPred tracedPred
  dsimp only
  cases (pred trace.env sim.allocator sim.simulatable).1 <;> rfl

/-- A call of the predicate. -/
theorem checkPred_untraced (pred : Pred S A R κ) (trace : Trace V R κ)
    (lastMatched : Option (Nat × R)) (sim : Simulator S A SnapshotId) :
    (checkPred (tracedPred pred) trace lastMatched sim).1 =
        (checkPred pred trace.env lastMatched sim).1 ∧
      (checkPred (tracedPred pred) trace lastMatched sim).2.env =
        (checkPred pred trace.env lastMatched sim).2 := by
  rw [checkPred_traced]
  unfold checkPred
  dsimp only
  cases (pred trace.env sim.allocator sim.simulatable).1 <;> exact ⟨rfl, rfl⟩

variable [Simulatable S A]

/-- The calls during a replay. -/
theorem scan_untraced (pred : Pred S A R κ) (n : Nat) :
    ∀ (lastMatched : Option (Nat × R)) (trace : Trace V R κ)
      (sim : Simulator S A SnapshotId),
      ((scan (tracedPred pred) n lastMatched trace sim).1,
          (scan (tracedPred pred) n lastMatched trace sim).2.1.env,
          (scan (tracedPred pred) n lastMatched trace sim).2.2) =
        scan pred n lastMatched trace.env sim := by
  induction n with
  | zero => intro _ _ _; rfl
  | succ n ih =>
      intro lastMatched trace sim
      obtain ⟨hmatched, henv⟩ :=
        checkPred_untraced pred trace lastMatched sim.replayStep
      rw [scan, scan, ih, hmatched, henv]

/-- The calls from one snapshot on. -/
theorem searchFrom_untraced (pred : Pred S A R κ)
    (snapshotIndex topStateIndex : Nat) (trace : Trace V R κ)
    (sim : Simulator S A SnapshotId) :
    searchFrom pred snapshotIndex topStateIndex trace.env sim =
      (searchFrom (tracedPred pred) snapshotIndex topStateIndex trace sim).map
        fun searched => (searched.1, searched.2.1.env, searched.2.2) := by
  unfold searchFrom
  cases sim.goToSnapshot snapshotIndex with
  | none => rfl
  | some sim' =>
      cases StateIndex.previous topStateIndex with
      | none => rfl
      | some last =>
          obtain ⟨hmatched, henv⟩ := checkPred_untraced pred trace none sim'
          simp only [Option.bind_eq_bind, Option.bind_some, Option.pure_def,
            Option.map_some]
          rw [scan_untraced, hmatched, henv]

/-- All the calls of a search. -/
theorem undoLoop_untraced (pred : Pred S A R κ)
    (visit : κ → Simulator S A SnapshotId → κ) (n : Nat) :
    ∀ (topStateIndex : Nat) (trace : Trace V R κ)
      (sim : Simulator S A SnapshotId),
      undoLoop pred visit n topStateIndex trace.env sim =
        (undoLoop (tracedPred pred) (tracedVisit visit) n topStateIndex trace
          sim).map UndoResult.untraced := by
  induction n with
  | zero =>
      intro topStateIndex trace sim
      unfold undoLoop
      cases sim.goToSnapshot 0 <;> rfl
  | succ snapshotIndex ih =>
      intro topStateIndex trace sim
      unfold undoLoop
      rw [searchFrom_untraced]
      cases searchFrom (tracedPred pred) snapshotIndex topStateIndex trace sim with
      | none => rfl
      | some searched =>
          obtain ⟨lastMatched, trace', sim'⟩ := searched
          cases lastMatched with
          | some found =>
              obtain ⟨stateIndex, r⟩ := found
              simp only [Option.map_some, Option.bind_eq_bind,
                Option.bind_some]
              cases sim'.backToMatch snapshotIndex stateIndex <;> rfl
          | none =>
              simp only [Option.map_some, Option.bind_eq_bind,
                Option.bind_some]
              cases sim'.snapshots[snapshotIndex]? with
              | none => rfl
              | some entry => exact ih _ (tracedVisit visit trace' sim') sim'

/-- Recording the calls does not change the search. -/
theorem undoStepsUntil_untraced (sim : Simulator S A SnapshotId)
    (pred : Pred S A R κ) (visit : κ → Simulator S A SnapshotId → κ)
    (trace : Trace V R κ) :
    sim.undoStepsUntil pred visit trace.env =
      (sim.undoStepsUntil (tracedPred pred) (tracedVisit visit) trace).map
        UndoResult.untraced := by
  unfold undoStepsUntil
  cases StateIndex.previous sim.head.stateIndex with
  | none => rfl
  | some _ =>
      simp only [Option.bind_eq_bind]
      cases sim.saveIfDirty with
      | none => rfl
      | some sim' =>
          simp only [Option.bind_some]
          cases sim'.firstSearched with
          | none => rfl
          | some base => exact undoLoop_untraced _ _ _ _ _ _

/-! ## The inner loop -/

/-- The predicate has been called on consecutive states, the first one being
`low`, and its answers are possible ones. -/
structure Asked (answers : V → Option R → Prop) (history : Nat → A)
    (low : Nat) (calls : List (V × Option R)) : Prop where
  states : calls.map Prod.fst =
    (List.range' low calls.length).map fun k => view (history k)
  answered : ∀ call ∈ calls, answers call.1 call.2

omit [Simulatable S A] in
/-- Two intervals that meet. -/
theorem Asked.append {answers : V → Option R → Prop} {history : Nat → A}
    {low : Nat} {xs ys : List (V × Option R)}
    (hxs : Asked answers history low xs)
    (hys : Asked answers history (low + xs.length) ys) :
    Asked answers history low (xs ++ ys) where
  states := by
    rw [List.map_append, hxs.states, hys.states, List.length_append,
      ← List.range'_append_1, List.map_append]
  answered := fun call hmem =>
    (List.mem_append.1 hmem).elim (hxs.answered call) (hys.answered call)

/-- The answers a predicate can give on a simulatable. -/
def Answers (simulatable : S) (pred : Pred S A R κ)
    (answers : V → Option R → Prop) : Prop :=
  ∀ (env : κ) (allocator : A),
    answers (view allocator) (pred env allocator simulatable).1

/-- The inner loop only adds calls of the predicate to replaying. -/
theorem scan_sim (pred : Pred S A R κ) (n : Nat) :
    ∀ (lastMatched : Option (Nat × R)) (env : κ)
      (sim : Simulator S A SnapshotId),
      (scan pred n lastMatched env sim).2.2 = sim.replaySteps n := by
  induction n with
  | zero => intro _ _ _; rfl
  | succ n ih => intro _ _ _; exact ih _ _ _

variable {history : Nat → A} {simulatable : S}
  {timeline : List (TimelineTick S A)} {answers : V → Option R → Prop}

/-- The predicate is called on the state at HEAD. -/
theorem Clean.checkPred {pred : Pred S A R κ}
    (hanswers : Answers simulatable pred answers)
    {sim : Simulator S A SnapshotId}
    (h : Clean history simulatable timeline sim) (trace : Trace V R κ)
    (lastMatched : Option (Nat × R)) :
    ∃ call, Asked answers history sim.head.stateIndex [call] ∧
      (checkPred (tracedPred pred) trace lastMatched sim).1 =
        (lastMatch sim.head.stateIndex [call.2]).or lastMatched ∧
      (checkPred (tracedPred pred) trace lastMatched sim).2.calls =
        trace.calls ++ [call] ∧
      (checkPred (tracedPred pred) trace lastMatched sim).2.visits =
        trace.visits := by
  rw [checkPred_traced]
  refine ⟨(view sim.allocator,
    (pred trace.env sim.allocator sim.simulatable).1), ?_, ?_, rfl, rfl⟩
  · constructor
    · show [view sim.allocator] = [view (history sim.head.stateIndex)]
      rw [h.atState.view_eq]
    · intro call hmem
      rw [List.mem_singleton.1 hmem, h.recorded.simulatable_eq]
      exact hanswers trace.env sim.allocator
  · rw [lastMatch_cons, lastMatch_nil, Option.none_or]

/-- The inner loop asks about the states it replays. -/
theorem Clean.scan {pred : Pred S A R κ}
    (hanswers : Answers simulatable pred answers) (n : Nat) :
    ∀ {sim : Simulator S A SnapshotId} (lastMatched : Option (Nat × R))
      (trace : Trace V R κ),
      Clean history simulatable timeline sim →
      sim.head.stateIndex + n ≤ timeline.length →
      (∀ entry,
        sim.snapshots[sim.head.baseSnapshotIndex + 1]? = some entry →
          sim.head.stateIndex + n < entry.1.stateIndex) →
      ∃ calls, calls.length = n ∧
        Asked answers history (sim.head.stateIndex + 1) calls ∧
        (scan (tracedPred pred) n lastMatched trace sim).1 =
          (lastMatch (sim.head.stateIndex + 1) (calls.map Prod.snd)).or
            lastMatched ∧
        (scan (tracedPred pred) n lastMatched trace sim).2.1.calls =
          trace.calls ++ calls ∧
        (scan (tracedPred pred) n lastMatched trace sim).2.1.visits =
          trace.visits := by
  induction n with
  | zero =>
      intro sim lastMatched trace _ _ _
      refine ⟨[], rfl, ⟨rfl, fun _ hmem => absurd hmem List.not_mem_nil⟩,
        (Option.none_or).symm, (List.append_nil _).symm, rfl⟩
  | succ n ih =>
      intro sim lastMatched trace h hle hnext
      obtain ⟨hclean, hstate, hbase, hsnapshots⟩ := h.replayStep (by omega)
        (fun entry hentry => by have := hnext entry hentry; omega)
      obtain ⟨call, hasked, hmatched, hcalls, hvisits⟩ :=
        hclean.checkPred hanswers trace lastMatched
      obtain ⟨calls, hlen, hrest, hmatchedRest, hcallsRest, hvisitsRest⟩ :=
        ih (Simulator.checkPred (tracedPred pred) trace lastMatched
            sim.replayStep).1
          (Simulator.checkPred (tracedPred pred) trace lastMatched
            sim.replayStep).2 hclean (by omega) (by
            intro entry hentry
            rw [hbase, hsnapshots] at hentry
            have := hnext entry hentry
            omega)
      rw [hstate] at hasked hmatched hrest hmatchedRest
      refine ⟨call :: calls, by rw [List.length_cons, hlen],
        hasked.append hrest, ?_, ?_, ?_⟩
      · rw [Simulator.scan, hmatchedRest, hmatched, List.map_cons,
          lastMatch_cons, lastMatch_cons, lastMatch_nil, Option.none_or,
          Option.or_assoc]
      · rw [Simulator.scan, hcallsRest, hcalls, List.append_assoc]
        rfl
      · rw [Simulator.scan, hvisitsRest, hvisits]

/-! ## The outer loop -/

variable [LawfulSnapshotStore A V SnapshotId]

/-- Searching from a snapshot asks about the states from there up to those
that have been searched. -/
theorem Clean.searchFrom {pred : Pred S A R κ}
    (hanswers : Answers simulatable pred answers)
    {sim : Simulator S A SnapshotId}
    (h : Clean history simulatable timeline sim)
    {snapshotIndex topStateIndex : Nat} (trace : Trace V R κ)
    {entry : Head × SnapshotId}
    (hentry : sim.snapshots[snapshotIndex]? = some entry)
    (hlt : entry.1.stateIndex < topStateIndex)
    (hwithin : topStateIndex ≤ timeline.length)
    (hafter : ∀ newer, sim.snapshots[snapshotIndex + 1]? = some newer →
      topStateIndex ≤ newer.1.stateIndex) :
    ∃ calls trace' sim',
      searchFrom (tracedPred pred) snapshotIndex topStateIndex trace sim =
        some (lastMatch entry.1.stateIndex (calls.map Prod.snd), trace',
          sim') ∧
      Asked answers history entry.1.stateIndex calls ∧
      entry.1.stateIndex + calls.length = topStateIndex ∧
      trace'.calls = trace.calls ++ calls ∧ trace'.visits = trace.visits ∧
      Clean history simulatable timeline sim' ∧
      sim'.head.stateIndex = topStateIndex - 1 ∧
      sim'.head.baseSnapshotIndex = snapshotIndex ∧
      sim'.snapshots = sim.snapshots := by
  obtain ⟨sim₁, hgo, hclean, hstate, hbase, hsnapshots⟩ :=
    h.goToSnapshot hentry
  have hprevious : StateIndex.previous topStateIndex =
      some (topStateIndex - 1) := by
    rw [StateIndex.previous, if_neg (by omega)]
  let steps := topStateIndex - 1 - sim₁.head.stateIndex
  let first := Simulator.checkPred (tracedPred pred) trace none sim₁
  have hnext : ∀ newer,
      sim₁.snapshots[sim₁.head.baseSnapshotIndex + 1]? = some newer →
        sim₁.head.stateIndex + steps < newer.1.stateIndex := by
    intro newer hnewer
    rw [hbase, hsnapshots] at hnewer
    have := hafter newer hnewer
    omega
  obtain ⟨call, hasked, hmatched, hcalls, hvisits⟩ :=
    hclean.checkPred hanswers trace none
  obtain ⟨calls, hlen, hrest, hmatchedRest, hcallsRest, hvisitsRest⟩ :=
    hclean.scan hanswers steps first.1 first.2 (by omega) hnext
  obtain ⟨hscan, hscanState, hscanBase, hscanSnapshots⟩ :=
    hclean.replaySteps steps (by omega) hnext
  rw [← scan_sim (tracedPred pred) steps first.1 first.2]
    at hscan hscanState hscanBase hscanSnapshots
  rw [hstate] at hasked hmatched hrest hmatchedRest
  refine ⟨call :: calls,
    (Simulator.scan (tracedPred pred) steps first.1 first.2 sim₁).2.1,
    (Simulator.scan (tracedPred pred) steps first.1 first.2 sim₁).2.2, ?_,
    hasked.append hrest, ?_, ?_, hvisitsRest.trans hvisits, hscan, by omega,
    hscanBase.trans hbase, hscanSnapshots.trans hsnapshots⟩
  · have hlast : (Simulator.scan (tracedPred pred) steps first.1 first.2
        sim₁).1 = lastMatch entry.1.stateIndex
          ((call :: calls).map Prod.snd) := by
      rw [hmatchedRest, hmatched, Option.or_none, List.map_cons,
        lastMatch_cons, lastMatch_cons, lastMatch_nil, Option.none_or]
    simp only [Simulator.searchFrom, hgo, hprevious, Option.bind_eq_bind,
      Option.bind_some, StateIndex.stepsSince]
    rw [← hlast]
    rfl
  · rw [List.length_cons]
    omega
  · rw [hcallsRest, hcalls, List.append_assoc]
    rfl

/-- Stepping back onto a match. -/
theorem Clean.backToMatch {sim : Simulator S A SnapshotId}
    (h : Clean history simulatable timeline sim) {snapshotIndex target : Nat}
    {entry : Head × SnapshotId}
    (hentry : sim.snapshots[snapshotIndex]? = some entry)
    (hbase : sim.head.baseSnapshotIndex = snapshotIndex)
    (hlow : entry.1.stateIndex ≤ target)
    (hhigh : target ≤ sim.head.stateIndex) :
    ∃ sim', sim.backToMatch snapshotIndex target = some sim' ∧
      Clean history simulatable timeline sim' ∧
      sim'.head.stateIndex = target ∧ sim'.snapshots = sim.snapshots := by
  have hwithin := h.atState.within
  have hnext : ∀ newer, sim.snapshots[snapshotIndex + 1]? = some newer →
      target < newer.1.stateIndex := by
    intro newer hnewer
    have := h.atState.next newer (hbase ▸ hnewer)
    omega
  by_cases hlt : target < sim.head.stateIndex
  · obtain ⟨sim₁, hgo, hclean, hstate, hbase₁, hsnapshots⟩ :=
      h.goToSnapshot hentry
    obtain ⟨sim₂, hrun, hclean₂, hstate₂, -, hsnapshots₂⟩ :=
      hclean.replayTo target (by omega) (by omega)
        (by rw [hbase₁, hsnapshots]; exact hnext)
    exact ⟨sim₂, by simp [Simulator.backToMatch, hlt, hgo, hrun], hclean₂,
      hstate₂, hsnapshots₂.trans hsnapshots⟩
  · obtain ⟨sim₂, hrun, hclean₂, hstate₂, -, hsnapshots₂⟩ :=
      h.replayTo target (by omega) (by omega)
        (by rw [hbase]; exact hnext)
    exact ⟨sim₂, by simp [Simulator.backToMatch, hlt, hrun], hclean₂, hstate₂,
      hsnapshots₂⟩

/-- Where a search stops: at the last match, or at the start if there is no
match among all states. -/
inductive Stopped (low : Nat) (answers : List (Option R))
    (visits : List Nat) (reason : UndoStepStopReason R)
    (sim : Simulator S A SnapshotId) : Prop where
  | atMatch {i : Nat} {r : R} (last : lastMatch low answers = some (i, r))
      (reason_eq : reason = .pred r) (head : sim.head.stateIndex = i)
      (visited : visits.getLast? = some i)
  | atStart (unmatched : lastMatch low answers = none)
      (reason_eq : reason = .reachedStart) (head : sim.head.stateIndex = 0)
      (low_eq : low = 0)

/-- What a search of the states below `top` has done: the predicate has been
asked about the states from `low` on, segment by segment, and the states
visited go back from one segment to an earlier one. -/
structure Searched (answers : V → Option R → Prop) (history : Nat → A)
    (top low : Nat) (inOrder calls : List (V × Option R)) (visits : List Nat)
    (reason : UndoStepStopReason R) (sim : Simulator S A SnapshotId) :
    Prop where
  asked : Asked answers history low inOrder
  top_eq : low + inOrder.length = top
  perm : calls.Perm inOrder
  visits_lt : ∀ i ∈ visits, i < top
  apart : visits.Pairwise fun newer older => ∃ entry ∈ sim.snapshots,
    older < entry.1.stateIndex ∧ entry.1.stateIndex ≤ newer
  stopped : Stopped low (inOrder.map Prod.snd) visits reason sim

omit [Simulatable S A] [LawfulSnapshotStore A V SnapshotId] in
/-- A segment without a match, then the search of the states before it. -/
theorem Searched.after_segment {top middle low visited : Nat}
    {inOrder calls segment : List (V × Option R)} {visits : List Nat}
    {reason : UndoStepStopReason R} {sim : Simulator S A SnapshotId}
    {entry : Head × SnapshotId}
    (h : Searched answers history middle low inOrder calls visits reason sim)
    (hasked : Asked answers history middle segment)
    (htop : middle + segment.length = top)
    (hmatch : lastMatch middle (segment.map Prod.snd) = none)
    (hentry : entry ∈ sim.snapshots) (hmiddle : entry.1.stateIndex = middle)
    (hle : middle ≤ visited) (hlt : visited < top) :
    Searched answers history top low (inOrder ++ segment) (segment ++ calls)
      (visited :: visits) reason sim := by
  have hrest := h.top_eq
  have hmatchAll : lastMatch low ((inOrder ++ segment).map Prod.snd) =
      lastMatch low (inOrder.map Prod.snd) := by
    rw [List.map_append, lastMatch_append, List.length_map, hrest, hmatch,
      Option.none_or]
  exact
    { asked := h.asked.append (by rw [hrest]; exact hasked)
      top_eq := by
        rw [List.length_append]
        omega
      perm := (List.perm_append_comm).trans (h.perm.append_right segment)
      visits_lt := by
        intro i hmem
        rcases List.mem_cons.1 hmem with rfl | hmem
        · exact hlt
        · have := h.visits_lt i hmem
          omega
      apart := by
        refine List.pairwise_cons.2 ⟨?_, h.apart⟩
        intro older holder
        have := h.visits_lt older holder
        exact ⟨entry, hentry, by omega, by omega⟩
      stopped := by
        cases h.stopped with
        | atMatch last reason_eq head visited =>
            refine .atMatch (hmatchAll.trans last) reason_eq head ?_
            rw [List.getLast?_cons, visited]
            rfl
        | atStart unmatched reason_eq head low_eq =>
            exact .atStart (hmatchAll.trans unmatched) reason_eq head low_eq }

/-- The loop searches the states below `topStateIndex`, if these are the
states of the snapshots that are left. -/
theorem Clean.undoLoop {pred : Pred S A R κ}
    (hanswers : Answers simulatable pred answers)
    (visit : κ → Simulator S A SnapshotId → κ) (n : Nat) :
    ∀ (topStateIndex : Nat) (trace : Trace V R κ)
      {sim : Simulator S A SnapshotId},
      Clean history simulatable timeline sim →
      topStateIndex ≤ timeline.length → n ≤ sim.snapshots.length →
      (n = 0 → topStateIndex = 0) →
      (∀ i entry, n = i + 1 → sim.snapshots[i]? = some entry →
        entry.1.stateIndex < topStateIndex) →
      (∀ entry, sim.snapshots[n]? = some entry →
        topStateIndex ≤ entry.1.stateIndex) →
      ∃ result low inOrder calls visits,
        undoLoop (tracedPred pred) (tracedVisit visit) n topStateIndex trace
          sim = some result ∧
        Clean history simulatable timeline result.sim ∧
        result.sim.snapshots = sim.snapshots ∧
        result.env.calls = trace.calls ++ calls ∧
        result.env.visits = trace.visits ++ visits ∧
        Searched answers history topStateIndex low inOrder calls visits
          result.reason result.sim := by
  induction n with
  | zero =>
      intro topStateIndex trace sim h _ _ htop _ _
      obtain ⟨first, hfirst, hzero⟩ := h.recorded.first
      obtain ⟨sim₁, hgo, hclean, hstate, -, hsnapshots⟩ :=
        h.goToSnapshot hfirst
      refine ⟨{ reason := .reachedStart, env := trace, sim := sim₁ }, 0, [],
        [], [], by simp [Simulator.undoLoop, hgo], hclean, hsnapshots,
        (List.append_nil _).symm, (List.append_nil _).symm, ?_⟩
      exact
        { asked := ⟨rfl, fun _ hmem => absurd hmem List.not_mem_nil⟩
          top_eq := (htop rfl).symm
          perm := .nil
          visits_lt := fun _ hmem => absurd hmem List.not_mem_nil
          apart := .nil
          stopped := .atStart rfl rfl (hstate.trans hzero) rfl }
  | succ snapshotIndex ih =>
      intro topStateIndex trace sim h hwithin hlen _ hbefore hafter
      obtain ⟨entry, hentry⟩ : ∃ entry,
          sim.snapshots[snapshotIndex]? = some entry :=
        ⟨_, List.getElem?_eq_getElem hlen⟩
      have hlt := hbefore snapshotIndex entry rfl hentry
      obtain ⟨segment, trace', sim₁, hsearch, hasked, htop, hcalls, hvisits,
        hclean, hstate, hbase, hsnapshots⟩ :=
        h.searchFrom hanswers trace hentry hlt hwithin hafter
      rw [← hsnapshots] at hentry
      cases hmatch : lastMatch entry.1.stateIndex (segment.map Prod.snd) with
      | some found =>
          obtain ⟨target, r⟩ := found
          obtain ⟨hlow, hhigh⟩ := lastMatch_bounds hmatch
          rw [List.length_map, htop] at hhigh
          obtain ⟨sim₂, hback, hclean₂, hstate₂, hsnapshots₂⟩ :=
            hclean.backToMatch hentry hbase hlow (by omega)
          refine ⟨{ reason := .pred r
                    env := tracedVisit visit trace' sim₂
                    sim := sim₂ }, entry.1.stateIndex, segment, segment,
            [target], ?_, hclean₂, hsnapshots₂.trans hsnapshots, hcalls, ?_,
            ?_⟩
          · simp [Simulator.undoLoop, hsearch, hmatch, hback]
          · show trace'.visits ++ [sim₂.head.stateIndex] = _
            rw [hvisits, hstate₂]
          · exact
              { asked := hasked
                top_eq := htop
                perm := .refl _
                visits_lt := by
                  intro i hmem
                  rw [List.mem_singleton.1 hmem]
                  exact hhigh
                apart := List.pairwise_singleton _ _
                stopped := .atMatch hmatch rfl hstate₂ rfl }
      | none =>
          obtain ⟨result, low, inOrder, calls, visits, hrun, hcleanRest,
            hsnapshotsRest, hcallsRest, hvisitsRest, hrest⟩ :=
            ih entry.1.stateIndex (tracedVisit visit trace' sim₁)
              hclean (by omega) (by rw [hsnapshots]; omega)
              (by
                intro hzero
                obtain ⟨first, hfirst, hfirstZero⟩ := hclean.recorded.first
                rw [hzero, hfirst] at hentry
                rw [← Option.some.inj hentry]
                exact hfirstZero)
              (by
                intro i older hi holder
                exact hclean.recorded.lt_of_lt holder hentry (by omega))
              (by
                intro other hother
                rw [hentry] at hother
                exact Nat.le_of_eq (by rw [Option.some.inj hother]))
          refine ⟨result, low, inOrder ++ segment, segment ++ calls,
            sim₁.head.stateIndex :: visits, ?_, hcleanRest,
            hsnapshotsRest.trans hsnapshots, ?_, ?_, ?_⟩
          · simp [Simulator.undoLoop, hsearch, hmatch, hentry, hrun]
          · rw [hcallsRest]
            show trace'.calls ++ calls = _
            rw [hcalls, List.append_assoc]
          · rw [hvisitsRest]
            show trace'.visits ++ [sim₁.head.stateIndex] ++ visits = _
            rw [hvisits, List.append_assoc]
            rfl
          · have hmem : entry ∈ result.sim.snapshots := by
              rw [hsnapshotsRest]
              exact List.mem_of_getElem? hentry
            exact hrest.after_segment hasked htop hmatch hmem rfl (by omega)
              (by omega)

omit [LawfulSnapshotStore A V SnapshotId] in
/-- A search away from the start begins at the last snapshot before HEAD. -/
theorem Clean.firstSearched {sim : Simulator S A SnapshotId}
    (h : Clean history simulatable timeline sim)
    (hpos : 0 < sim.head.stateIndex) :
    ∃ base, sim.firstSearched = some base ∧ base < sim.snapshots.length ∧
      (∀ older, sim.snapshots[base]? = some older →
        older.1.stateIndex < sim.head.stateIndex) ∧
      ∀ newer, sim.snapshots[base + 1]? = some newer →
        sim.head.stateIndex ≤ newer.1.stateIndex := by
  obtain ⟨entry, hentry, hle⟩ := h.atState.base
  have hat := isHeadAtSnapshot_eq hentry
  have hbaseLt := h.atState.base_lt
  by_cases hsnapshot : entry.1.stateIndex = sim.head.stateIndex
  · have hbaseNe : sim.head.baseSnapshotIndex ≠ 0 := by
      intro hbase
      obtain ⟨first, hfirst, hzero⟩ := h.recorded.first
      rw [hbase, hfirst] at hentry
      rw [← Option.some.inj hentry] at hsnapshot
      omega
    refine ⟨sim.head.baseSnapshotIndex - 1, ?_, by omega, ?_, ?_⟩
    · simp [Simulator.firstSearched, hat, hsnapshot, hbaseNe]
    · intro older holder
      have := h.recorded.lt_of_lt holder hentry (by omega)
      omega
    · intro newer hnewer
      rw [Nat.sub_add_cancel (Nat.pos_of_ne_zero hbaseNe), hentry] at hnewer
      rw [← Option.some.inj hnewer]
      omega
  · refine ⟨sim.head.baseSnapshotIndex, ?_, hbaseLt, ?_, ?_⟩
    · simp [Simulator.firstSearched, hat, hsnapshot]
    · intro older holder
      rw [hentry] at holder
      rw [← Option.some.inj holder]
      omega
    · intro newer hnewer
      exact Nat.le_of_lt (h.atState.next newer hnewer)

/-- A search away from the start goes through states before HEAD only. -/
theorem WellFormed.undoStepsUntil_traced {pred : Pred S A R κ}
    (hanswers : Answers simulatable pred answers)
    {sim : Simulator S A SnapshotId}
    (h : WellFormed history simulatable timeline sim)
    (hpos : 0 < sim.head.stateIndex)
    (visit : κ → Simulator S A SnapshotId → κ) (trace : Trace V R κ) :
    ∃ result low inOrder calls visits,
      sim.undoStepsUntil (tracedPred pred) (tracedVisit visit) trace =
        some result ∧
      Clean history simulatable timeline result.sim ∧
      result.env.calls = trace.calls ++ calls ∧
      result.env.visits = trace.visits ++ visits ∧
      Searched answers history sim.head.stateIndex low inOrder calls visits
        result.reason result.sim := by
  obtain ⟨sim₁, hsave, hclean, hstate⟩ := h.saveIfDirty
  obtain ⟨base, hfirst, hbase, hbefore, hafter⟩ :=
    hclean.firstSearched (by omega)
  obtain ⟨result, low, inOrder, calls, visits, hrun, hclean', -, hcalls, hvisits,
    hsearched⟩ := hclean.undoLoop hanswers visit (base + 1)
      sim₁.head.stateIndex trace hclean.atState.within hbase
      (fun hzero => absurd hzero (Nat.succ_ne_zero base))
      (fun i older hi holder => hbefore older (by rwa [Nat.succ.inj hi]))
      hafter
  rw [hstate] at hsearched
  refine ⟨result, low, inOrder, calls, visits, ?_, hclean', hcalls, hvisits,
    hsearched⟩
  rw [Simulator.undoStepsUntil, StateIndex.previous, if_neg (by omega)]
  simp only [hsave, hfirst, Option.bind_eq_bind, Option.bind_some]
  exact hrun

/-- A search ends before the state it began at. -/
theorem WellFormed.undoStepsUntil {sim : Simulator S A SnapshotId}
    (h : WellFormed history simulatable timeline sim)
    (pred : Pred S A R κ) (visit : κ → Simulator S A SnapshotId → κ)
    (env : κ) :
    ∃ result, sim.undoStepsUntil pred visit env = some result ∧
      WellFormed history simulatable timeline result.sim ∧
      result.sim.head.stateIndex ≤ sim.head.stateIndex - 1 := by
  by_cases hzero : sim.head.stateIndex = 0
  · refine ⟨{ reason := .reachedStart, env := env, sim := sim },
      by simp [Simulator.undoStepsUntil, StateIndex.previous, hzero], h, ?_⟩
    show sim.head.stateIndex ≤ _
    omega
  · let trace : Trace V R κ := { env := env, calls := [], visits := [] }
    have hanswers : Answers simulatable pred fun (_ : V) _ => True :=
      fun _ _ => trivial
    obtain ⟨result, low, inOrder, calls, visits, hrun, hclean, -, -,
      hsearched⟩ := h.undoStepsUntil_traced hanswers (by omega) visit trace
    refine ⟨result.untraced, ?_, Or.inl hclean, ?_⟩
    · have huntraced := undoStepsUntil_untraced sim pred visit trace
      rw [hrun] at huntraced
      exact huntraced
    · show result.sim.head.stateIndex ≤ _
      have htop := hsearched.top_eq
      cases hsearched.stopped with
      | atMatch last _ head _ =>
          have hbounds := lastMatch_bounds last
          rw [List.length_map] at hbounds
          omega
      | atStart _ _ head _ => omega

/-! ## What a search finds -/

omit [Simulatable S A] [LawfulSnapshotStore A V SnapshotId] in
/-- What was answered for a state is a possible answer. -/
theorem Asked.answer_at {answers : V → Option R → Prop} {history : Nat → A}
    {low k : Nat} {calls : List (V × Option R)}
    (h : Asked answers history low calls) (hlow : low ≤ k)
    (hk : k < low + calls.length) :
    answers (view (history k)) ((calls.map Prod.snd)[k - low]?).join := by
  have hlt : k - low < calls.length := by omega
  have hstate := congrArg (fun states => states[k - low]?) h.states
  rw [List.getElem?_map, List.getElem?_map, List.getElem?_range' hlt,
    List.getElem?_eq_getElem hlt, show low + 1 * (k - low) = k by omega]
    at hstate
  have hcall := h.answered _ (List.getElem_mem hlt)
  rw [Option.some.inj hstate] at hcall
  rw [List.getElem?_map, List.getElem?_eq_getElem hlt]
  exact hcall

omit [Simulatable S A] [LawfulSnapshotStore A V SnapshotId] in
/-- A search stops at the last state that has an answer, or at the start if
there is none, whatever its answers depend on. -/
theorem Searched.found {answers : V → Option R → Prop} {history : Nat → A}
    {top low : Nat} {inOrder calls : List (V × Option R)} {visits : List Nat}
    {reason : UndoStepStopReason R} {sim : Simulator S A SnapshotId}
    (h : Searched answers history top low inOrder calls visits reason sim) :
    (∃ r, reason = .pred r ∧ sim.head.stateIndex < top ∧
        answers (view (history sim.head.stateIndex)) (some r) ∧
          ∀ k, sim.head.stateIndex < k → k < top →
            answers (view (history k)) none) ∨
      (reason = .reachedStart ∧ sim.head.stateIndex = 0 ∧
        ∀ k < top, answers (view (history k)) none) := by
  have htop := h.top_eq
  cases h.stopped with
  | @atMatch i r last reason_eq head _ =>
      obtain ⟨hlow, hlt, hmatch, hafter⟩ := lastMatch_eq_some last
      rw [List.length_map] at hlt hafter
      have hfound := h.asked.answer_at hlow hlt
      rw [hmatch] at hfound
      refine Or.inl ⟨r, reason_eq, by omega, ?_, ?_⟩
      · rw [head]
        exact hfound
      · intro k hk hbefore
        rw [head] at hk
        have hnone := h.asked.answer_at (k := k) (by omega) (by omega)
        rw [hafter k hk (by omega)] at hnone
        exact hnone
  | atStart unmatched reason_eq head low_eq =>
      refine Or.inr ⟨reason_eq, head, ?_⟩
      intro k hk
      have hnone := h.asked.answer_at (k := k) (by omega) (by omega)
      rw [lastMatch_eq_none unmatched k (by omega)
        (by rw [List.length_map]; omega)] at hnone
      exact hnone

theorem WellFormed.undoStepsUntil_found {pred : Pred S A R κ}
    (hanswers : Answers simulatable pred answers)
    {sim : Simulator S A SnapshotId}
    (h : WellFormed history simulatable timeline sim)
    {visit : κ → Simulator S A SnapshotId → κ} {env : κ}
    {result : UndoResult S A SnapshotId R κ}
    (hrun : sim.undoStepsUntil pred visit env = some result) :
    WellFormed history simulatable timeline result.sim ∧
      ((∃ r, result.reason = .pred r ∧
          result.sim.head.stateIndex < sim.head.stateIndex ∧
          answers (view (history result.sim.head.stateIndex)) (some r) ∧
            ∀ k, result.sim.head.stateIndex < k →
              k < sim.head.stateIndex → answers (view (history k)) none) ∨
        (result.reason = .reachedStart ∧ result.sim.head.stateIndex = 0 ∧
          ∀ k < sim.head.stateIndex, answers (view (history k)) none)) := by
  by_cases hzero : sim.head.stateIndex = 0
  · have hstart : sim.undoStepsUntil pred visit env
        = some { reason := .reachedStart, env := env, sim := sim } := by
      simp [Simulator.undoStepsUntil, StateIndex.previous, hzero]
    rw [hstart] at hrun
    cases hrun
    exact ⟨h, Or.inr ⟨rfl, hzero, fun k hk => by omega⟩⟩
  · let trace : Trace V R κ := { env := env, calls := [], visits := [] }
    obtain ⟨traced, low, inOrder, calls, visits, htraced, hclean, -, -,
      hsearched⟩ := h.undoStepsUntil_traced hanswers (by omega) visit trace
    have huntraced := undoStepsUntil_untraced sim pred visit trace
    rw [htraced] at huntraced
    have hresult : result = traced.untraced :=
      Option.some.inj (hrun.symm.trans huntraced)
    rw [hresult]
    exact ⟨Or.inl hclean, hsearched.found⟩

end RedPlanet.Simulator
