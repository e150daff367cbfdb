import Mathlib.Data.List.Basic

/-!
# Recorded timelines

A *timeline* is the list of actions a deterministic system has recorded, and
its state after `k` actions is the left fold of the first `k` of them over
the initial state.  A history may be cut at any position and continued with
a different action; the states at or before the cut do not notice.

Everything here is stated for an arbitrary type of actions `α` with a
meaning `act : α → σ → σ`, so the module can serve any recorder whose
actions are functions of the state.
-/

namespace RedPlanet.Verified.Timeline

variable {α σ : Type*} (act : α → σ → σ)

/-- Fold a list of actions over a state, oldest action first. -/
def replay (actions : List α) (s : σ) : σ :=
  actions.foldl (fun t a => act a t) s

/-- The state after the first `k` recorded actions. -/
def stateAt (timeline : List α) (s : σ) (k : Nat) : σ :=
  replay act (timeline.take k) s

/-- Cut the timeline at `position` and record one more action. -/
def cutAppend (timeline : List α) (position : Nat) (a : α) : List α :=
  timeline.take position ++ [a]

@[simp] theorem replay_nil (s : σ) : replay act [] s = s := rfl

@[simp] theorem stateAt_zero (timeline : List α) (s : σ) :
    stateAt act timeline s 0 = s := by
  simp [stateAt]

theorem replay_append (xs ys : List α) (s : σ) :
    replay act (xs ++ ys) s = replay act ys (replay act xs s) :=
  List.foldl_append

/-- One more action of the recording advances the state by that action. -/
theorem stateAt_succ {timeline : List α} {k : Nat} {a : α}
    (h : timeline[k]? = some a) (s : σ) :
    stateAt act timeline s (k + 1) = act a (stateAt act timeline s k) := by
  have htake : timeline.take (k + 1) = timeline.take k ++ [a] := by
    rw [List.take_add_one, h]
    rfl
  rw [stateAt, htake, replay_append]
  rfl

/-- Truncating a timeline keeps every state up to the cut. -/
theorem stateAt_take {timeline : List α} {n k : Nat} (h : k ≤ n) (s : σ) :
    stateAt act (timeline.take n) s k = stateAt act timeline s k := by
  rw [stateAt, stateAt, List.take_take, Nat.min_eq_left h]

/-- Recording more actions keeps the states reached so far. -/
theorem stateAt_append_of_le {timeline more : List α} {k : Nat}
    (h : k ≤ timeline.length) (s : σ) :
    stateAt act (timeline ++ more) s k = stateAt act timeline s k := by
  rw [stateAt, stateAt, List.take_append_of_le_length h]

/-! ## Rebuilding

Where some states of a history are kept and the others are replayed, a state
is what the last kept state before it leads to. -/

section Rebuild

/-- The kept states as they were, and each other one rebuilt from the one
before it. -/
def rebuilt (timeline : List α) (kept : Nat → Bool) (origin : Nat → σ) :
    Nat → σ
  | 0 => origin 0
  | k + 1 =>
      if kept (k + 1) then origin (k + 1)
      else
        match timeline[k]? with
        | some a => act a (rebuilt timeline kept origin k)
        | none => origin (k + 1)

variable {act} {timeline : List α} {kept : Nat → Bool} {origin : Nat → σ}

/-- A kept state is not touched. -/
theorem rebuilt_of_kept {k : Nat} (h : k = 0 ∨ kept k = true) :
    rebuilt act timeline kept origin k = origin k := by
  cases k with
  | zero => rfl
  | succ k =>
      rw [rebuilt, if_pos (h.resolve_left (Nat.succ_ne_zero k))]

/-- A state that is rebuilt is one action after the one before it. -/
theorem rebuilt_succ {k : Nat} {a : α} (hkept : kept (k + 1) = false)
    (h : timeline[k]? = some a) :
    rebuilt act timeline kept origin (k + 1) =
      act a (rebuilt act timeline kept origin k) := by
  rw [rebuilt, hkept, h]
  rfl

/-- States that look like those of the timeline still do when they are
rebuilt, if the actions respect the looks. -/
theorem rebuilt_stateAt {r : σ → σ → Prop} {s : σ}
    (hact : ∀ a ∈ timeline, ∀ x y, r x y → r (act a x) (act a y))
    (horigin : ∀ k ≤ timeline.length, r (origin k) (stateAt act timeline s k)) :
    ∀ k ≤ timeline.length,
      r (rebuilt act timeline kept origin k) (stateAt act timeline s k) := by
  intro k
  induction k with
  | zero => exact horigin 0
  | succ k ih =>
      intro hk
      cases hkept : kept (k + 1) with
      | true =>
          rw [rebuilt_of_kept (Or.inr hkept)]
          exact horigin (k + 1) hk
      | false =>
          have hget := List.getElem?_eq_getElem hk
          rw [rebuilt_succ hkept hget, stateAt_succ act hget]
          exact hact _ (List.getElem_mem hk) _ _ (ih (Nat.le_of_lt hk))

end Rebuild

/-! ## Sparse recordings

Most actions of a recording are the usual one.  A sparse recording keeps only
the unusual ones (`some a`), each with its position. -/

section Sparse

variable {β : Type*}

/-- The unusual actions of a timeline, with their positions counted from `i`. -/
def marksFrom : Nat → List (Option β) → List (Nat × β)
  | _, [] => []
  | i, none :: rest => marksFrom (i + 1) rest
  | i, some b :: rest => (i, b) :: marksFrom (i + 1) rest

/-- The sparse recording of a timeline. -/
def marks (timeline : List (Option β)) : List (Nat × β) :=
  marksFrom 0 timeline

@[simp] theorem marks_nil : marks ([] : List (Option β)) = [] := rfl

/-- The marks of the second part are counted on from the first. -/
theorem marksFrom_append (xs ys : List (Option β)) :
    ∀ i, marksFrom i (xs ++ ys) =
      marksFrom i xs ++ marksFrom (i + xs.length) ys := by
  induction xs with
  | nil => intro i; rfl
  | cons x xs ih =>
      intro i
      have hlen : i + (x :: xs).length = i + 1 + xs.length := by
        rw [List.length_cons]
        omega
      rw [hlen]
      cases x with
      | none => exact ih (i + 1)
      | some b => exact congrArg ((i, b) :: ·) (ih (i + 1))

/-- A mark lies within the timeline that it is of. -/
theorem bounds_of_mem_marksFrom {xs : List (Option β)} {m : Nat × β} :
    ∀ {i}, m ∈ marksFrom i xs → i ≤ m.1 ∧ m.1 < i + xs.length := by
  induction xs with
  | nil => intro i h; exact absurd h (by simp [marksFrom])
  | cons x xs ih =>
      intro i h
      rw [List.length_cons]
      cases x with
      | none =>
          have := ih (i := i + 1) h
          omega
      | some b =>
          rcases List.mem_cons.1 h with rfl | h
          · exact ⟨Nat.le_refl _, by simp⟩
          · have := ih (i := i + 1) h
            omega

/-- The positions of the marks increase strictly. -/
theorem marksFrom_increasing (xs : List (Option β)) :
    ∀ i, (marksFrom i xs).Pairwise fun m m' => m.1 < m'.1 := by
  induction xs with
  | nil => intro i; exact List.Pairwise.nil
  | cons x xs ih =>
      intro i
      cases x with
      | none => exact ih (i + 1)
      | some b =>
          refine List.pairwise_cons.2 ⟨?_, ih (i + 1)⟩
          intro m hm
          exact (bounds_of_mem_marksFrom hm).1

/-- A usual action leaves no mark. -/
theorem marks_concat_none (timeline : List (Option β)) :
    marks (timeline ++ [none]) = marks timeline := by
  rw [marks, marksFrom_append]
  exact List.append_nil _

/-- An unusual action is marked with the position it is recorded at. -/
theorem marks_concat_some (timeline : List (Option β)) (b : β) :
    marks (timeline ++ [some b]) =
      marks timeline ++ [(timeline.length, b)] := by
  rw [marks, marksFrom_append, Nat.zero_add]
  rfl

/-- The recording splits where the timeline is cut. -/
theorem marks_split (timeline : List (Option β)) (n : Nat) :
    marks timeline = marks (timeline.take n) ++
      marksFrom (timeline.take n).length (timeline.drop n) := by
  conv_lhs => rw [← List.take_append_drop n timeline]
  rw [marks, marksFrom_append, Nat.zero_add]
  rfl

/-- The marks of a cut timeline are the first of all marks. -/
theorem take_marks (timeline : List (Option β)) (n : Nat) :
    (marks timeline).take (marks (timeline.take n)).length =
      marks (timeline.take n) := by
  rw [marks_split timeline n]
  exact List.take_left

/-- The marks before position `n` come first in the recording. -/
theorem takeWhile_marks (timeline : List (Option β)) (n : Nat) :
    (marks timeline).takeWhile (fun m => decide (m.1 < n)) =
      marks (timeline.take n) := by
  have hbefore : ∀ m ∈ marks (timeline.take n), decide (m.1 < n) = true := by
    intro m hm
    have hlt := (bounds_of_mem_marksFrom hm).2
    rw [List.length_take] at hlt
    simp only [decide_eq_true_eq]
    omega
  have hafter : (marksFrom (timeline.take n).length
      (timeline.drop n)).takeWhile (fun m => decide (m.1 < n)) = [] := by
    cases hrest : marksFrom (timeline.take n).length (timeline.drop n) with
    | nil => rfl
    | cons m rest =>
        have hm : m ∈ marksFrom (timeline.take n).length (timeline.drop n) := by
          rw [hrest]
          exact List.mem_cons_self
        have hbound := bounds_of_mem_marksFrom hm
        rw [List.length_take, List.length_drop] at hbound
        apply List.takeWhile_cons_of_neg
        simp only [decide_eq_true_eq]
        omega
  rw [marks_split timeline n, List.takeWhile_append_of_pos hbefore, hafter,
    List.append_nil]

private theorem getElem?_marks_cut (timeline : List (Option β)) (n : Nat) :
    (marks timeline)[(marks (timeline.take n)).length]? =
      (marksFrom (timeline.take n).length (timeline.drop n))[0]? := by
  conv_lhs => rw [marks_split timeline n]
  rw [List.getElem?_append_right (Nat.le_refl _), Nat.sub_self]

/-- The next mark at position `n` is the action there, if it is unusual. -/
theorem getElem?_marks_of_some {timeline : List (Option β)} {n : Nat} {b : β}
    (h : timeline[n]? = some (some b)) :
    (marks timeline)[(marks (timeline.take n)).length]? = some (n, b) := by
  obtain ⟨hn, hget⟩ := List.getElem?_eq_some_iff.1 h
  have hlen : (timeline.take n).length = n := by
    rw [List.length_take]
    omega
  rw [getElem?_marks_cut, hlen, List.drop_eq_getElem_cons hn, hget]
  rfl

/-- The next mark at position `n` lies further on, if the action there is the
usual one. -/
theorem ne_of_getElem?_marks_of_none {timeline : List (Option β)} {n : Nat}
    {m : Nat × β} (h : timeline[n]? = some none)
    (hm : (marks timeline)[(marks (timeline.take n)).length]? = some m) :
    m.1 ≠ n := by
  obtain ⟨hn, hget⟩ := List.getElem?_eq_some_iff.1 h
  have hlen : (timeline.take n).length = n := by
    rw [List.length_take]
    omega
  rw [getElem?_marks_cut, hlen, List.drop_eq_getElem_cons hn, hget] at hm
  have hmem : m ∈ marksFrom (n + 1) (timeline.drop (n + 1)) :=
    List.mem_of_getElem? hm
  have := (bounds_of_mem_marksFrom hmem).1
  omega

/-- The mark recorded for a position is found before any later cut. -/
theorem find?_marks_take {timeline : List (Option β)} {n k : Nat}
    (hn : n ≤ timeline.length) (hk : k < n) :
    (marks (timeline.take n)).find? (fun m => m.1 == k) =
      (marks timeline).find? (fun m => m.1 == k) := by
  have hlater : (marksFrom (timeline.take n).length (timeline.drop n)).find?
      (fun m => m.1 == k) = none := by
    rw [List.find?_eq_none]
    intro m hm heq
    have hge := (bounds_of_mem_marksFrom hm).1
    rw [List.length_take] at hge
    have := beq_iff_eq.1 heq
    omega
  rw [marks_split timeline n, List.find?_append, hlater, Option.or_none]

/-- Truncating a recording loses the first mark dropped. -/
theorem exists_mark_lost {timeline : List (Option β)} {n : Nat}
    (hn : n < (marks timeline).length) :
    ∃ k < timeline.length,
      ((marks timeline).take n).find? (fun m => m.1 == k) = none ∧
      ((marks timeline).find? fun m => m.1 == k).isSome = true := by
  have hmem := List.getElem_mem hn
  refine ⟨((marks timeline)[n]).1, ?_, ?_, ?_⟩
  · have := (bounds_of_mem_marksFrom hmem).2
    omega
  · rw [List.find?_eq_none]
    intro m hm heq
    obtain ⟨i, hi, rfl⟩ := List.getElem_of_mem hm
    have hin : i < n := Nat.lt_of_lt_of_le hi (List.length_take_le _ _)
    have hlt : ((marks timeline)[i]).1 < ((marks timeline)[n]).1 :=
      List.pairwise_iff_getElem.1 (marksFrom_increasing timeline 0)
        i n (Nat.lt_trans hin hn) hn hin
    rw [List.getElem_take, beq_iff_eq] at heq
    omega
  · rw [List.find?_isSome]
    exact ⟨_, hmem, beq_self_eq_true _⟩

/-! ### Recordings cut short

A recording that is cut short forgets the actions it no longer has.
-/

/-- Keep the first `n` unusual actions and make the others usual. -/
def keepMarks : Nat → List (Option β) → List (Option β)
  | _, [] => []
  | n, none :: rest => none :: keepMarks n rest
  | 0, some _ :: rest => none :: keepMarks 0 rest
  | n + 1, some b :: rest => some b :: keepMarks n rest

@[simp] theorem length_keepMarks (n : Nat) (xs : List (Option β)) :
    (keepMarks n xs).length = xs.length := by
  fun_induction keepMarks n xs <;> simp_all

/-- The actions that are kept were there, and the others are usual. -/
theorem mem_keepMarks {n : Nat} {xs : List (Option β)} {x : Option β}
    (h : x ∈ keepMarks n xs) : x = none ∨ x ∈ xs := by
  fun_induction keepMarks n xs <;> simp_all <;> grind

theorem marksFrom_keepMarks (n : Nat) (xs : List (Option β)) :
    ∀ i, marksFrom i (keepMarks n xs) = (marksFrom i xs).take n := by
  fun_induction keepMarks n xs with
  | case1 => intro i; exact List.take_nil.symm
  | case2 n rest ih => exact fun i => ih (i + 1)
  | case3 b rest ih =>
      intro i
      rw [List.take_zero]
      have hrest := ih (i + 1)
      rw [List.take_zero] at hrest
      exact hrest
  | case4 n b rest ih => exact fun i => congrArg ((i, b) :: ·) (ih (i + 1))

/-- The recording is cut after the first `n` marks. -/
theorem marks_keepMarks (n : Nat) (timeline : List (Option β)) :
    marks (keepMarks n timeline) = (marks timeline).take n :=
  marksFrom_keepMarks n timeline 0

end Sparse

end RedPlanet.Verified.Timeline
