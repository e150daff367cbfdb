import Mathlib.Algebra.Order.Ring.Nat

/-!
# Stateful programs that may fail or panic

A shallow model of imperative code: a program takes a state and ends in one
of three ways, each of them with the state it left behind.  `ok` and `error`
are the two sides of a `Result`; `panic` is an assertion, an index or an
arithmetic check that failed, after which nothing runs any more.  Keeping the
state of a panic lets a proof say what led to it.

## The program logic

A `Discipline` says what a family of programs may do to the state (`step`),
which invariant they rely on (`inv`), and which states count as `clean`.
A program is `Tame` when it respects the discipline however it ends, and when,
started in a clean state that satisfies the invariant, it panics exactly if
it leaves the clean states.  `Tame` is closed under sequencing, so it is
proved for a program by following its text (`Tame.bind` and the rules after
it), and it is monotone in the discipline (`Tame.mono`).
-/

namespace RedPlanet.Verified

/-- How a program ended, and the state it left. -/
inductive Outcome (ε σ α : Type) where
  | ok (value : α) (state : σ)
  | error (err : ε) (state : σ)
  | panic (state : σ)
deriving DecidableEq, Repr

namespace Outcome

variable {ε σ α : Type}

/-- The state that is left, however the program ended. -/
def state : Outcome ε σ α → σ
  | ok _ s => s
  | error _ s => s
  | panic s => s

/-- Whether an assertion, an index or a check of the arithmetic failed. -/
def panicked : Outcome ε σ α → Bool
  | panic _ => true
  | _ => false

@[simp] theorem state_ok (a : α) (s : σ) :
    (ok a s : Outcome ε σ α).state = s := rfl

@[simp] theorem state_error (e : ε) (s : σ) :
    (error e s : Outcome ε σ α).state = s := rfl

@[simp] theorem state_panic (s : σ) :
    (panic s : Outcome ε σ α).state = s := rfl

@[simp] theorem panicked_ok (a : α) (s : σ) :
    (ok a s : Outcome ε σ α).panicked = false := rfl

@[simp] theorem panicked_error (e : ε) (s : σ) :
    (error e s : Outcome ε σ α).panicked = false := rfl

@[simp] theorem panicked_panic (s : σ) :
    (panic s : Outcome ε σ α).panicked = true := rfl

/-- What cannot fail and did not panic has succeeded. -/
theorem eq_ok {o : Outcome Empty σ Unit} (h : o.panicked = false) :
    o = ok () o.state := by
  cases o with
  | ok _ s => rfl
  | error e _ => exact e.elim
  | panic s => exact Bool.noConfusion h

end Outcome

/-- A program over the state `σ` that returns an `α` or fails with an `ε`. -/
def Exec (ε σ α : Type) : Type := σ → Outcome ε σ α

namespace Exec

variable {ε ε' σ α β : Type}

protected def pure (a : α) : Exec ε σ α := fun s => .ok a s

protected def bind (m : Exec ε σ α) (f : α → Exec ε σ β) : Exec ε σ β :=
  fun s =>
    match m s with
    | .ok a s' => f a s'
    | .error e s' => .error e s'
    | .panic s' => .panic s'

instance : Monad (Exec ε σ) where
  pure := Exec.pure
  bind := Exec.bind

/-- The state as it is. -/
def get : Exec ε σ σ := fun s => .ok s s

def modify (f : σ → σ) : Exec ε σ Unit := fun s => .ok () (f s)

def throw (e : ε) : Exec ε σ α := fun s => .error e s

/-- A failed assertion. -/
def abort : Exec ε σ α := fun s => .panic s

/-- An assertion of the source, which panics where it is false. -/
def assert (b : Bool) : Exec ε σ Unit := if b then pure () else abort

/-- `unwrap` or `expect` of an option, which panics on `None`. -/
def unwrap : Option α → Exec ε σ α
  | some a => pure a
  | none => abort

/-- Replace the error of a program, as `Result::map_err` does. -/
def mapError (f : ε → ε') (m : Exec ε σ α) : Exec ε' σ α :=
  fun s =>
    match m s with
    | .ok a s' => .ok a s'
    | .error e s' => .error (f e) s'
    | .panic s' => .panic s'

/-- Run a program and hand its error, if any, to the code that follows. -/
def attempt (m : Exec ε σ α) : Exec ε' σ (Except ε α) :=
  fun s =>
    match m s with
    | .ok a s' => .ok (.ok a) s'
    | .error e s' => .ok (.error e) s'
    | .panic s' => .panic s'

/-! ## Running the primitives -/

@[simp] theorem pure_apply (a : α) (s : σ) :
    (pure a : Exec ε σ α) s = .ok a s := rfl

@[simp] theorem get_apply (s : σ) : (get : Exec ε σ σ) s = .ok s s := rfl

@[simp] theorem modify_apply (f : σ → σ) (s : σ) :
    (modify f : Exec ε σ Unit) s = .ok () (f s) := rfl

@[simp] theorem throw_apply (e : ε) (s : σ) :
    (throw e : Exec ε σ α) s = .error e s := rfl

@[simp] theorem abort_apply (s : σ) :
    (abort : Exec ε σ α) s = .panic s := rfl

@[simp] theorem assert_true (s : σ) :
    (assert true : Exec ε σ Unit) s = .ok () s := rfl

@[simp] theorem unwrap_some (a : α) (s : σ) :
    (unwrap (some a) : Exec ε σ α) s = .ok a s := rfl

/-- A program that fails or panics keeps what follows from running. -/
theorem bind_apply (m : Exec ε σ α) (f : α → Exec ε σ β) (s : σ) :
    (m >>= f) s =
      match m s with
      | .ok a s' => f a s'
      | .error e s' => .error e s'
      | .panic s' => .panic s' := rfl

/-- The second program starts in the state that the first one left. -/
theorem bind_ok {m : Exec ε σ α} {f : α → Exec ε σ β} {s s' : σ} {a : α}
    (h : m s = .ok a s') : (m >>= f) s = f a s' := by
  rw [bind_apply, h]

/-- An error ends the whole, in the state that the first program left. -/
theorem bind_error {m : Exec ε σ α} {f : α → Exec ε σ β} {s s' : σ} {e : ε}
    (h : m s = .error e s') : (m >>= f) s = .error e s' := by
  rw [bind_apply, h]

theorem bind_panic {m : Exec ε σ α} {f : α → Exec ε σ β} {s s' : σ}
    (h : m s = .panic s') : (m >>= f) s = .panic s' := by
  rw [bind_apply, h]

/-- Sequencing is associative, so that a program may be cut anywhere. -/
theorem bind_bind {γ : Type} (m : Exec ε σ α) (f : α → Exec ε σ β)
    (g : β → Exec ε σ γ) : m >>= f >>= g = m >>= fun a => f a >>= g := by
  funext s
  simp only [bind_apply]
  cases m s <;> rfl

@[simp] theorem get_bind (f : σ → Exec ε σ β) (s : σ) :
    (get >>= f) s = f s s := rfl

@[simp] theorem modify_bind (g : σ → σ) (f : Unit → Exec ε σ β) (s : σ) :
    (modify g >>= f) s = f () (g s) := rfl

@[simp] theorem pure_bind' (a : α) (f : α → Exec ε σ β) (s : σ) :
    ((pure a : Exec ε σ α) >>= f) s = f a s := rfl

@[simp] theorem throw_bind (e : ε) (f : α → Exec ε σ β) (s : σ) :
    ((throw e : Exec ε σ α) >>= f) s = .error e s := rfl

@[simp] theorem map_apply (g : α → β) (m : Exec ε σ α) (s : σ) :
    (g <$> m) s =
      match m s with
      | .ok a s' => .ok (g a) s'
      | .error e s' => .error e s'
      | .panic s' => .panic s' := rfl

end Exec

/-! ## Disciplines -/

/-- What a family of programs may do to a state.  `step` is closed under
doing nothing and doing one thing after another, and it keeps the invariant. -/
structure Discipline (σ : Type) where
  step : σ → σ → Prop
  inv : σ → Prop
  clean : σ → Prop
  refl : ∀ s, step s s
  trans : ∀ {s t u}, step s t → step t u → step s u
  inv_step : ∀ {s t}, step s t → inv s → inv t

namespace Discipline

variable {ε ε' σ α β : Type}

/-- The program makes a step of the discipline however it ends, and from a
clean state with the invariant it panics exactly when it ends up unclean. -/
def Tame (D : Discipline σ) (m : Exec ε σ α) : Prop :=
  ∀ s, D.step s (m s).state ∧
    (D.inv s → D.clean s → ((m s).panicked = true ↔ ¬ D.clean (m s).state))

variable {D : Discipline σ}

theorem Tame.step {m : Exec ε σ α} (h : D.Tame m) (s : σ) :
    D.step s (m s).state := (h s).1

/-- The form in which the code's own facts enter the logic: a program that
does not panic and leaves a clean state clean. -/
theorem Tame.of_step {m : Exec ε σ α}
    (hstep : ∀ s, D.step s (m s).state)
    (hpanic : ∀ s, D.inv s → (m s).panicked = false)
    (hclean : ∀ s, D.inv s → D.clean s → D.clean (m s).state) :
    D.Tame m := by
  intro s
  refine ⟨hstep s, fun hinv hc => ?_⟩
  have hnot : ¬ (m s).panicked = true := by
    rw [hpanic s hinv]
    simp
  have hstay := hclean s hinv hc
  constructor
  · intro hp
    exact absurd hp hnot
  · intro hbad
    exact absurd hstay hbad

theorem Tame.pure (a : α) : D.Tame (pure a : Exec ε σ α) := by
  apply Tame.of_step
  · intro s
    exact D.refl s
  · intro s _
    rfl
  · intro s _ hc
    exact hc

theorem Tame.get : D.Tame (Exec.get : Exec ε σ σ) := by
  apply Tame.of_step
  · intro s
    exact D.refl s
  · intro s _
    rfl
  · intro s _ hc
    exact hc

theorem Tame.throw (e : ε) : D.Tame (Exec.throw e : Exec ε σ α) := by
  apply Tame.of_step
  · intro s
    exact D.refl s
  · intro s _
    rfl
  · intro s _ hc
    exact hc

/-- An update is tame if it is a step and does not make a clean state unclean.
-/
theorem Tame.modify {f : σ → σ} (hstep : ∀ s, D.step s (f s))
    (hclean : ∀ s, D.clean s → D.clean (f s)) :
    D.Tame (Exec.modify f : Exec ε σ Unit) := by
  apply Tame.of_step
  · intro s
    exact hstep s
  · intro s _
    rfl
  · intro s _ hc
    exact hclean s hc

/-- Sequencing.  The second program starts where the first one ended `ok`:
the invariant holds there by the first step, and the state is still clean
because the first program did not panic. -/
theorem Tame.bind {m : Exec ε σ α} {f : α → Exec ε σ β}
    (hm : D.Tame m) (hf : ∀ a, D.Tame (f a)) : D.Tame (m >>= f) := by
  intro s
  obtain ⟨hstep, hpanic⟩ := hm s
  cases h : m s with
  | ok a t =>
      rw [h] at hstep hpanic
      rw [Exec.bind_ok h]
      obtain ⟨hstep', hpanic'⟩ := hf a t
      refine ⟨D.trans hstep hstep', fun hinv hc => ?_⟩
      have ht : D.clean t := by
        by_contra hbad
        have := (hpanic hinv hc).2 hbad
        simp at this
      exact hpanic' (D.inv_step hstep hinv) ht
  | error e t =>
      rw [h] at hstep hpanic
      rw [Exec.bind_error h]
      exact ⟨hstep, hpanic⟩
  | panic t =>
      rw [h] at hstep hpanic
      rw [Exec.bind_panic h]
      exact ⟨hstep, hpanic⟩

/-- Reading the state first: the rest may use what it read. -/
theorem Tame.get_bind {f : σ → Exec ε σ β}
    (hf : ∀ s, D.step s (f s s).state ∧
      (D.inv s → D.clean s →
        ((f s s).panicked = true ↔ ¬ D.clean (f s s).state))) :
    D.Tame (Exec.get >>= f) := by
  intro s
  rw [Exec.get_bind]
  exact hf s

/-- Unwrapping a part of the state that the invariant keeps defined. -/
theorem Tame.get_unwrap {f : σ → Option α}
    (hf : ∀ s, D.inv s → f s ≠ none) :
    D.Tame (Exec.get >>= fun s => (Exec.unwrap (f s) : Exec ε σ α)) := by
  apply Tame.get_bind
  intro s
  cases h : f s with
  | some a =>
      exact ⟨D.refl s, fun _ hclean =>
        iff_of_false Bool.false_ne_true fun hbad => hbad hclean⟩
  | none => exact ⟨D.refl s, fun hinv _ => absurd h (hf s hinv)⟩

theorem Tame.map {m : Exec ε σ α} (g : α → β) (hm : D.Tame m) :
    D.Tame (g <$> m) := by
  show D.Tame (m >>= fun a => Pure.pure (g a))
  exact Tame.bind hm fun a => Tame.pure (g a)

/-- Replacing the error changes nothing of what the program does. -/
theorem Tame.mapError {m : Exec ε σ α} (g : ε → ε') (hm : D.Tame m) :
    D.Tame (Exec.mapError g m) := by
  intro s
  have hs := hm s
  unfold Exec.mapError
  cases h : m s with
  | ok a t =>
      rw [h] at hs
      exact hs
  | error e t =>
      rw [h] at hs
      exact hs
  | panic t =>
      rw [h] at hs
      exact hs

/-- Handing the error on as a value changes nothing of what the program does.
-/
theorem Tame.attempt {m : Exec ε σ α} (hm : D.Tame m) :
    D.Tame (Exec.attempt m : Exec ε' σ (Except ε α)) := by
  intro s
  have hs := hm s
  unfold Exec.attempt
  cases h : m s with
  | ok a t =>
      rw [h] at hs
      exact hs
  | error e t =>
      rw [h] at hs
      exact hs
  | panic t =>
      rw [h] at hs
      exact hs

theorem Tame.assert {b : Bool} (hb : b = true) :
    D.Tame (Exec.assert b : Exec ε σ Unit) := by
  subst hb
  exact Tame.pure ()

/-- Each branch may use that the condition holds, or that it does not. -/
theorem Tame.ite {c : Prop} [Decidable c] {m n : Exec ε σ α}
    (hm : c → D.Tame m) (hn : ¬ c → D.Tame n) :
    D.Tame (if c then m else n) := by
  by_cases hc : c
  · rw [if_pos hc]
    exact hm hc
  · rw [if_neg hc]
    exact hn hc

/-- A program that respects a discipline respects every weaker one. -/
theorem Tame.mono {D' : Discipline σ} {m : Exec ε σ α}
    (hstep : ∀ s t, D.step s t → D'.step s t)
    (hinv : ∀ s, D'.inv s → D.inv s)
    (hclean : ∀ s, D.clean s ↔ D'.clean s)
    (hm : D.Tame m) : D'.Tame m := by
  intro s
  obtain ⟨hs, hp⟩ := hm s
  refine ⟨hstep _ _ hs, fun hi hc => ?_⟩
  rw [← hclean]
  exact hp (hinv s hi) ((hclean s).2 hc)

/-! ## Views that a program keeps -/

/-- Leave `view` as it is.  The invariant is never met, so nothing is said
about panics. -/
def keeping {τ : Type} (view : σ → τ) : Discipline σ where
  step s t := view t = view s
  inv _ := False
  clean _ := True
  refl _ := rfl
  trans hst htu := htu.trans hst
  inv_step _ h := h

/-- A program that leaves the view alone however it ends respects the
discipline of keeping it. -/
theorem tame_keeping {τ : Type} {view : σ → τ} {m : Exec ε σ α}
    (h : ∀ s, view (m s).state = view s) : (keeping view).Tame m := by
  intro s
  exact ⟨h s, fun hinv _ => hinv.elim⟩

/-- A discipline whose steps leave the view alone implies this one. -/
theorem Tame.keeping {τ : Type} {view : σ → τ} {m : Exec ε σ α}
    (hm : D.Tame m) (h : ∀ s t, D.step s t → view t = view s) :
    (keeping view).Tame m := by
  apply tame_keeping
  intro s
  exact h s _ (hm.step s)

/-! ## Invariants that a program keeps -/

/-- Keep `P`, with nothing said about panics. -/
def preserving (P : σ → Prop) : Discipline σ where
  step s t := P s → P t
  inv _ := False
  clean _ := True
  refl _ := id
  trans hst htu := htu ∘ hst
  inv_step _ h := h

/-- A program that keeps `P` however it ends respects the discipline of
preserving it. -/
theorem tame_preserving {P : σ → Prop} {m : Exec ε σ α}
    (h : ∀ s, P s → P (m s).state) : (preserving P).Tame m := by
  intro s
  exact ⟨h s, fun hinv _ => hinv.elim⟩

/-- The use of the discipline: what held before holds after. -/
theorem Tame.preserves {P : σ → Prop} {m : Exec ε σ α}
    (hm : (preserving P).Tame m) {s : σ} (h : P s) : P (m s).state :=
  hm.step s h

/-! ## Programs that may leave the discipline, but not by failing -/

/-- When the program fails, it has made a step of the discipline. -/
def FailsTame (D : Discipline σ) (m : Exec ε σ α) : Prop :=
  ∀ s e t, m s = .error e t → D.step s t

/-- A program that respects the discipline anyway does so when it fails. -/
theorem Tame.failsTame {m : Exec ε σ α} (hm : D.Tame m) : D.FailsTame m := by
  intro s e t h
  have hstep := hm.step s
  rw [h] at hstep
  exact hstep

/-- A program that does not fail. -/
def Infallible (m : Exec ε σ α) : Prop := ∀ s e t, m s ≠ .error e t

/-- A program that does not fail has nothing to show. -/
theorem Infallible.failsTame {m : Exec ε σ α} (hm : Infallible m) :
    D.FailsTame m := by
  intro s e t h
  exact absurd h (hm s e t)

theorem infallible_modify (f : σ → σ) :
    Infallible (Exec.modify f : Exec ε σ Unit) := by
  intro s e t h
  cases h

theorem infallible_unwrap (x : Option α) :
    Infallible (Exec.unwrap x : Exec ε σ α) := by
  intro s e t h
  cases x with
  | none => cases h
  | some a => cases h

theorem infallible_assert (b : Bool) :
    Infallible (Exec.assert b : Exec ε σ Unit) := by
  intro s e t h
  cases b with
  | false => cases h
  | true => cases h

/-- The first program keeps to the discipline in any case, the second one when
it fails. -/
theorem FailsTame.bind {m : Exec ε σ α} {f : α → Exec ε σ β} (hm : D.Tame m)
    (hf : ∀ a, D.FailsTame (f a)) : D.FailsTame (m >>= f) := by
  intro s e t h
  rw [Exec.bind_apply] at h
  have hstep := hm.step s
  cases hms : m s with
  | ok a u =>
      rw [hms] at h hstep
      exact D.trans hstep (hf a u e t h)
  | error e' u =>
      rw [hms] at h hstep
      cases h
      exact hstep
  | panic u =>
      rw [hms] at h
      cases h

/-- Only the first program can fail. -/
theorem FailsTame.bind_infallible {m : Exec ε σ α} {f : α → Exec ε σ β}
    (hm : D.FailsTame m) (hf : ∀ a, Infallible (f a)) :
    D.FailsTame (m >>= f) := by
  intro s e t h
  rw [Exec.bind_apply] at h
  cases hms : m s with
  | ok a u =>
      rw [hms] at h
      exact absurd h (hf a u e t)
  | error e' u =>
      rw [hms] at h
      cases h
      exact hm s _ _ hms
  | panic u =>
      rw [hms] at h
      cases h

/-- Which error it is does not matter. -/
theorem FailsTame.mapError {m : Exec ε σ α} (g : ε → ε') (hm : D.FailsTame m) :
    D.FailsTame (Exec.mapError g m) := by
  intro s e t h
  unfold Exec.mapError at h
  cases hms : m s with
  | ok a u =>
      rw [hms] at h
      cases h
  | error e' u =>
      rw [hms] at h
      cases h
      exact hm s _ _ hms
  | panic u =>
      rw [hms] at h
      cases h

theorem FailsTame.ite {c : Prop} [Decidable c] {m n : Exec ε σ α}
    (hm : c → D.FailsTame m) (hn : ¬ c → D.FailsTame n) :
    D.FailsTame (if c then m else n) := by
  by_cases hc : c
  · rw [if_pos hc]
    exact hm hc
  · rw [if_neg hc]
    exact hn hc

end Discipline

end RedPlanet.Verified
