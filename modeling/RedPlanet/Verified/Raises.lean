import RedPlanet.Verified.Exec

/-!
# The errors of a program

`Raises P` bounds the errors that a program can end with, from any state.  It
is closed under sequencing, and `mapError` moves it along the map; for a
single run `bind_error_iff` and `mapError_error_iff` say where an error came
from.

The two sides serve different claims.  What errors there can be at all is a
bound on the program (`Raises.bind` and the rules after it); which error there
is in a given state is read off the text, from the last program that could fail
backwards (`bind_infallible_error_iff` skips those that cannot).
-/

namespace RedPlanet.Verified

namespace Exec

variable {ε ε' σ α β : Type}

/-- Whenever the program fails, its error satisfies `P`. -/
def Raises (P : ε → Prop) (m : Exec ε σ α) : Prop :=
  ∀ s e t, m s = .error e t → P e

/-- A program that does not fail has no errors to bound. -/
theorem Raises.of_infallible {P : ε → Prop} {m : Exec ε σ α}
    (hm : Discipline.Infallible m) : Raises P m := by
  intro s e t h
  exact absurd h (hm s e t)

theorem raises_throw {P : ε → Prop} {e : ε} (h : P e) :
    Raises P (throw e : Exec ε σ α) := by
  intro s e' t hrun
  cases hrun
  exact h

theorem raises_modify (P : ε → Prop) (f : σ → σ) :
    Raises P (modify f : Exec ε σ Unit) :=
  .of_infallible (Discipline.infallible_modify f)

/-- Where the error of a sequence comes from. -/
theorem bind_error_iff {m : Exec ε σ α} {f : α → Exec ε σ β} {s t : σ}
    {e : ε} :
    (m >>= f) s = .error e t ↔
      m s = .error e t ∨ ∃ a u, m s = .ok a u ∧ f a u = .error e t := by
  rw [bind_apply]
  cases h : m s with
  | ok a u =>
      constructor
      · intro hrun
        exact Or.inr ⟨a, u, rfl, hrun⟩
      · rintro (hrun | ⟨a', u', hrun, hf⟩)
        · cases hrun
        · cases hrun
          exact hf
  | error e' u =>
      constructor
      · intro hrun
        cases hrun
        exact Or.inl rfl
      · rintro (hrun | ⟨a', u', hrun, _⟩)
        · cases hrun
          rfl
        · cases hrun
  | panic u =>
      constructor
      · intro hrun
        cases hrun
      · rintro (hrun | ⟨a', u', hrun, _⟩) <;> cases hrun

/-- A sequence succeeds when both of its programs do. -/
theorem bind_ok_iff {m : Exec ε σ α} {f : α → Exec ε σ β} {s t : σ} {b : β} :
    (m >>= f) s = .ok b t ↔ ∃ a u, m s = .ok a u ∧ f a u = .ok b t := by
  constructor
  · intro hrun
    cases h : m s with
    | ok a u =>
        rw [bind_ok h] at hrun
        exact ⟨a, u, rfl, hrun⟩
    | error e u =>
        rw [bind_error h] at hrun
        cases hrun
    | panic u =>
        rw [bind_panic h] at hrun
        cases hrun
  · rintro ⟨a, u, h, hrun⟩
    rw [bind_ok h]
    exact hrun

theorem infallible_pure (a : α) :
    Discipline.Infallible (pure a : Exec ε σ α) := by
  intro s e t h
  cases h

theorem infallible_get : Discipline.Infallible (get : Exec ε σ σ) := by
  intro s e t h
  cases h

/-- A sequence of programs that do not fail does not fail. -/
theorem infallible_bind {m : Exec ε σ α} {f : α → Exec ε σ β}
    (hm : Discipline.Infallible m) (hf : ∀ a, Discipline.Infallible (f a)) :
    Discipline.Infallible (m >>= f) := by
  intro s e t h
  rw [bind_error_iff] at h
  rcases h with h | ⟨a, u, _, h⟩
  · exact hm s e t h
  · exact hf a u e t h

/-- Only the first of two programs fails. -/
theorem bind_infallible_error_iff {m : Exec ε σ α} {f : α → Exec ε σ β}
    (hf : ∀ a, Discipline.Infallible (f a)) {s t : σ} {e : ε} :
    (m >>= f) s = .error e t ↔ m s = .error e t := by
  rw [bind_error_iff]
  constructor
  · rintro (hrun | ⟨a, u, _, hrun⟩)
    · exact hrun
    · exact absurd hrun (hf a u e t)
  · exact Or.inl

/-- An error is the image of the one that was there. -/
theorem mapError_error_iff {f : ε → ε'} {m : Exec ε σ α} {s t : σ} {e' : ε'} :
    mapError f m s = .error e' t ↔ ∃ e, m s = .error e t ∧ f e = e' := by
  unfold mapError
  cases h : m s with
  | ok a u =>
      constructor
      · intro hrun
        cases hrun
      · rintro ⟨e, hrun, _⟩
        cases hrun
  | error e u =>
      constructor
      · intro hrun
        cases hrun
        exact ⟨e, rfl, rfl⟩
      · rintro ⟨e₁, hrun, rfl⟩
        cases hrun
        rfl
  | panic u =>
      constructor
      · intro hrun
        cases hrun
      · rintro ⟨e, hrun, _⟩
        cases hrun

theorem map_ok {β : Type} (f : α → β) {m : Exec ε σ α} {s t : σ} {a : α}
    (h : m s = .ok a t) : (f <$> m) s = .ok (f a) t := by
  rw [map_apply, h]

/-- A success does not notice the map. -/
theorem mapError_ok_iff {f : ε → ε'} {m : Exec ε σ α} {s t : σ} {a : α} :
    mapError f m s = .ok a t ↔ m s = .ok a t := by
  unfold mapError
  cases m s <;> simp

/-- The errors of a sequence are those of its parts. -/
theorem Raises.bind {P : ε → Prop} {m : Exec ε σ α} {f : α → Exec ε σ β}
    (hm : Raises P m) (hf : ∀ a, Raises P (f a)) : Raises P (m >>= f) := by
  intro s e t h
  rw [bind_error_iff] at h
  rcases h with h | ⟨a, u, _, h⟩
  · exact hm s e t h
  · exact hf a u e t h

/-- Reading the state first. -/
theorem Raises.get_bind {P : ε → Prop} {f : σ → Exec ε σ β}
    (hf : ∀ s, Raises P (f s)) : Raises P (get >>= f) := by
  intro s e t h
  exact hf s s e t h

/-- All errors are images of the map. -/
theorem Raises.mapError {P : ε' → Prop} {f : ε → ε'} (h : ∀ e, P (f e))
    (m : Exec ε σ α) : Raises P (mapError f m) := by
  intro s e t hrun
  obtain ⟨e₁, _, rfl⟩ := mapError_error_iff.1 hrun
  exact h e₁

/-- Each branch may use that the condition holds, or that it does not. -/
theorem Raises.ite {P : ε → Prop} {c : Prop} [Decidable c]
    {m n : Exec ε σ α} (hm : c → Raises P m) (hn : ¬ c → Raises P n) :
    Raises P (if c then m else n) := by
  by_cases hc : c
  · rw [if_pos hc]
    exact hm hc
  · rw [if_neg hc]
    exact hn hc

end Exec

end RedPlanet.Verified
