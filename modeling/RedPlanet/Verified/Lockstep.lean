import RedPlanet.Verified.Footprint

/-!
# Programs in lockstep

Two programs, which may run over different states, go in lockstep when from
related states they end in the same way, with the same value or the same error,
and leave related states.  A relation that hides a part of the state makes this
a statement about what a program cannot find out.

`Lockstep` is closed under everything that programs are made of: sequencing
(`Lockstep.bind`), branches on what both sides agree on, replaced and caught
errors.  So it is proved by following the text of a program, and only the
places where it looks at the state need the relation.
-/

namespace RedPlanet.Verified

variable {ε ε' σ τ α β : Type}

/-- The outcomes are the same but for the states, and these are related. -/
structure Outcome.Agree (R : σ → τ → Prop) (o : Outcome ε σ α)
    (o' : Outcome ε τ α) : Prop where
  result : o'.result = o.result
  state : R o.state o'.state

namespace Outcome.Agree

variable {R Q : σ → τ → Prop} {o : Outcome ε σ α} {o' : Outcome ε τ α}

/-- The relation of the states may be weakened. -/
theorem mono (h : o.Agree R o') (hQ : ∀ s t, R s t → Q s t) : o.Agree Q o' :=
  ⟨h.result, hQ _ _ h.state⟩

theorem ok {a : α} {s : σ} {t : τ} (h : R s t) :
    (Outcome.ok (ε := ε) a s).Agree R (.ok a t) := ⟨rfl, h⟩

theorem error {e : ε} {s : σ} {t : τ} (h : R s t) :
    (Outcome.error (α := α) e s).Agree R (.error e t) := ⟨rfl, h⟩

theorem panic {s : σ} {t : τ} (h : R s t) :
    (Outcome.panic (ε := ε) (α := α) s).Agree R (.panic t) := ⟨rfl, h⟩

/-- What the first outcome is, the second one is, too. -/
theorem of_ok {a : α} {s : σ} (h : (Outcome.ok (ε := ε) a s).Agree R o') :
    ∃ t, o' = .ok a t ∧ R s t := by
  cases o' with
  | ok b t =>
      obtain rfl : b = a := Except.ok.inj (Option.some.inj h.result)
      exact ⟨t, rfl, h.state⟩
  | error e t => cases h.result
  | panic t => cases h.result

theorem of_error {e : ε} {s : σ}
    (h : (Outcome.error (α := α) e s).Agree R o') :
    ∃ t, o' = .error e t ∧ R s t := by
  cases o' with
  | ok b t => cases h.result
  | error e' t =>
      obtain rfl : e' = e := Except.error.inj (Option.some.inj h.result)
      exact ⟨t, rfl, h.state⟩
  | panic t => cases h.result

theorem of_panic {s : σ}
    (h : (Outcome.panic (ε := ε) (α := α) s).Agree R o') :
    ∃ t, o' = .panic t ∧ R s t := by
  cases o' with
  | ok b t => cases h.result
  | error e t => cases h.result
  | panic t => exact ⟨t, rfl, h.state⟩

/-- Sequencing.  The relation may become another one where the first programs
end, which must hold as well where one of them does not go on. -/
theorem bind {m : Exec ε σ α} {m' : Exec ε τ α} {f : α → Exec ε σ β}
    {f' : α → Exec ε τ β} {s : σ} {t : τ} (h : (m s).Agree R (m' t))
    (hstop : ∀ u v, R u v → Q u v)
    (hf : ∀ a u v, m s = .ok a u → R u v → (f a u).Agree Q (f' a v)) :
    ((m >>= f) s).Agree Q ((m' >>= f') t) := by
  cases hm : m s with
  | ok a u =>
      rw [hm] at h
      obtain ⟨v, hm', huv⟩ := h.of_ok
      rw [Exec.bind_ok hm, Exec.bind_ok hm']
      exact hf a u v hm huv
  | error e u =>
      rw [hm] at h
      obtain ⟨v, hm', huv⟩ := h.of_error
      rw [Exec.bind_error hm, Exec.bind_error hm']
      exact error (hstop _ _ huv)
  | panic u =>
      rw [hm] at h
      obtain ⟨v, hm', huv⟩ := h.of_panic
      rw [Exec.bind_panic hm, Exec.bind_panic hm']
      exact panic (hstop _ _ huv)

/-- The same function is applied to the error on both sides. -/
theorem mapError {m : Exec ε σ α} {m' : Exec ε τ α} {s : σ} {t : τ}
    (g : ε → ε') (h : (m s).Agree R (m' t)) :
    (Exec.mapError g m s).Agree R (Exec.mapError g m' t) := by
  unfold Exec.mapError
  cases hm : m s with
  | ok a u =>
      rw [hm] at h
      obtain ⟨v, hm', huv⟩ := h.of_ok
      rw [hm']
      exact ok huv
  | error e u =>
      rw [hm] at h
      obtain ⟨v, hm', huv⟩ := h.of_error
      rw [hm']
      exact error huv
  | panic u =>
      rw [hm] at h
      obtain ⟨v, hm', huv⟩ := h.of_panic
      rw [hm']
      exact panic huv

/-- The same error, if any, is handed to what follows. -/
theorem attempt {m : Exec ε σ α} {m' : Exec ε τ α} {s : σ} {t : τ}
    (h : (m s).Agree R (m' t)) :
    ((Exec.attempt m : Exec ε' σ _) s).Agree R
      ((Exec.attempt m' : Exec ε' τ _) t) := by
  unfold Exec.attempt
  cases hm : m s with
  | ok a u =>
      rw [hm] at h
      obtain ⟨v, hm', huv⟩ := h.of_ok
      rw [hm']
      exact ok huv
  | error e u =>
      rw [hm] at h
      obtain ⟨v, hm', huv⟩ := h.of_error
      rw [hm']
      exact ok huv
  | panic u =>
      rw [hm] at h
      obtain ⟨v, hm', huv⟩ := h.of_panic
      rw [hm']
      exact panic huv

end Outcome.Agree

/-! ## Rules -/

/-- From related states the programs agree. -/
def Lockstep (R : σ → τ → Prop) (m : Exec ε σ α) (m' : Exec ε τ α) : Prop :=
  ∀ s t, R s t → (m s).Agree R (m' t)

namespace Lockstep

variable {R : σ → τ → Prop} {m : Exec ε σ α} {m' : Exec ε τ α}

theorem pure (a : α) :
    Lockstep R (Pure.pure a : Exec ε σ α) (Pure.pure a : Exec ε τ α) :=
  fun _ _ h => .ok h

theorem throw (e : ε) :
    Lockstep R (Exec.throw e : Exec ε σ α) (Exec.throw e : Exec ε τ α) :=
  fun _ _ h => .error h

theorem modify {f : σ → σ} {f' : τ → τ}
    (h : ∀ s t, R s t → R (f s) (f' t)) :
    Lockstep R (Exec.modify f : Exec ε σ Unit) (Exec.modify f') :=
  fun s t hst => .ok (h s t hst)

theorem assert (b : Bool) :
    Lockstep R (Exec.assert b : Exec ε σ Unit) (Exec.assert b) := by
  cases b with
  | true => exact pure ()
  | false => exact fun _ _ h => .panic h

theorem unwrap (o : Option α) :
    Lockstep R (Exec.unwrap o : Exec ε σ α) (Exec.unwrap o) := by
  cases o with
  | some a => exact pure a
  | none => exact fun _ _ h => .panic h

theorem bind {f : α → Exec ε σ β} {f' : α → Exec ε τ β} (hm : Lockstep R m m')
    (hf : ∀ a, Lockstep R (f a) (f' a)) :
    Lockstep R (m >>= f) (m' >>= f') :=
  fun s t h => (hm s t h).bind (fun _ _ huv => huv)
    fun a u v _ huv => hf a u v huv

/-- Reading the state, of which the rest uses nothing in which related states
differ. -/
theorem get_bind {f : σ → Exec ε σ α} {f' : τ → Exec ε τ α}
    (h : ∀ s t, R s t → Lockstep R (f s) (f' t)) :
    Lockstep R (Exec.get >>= f) (Exec.get >>= f') := by
  intro s t hst
  rw [Exec.get_bind, Exec.get_bind]
  exact h s t hst s t hst

/-- The same function is applied on both sides. -/
theorem map (g : α → β) (hm : Lockstep R m m') :
    Lockstep R (g <$> m) (g <$> m') := by
  show Lockstep R (m >>= fun a => Pure.pure (g a))
    (m' >>= fun a => Pure.pure (g a))
  exact bind hm fun a => pure (g a)

theorem mapError (g : ε → ε') (hm : Lockstep R m m') :
    Lockstep R (Exec.mapError g m) (Exec.mapError g m') :=
  fun s t h => (hm s t h).mapError g

theorem attempt (hm : Lockstep R m m') :
    Lockstep R (Exec.attempt m : Exec ε' σ _) (Exec.attempt m') :=
  fun s t h => (hm s t h).attempt

/-- Both sides take the same branch, and the branches go in lockstep. -/
theorem ite {c : Prop} [Decidable c] {n : Exec ε σ α} {n' : Exec ε τ α}
    (hm : c → Lockstep R m m') (hn : ¬ c → Lockstep R n n') :
    Lockstep R (if c then m else n) (if c then m' else n') := by
  by_cases hc : c
  · rw [if_pos hc, if_pos hc]
    exact hm hc
  · rw [if_neg hc, if_neg hc]
    exact hn hc

end Lockstep

end RedPlanet.Verified
