import Mathlib.Algebra.Order.Ring.Nat

/-!
# Computations with limits

A pure computation that may stop early, and that notes when it leaves the
limits it was written for: a counter that runs into a flag bit, a link that
does not fit.  The note is for proofs only, the computation goes on without
looking at it.  `full` is the stop that the code announces when it runs out of
room; `panic` stands for everything else.

`m.Ensures P` says what `m` does within its limits: it does not panic, and
what it returns satisfies `P`.  It is proved by following the text of `m`
(`Ensures.bind` and the rules around it).
-/

namespace RedPlanet.Verified

/-- Why a computation stopped. -/
inductive Stop where
  | panic
  | full
deriving DecidableEq, Repr

/-- Running out of room is announced, all else is not. -/
def Stop.Announced (stop : Stop) : Prop := stop = .full

/-- A result, or the reason why there is none, and whether a limit was
exceeded on the way. -/
@[ext]
structure Limited (α : Type) where
  result : Except Stop α
  exceeded : Bool

namespace Limited

variable {α β : Type}

protected def pure (a : α) : Limited α where
  result := .ok a
  exceeded := false

protected def bind (m : Limited α) (f : α → Limited β) : Limited β :=
  match m.result with
  | .ok a =>
      { result := (f a).result
        exceeded := m.exceeded || (f a).exceeded }
  | .error stop => { result := .error stop, exceeded := m.exceeded }

instance : Monad Limited where
  pure := Limited.pure
  bind := Limited.bind

/-- An assertion, an index or an overflow check that fails. -/
def panic : Limited α where
  result := .error .panic
  exceeded := false

/-- The stop that the code announces when it runs out of room. -/
def full : Limited α where
  result := .error .full
  exceeded := false

/-- Note that a limit is exceeded if `b` holds. -/
def note (b : Bool) : Limited Unit where
  result := .ok ()
  exceeded := b

/-- An assertion of the source. -/
def assert (b : Bool) : Limited Unit := if b then pure () else panic

/-- `unwrap` of an option, and indexing. -/
def unwrap : Option α → Limited α
  | some a => pure a
  | none => panic

/-! ## Running the primitives -/

@[simp] theorem result_pure (a : α) :
    (pure a : Limited α).result = .ok a := rfl

@[simp] theorem exceeded_pure (a : α) :
    (pure a : Limited α).exceeded = false := rfl

theorem bind_pure' (m : Limited α) : Limited.bind m Limited.pure = m := by
  rcases m with ⟨stop | a, exceeded⟩ <;> simp [Limited.bind, Limited.pure]

theorem pure_bind' (a : α) (f : α → Limited β) :
    Limited.bind (Limited.pure a) f = f a := by
  simp [Limited.bind, Limited.pure]

theorem bind_assoc' {γ : Type} (m : Limited α) (f : α → Limited β)
    (g : β → Limited γ) :
    Limited.bind (Limited.bind m f) g
      = Limited.bind m fun a => Limited.bind (f a) g := by
  rcases m with ⟨stop | a, exceeded⟩
  · rfl
  · rcases hf : f a with ⟨stop | b, exceeded'⟩ <;>
      simp [Limited.bind, hf, Bool.or_assoc]

instance : LawfulMonad Limited :=
  LawfulMonad.mk' Limited bind_pure' pure_bind' bind_assoc'

@[simp] theorem unwrap_some (a : α) : unwrap (some a) = pure a := rfl

@[simp] theorem unwrap_none : unwrap (none : Option α) = panic := rfl

@[simp] theorem assert_true : assert true = pure () := rfl

/-- A sequence goes on with what its first part returns, and exceeds the
limits if either part does. -/
theorem bind_of_ok {m : Limited α} {a : α} (h : m.result = .ok a)
    (f : α → Limited β) :
    (m >>= f).result = (f a).result ∧
      (m >>= f).exceeded = (m.exceeded || (f a).exceeded) := by
  show (Limited.bind m f).result = _ ∧ (Limited.bind m f).exceeded = _
  simp [Limited.bind, h]

/-- A sequence stops where its first part stops. -/
theorem bind_of_error {m : Limited α} {stop : Stop}
    (h : m.result = .error stop) (f : α → Limited β) :
    (m >>= f).result = .error stop ∧ (m >>= f).exceeded = m.exceeded := by
  show (Limited.bind m f).result = _ ∧ (Limited.bind m f).exceeded = _
  simp [Limited.bind, h]

/-- What a sequence returns, its last part returns. -/
theorem exists_of_bind_ok {m : Limited α} {f : α → Limited β} {b : β}
    (h : (m >>= f).result = .ok b) :
    ∃ a, m.result = .ok a ∧ (f a).result = .ok b := by
  rcases hresult : m.result with stop | a
  · rw [(bind_of_error hresult f).1] at h
    exact nomatch h
  · rw [(bind_of_ok hresult f).1] at h
    exact ⟨a, rfl, h⟩

/-- A sequence stays within its limits if its parts do. -/
theorem exceeded_bind {m : Limited α} {f : α → Limited β}
    (h : m.exceeded = false)
    (hf : ∀ a, m.result = .ok a → (f a).exceeded = false) :
    (m >>= f).exceeded = false := by
  rcases hresult : m.result with stop | a
  · rw [(bind_of_error hresult f).2, h]
  · rw [(bind_of_ok hresult f).2, h, hf a hresult]
    rfl

@[simp] theorem exceeded_unwrap (o : Option α) :
    (unwrap o).exceeded = false := by
  cases o with
  | none => rfl
  | some a => rfl

/-! ## Within the limits -/

/-- Within its limits the computation does not panic, and what it returns
satisfies `P`. -/
def Ensures (m : Limited α) (P : α → Prop) : Prop :=
  m.exceeded = false →
    match m.result with
    | .ok a => P a
    | .error stop => stop.Announced

variable {m : Limited α} {P Q : α → Prop}

/-- The use of the rule: within the limits the result satisfies `P`. -/
theorem Ensures.of_ok (h : m.Ensures P) (hlimit : m.exceeded = false) {a : α}
    (hok : m.result = .ok a) : P a := by
  have hm := h hlimit
  rw [hok] at hm
  exact hm

/-- Within the limits nothing panics. -/
theorem Ensures.ne_panic (h : m.Ensures P) (hlimit : m.exceeded = false) :
    m.result ≠ .error .panic := by
  intro hpanic
  have hm := h hlimit
  rw [hpanic] at hm
  exact nomatch hm

/-- What is ensured may be weakened. -/
theorem Ensures.imp (h : m.Ensures P) (hpq : ∀ a, P a → Q a) :
    m.Ensures Q := by
  intro hlimit
  have hm := h hlimit
  rcases hresult : m.result with stop | a
  · rw [hresult] at hm
    exact hm
  · rw [hresult] at hm
    exact hpq a hm

theorem Ensures.pure {a : α} (h : P a) :
    (Pure.pure a : Limited α).Ensures P := fun _ => h

/-- What is known to be returned. -/
theorem Ensures.of_result {a : α} (h : m.result = .ok a) :
    m.Ensures fun x => x = a := by
  intro _
  rw [h]

/-- The second part may use what the first one ensures. -/
theorem Ensures.bind {f : α → Limited β} {R : β → Prop} (h : m.Ensures P)
    (hf : ∀ a, P a → (f a).Ensures R) : (m >>= f).Ensures R := by
  intro hlimit
  rcases hresult : m.result with stop | a
  · obtain ⟨hbind, hexceeded⟩ := bind_of_error hresult f
    rw [hexceeded] at hlimit
    have hm := h hlimit
    rw [hresult] at hm
    rw [hbind]
    exact hm
  · obtain ⟨hbind, hexceeded⟩ := bind_of_ok hresult f
    rw [hexceeded, Bool.or_eq_false_iff] at hlimit
    rw [hbind]
    exact hf a (h.of_ok hlimit.1 hresult) hlimit.2

/-- A function is applied to what is ensured. -/
theorem Ensures.map {f : α → β} {R : β → Prop} (h : m.Ensures P)
    (hf : ∀ a, P a → R (f a)) : (f <$> m).Ensures R := by
  rw [map_eq_pure_bind]
  exact h.bind fun a ha => Ensures.pure (hf a ha)

/-- What is ensured is ensured of the result. -/
theorem Ensures.attach (h : m.Ensures P) :
    m.Ensures fun a => m.result = .ok a ∧ P a := by
  intro hlimit
  rcases hresult : m.result with stop | a
  · have hm := h hlimit
    rw [hresult] at hm
    exact hm
  · exact ⟨rfl, h.of_ok hlimit hresult⟩

theorem Ensures.note {b : Bool} :
    (note b).Ensures fun _ => b = false := fun hlimit => hlimit

theorem Ensures.full : (full : Limited α).Ensures P := fun _ => rfl

/-- There is a value to unwrap. -/
theorem Ensures.unwrap {o : Option α} {a : α} (h : o = some a) :
    (unwrap o).Ensures fun x => x = a := by
  rw [h]
  exact Ensures.pure rfl

/-- The assertion holds. -/
theorem Ensures.assert {b : Bool} (h : b = true) :
    (assert b).Ensures fun _ => True := by
  rw [h]
  exact Ensures.pure True.intro

/-- A sequence of computations, each with a known result. -/
theorem Ensures.mapM {f : α → Limited β} {g : α → β} {l : List α}
    (hf : ∀ a ∈ l, (f a).Ensures fun b => b = g a) :
    (l.mapM f).Ensures fun items => items = l.map g := by
  induction l with
  | nil => exact Ensures.pure rfl
  | cons a l ih =>
      rw [List.mapM_cons]
      apply Ensures.bind (hf a List.mem_cons_self)
      intro b hb
      apply Ensures.bind (ih fun x hx => hf x (List.mem_cons_of_mem a hx))
      intro items hitems
      exact Ensures.pure (by rw [hb, hitems, List.map_cons])

/-! ## Computations that succeed -/

/-- The computation returns, within its limits. -/
structure Succeeds (m : Limited α) : Prop where
  exceeded : m.exceeded = false
  ok : ∃ a, m.result = .ok a

/-- What follows a computation that failed fails. -/
theorem Succeeds.of_bind {f : α → Limited β} (h : (m >>= f).Succeeds) :
    m.Succeeds := by
  obtain ⟨b, hb⟩ := h.ok
  obtain ⟨a, ha, _⟩ := exists_of_bind_ok hb
  refine ⟨?_, a, ha⟩
  have hexceeded := h.exceeded
  rw [(bind_of_ok ha f).2, Bool.or_eq_false_iff] at hexceeded
  exact hexceeded.1

theorem Succeeds.of_map {f : α → β} (h : (f <$> m).Succeeds) :
    m.Succeeds := by
  rw [map_eq_pure_bind] at h
  exact h.of_bind

/-- Where a computation returns, the result is as ensured. -/
theorem Succeeds.ensures (h : m.Succeeds) (hensures : m.Ensures P) :
    ∃ a, m.result = .ok a ∧ P a := by
  obtain ⟨a, ha⟩ := h.ok
  exact ⟨a, ha, hensures.of_ok h.exceeded ha⟩

/-! ## Computations that need no room -/

/-- The computation does not run out of room. -/
def Roomy (m : Limited α) : Prop := m.result ≠ .error .full

theorem Roomy.pure (a : α) : (Pure.pure a : Limited α).Roomy := nofun

theorem Roomy.unwrap (o : Option α) : (unwrap o).Roomy := by
  cases o with
  | none => exact nofun
  | some a => exact Roomy.pure a

theorem Roomy.note (b : Bool) : (note b).Roomy := nofun

/-- A sequence has room if its parts have. -/
theorem Roomy.bind {f : α → Limited β} (h : m.Roomy)
    (hf : ∀ a, (f a).Roomy) : (m >>= f).Roomy := by
  rcases hresult : m.result with stop | a
  · have hroom : m.result ≠ .error .full := h
    rw [hresult] at hroom
    show (m >>= f).result ≠ _
    rw [(bind_of_error hresult f).1]
    intro heq
    exact hroom (by rw [Except.error.inj heq])
  · show (m >>= f).result ≠ _
    rw [(bind_of_ok hresult f).1]
    exact hf a

/-- Within its limits it returns. -/
theorem Roomy.ok_of_ensures (hroom : m.Roomy) (h : m.Ensures P)
    (hlimit : m.exceeded = false) : ∃ a, m.result = .ok a ∧ P a := by
  have hresult := h hlimit
  rcases heq : m.result with stop | a
  · rw [heq] at hresult
    have hfull : m.result = .error .full := by rw [heq, hresult]
    exact absurd hfull hroom
  · rw [heq] at hresult
    exact ⟨a, rfl, hresult⟩

/-! ## Computations without limits -/

/-- Nothing is noted, and there is always room. -/
structure Unlimited (m : Limited α) : Prop where
  exceeded : m.exceeded = false
  room : m.result ≠ .error .full

theorem Unlimited.pure (a : α) : (Pure.pure a : Limited α).Unlimited where
  exceeded := rfl
  room := nofun

theorem Unlimited.panic : (panic : Limited α).Unlimited where
  exceeded := rfl
  room := nofun

theorem Unlimited.unwrap (o : Option α) : (unwrap o).Unlimited := by
  cases o with
  | none => exact Unlimited.panic
  | some a => exact Unlimited.pure a

theorem Unlimited.ite {c : Prop} [Decidable c] {m m' : Limited α}
    (h : m.Unlimited) (h' : m'.Unlimited) :
    (if c then m else m').Unlimited := by
  by_cases hc : c
  · rw [if_pos hc]
    exact h
  · rw [if_neg hc]
    exact h'

theorem Unlimited.assert (b : Bool) : (assert b).Unlimited :=
  Unlimited.ite (Unlimited.pure ()) Unlimited.panic

/-- A sequence notes nothing if its parts note nothing. -/
theorem Unlimited.bind {f : α → Limited β} (h : m.Unlimited)
    (hf : ∀ a, (f a).Unlimited) : (m >>= f).Unlimited := by
  rcases hresult : m.result with stop | a
  · obtain ⟨hbind, hexceeded⟩ := bind_of_error hresult f
    have hroom := h.room
    refine ⟨hexceeded.trans h.exceeded, ?_⟩
    rw [hresult] at hroom
    rw [hbind]
    exact fun heq => hroom (by rw [Except.error.inj heq])
  · obtain ⟨hbind, hexceeded⟩ := bind_of_ok hresult f
    refine ⟨?_, ?_⟩
    · rw [hexceeded, h.exceeded, (hf a).exceeded]
      rfl
    · rw [hbind]
      exact (hf a).room

/-- So does a computation for each element of a list. -/
theorem Unlimited.mapM {f : α → Limited β} (hf : ∀ a, (f a).Unlimited)
    (l : List α) : (l.mapM f).Unlimited := by
  induction l with
  | nil => exact Unlimited.pure []
  | cons a l ih =>
      rw [List.mapM_cons]
      exact (hf a).bind fun _ => ih.bind fun _ => Unlimited.pure _

/-- Without limits there is a result. -/
theorem Unlimited.ok_of_ensures (hm : m.Unlimited) (h : m.Ensures P) :
    ∃ a, m.result = .ok a ∧ P a :=
  Roomy.ok_of_ensures hm.room h hm.exceeded

end Limited

end RedPlanet.Verified
