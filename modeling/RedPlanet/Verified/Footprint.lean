import Mathlib.Data.Set.Basic
import RedPlanet.Verified.Exec

/-!
# Footprints

A state is seen through its parts, each of them a function of the state.  A
reader has a footprint, the parts it looks at, and a writer has one, the parts
it changes.  Where the two are disjoint the reader does not notice the writer,
and the footprint of a run is the union of those of its steps.

`ReadsOnly` and `WritesOnly` state footprints, `WritesOnly.comp` and
`WritesOnly.foldl` put those of a program together from those of its pieces,
and `ReadsOnly.unchanged` is the one result that they are for.  The parts are
indexed by an arbitrary type, so that a proof that two footprints are disjoint
is a decision over that type.
-/

namespace RedPlanet.Verified

variable {σ P α ω : Type} {V : P → Type} {get : (p : P) → σ → V p}

/-- The two states have the same parts. -/
def SameAt (get : (p : P) → σ → V p) (parts : Set P) (s t : σ) : Prop :=
  ∀ p ∈ parts, get p s = get p t

/-- What `f` gives depends on these parts only. -/
def ReadsOnly (get : (p : P) → σ → V p) (parts : Set P) (f : σ → α) : Prop :=
  ∀ s t, SameAt get parts s t → f s = f t

/-- Outside these parts `g` changes nothing. -/
def WritesOnly (get : (p : P) → σ → V p) (parts : Set P) (g : σ → σ) : Prop :=
  ∀ s, ∀ p ∉ parts, get p (g s) = get p s

/-- What a program returns, without the state it leaves. -/
def Outcome.result {ε : Type} : Outcome ε σ α → Option (Except ε α)
  | .ok value _ => some (.ok value)
  | .error err _ => some (.error err)
  | .panic _ => none

/-- A footprint may be widened. -/
theorem WritesOnly.mono {W W' : Set P} {g : σ → σ} (h : WritesOnly get W g)
    (hsub : W ⊆ W') : WritesOnly get W' g :=
  fun s p hp => h s p fun hmem => hp (hsub hmem)

/-- The footprint of two writes one after the other is the union of theirs. -/
theorem WritesOnly.comp {W W' : Set P} {g g' : σ → σ}
    (h : WritesOnly get W g) (h' : WritesOnly get W' g') :
    WritesOnly get (W ∪ W') fun s => g' (g s) := by
  intro s p hp
  rw [Set.mem_union, not_or] at hp
  rw [h' (g s) p hp.2, h s p hp.1]

/-- The footprint of a run is made up of those of its steps. -/
theorem WritesOnly.foldl {step : σ → ω → σ} {W : ω → Set P}
    (h : ∀ o, WritesOnly get (W o) fun s => step s o) (ops : List ω) :
    WritesOnly get {p | ∃ o ∈ ops, p ∈ W o} fun s => ops.foldl step s := by
  induction ops with
  | nil => exact fun _ _ _ => rfl
  | cons o ops ih =>
      apply ((h o).comp ih).mono
      rintro p (hp | ⟨o', hmem, hp⟩)
      · exact ⟨o, List.mem_cons_self, hp⟩
      · exact ⟨o', List.mem_cons_of_mem o hmem, hp⟩

/-- A reader does not notice a writer whose footprint its own does not
meet. -/
theorem ReadsOnly.unchanged {R W : Set P} {f : σ → α} {g : σ → σ}
    (hf : ReadsOnly get R f) (hg : WritesOnly get W g)
    (h : ∀ p ∈ R, p ∉ W) (s : σ) : f (g s) = f s :=
  hf _ _ fun p hp => hg s p (h p hp)

end RedPlanet.Verified
