import Mathlib.Data.List.Forall2
import Mathlib.Data.Option.Defs

/-!
# Related options

Two computations that may fail do the same, up to a relation of their results,
when both fail or both return related results.  A proof of it follows the text
of the two.

`Option.Rel` is the relation of Mathlib.  The rules here are the ones that a
simulation between two partial programs needs: what one side returns the other
side returns too (`rel_some_left`, `rel_some_right`), and sequences and maps
of related parts are related (`rel_bind`, `rel_map`).
-/

namespace RedPlanet.Verified

variable {α β : Type} {R R' : α → β → Prop} {o : Option α} {o' : Option β}

/-- What the first computation returns, the second one returns a relative of.
-/
theorem rel_some_left {x : α} (h : Option.Rel R (some x) o') :
    ∃ y, o' = some y ∧ R x y := by
  cases h with
  | some hR => exact ⟨_, rfl, hR⟩

/-- Where the first computation fails, so does the second one. -/
theorem rel_none_left (h : Option.Rel R none o') : o' = none := by
  cases h with
  | none => rfl

/-- What the second computation returns is a relative of what the first one
returns. -/
theorem rel_some_right {y : β} (h : Option.Rel R o (some y)) :
    ∃ x, o = some x ∧ R x y := by
  cases h with
  | some hR => exact ⟨_, rfl, hR⟩

theorem rel_none_right (h : Option.Rel R o none) : o = none := by
  cases h with
  | none => rfl

/-- The relation may be weakened, for results that are returned. -/
theorem rel_imp (h : Option.Rel R o o')
    (himp : ∀ x y, o = some x → R x y → R' x y) : Option.Rel R' o o' := by
  cases h with
  | none => exact .none
  | some hR => exact .some (himp _ _ rfl hR)

/-! ## Sequences -/

section Bind

variable {α' β' : Type} {f : α → Option α'} {g : β → Option β'}
  {Q : α' → β' → Prop}

/-- Related results are followed by related computations. -/
theorem rel_bind (h : Option.Rel R o o')
    (hfg : ∀ x y, R x y → Option.Rel Q (f x) (g y)) :
    Option.Rel Q (o >>= f) (o' >>= g) := by
  cases h with
  | none => exact .none
  | some hR => exact hfg _ _ hR

/-- The first part is the same on both sides. -/
theorem rel_bind_eq {o₁ o₂ : Option α} {g : α → Option β'} (h : o₁ = o₂)
    (hfg : ∀ x, Option.Rel Q (f x) (g x)) :
    Option.Rel Q (o₁ >>= f) (o₂ >>= g) := by
  subst h
  cases o₁ with
  | none => exact .none
  | some x => exact hfg x

/-- Related results are mapped to related ones. -/
theorem rel_map {f : α → α'} {g : β → β'} (h : Option.Rel R o o')
    (hfg : ∀ x y, R x y → Q (f x) (g y)) :
    Option.Rel Q (o.map f) (o'.map g) := by
  cases h with
  | none => exact .none
  | some hR => exact .some (hfg _ _ hR)

end Bind

/-- Related lists have related elements. -/
theorem rel_getElem? {l : List α} {l' : List β} (h : List.Forall₂ R l l') :
    ∀ i : ℕ, Option.Rel R l[i]? l'[i]? := by
  induction h with
  | nil => exact fun _ => .none
  | cons hR _ ih =>
      intro i
      cases i with
      | zero => exact .some hR
      | succ i => exact ih i

end RedPlanet.Verified
