import Mathlib.Algebra.Order.Ring.Nat

/-!
# Binary search

`binary_search_by` of a slice: the comparator says whether an element lies
before what is looked for, after it, or is it.  On a list that the comparator
partitions, the search returns the position of an element that is found, or
the one position that has exactly the lesser elements before it.

The loop narrows an interval.  `Narrowed` is its invariant: everything to the
left of the interval is less, everything from its right end on is greater.
`searchFrom_finds` carries it through the loop, by induction on the bound of
the interval, and `binarySearchBy_finds` is the result for the whole list.
-/

namespace RedPlanet.Verified

variable {α : Type}

/-- The loop: elements before `left` are less, those from `right` on are
greater.  `fuel` bounds the length of what is left. -/
def searchFrom (cmp : α → Ordering) (l : List α) :
    (fuel left right : ℕ) → Except ℕ ℕ
  | 0, left, _ => .error left
  | fuel + 1, left, right =>
      if left < right then
        let mid := left + (right - left) / 2
        match (l[mid]?).map cmp with
        | some .lt => searchFrom cmp l fuel (mid + 1) right
        | some .gt => searchFrom cmp l fuel left mid
        | some .eq => .ok mid
        | none => .error left
      else .error left

/-- The position of an element that is found, or where it would be. -/
def binarySearchBy (cmp : α → Ordering) (l : List α) : Except ℕ ℕ :=
  searchFrom cmp l l.length 0 l.length

/-- First the lesser elements, then those that are found, then the greater
ones. -/
structure Partitioned (cmp : α → Ordering) (l : List α) : Prop where
  less : ∀ (i j : ℕ) (x y : α), i ≤ j → l[i]? = some x → l[j]? = some y →
    cmp y = .lt → cmp x = .lt
  greater : ∀ (i j : ℕ) (x y : α), i ≤ j → l[i]? = some x → l[j]? = some y →
    cmp x = .gt → cmp y = .gt

/-- What is known between two steps of the loop. -/
structure Narrowed (cmp : α → Ordering) (l : List α) (left right : ℕ) :
    Prop where
  le : left ≤ right
  inside : right ≤ l.length
  less : ∀ (i : ℕ) (x : α), i < left → l[i]? = some x → cmp x = .lt
  greater : ∀ (i : ℕ) (x : α), right ≤ i → l[i]? = some x → cmp x = .gt

/-- The element at the position is found, or there is none and it belongs
there. -/
def Finds (cmp : α → Ordering) (l : List α) : Except ℕ ℕ → Prop
  | .ok i => ∃ x, l[i]? = some x ∧ cmp x = .eq
  | .error i => i ≤ l.length ∧
      (∀ (j : ℕ) (x : α), j < i → l[j]? = some x → cmp x = .lt) ∧
      ∀ (j : ℕ) (x : α), i ≤ j → l[j]? = some x → cmp x = .gt

section Loop

variable {cmp : α → Ordering} {l : List α} {left right : ℕ}

/-- Where nothing is left to search, the invariant says where the element
would be. -/
theorem Narrowed.done (h : Narrowed cmp l left right) (heq : right ≤ left) :
    Finds cmp l (.error left) := by
  have hle := h.le
  have hinside := h.inside
  exact ⟨by omega, h.less, fun j x hj => h.greater j x (by omega)⟩

/-- The loop finds what there is from every interval that satisfies the
invariant, by induction on the number of turns. -/
theorem searchFrom_finds (hl : Partitioned cmp l) {fuel : ℕ}
    (h : Narrowed cmp l left right) (hfuel : right - left ≤ fuel) :
    Finds cmp l (searchFrom cmp l fuel left right) := by
  induction fuel generalizing left right with
  | zero => exact h.done (by omega)
  | succ fuel ih =>
      unfold searchFrom
      by_cases hlt : left < right
      · rw [if_pos hlt]
        dsimp only
        generalize hmid : left + (right - left) / 2 = mid
        have hinside := h.inside
        have hbound : mid < l.length := by omega
        have hget : l[mid]? = some l[mid] := List.getElem?_eq_getElem hbound
        rw [hget, Option.map_some]
        cases hcmp : cmp l[mid] with
        | eq => exact ⟨l[mid], hget, hcmp⟩
        | lt =>
            have hnext : Narrowed cmp l (mid + 1) right :=
              { le := by omega
                inside := hinside
                less := fun i x hi hx =>
                  hl.less i mid x _ (by omega) hx hget hcmp
                greater := h.greater }
            exact ih hnext (by omega)
        | gt =>
            have hnext : Narrowed cmp l left mid :=
              { le := by omega
                inside := by omega
                less := h.less
                greater := fun i x hi hx =>
                  hl.greater mid i _ x hi hget hx hcmp }
            exact ih hnext (by omega)
      · rw [if_neg hlt]
        exact h.done (by omega)

/-- The search of a partitioned list finds what there is. -/
theorem binarySearchBy_finds (hl : Partitioned cmp l) :
    Finds cmp l (binarySearchBy cmp l) := by
  have hstart : Narrowed cmp l 0 l.length :=
    { le := Nat.zero_le _
      inside := Nat.le_refl _
      less := fun i x hi _ => absurd hi (Nat.not_lt_zero i)
      greater := fun i x hi hx => by
        rw [List.getElem?_eq_none hi] at hx
        exact nomatch hx }
  exact searchFrom_finds hl hstart (by omega)

end Loop

end RedPlanet.Verified
