import Mathlib.Data.List.Basic

/-!
# First and last matches

A test is answered at consecutive indices, and the answer that counts is the
one at the largest index where there is one.  The indices may be gone through
in segments, the last segment first: the last match of the whole is the last
match of the last segment that has one.

The first match of two tests on one list is the same if and only if the tests
agree up to there.
-/

namespace RedPlanet.Verified

variable {R : Type*}

/-! ## The last match -/

/-- The last answer of a list with its index, the first index being `low`. -/
def lastMatch : Nat → List (Option R) → Option (Nat × R)
  | _, [] => none
  | low, answer :: rest =>
      (lastMatch (low + 1) rest).or (answer.map fun r => (low, r))

@[simp] theorem lastMatch_nil (low : Nat) :
    lastMatch low ([] : List (Option R)) = none := rfl

theorem lastMatch_cons (low : Nat) (answer : Option R)
    (rest : List (Option R)) :
    lastMatch low (answer :: rest) =
      (lastMatch (low + 1) rest).or (answer.map fun r => (low, r)) := rfl

/-- The match of two segments is that of the second one, if it has any. -/
theorem lastMatch_append (xs ys : List (Option R)) :
    ∀ low, lastMatch low (xs ++ ys) =
      (lastMatch (low + xs.length) ys).or (lastMatch low xs) := by
  induction xs with
  | nil => intro low; rw [lastMatch_nil, Option.or_none]; rfl
  | cons x xs ih =>
      intro low
      have hlen : low + (x :: xs).length = low + 1 + xs.length := by
        rw [List.length_cons]
        omega
      rw [List.cons_append, lastMatch_cons, lastMatch_cons, ih, hlen,
        Option.or_assoc]

/-- A match lies among the indices. -/
theorem lastMatch_bounds {answers : List (Option R)} {i : Nat} {r : R} :
    ∀ {low}, lastMatch low answers = some (i, r) →
      low ≤ i ∧ i < low + answers.length := by
  induction answers with
  | nil => intro low h; exact absurd h (by simp)
  | cons answer rest ih =>
      intro low h
      rw [List.length_cons]
      rw [lastMatch_cons, Option.or_eq_some_iff] at h
      rcases h with h | ⟨-, h⟩
      · have := ih h
        omega
      · rw [Option.map_eq_some_iff] at h
        obtain ⟨r', -, hpair⟩ := h
        have hi : low = i := congrArg Prod.fst hpair
        omega

/-! ### Answers that depend on the index only -/

section Tabulated

variable {f : Nat → Option R}

/-- There is no match iff no index has an answer. -/
theorem lastMatch_range'_none (n : Nat) :
    ∀ low, lastMatch low ((List.range' low n).map f) = none ↔
      ∀ k, low ≤ k → k < low + n → f k = none := by
  induction n with
  | zero => intro low; exact iff_of_true rfl fun k _ _ => by omega
  | succ n ih =>
      intro low
      rw [List.range'_succ, List.map_cons, lastMatch_cons,
        Option.or_eq_none_iff, ih, Option.map_eq_none_iff]
      constructor
      · intro ⟨hrest, hlow⟩ k hk hlt
        rcases Nat.eq_or_lt_of_le hk with rfl | hk
        · exact hlow
        · exact hrest k hk (by omega)
      · intro h
        exact ⟨fun k hk hlt => h k (by omega) (by omega),
          h low (Nat.le_refl _) (by omega)⟩

/-- The match is at the largest index that has an answer. -/
theorem lastMatch_range'_some (n : Nat) {i : Nat} {r : R} :
    ∀ low, lastMatch low ((List.range' low n).map f) = some (i, r) ↔
      low ≤ i ∧ i < low + n ∧ f i = some r ∧
        ∀ k, i < k → k < low + n → f k = none := by
  induction n with
  | zero =>
      intro low
      refine iff_of_false (by simp) ?_
      intro ⟨hle, hlt, _⟩
      omega
  | succ n ih =>
      intro low
      rw [List.range'_succ, List.map_cons, lastMatch_cons,
        Option.or_eq_some_iff, ih, lastMatch_range'_none,
        Option.map_eq_some_iff]
      constructor
      · intro h
        rcases h with ⟨hle, hlt, hi, hafter⟩ | ⟨hnone, r', hlow, hpair⟩
        · exact ⟨by omega, by omega, hi, fun k hk hlt => hafter k hk (by omega)⟩
        · obtain ⟨rfl, rfl⟩ := Prod.mk.inj hpair
          exact ⟨Nat.le_refl _, by omega, hlow,
            fun k hk hlt => hnone k hk (by omega)⟩
      · intro ⟨hle, hlt, hi, hafter⟩
        rcases Nat.eq_or_lt_of_le hle with rfl | hlow
        · exact Or.inr ⟨fun k hk hlt => hafter k hk (by omega), r, hi, rfl⟩
        · exact Or.inl ⟨hlow, by omega, hi,
            fun k hk hlt => hafter k hk (by omega)⟩

end Tabulated

/-! ### Answers in a list -/

/-- Any answers are those at the indices. -/
theorem map_range'_getElem? (answers : List (Option R)) (low : Nat) :
    (List.range' low answers.length).map
        (fun k => (answers[k - low]?).join) = answers := by
  apply List.ext_getElem
  · rw [List.length_map, List.length_range']
  · intro j hj hlt
    rw [List.getElem_map, List.getElem_range']
    rw [show low + 1 * j - low = j by omega, List.getElem?_eq_getElem hlt]
    rfl

/-- The match is the last answer that there is. -/
theorem lastMatch_eq_some {answers : List (Option R)} {low i : Nat} {r : R}
    (h : lastMatch low answers = some (i, r)) :
    low ≤ i ∧ i < low + answers.length ∧
      (answers[i - low]?).join = some r ∧
        ∀ k, i < k → k < low + answers.length →
          (answers[k - low]?).join = none := by
  rw [← map_range'_getElem? answers low] at h
  exact (lastMatch_range'_some _ _).1 h

/-- Without a match there is no answer. -/
theorem lastMatch_eq_none {answers : List (Option R)} {low : Nat}
    (h : lastMatch low answers = none) :
    ∀ k, low ≤ k → k < low + answers.length →
      (answers[k - low]?).join = none := by
  rw [← map_range'_getElem? answers low] at h
  exact (lastMatch_range'_none _ _).1 h

/-! ## The first match -/

section FirstMatch

variable {α : Type*} (p q : α → Bool)

/-- The two tests agree up to the first element that passes the second. -/
def AgreeUntil : List α → Prop
  | [] => True
  | x :: rest => p x = q x ∧ (q x = true ∨ AgreeUntil rest)

/-- Two searches of a list find the same just if their tests agree up to the
first match. -/
theorem find?_eq_iff (list : List α) :
    list.find? p = list.find? q ↔ AgreeUntil p q list := by
  induction list with
  | nil => exact iff_of_true rfl trivial
  | cons x rest ih =>
      rw [List.find?_cons, List.find?_cons]
      cases hp : p x with
      | true =>
          cases hq : q x with
          | true =>
              exact iff_of_true rfl ⟨hp.trans hq.symm, Or.inl hq⟩
          | false =>
              apply iff_of_false
              · intro hfind
                have hpass := List.find?_some hfind.symm
                rw [hq] at hpass
                exact nomatch hpass
              · intro hagree
                have hsame := hagree.1
                rw [hp, hq] at hsame
                exact nomatch hsame
      | false =>
          cases hq : q x with
          | true =>
              apply iff_of_false
              · intro hfind
                have hpass := List.find?_some hfind
                rw [hp] at hpass
                exact nomatch hpass
              · intro hagree
                have hsame := hagree.1
                rw [hp, hq] at hsame
                exact nomatch hsame
          | false =>
              show rest.find? p = rest.find? q ↔
                p x = q x ∧ (q x = true ∨ AgreeUntil p q rest)
              rw [ih, hp, hq]
              simp

end FirstMatch

end RedPlanet.Verified
