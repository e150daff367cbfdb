import Mathlib.Data.List.Basic
import Mathlib.Data.List.Nodup

/-!
# Serving the best request first

A server takes one request at a time, the best of those that wait, and removes
it, until none waits.  If finitely many wait, each of them is served exactly
once, the better ones first (`served_spec`), and nothing else is.

`Serves` is what one turn owes: it takes a request that waits and that no
other one precedes, and leaves the others waiting.  The order is any relation,
and the number of requests is bounded rather than counted (`AtMost`), so that
a server over a fixed set of sources needs no more than that bound.
-/

namespace RedPlanet.Verified

variable {σ ι : Type}

/-- What one turn of the server does, in the states that keep `inv`. -/
structure Serves (inv : σ → Prop) (waiting : σ → ι → Prop)
    (before : σ → ι → ι → Prop) (serve : σ → Option (ι × σ)) : Prop where
  idle : ∀ {s}, inv s → serve s = none → ∀ i, ¬ waiting s i
  best : ∀ {s i s'}, inv s → serve s = some (i, s') →
    waiting s i ∧ ∀ j, waiting s j → j ≠ i → before s i j
  rest : ∀ {s i s'}, inv s → serve s = some (i, s') →
    ∀ j, waiting s' j ↔ waiting s j ∧ j ≠ i
  same : ∀ {s i s'}, inv s → serve s = some (i, s') → before s' = before s
  keep : ∀ {s i s'}, inv s → serve s = some (i, s') → inv s'

/-- The requests that are served in so many turns. -/
def served (serve : σ → Option (ι × σ)) : ℕ → σ → List ι
  | 0, _ => []
  | n + 1, s =>
      match serve s with
      | none => []
      | some (i, s') => i :: served serve n s'

/-- At most `n` requests wait. -/
def AtMost (waiting : σ → ι → Prop) (n : ℕ) (s : σ) : Prop :=
  ∃ all : List ι, all.length ≤ n ∧ ∀ i, waiting s i → i ∈ all

variable {inv : σ → Prop} {waiting : σ → ι → Prop}
  {before : σ → ι → ι → Prop} {serve : σ → Option (ι × σ)}

theorem served_none {s : σ} (h : serve s = none) (n : ℕ) :
    served serve n s = [] := by
  cases n with
  | zero => rfl
  | succ n =>
      unfold served
      rw [h]

/-- One turn, and then the others. -/
theorem served_some {s s' : σ} {i : ι} (h : serve s = some (i, s')) (n : ℕ) :
    served serve (n + 1) s = i :: served serve n s' := by
  rw [served, h]

namespace Serves

/-- A turn leaves one request less. -/
theorem atMost [DecidableEq ι] (hserves : Serves inv waiting before serve)
    {s s' : σ} {i : ι} (hinv : inv s) (h : serve s = some (i, s')) {n : ℕ}
    (hn : AtMost waiting n s) :
    ∃ m, n = m + 1 ∧ AtMost waiting m s' := by
  obtain ⟨all, hlength, hall⟩ := hn
  have hmem : i ∈ all := hall i (hserves.best hinv h).1
  have hpos := List.length_pos_of_mem hmem
  refine ⟨n - 1, by omega, all.erase i, ?_, ?_⟩
  · rw [List.length_erase_of_mem hmem]
    omega
  · intro j hj
    obtain ⟨hwaiting, hne⟩ := (hserves.rest hinv h j).1 hj
    exact (List.mem_erase_of_ne hne).2 (hall j hwaiting)

/-- Just the requests that wait are served, if there are enough turns. -/
theorem mem_served [DecidableEq ι] (hserves : Serves inv waiting before serve)
    {n : ℕ} {s : σ} (hinv : inv s) (hn : AtMost waiting n s) (i : ι) :
    i ∈ served serve n s ↔ waiting s i := by
  induction n generalizing s with
  | zero =>
      obtain ⟨all, hlength, hall⟩ := hn
      apply iff_of_false List.not_mem_nil
      intro hi
      have hpos := List.length_pos_of_mem (hall i hi)
      omega
  | succ n ih =>
      cases h : serve s with
      | none =>
          rw [served_none h]
          exact iff_of_false List.not_mem_nil (hserves.idle hinv h i)
      | some turn =>
          obtain ⟨m, hm, hrest⟩ := hserves.atMost hinv h hn
          cases hm
          rw [served_some h, List.mem_cons, ih (hserves.keep hinv h) hrest,
            hserves.rest hinv h]
          constructor
          · intro hi
            cases hi with
            | inl hsame => exact hsame ▸ (hserves.best hinv h).1
            | inr hwaiting => exact hwaiting.1
          · intro hi
            by_cases hsame : i = turn.1
            · exact Or.inl hsame
            · exact Or.inr ⟨hi, hsame⟩

/-- Every waiting request is served once, the better ones first. -/
theorem served_spec [DecidableEq ι] (hserves : Serves inv waiting before serve)
    {n : ℕ} {s : σ} (hinv : inv s) (hn : AtMost waiting n s) :
    (served serve n s).Nodup ∧ (served serve n s).Pairwise (before s) := by
  induction n generalizing s with
  | zero => exact ⟨List.nodup_nil, List.Pairwise.nil⟩
  | succ n ih =>
      cases h : serve s with
      | none =>
          rw [served_none h]
          exact ⟨List.nodup_nil, List.Pairwise.nil⟩
      | some turn =>
          obtain ⟨m, hm, hrest⟩ := hserves.atMost hinv h hn
          cases hm
          have hkeep := hserves.keep hinv h
          obtain ⟨hnodup, hsorted⟩ := ih hkeep hrest
          have hmem := fun j hj => (hserves.rest hinv h j).1
            ((hserves.mem_served hkeep hrest j).1 hj)
          rw [hserves.same hinv h] at hsorted
          rw [served_some h, List.nodup_cons, List.pairwise_cons]
          refine ⟨⟨fun hi => (hmem _ hi).2 rfl, hnodup⟩, ?_, hsorted⟩
          intro j hj
          exact (hserves.best hinv h).2 j (hmem j hj).1 (hmem j hj).2

/-- Fewer turns serve the first of them, more turns serve no others. -/
theorem served_take [DecidableEq ι] (hserves : Serves inv waiting before serve)
    {n : ℕ} {s : σ} (hinv : inv s) (hn : AtMost waiting n s) (k : ℕ) :
    served serve k s = (served serve n s).take k := by
  induction k generalizing n s with
  | zero => exact List.take_zero.symm
  | succ k ih =>
      cases h : serve s with
      | none => rw [served_none h, served_none h, List.take_nil]
      | some turn =>
          obtain ⟨m, hm, hrest⟩ := hserves.atMost hinv h hn
          cases hm
          rw [served_some h, served_some h, List.take_succ_cons,
            ih (hserves.keep hinv h) hrest]

end Serves

end RedPlanet.Verified
