import RedPlanet.SpaceTime.Ownership
import RedPlanet.SpaceTime.Model

/-!
# Who holds the objects

The operations on a table of objects, by what they do to its holders: what was
held by others before goes on to be what it was.

These are the specifications of `SpaceTime.TableSpec` once more, with the
count of a slot as the number of its holders (`Counted`).  Adding an object
makes a holder, a clone makes another, and `pop_item` and `drop_table_ptr` take
one away; the object goes with the last of them.
-/

namespace RedPlanet.SpaceTime

open RedPlanet.Core RedPlanet.Verified Limited

variable {α : Type} {t : Table α} {R : TablePtr → ℕ} {ptr : TablePtr}

theorem holding_self (ptr : TablePtr) (R : TablePtr → ℕ) :
    holding [ptr] R ptr = R ptr + 1 := by
  simp [holding, Nat.add_comm]

theorem holding_ne {ptr q : TablePtr} (h : q ≠ ptr) (R : TablePtr → ℕ) :
    holding [ptr] R q = R q := by
  simp [holding, Ne.symm h]

namespace Table.Counted

theorem item_of_pos (h : t.Counted R) (hpos : 0 < R ptr) :
    ∃ x, t.item ptr = some x := by
  rw [← h.refs] at hpos
  obtain ⟨x, hx, _⟩ := h.wf.item_of_refs hpos
  exact ⟨x, hx⟩

theorem addItem_spec (h : t.Counted R) (x : α) :
    (t.addItem x).Ensures fun r =>
      R r.1 = 0 ∧ r.2.Counted (holding [r.1] R) ∧ r.2.item r.1 = some x ∧
        ∀ q, 0 < R q → r.2.item q = t.item q := by
  apply (Table.addItem_spec h.wf x).imp
  rintro ⟨ptr, t'⟩ ⟨hrefs, hbecomes⟩
  dsimp only at hrefs hbecomes ⊢
  rw [h.refs] at hrefs
  have hne : ∀ q, 0 < R q → q ≠ ptr := by
    intro q hq heq
    rw [heq] at hq
    omega
  refine ⟨hrefs, ?_, hbecomes.item_self, ?_⟩
  · apply h.becomes hbecomes
    · rw [holding_self, hrefs]
    · exact fun q hq => holding_ne hq R
  · exact fun q hq => hbecomes.item_ne (hne q hq)

variable [Build]

theorem cloneTablePtr_spec (h : t.Counted R) (hpos : 0 < R ptr) :
    (t.cloneTablePtr ptr).Ensures fun r =>
      r.1 = ptr ∧ r.2.Counted (holding [ptr] R) ∧
        ∀ q, r.2.item q = t.item q := by
  have hrefs : 0 < t.refs ptr := by
    rw [h.refs]
    exact hpos
  apply (Table.cloneTablePtr_spec h.wf hrefs).imp
  rintro ⟨ptr', t'⟩ ⟨hptr, hbecomes⟩
  refine ⟨hptr, ?_, hbecomes.item_eq⟩
  apply h.becomes hbecomes
  · rw [holding_self, h.refs]
  · exact fun q hq => holding_ne hq R

/-- The item is returned with the last pointer. -/
theorem popItem_spec (h : t.Counted (holding [ptr] R)) :
    (t.popItem ptr).Ensures fun r =>
      r.2.Counted R ∧ (∀ q, 0 < R q → r.2.item q = t.item q) ∧
        (R ptr = 0 ∧ r.1 = t.item ptr ∨ 0 < R ptr ∧ r.1 = none) := by
  have hrefs : t.refs ptr = R ptr + 1 := by
    rw [h.refs, holding_self]
  apply (Table.popItem_spec h.wf (by omega)).imp
  rintro ⟨item, t'⟩ hpop
  rcases hpop with ⟨hone, hitem, hbecomes⟩ | ⟨hmore, hnone, hbecomes⟩
  · have hzero : R ptr = 0 := by omega
    refine ⟨?_, ?_, Or.inl ⟨hzero, hitem⟩⟩
    · exact h.becomes hbecomes hzero fun q hq => (holding_ne hq R).symm
    · intro q hq
      apply hbecomes.item_ne
      intro heq
      rw [heq] at hq
      omega
  · refine ⟨?_, ?_, Or.inr ⟨by omega, hnone⟩⟩
    · apply h.becomes hbecomes
      · omega
      · exact fun q hq => (holding_ne hq R).symm
    · exact fun q _ => hbecomes.item_eq q

theorem dropTablePtr_spec (h : t.Counted (holding [ptr] R)) :
    (t.dropTablePtr ptr).Ensures fun t' =>
      t'.Counted R ∧ ∀ q, 0 < R q → t'.item q = t.item q := by
  unfold Table.dropTablePtr
  apply Ensures.bind (popItem_spec h)
  rintro ⟨_, t'⟩ ⟨hcounted, hkeep, _⟩
  exact Ensures.pure ⟨hcounted, hkeep⟩

theorem popOrGetItem_spec (h : t.Counted (holding [ptr] R)) {x : α}
    (hx : t.item ptr = some x) :
    (t.popOrGetItem ptr).Ensures fun r =>
      r.1 = x ∧ r.2.Counted R ∧ ∀ q, 0 < R q → r.2.item q = t.item q := by
  unfold Table.popOrGetItem
  apply Ensures.bind (popItem_spec h)
  rintro ⟨item, t'⟩ ⟨hcounted, hkeep, hitem⟩
  dsimp only at hcounted hkeep hitem
  rcases hitem with ⟨_, hitem⟩ | ⟨hpos, hitem⟩
  · rw [hitem, hx]
    exact Ensures.pure ⟨rfl, hcounted, hkeep⟩
  · rw [hitem]
    have hleft := hkeep ptr hpos
    rw [hx] at hleft
    apply Ensures.bind (Ensures.unwrap (refs_of_item hleft).2)
    intro y hy
    exact Ensures.pure ⟨hy, hcounted, hkeep⟩

/-- The object is cloned unless nobody else holds it. -/
theorem uniqueObject_spec (h : t.Counted (holding [ptr] R)) {x : α}
    (hx : t.item ptr = some x) :
    (SpaceTime.uniqueObject ptr t).Ensures fun r =>
      R r.1 = 0 ∧ r.2.Counted (holding [r.1] R) ∧ r.2.item r.1 = some x ∧
        ∀ q, 0 < R q → r.2.item q = t.item q := by
  have hrefs : t.refs ptr = R ptr + 1 := by
    rw [h.refs, holding_self]
  have hpos : 0 < t.refs ptr := by omega
  unfold SpaceTime.uniqueObject
  apply Ensures.bind (Table.isUniqueTablePtr_spec hpos)
  intro unique hunique
  by_cases hshared : R ptr = 0
  · have htrue : unique = true := by simp [hunique, hrefs, hshared]
    rw [if_pos htrue]
    exact Ensures.pure ⟨hshared, h, hx, fun _ _ => rfl⟩
  · have hfalse : ¬ unique = true := by simp [hunique, hrefs, hshared]
    rw [if_neg hfalse]
    unfold Table.cloneItem
    apply Ensures.bind (Table.getItem_spec h.wf hpos)
    intro y hy
    rw [hx] at hy
    cases hy
    apply Ensures.bind (addItem_spec h x)
    rintro ⟨clone, t'⟩ ⟨hfresh, hcounted, hclone, hkeep⟩
    dsimp only at hfresh hcounted hclone hkeep ⊢
    have hfresh' : R clone = 0 := by
      unfold holding at hfresh
      omega
    rw [holding_comm] at hcounted
    apply Ensures.bind (dropTablePtr_spec hcounted)
    rintro t'' ⟨hcounted', hkeep'⟩
    apply Ensures.pure
    refine ⟨hfresh', hcounted', ?_, ?_⟩
    · rw [hkeep' clone (holding_pos_of_mem List.mem_cons_self R), hclone]
    · intro q hq
      rw [hkeep' q (holding_pos hq _), hkeep q (holding_pos hq _)]

end Table.Counted

end RedPlanet.SpaceTime
