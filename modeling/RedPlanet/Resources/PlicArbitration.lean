import RedPlanet.Resources.PlicClaim
import RedPlanet.Verified.Service

/-!
# Arbitration

The source that the PLIC returns is the best of those that ask for an
interrupt: the lowest-numbered one of the highest priority.  Claims serve the
sources in that order.

`Best` is the specification of one claim, and `Claimed` its frame: the source
is no longer pending, and nothing else has changed.  `arbitration_exact` puts
them together, also for any number of claims without a raise in between: each
of the sources is served once, the better before the worse.
-/

namespace RedPlanet.Resources

open RedPlanet.Core RedPlanet.Verified

namespace Plic

/-! ## The best source -/

/-- One source goes before another: a higher priority, or a lower number. -/
def Before (plic : Plic) (index other : ℕ) : Prop :=
  plic.priority other < plic.priority index ∨
    plic.priority other = plic.priority index ∧ index < other

/-- The lowest-numbered source among the pending and enabled ones of maximal
priority. -/
structure Best (index : ℕ) (plic : Plic) : Prop where
  source : 1 ≤ index ∧ index ≤ 52
  asserts : Asserts index plic
  highest : ∀ other ≤ 52, plic.enabled.bit other = true →
    plic.pending.bit other = true → plic.priority other ≤ plic.priority index
  lowest : ∀ other ≤ 52, plic.enabled.bit other = true →
    plic.pending.bit other = true →
    plic.priority other = plic.priority index → index ≤ other

/-- The candidates come with the highest index first. -/
theorem sorted_candidates (plic : Plic) :
    plic.candidates.Pairwise fun x y => y.1 < x.1 := by
  unfold candidates
  rw [List.pairwise_reverse, List.pairwise_map]
  exact List.Pairwise.filter _ List.pairwise_lt_range

/-- Of equal elements the fold of `max_by` keeps the one that came last. -/
theorem foldl_max_le (rest : List (ℕ × BitVec 32)) (first : ℕ × BitVec 32)
    (h : (first :: rest).Pairwise fun x y => y.1 < x.1) :
    ∀ x ∈ first :: rest,
      x.2 = (rest.foldl (fun x y => if y.2 < x.2 then x else y) first).2 →
      (rest.foldl (fun x y => if y.2 < x.2 then x else y) first).1 ≤ x.1 := by
  induction rest generalizing first with
  | nil =>
      intro x hx _
      rw [List.mem_singleton.1 hx]
      exact Nat.le_refl _
  | cons head rest ih =>
      obtain ⟨hfirst, hrest⟩ := List.pairwise_cons.1 h
      intro x hx
      rw [List.foldl_cons]
      by_cases hlt : head.2 < first.2
      · rw [if_pos hlt]
        have hsub : (first :: rest).Pairwise fun x y => y.1 < x.1 :=
          List.pairwise_cons.2
            ⟨fun y hy => hfirst y (List.mem_cons_of_mem _ hy),
              (List.pairwise_cons.1 hrest).2⟩
        intro hsame
        rcases List.mem_cons.1 hx with rfl | hx
        · exact ih x hsub x List.mem_cons_self hsame
        · rcases List.mem_cons.1 hx with rfl | hx
          · -- the head loses against the first one
            have hle := le_foldl_max rest first first List.mem_cons_self
            rw [← hsame] at hle
            exact absurd hlt (Nat.not_lt_of_le hle)
          · exact ih first hsub x (List.mem_cons_of_mem _ hx) hsame
      · rw [if_neg hlt]
        intro hsame
        rcases List.mem_cons.1 hx with rfl | hx
        · -- the head is as high as the first one, and comes after it
          have hle := le_foldl_max rest head head List.mem_cons_self
          have hge := BitVec.le_of_eq hsame.symm
          have hbest := BitVec.le_antisymm hle
            (BitVec.le_trans hge (BitVec.not_lt.1 hlt))
          have hindex := ih head hrest head List.mem_cons_self hbest
          exact Nat.le_trans hindex
            (Nat.le_of_lt (hfirst head List.mem_cons_self))
        · exact ih head hrest x hx hsame

/-- The scan keeps the first of the greatest, which has the least number. -/
theorem maxByPriority_le {list : List (ℕ × BitVec 32)}
    {best : ℕ × BitVec 32} (hsorted : list.Pairwise fun x y => y.1 < x.1)
    (h : maxByPriority list = some best) :
    ∀ x ∈ list, x.2 = best.2 → best.1 ≤ x.1 := by
  cases list with
  | nil => exact nomatch h
  | cons first rest =>
      rw [← Option.some.inj h]
      exact foldl_max_le rest first hsorted

/-- What the scan finds is the best source. -/
theorem best_highestPriorityPending {plic : Plic}
    (h : plic.highestPriorityPending ≠ 0) :
    Best plic.highestPriorityPending plic := by
  obtain ⟨hlt, hasserts⟩ := asserts_highestPriorityPending h
  unfold highestPriorityPending at h hlt hasserts ⊢
  cases hbest : maxByPriority plic.candidates with
  | none =>
      rw [hbest] at h
      exact absurd rfl h
  | some best =>
      obtain ⟨index, p⟩ := best
      rw [hbest] at h hlt hasserts
      dsimp only at h hlt hasserts ⊢
      have habove : ¬ p ≤ plic.priorityThreshold := by
        intro hle
        rw [if_pos hle] at h
        exact h rfl
      rw [if_neg habove] at h hlt hasserts ⊢
      obtain ⟨_, _, _, hp⟩ := mem_candidates.1 (mem_of_maxByPriority hbest)
      refine ⟨⟨by omega, by omega⟩, hasserts, ?_, ?_⟩
      · intro other hother henabled hpending
        have hmem := mem_candidates.2
          ⟨Nat.lt_succ_of_le hother, henabled, hpending, rfl⟩
        rw [← hp]
        exact le_maxByPriority hbest _ hmem
      · intro other hother henabled hpending hsame
        have hmem := mem_candidates.2
          ⟨Nat.lt_succ_of_le hother, henabled, hpending, rfl⟩
        rw [← hp] at hsame
        exact maxByPriority_le plic.sorted_candidates hbest _ hmem hsame

/-- Zero means that no source asks for an interrupt. -/
theorem highestPriorityPending_eq_zero_iff {plic : Plic} (h : plic.Reserved) :
    plic.highestPriorityPending = 0 ↔
      ∀ index, 1 ≤ index → index ≤ 52 → ¬ Asserts index plic := by
  constructor
  · intro hzero index hpos hle hasserts
    exact highestPriorityPending_ne_zero h (by omega) hasserts hzero
  · intro hnone
    by_contra hne
    obtain ⟨hlt, hasserts⟩ := asserts_highestPriorityPending hne
    exact hnone _ (by omega) (by omega) hasserts

/-- The best source goes before every other that asks for an interrupt. -/
theorem Best.before {plic : Plic} {index other : ℕ} (h : Best index plic)
    (hother : other ≤ 52) (hasserts : Asserts other plic)
    (hne : other ≠ index) : plic.Before index other := by
  have hle := h.highest other hother hasserts.enabled hasserts.pending
  by_cases hsame : plic.priority other = plic.priority index
  · have hindex :=
      h.lowest other hother hasserts.enabled hasserts.pending hsame
    exact Or.inr ⟨hsame, by omega⟩
  · exact Or.inl (BitVec.lt_of_le_ne hle hsame)

/-! ## Claims in a row -/

/-- The sources that so many claims in a row return. -/
def claims : ℕ → Plic → Option (List ℕ)
  | 0, _ => some []
  | k + 1, plic => do
      let (index, plic) ← plic.claimHighestPriorityPending
      let rest ← plic.claims k
      return index :: rest

/-- A claim that returns a source. -/
def serve (plic : Plic) : Option (ℕ × Plic) :=
  if plic.highestPriorityPending = 0 then none
  else plic.claimHighestPriorityPending

/-- The source asks for an interrupt. -/
def Eligible (plic : Plic) (index : ℕ) : Prop :=
  1 ≤ index ∧ index ≤ 52 ∧ Asserts index plic

/-- Then a claim returns zero and changes nothing. -/
theorem claim_of_eq_zero {plic : Plic} (h : plic.highestPriorityPending = 0) :
    plic.claimHighestPriorityPending = some (0, plic) := by
  unfold claimHighestPriorityPending
  rw [h]
  rfl

/-- A claim returns the best source, which is no longer pending. -/
theorem claimed_claim (plic : Plic) :
    ∃ plic', plic.claimHighestPriorityPending =
        some (plic.highestPriorityPending, plic') ∧
      Claimed plic plic.highestPriorityPending plic' := by
  obtain ⟨⟨index, plic'⟩, hclaim⟩ :=
    Option.ne_none_iff_exists'.1 plic.claim_ne_none
  have hclaimed := claimed_of_claim hclaim
  have hbest := hclaimed.best
  subst hbest
  exact ⟨plic', hclaim, hclaimed⟩

/-- So does every one in a row of claims. -/
theorem claimed_of_serve {plic plic' : Plic} {index : ℕ}
    (h : plic.serve = some (index, plic')) :
    index = plic.highestPriorityPending ∧ index ≠ 0 ∧
      Claimed plic index plic' := by
  unfold serve at h
  split at h
  · exact nomatch h
  · rename_i hne
    have hclaimed := claimed_of_claim h
    exact ⟨hclaimed.best, hclaimed.best ▸ hne, hclaimed⟩

/-- A claim changes no priority. -/
theorem Claimed.priority {plic plic' : Plic} {index : ℕ}
    (h : Claimed plic index plic') (other : ℕ) :
    plic'.priority other = plic.priority other := by
  unfold Plic.priority
  rw [h.priorities]

/-- The other sources go on asking. -/
theorem Claimed.asserts_iff {plic plic' : Plic} {index : ℕ}
    (h : Claimed plic index plic') (hne : index ≠ 0) (other : ℕ) :
    Asserts other plic' ↔ Asserts other plic ∧ other ≠ index := by
  constructor
  · intro ⟨henabled, hpending, habove⟩
    rw [h.pending] at hpending
    by_cases hsame : other = index
    · rw [if_pos ⟨hsame, hne⟩] at hpending
      exact nomatch hpending
    · rw [if_neg fun hboth => hsame hboth.1] at hpending
      rw [h.threshold, h.priority] at habove
      exact ⟨⟨h.enabled ▸ henabled, hpending, habove⟩, hsame⟩
  · intro ⟨⟨henabled, hpending, habove⟩, hsame⟩
    refine ⟨h.enabled.symm ▸ henabled, ?_, ?_⟩
    · rw [h.pending, if_neg fun hboth => hsame hboth.1]
      exact hpending
    · rw [h.threshold, h.priority]
      exact habove

/-- A claim serves the best source. -/
theorem serves : Serves Reserved Eligible Before serve where
  idle := by
    intro plic hreserved hnone index ⟨hpos, hle, hasserts⟩
    unfold serve at hnone
    split at hnone
    · rename_i hzero
      exact (highestPriorityPending_eq_zero_iff hreserved).1 hzero index hpos
        hle hasserts
    · exact plic.claim_ne_none hnone
  best := by
    intro plic index plic' _ hserve
    obtain ⟨hindex, hne, _⟩ := claimed_of_serve hserve
    have hbest := best_highestPriorityPending (hindex ▸ hne)
    rw [← hindex] at hbest
    refine ⟨⟨hbest.source.1, hbest.source.2, hbest.asserts⟩, ?_⟩
    intro other ⟨_, hle, hasserts⟩ hother
    exact hbest.before hle hasserts hother
  rest := by
    intro plic index plic' _ hserve other
    obtain ⟨_, hne, hclaimed⟩ := claimed_of_serve hserve
    unfold Eligible
    rw [hclaimed.asserts_iff hne]
    tauto
  same := by
    intro plic index plic' _ hserve
    obtain ⟨_, _, hclaimed⟩ := claimed_of_serve hserve
    funext i j
    unfold Before
    rw [hclaimed.priority, hclaimed.priority]
  keep := by
    intro plic index plic' hreserved hserve
    obtain ⟨_, _, hclaimed⟩ := claimed_of_serve hserve
    exact (hclaimed.priority 0).trans hreserved

/-- There are 52 sources. -/
theorem atMost_eligible (plic : Plic) : AtMost Eligible 52 plic := by
  refine ⟨(List.range 52).map Nat.succ, by simp, ?_⟩
  intro index ⟨hpos, hle, _⟩
  exact List.mem_map.2
    ⟨index - 1, List.mem_range.2 (by omega), by omega⟩

/-- Claims return the sources that are served, and zeros from then on. -/
theorem claims_eq (k : ℕ) (plic : Plic) :
    plic.claims k = some (served serve k plic ++
      List.replicate (k - (served serve k plic).length) 0) := by
  induction k generalizing plic with
  | zero => rfl
  | succ k ih =>
      unfold claims
      by_cases hzero : plic.highestPriorityPending = 0
      · have hserve : plic.serve = none := if_pos hzero
        rw [claim_of_eq_zero hzero, served_none hserve]
        simp only [Option.bind_eq_bind, Option.bind_some, Option.pure_def]
        rw [ih plic, served_none hserve]
        rfl
      · obtain ⟨plic', hclaim, _⟩ := plic.claimed_claim
        have hserve : plic.serve =
            some (plic.highestPriorityPending, plic') :=
          (if_neg hzero).trans hclaim
        rw [hclaim, served_some hserve]
        simp only [Option.bind_eq_bind, Option.bind_some, Option.pure_def]
        rw [ih plic']
        simp

/-- The PLIC returns the best source, claims it alone, and claims in a row
return each source that asks for an interrupt once, the better ones first. -/
theorem arbitration_exact {plic : Plic} (h : plic.Reserved) :
    (plic.highestPriorityPending = 0 ↔
      ∀ index, 1 ≤ index → index ≤ 52 → ¬ Asserts index plic) ∧
    (plic.highestPriorityPending ≠ 0 →
      Best plic.highestPriorityPending plic) ∧
    (∃ plic', plic.claimHighestPriorityPending =
        some (plic.highestPriorityPending, plic') ∧
      Claimed plic plic.highestPriorityPending plic') ∧
    ∃ order : List ℕ, order.Nodup ∧
      (∀ index, index ∈ order ↔
        1 ≤ index ∧ index ≤ 52 ∧ Asserts index plic) ∧
      order.Pairwise plic.Before ∧
      ∀ k, plic.claims k =
        some (order.take k ++ List.replicate (k - order.length) 0) := by
  have hall := plic.atMost_eligible
  obtain ⟨hnodup, hsorted⟩ := serves.served_spec h hall
  refine ⟨highestPriorityPending_eq_zero_iff h, best_highestPriorityPending,
    plic.claimed_claim, served serve 52 plic, hnodup,
    serves.mem_served h hall, hsorted, ?_⟩
  intro k
  have hzeros : k - min k (served serve 52 plic).length =
      k - (served serve 52 plic).length := by omega
  rw [claims_eq, serves.served_take h hall k, List.length_take, hzeros]

/-- The sources 3 and 7 ask for an interrupt with the same priority. -/
def tied : Plic :=
  { new with
    priorities := Vector.ofFn fun index =>
      if index.val = 3 ∨ index.val = 7 then 5 else 0
    pending := { words := #v[0x11000000, 0] }
    enabled := { words := #v[0x11000000, 0] } }

/-- Of the two the one with the lower number is returned. -/
theorem arbitration_exact_tied :
    tied.Reserved ∧ tied.highestPriorityPending = 3 ∧ Best 3 tied := by
  have hreserved : tied.Reserved := rfl
  have hthree : tied.highestPriorityPending = 3 := by decide
  have hbest := (arbitration_exact hreserved).2.1 (by rw [hthree]; decide)
  rw [hthree] at hbest
  exact ⟨hreserved, hthree, hbest⟩

end Plic

end RedPlanet.Resources
