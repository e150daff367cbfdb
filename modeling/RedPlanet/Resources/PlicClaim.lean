import Mathlib.Data.List.Basic
import RedPlanet.Resources.Plic

/-!
# Raising, claiming and completing

A source asserts its interrupt when it is pending, enabled and above the
threshold.  `needsInterrupt_iff` says that the PLIC looks for such a source,
and `mem_drain` that claiming again and again returns each of them.

Completing a source clears its pending bit, so a raise that came after the
claim is lost.  `pending_setComplete` is this as a fact about one operation;
which raises survive a whole run is in `Resources.PlicRun`.
-/

namespace RedPlanet.Resources

open RedPlanet.Core RedPlanet.Verified

/-! ## Bit arrays -/

namespace BitArr

/-- Setting a bit leaves the others alone. -/
theorem bit_set {index : ℕ} {value : Bool} {array array' : BitArr}
    (h : array.set index value = some array') (i : ℕ) :
    array'.bit i = if i = index then value else array.bit i := by
  unfold set at h
  split at h
  · rename_i hindex
    cases h
    unfold bit
    by_cases hword : i / 32 = index / 32
    · have hget : (array.words.set (index / 32)
          (setBit (array.words.get ⟨index / 32, hindex⟩) (31 - index % 32)
            value))[i / 32]?
          = some (setBit (array.words.get ⟨index / 32, hindex⟩)
              (31 - index % 32) value) := by
        rw [hword]
        simp [hindex]
      have hold : array.words[i / 32]?
          = some (array.words.get ⟨index / 32, hindex⟩) := by
        rw [hword, Vector.getElem?_eq_getElem hindex]
        rfl
      rw [hget, hold, Option.getD_some, Option.getD_some]
      by_cases hi : i = index
      · rw [if_pos hi, hi]
        exact getLsbD_setBit_self _ value (by omega)
      · rw [if_neg hi]
        exact getLsbD_setBit_ne _ value (by omega)
    · have hne : i ≠ index := fun hi => hword (by rw [hi])
      rw [if_neg hne]
      simp [Ne.symm hword]
  · exact nomatch h

end BitArr

namespace Plic

/-! ## The best candidate -/

/-- The priority of a source. -/
def priority (index : ℕ) (plic : Plic) : BitVec 32 :=
  (plic.priorities[index]?).getD 0

/-- The source asks for an interrupt. -/
structure Asserts (index : ℕ) (plic : Plic) : Prop where
  enabled : plic.enabled.bit index = true
  pending : plic.pending.bit index = true
  above : plic.priorityThreshold < plic.priority index

/-- The candidates are the sources that are enabled and pending, with their
priorities. -/
theorem mem_candidates {plic : Plic} {index : ℕ} {p : BitVec 32} :
    (index, p) ∈ plic.candidates ↔
      index < 53 ∧ plic.enabled.bit index = true ∧
        plic.pending.bit index = true ∧ p = plic.priority index := by
  unfold candidates
  rw [List.mem_reverse, List.mem_map]
  constructor
  · intro ⟨i, hi, hpair⟩
    obtain ⟨hrange, hbits⟩ := List.mem_filter.1 hi
    rw [Bool.and_eq_true] at hbits
    cases hpair
    exact ⟨List.mem_range.1 hrange, hbits.1, hbits.2, rfl⟩
  · intro ⟨hlt, henabled, hpending, hp⟩
    refine ⟨index, List.mem_filter.2 ⟨List.mem_range.2 hlt, ?_⟩, ?_⟩
    · rw [henabled, hpending]
      rfl
    · rw [hp]
      rfl

/-- The fold of `max_by` stays at least as high as everything it saw. -/
theorem le_foldl_max (rest : List (ℕ × BitVec 32)) (first : ℕ × BitVec 32) :
    ∀ x ∈ first :: rest,
      x.2 ≤ (rest.foldl (fun x y => if y.2 < x.2 then x else y) first).2 := by
  induction rest generalizing first with
  | nil =>
      intro x hx
      rw [List.mem_singleton.1 hx]
      exact Nat.le_refl _
  | cons head rest ih =>
      intro x hx
      rw [List.foldl_cons]
      have hbest := ih (if head.2 < first.2 then first else head) _
        List.mem_cons_self
      have hfirst : first.2 ≤ (if head.2 < first.2 then first else head).2 := by
        by_cases hlt : head.2 < first.2
        · rw [if_pos hlt]
          exact Nat.le_refl _
        · rw [if_neg hlt]
          exact Nat.le_of_not_lt hlt
      have hhead : head.2 ≤ (if head.2 < first.2 then first else head).2 := by
        by_cases hlt : head.2 < first.2
        · rw [if_pos hlt]
          exact Nat.le_of_lt hlt
        · rw [if_neg hlt]
          exact Nat.le_refl _
      rcases List.mem_cons.1 hx with rfl | hx
      · exact Nat.le_trans hfirst hbest
      · rcases List.mem_cons.1 hx with rfl | hx
        · exact Nat.le_trans hhead hbest
        · exact ih _ x (List.mem_cons_of_mem _ hx)

/-- No candidate is above the best one. -/
theorem le_maxByPriority {list : List (ℕ × BitVec 32)}
    {best : ℕ × BitVec 32} (h : maxByPriority list = some best) :
    ∀ x ∈ list, x.2 ≤ best.2 := by
  cases list with
  | nil => exact nomatch h
  | cons first rest =>
      rw [← Option.some.inj h]
      exact le_foldl_max rest first

/-- What is returned asks for an interrupt. -/
theorem asserts_highestPriorityPending {plic : Plic}
    (h : plic.highestPriorityPending ≠ 0) :
    plic.highestPriorityPending < 53 ∧
      Asserts plic.highestPriorityPending plic := by
  unfold highestPriorityPending at h ⊢
  cases hbest : maxByPriority plic.candidates with
  | none =>
      rw [hbest] at h
      exact absurd rfl h
  | some best =>
      obtain ⟨index, p⟩ := best
      rw [hbest] at h
      dsimp only at h ⊢
      have habove : ¬ p ≤ plic.priorityThreshold := by
        intro hle
        rw [if_pos hle] at h
        exact h rfl
      rw [if_neg habove]
      obtain ⟨hlt, henabled, hpending, hp⟩ :=
        mem_candidates.1 (mem_of_maxByPriority hbest)
      refine ⟨hlt, henabled, hpending, ?_⟩
      rw [← hp]
      exact Nat.lt_of_not_le habove

/-- Source 0 means "no interrupt": its priority is never above a threshold. -/
def Reserved (plic : Plic) : Prop := plic.priority 0 = 0

/-- Source 0 does not exist. -/
theorem not_asserts_zero {plic : Plic} (h : plic.Reserved) :
    ¬ Asserts 0 plic := by
  intro hzero
  have habove := hzero.above
  rw [h] at habove
  exact Nat.not_lt_zero _ habove

/-- While a source asks for an interrupt, one is returned. -/
theorem highestPriorityPending_ne_zero {plic : Plic} (h : plic.Reserved)
    {index : ℕ} (hlt : index < 53) (hindex : Asserts index plic) :
    plic.highestPriorityPending ≠ 0 := by
  have hmem := mem_candidates.2
    ⟨hlt, hindex.enabled, hindex.pending, rfl⟩
  unfold highestPriorityPending
  cases hbest : maxByPriority plic.candidates with
  | none =>
      cases hlist : plic.candidates with
      | nil =>
          rw [hlist] at hmem
          exact nomatch hmem
      | cons first rest =>
          rw [hlist] at hbest
          exact nomatch hbest
  | some best =>
      obtain ⟨i, p⟩ := best
      have hle : plic.priority index ≤ p := le_maxByPriority hbest _ hmem
      have habove : plic.priorityThreshold < p :=
        Nat.lt_of_lt_of_le hindex.above hle
      obtain ⟨_, henabled, hpending, hp⟩ :=
        mem_candidates.1 (mem_of_maxByPriority hbest)
      have hnot : ¬ p ≤ plic.priorityThreshold := Nat.not_le_of_lt habove
      dsimp only
      rw [if_neg hnot]
      intro hi
      rw [hi] at henabled hpending hp
      exact not_asserts_zero h ⟨henabled, hpending, hp ▸ habove⟩

/-- The PLIC wants an interrupt iff some source asks for one. -/
theorem needsInterrupt_iff {plic : Plic} (h : plic.Reserved) :
    plic.needsInterrupt = true ↔
      ∃ index, 1 ≤ index ∧ index ≤ 52 ∧ Asserts index plic := by
  unfold needsInterrupt
  rw [decide_eq_true_iff]
  constructor
  · intro hne
    obtain ⟨hlt, hasserts⟩ := asserts_highestPriorityPending hne
    exact ⟨_, by omega, by omega, hasserts⟩
  · intro ⟨index, _, hle, hasserts⟩
    exact highestPriorityPending_ne_zero h (by omega) hasserts

/-! ## Claims -/

/-- A claim returns the best source and clears its pending bit. -/
structure Claimed (plic : Plic) (index : ℕ) (plic' : Plic) : Prop where
  best : index = plic.highestPriorityPending
  priorities : plic'.priorities = plic.priorities
  enabled : plic'.enabled = plic.enabled
  threshold : plic'.priorityThreshold = plic.priorityThreshold
  pending : ∀ i, plic'.pending.bit i
    = if i = index ∧ index ≠ 0 then false else plic.pending.bit i

/-- Completing a source clears its pending bit and changes nothing else. -/
theorem pending_setComplete {index : ℕ} {plic plic' : Plic}
    (h : plic.setComplete index = some plic') :
    plic'.priorities = plic.priorities ∧ plic'.enabled = plic.enabled ∧
      plic'.priorityThreshold = plic.priorityThreshold ∧
      ∀ i, plic'.pending.bit i
        = if i = index then false else plic.pending.bit i := by
  unfold setComplete at h
  rw [Option.map_eq_some_iff] at h
  obtain ⟨pending, hset, hplic⟩ := h
  rw [← hplic]
  exact ⟨rfl, rfl, rfl, BitArr.bit_set hset⟩

/-- A claim that succeeds. -/
theorem claimed_of_claim {plic plic' : Plic} {index : ℕ}
    (h : plic.claimHighestPriorityPending = some (index, plic')) :
    Claimed plic index plic' := by
  unfold claimHighestPriorityPending at h
  dsimp only at h
  by_cases hzero : plic.highestPriorityPending ≠ 0
  · rw [if_pos hzero, Option.map_eq_some_iff] at h
    obtain ⟨after, hset, hpair⟩ := h
    obtain ⟨hindex, hplic⟩ := Prod.mk.inj hpair
    obtain ⟨hpriorities, henabled, hthreshold, hpending⟩ :=
      pending_setComplete hset
    rw [← hindex, ← hplic]
    refine ⟨rfl, hpriorities, henabled, hthreshold, ?_⟩
    intro i
    rw [hpending i, if_congr (and_iff_left hzero) rfl rfl]
  · rw [if_neg hzero] at h
    obtain ⟨hindex, hplic⟩ := Prod.mk.inj (Option.some.inj h)
    rw [← hindex, ← hplic]
    refine ⟨(not_not.1 hzero).symm, rfl, rfl, rfl, ?_⟩
    intro i
    rw [if_neg fun hi => hi.2 rfl]

/-- Reading the claim register claims. -/
theorem claimed_of_read {address : BitVec 32} {plic plic' : Plic}
    {value : BitVec 32} {calls : List Callback}
    (haddress : AddrAccessor.fromAddress address.toNat = some .claimComplete)
    (h : plic.readU32 address = some (value, plic', calls)) :
    ∃ index, value = BitVec.ofNat 32 index ∧ Claimed plic index plic' := by
  unfold readU32 at h
  simp only [haddress] at h
  unfold update at h
  dsimp only at h
  simp only [Option.map_eq_some_iff] at h
  obtain ⟨⟨_, _⟩, ⟨⟨index, after⟩, hclaim, hinner⟩, hresult⟩ := h
  cases hinner
  simp only [Prod.mk.injEq] at hresult
  obtain ⟨hvalue, hplic, _⟩ := hresult
  rw [← hvalue, ← hplic]
  exact ⟨index, rfl, claimed_of_claim hclaim⟩

/-! ## Claiming again and again -/

/-- One read of the claim register. -/
def readClaim (plic : Plic) : Option (BitVec 32 × Plic × List Callback) :=
  plic.readU32 (BitVec.ofNat 32 CLAIMCOMPLETE_ADDR)

/-- The values of so many claims in a row. -/
def drain : ℕ → Plic → Option (List (BitVec 32))
  | 0, _ => some []
  | k + 1, plic => do
      let (value, plic, _) ← plic.readClaim
      let rest ← plic.drain k
      return value :: rest

/-- Reading the claim register does not panic. -/
theorem readClaim_ne_none (plic : Plic) : plic.readClaim ≠ none := by
  unfold readClaim
  have haddress : AddrAccessor.fromAddress
      (BitVec.ofNat 32 CLAIMCOMPLETE_ADDR).toNat = some .claimComplete := by
    decide
  rw [ne_eq, readU32_eq_none_iff, haddress]
  simp [AddrAccessor.OutOfRange]

/-- It claims, and returns the number of the source. -/
theorem claimed_readClaim (plic : Plic) :
    ∃ index plic' calls,
      plic.readClaim = some (BitVec.ofNat 32 index, plic', calls) ∧
        Claimed plic index plic' := by
  obtain ⟨⟨value, plic', calls⟩, hread⟩ :=
    Option.ne_none_iff_exists'.1 plic.readClaim_ne_none
  have haddress : AddrAccessor.fromAddress
      (BitVec.ofNat 32 CLAIMCOMPLETE_ADDR).toNat = some .claimComplete := by
    decide
  obtain ⟨index, rfl, hclaimed⟩ := claimed_of_read haddress hread
  exact ⟨index, plic', calls, hread, hclaimed⟩

/-- Nor does reading it again and again. -/
theorem drain_ne_none (k : ℕ) (plic : Plic) : plic.drain k ≠ none := by
  induction k generalizing plic with
  | zero => exact Option.some_ne_none _
  | succ k ih =>
      obtain ⟨index, plic', calls, hclaim, _⟩ := plic.claimed_readClaim
      obtain ⟨rest, hrest⟩ := Option.ne_none_iff_exists'.1 (ih plic')
      unfold drain
      simp [hclaim, hrest]

/-- Every claim leaves fewer candidates, so that claiming comes to an end. -/
theorem length_candidates_lt {plic plic' : Plic} {index : ℕ}
    (h : Claimed plic index plic') (hne : index ≠ 0) :
    plic'.candidates.length < plic.candidates.length := by
  have hbest := h.best
  have hpending : plic.highestPriorityPending ≠ 0 := hbest ▸ hne
  have hasserts := asserts_highestPriorityPending hpending
  rw [← hbest] at hasserts
  unfold candidates
  simp only [List.length_reverse, List.length_map]
  have hsub : List.Sublist
      ((List.range 53).filter fun i =>
        plic'.enabled.bit i && plic'.pending.bit i)
      ((List.range 53).filter fun i =>
        plic.enabled.bit i && plic.pending.bit i) := by
    apply List.monotone_filter_right
    intro i hi
    rw [Bool.and_eq_true, h.enabled, h.pending] at hi
    by_cases hclaimed : i = index ∧ index ≠ 0
    · rw [if_pos hclaimed] at hi
      exact nomatch hi.2
    · rw [if_neg hclaimed] at hi
      rw [hi.1, hi.2]
      rfl
  apply Nat.lt_of_le_of_ne hsub.length_le
  intro hlength
  have heq := hsub.eq_of_length hlength
  have hmem : index ∈ (List.range 53).filter fun i =>
      plic.enabled.bit i && plic.pending.bit i := by
    apply List.mem_filter.2
    refine ⟨List.mem_range.2 hasserts.1, ?_⟩
    rw [hasserts.2.enabled, hasserts.2.pending]
    rfl
  rw [← heq] at hmem
  have hbits := (List.mem_filter.1 hmem).2
  rw [h.pending, if_pos ⟨rfl, hne⟩, Bool.and_false] at hbits
  exact nomatch hbits

/-- A source that asks for an interrupt is returned by one of the next
claims, at the latest when all other candidates have been claimed. -/
theorem mem_drain_of_length {k : ℕ} {plic : Plic} {index : ℕ}
    (hreserved : plic.Reserved) (hlt : index < 53) (h : Asserts index plic)
    (hk : plic.candidates.length ≤ k) :
    ∃ values, plic.drain k = some values ∧ BitVec.ofNat 32 index ∈ values := by
  induction k generalizing plic with
  | zero =>
      have hmem := mem_candidates.2 ⟨hlt, h.enabled, h.pending, rfl⟩
      rw [List.length_eq_zero_iff.1 (Nat.le_zero.1 hk)] at hmem
      exact nomatch hmem
  | succ k ih =>
      obtain ⟨claimed, plic', calls, hvalue, hclaimed⟩ := plic.claimed_readClaim
      have hne : claimed ≠ 0 := by
        rw [hclaimed.best]
        exact highestPriorityPending_ne_zero hreserved hlt h
      have hreserved' : plic'.Reserved := by
        unfold Reserved priority
        rw [hclaimed.priorities]
        exact hreserved
      have hshorter := length_candidates_lt hclaimed hne
      unfold drain
      simp only [hvalue, Option.bind_eq_bind, Option.bind_some,
        Option.pure_def]
      by_cases hsame : index = claimed
      · obtain ⟨rest, hrest⟩ := Option.ne_none_iff_exists'.1 (plic'.drain_ne_none k)
        refine ⟨BitVec.ofNat 32 claimed :: rest, ?_, ?_⟩
        · rw [hrest]
          rfl
        · rw [hsame]
          exact List.mem_cons_self
      · have hkeep : Asserts index plic' := by
          refine ⟨hclaimed.enabled ▸ h.enabled, ?_, ?_⟩
          · rw [hclaimed.pending, if_neg fun hi => hsame hi.1]
            exact h.pending
          · unfold priority
            rw [hclaimed.threshold, hclaimed.priorities]
            exact h.above
        obtain ⟨rest, hrest, hmem⟩ := ih hreserved' hkeep (by omega)
        refine ⟨BitVec.ofNat 32 claimed :: rest, ?_, List.mem_cons_of_mem _ hmem⟩
        rw [hrest]
        rfl

/-- Every source that asks for an interrupt is returned by one of 53 claims.
-/
theorem mem_drain {plic : Plic} {index : ℕ} (hreserved : plic.Reserved)
    (hlt : index < 53) (h : Asserts index plic) :
    ∃ values, plic.drain 53 = some values ∧
      BitVec.ofNat 32 index ∈ values := by
  apply mem_drain_of_length hreserved hlt h
  unfold candidates
  rw [List.length_reverse, List.length_map]
  have hle := List.length_filter_le
    (fun i => plic.enabled.bit i && plic.pending.bit i) (List.range 53)
  rw [List.length_range] at hle
  exact hle

end Plic

end RedPlanet.Resources
