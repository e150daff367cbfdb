import RedPlanet.Resources.PlicClaim

/-!
# Runs of the PLIC

Devices raise sources and the guest reads and writes registers, in any order.
Completing a source clears its pending bit, so a raise that came in between
the claim and the complete is lost.

`pending_of_run` says exactly which raises survive: in a run that does not
take the source away, by a claim or by a write of the pending register
(`Undisturbed`), those with every complete followed by another raise
(`RaisedAgain`).  `reserved_run` is the invariant of all runs: source 0 keeps
the priority zero, so that it never asks for an interrupt.
-/

namespace RedPlanet.Resources

open RedPlanet.Core RedPlanet.Verified

namespace Plic

/-! ## Operations -/

/-- One call of the PLIC.  Aligned word accesses of the bus arrive here as
`readU32` and `writeU32`; the others do nothing. -/
inductive Operation where
  | raise (index : ℕ)
  | lower (index : ℕ)
  | readU32 (address : BitVec 32)
  | writeU32 (address value : BitVec 32)
  | reset
deriving DecidableEq, Repr

/-- What the operation does to the state, and the calls it causes. -/
def Operation.apply (plic : Plic) : Operation → Option (Plic × List Callback)
  | .raise index => plic.raise index
  | .lower index => plic.lower index
  | .readU32 address =>
      (plic.readU32 address).map fun (_, plic, calls) => (plic, calls)
  | .writeU32 address value => plic.writeU32 address value
  | .reset => plic.reset

/-- The operations one after the other; `none` is a panic. -/
def run : List Operation → Plic → Option Plic
  | [], plic => some plic
  | op :: ops, plic => (op.apply plic).bind fun (plic, _) => run ops plic

/-- The first operation and the rest. -/
theorem run_cons (op : Operation) (ops : List Operation) (plic : Plic) :
    run (op :: ops) plic
      = (op.apply plic).bind fun after => run ops after.1 := rfl

/-- The operation is a claim that returns the source. -/
def Operation.Claims (index : ℕ) (plic : Plic) : Operation → Prop
  | .readU32 address =>
      AddrAccessor.fromAddress address.toNat = some .claimComplete ∧
        plic.highestPriorityPending = index
  | _ => False

/-- The operation writes the source to the complete register. -/
def Operation.Completes (index : ℕ) : Operation → Prop
  | .writeU32 address value =>
      AddrAccessor.fromAddress address.toNat = some .claimComplete ∧
        value.toNat = index
  | _ => False

instance (index : ℕ) (op : Operation) : Decidable (op.Completes index) :=
  match op with
  | .writeU32 _ _ => inferInstanceAs (Decidable (_ ∧ _))
  | .raise _ | .lower _ | .readU32 _ | .reset =>
      inferInstanceAs (Decidable False)

@[simp] theorem Operation.completes_writeU32 {index : ℕ}
    {address value : BitVec 32} :
    (Operation.writeU32 address value).Completes index ↔
      AddrAccessor.fromAddress address.toNat = some .claimComplete ∧
        value.toNat = index := Iff.rfl

/-- The operation writes the pending register, or resets. -/
def Operation.Overwrites : Operation → Prop
  | .writeU32 address _ =>
      ∃ i, AddrAccessor.fromAddress address.toNat = some (.pending i)
  | .reset => True
  | _ => False

instance (index : ℕ) (plic : Plic) (op : Operation) :
    Decidable (op.Claims index plic) :=
  match op with
  | .readU32 _ => inferInstanceAs (Decidable (_ ∧ _))
  | .raise _ | .lower _ | .writeU32 _ _ | .reset =>
      inferInstanceAs (Decidable False)

instance (op : Operation) : Decidable op.Overwrites :=
  match op with
  | .writeU32 address _ =>
      match h : AddrAccessor.fromAddress address.toNat with
      | some (.pending i) => isTrue ⟨i, h⟩
      | some (.priorities _) | some (.enabled _) | some .threshold
      | some .claimComplete | none =>
          isFalse fun ⟨_, hi⟩ => nomatch h.symm.trans hi
  | .reset => isTrue trivial
  | .raise _ | .lower _ | .readU32 _ => isFalse id

/-- Nothing takes the source away: it is not claimed, and the pending register
is not written. -/
def Undisturbed (index : ℕ) : List Operation → Plic → Prop
  | [], _ => True
  | op :: ops, plic =>
      (¬ op.Claims index plic ∧ ¬ op.Overwrites) ∧
        ∀ after ∈ op.apply plic, Undisturbed index ops after.1

instance decidableUndisturbed (index : ℕ) :
    (ops : List Operation) → (plic : Plic) →
      Decidable (Undisturbed index ops plic)
  | [], _ => inferInstanceAs (Decidable True)
  | _ :: ops, _ =>
      have := decidableUndisturbed index ops
      inferInstanceAs (Decidable ((_ ∧ _) ∧ ∀ after ∈ _, _))

/-- Every complete of the source is followed by another raise of it. -/
def RaisedAgain (index : ℕ) : List Operation → Prop
  | [] => True
  | op :: ops =>
      (op.Completes index → Operation.raise index ∈ ops) ∧
        RaisedAgain index ops

@[simp] theorem raisedAgain_cons {index : ℕ} {op : Operation}
    {ops : List Operation} :
    RaisedAgain index (op :: ops) ↔
      (op.Completes index → Operation.raise index ∈ ops) ∧
        RaisedAgain index ops := Iff.rfl

instance decidableRaisedAgain (index : ℕ) :
    (ops : List Operation) → Decidable (RaisedAgain index ops)
  | [] => inferInstanceAs (Decidable True)
  | _ :: ops =>
      have := decidableRaisedAgain index ops
      inferInstanceAs (Decidable (_ ∧ _))

/-! ## One operation -/

/-- The operation that an update carries out. -/
theorem of_update {R : Type} {op : Plic → Option (R × Plic)}
    {plic plic' : Plic} {res : R} {calls : List Callback}
    (h : plic.update op = some (res, plic', calls)) :
    op plic = some (res, plic') := by
  unfold update at h
  dsimp only at h
  rw [Option.map_eq_some_iff] at h
  obtain ⟨⟨res', after⟩, hop, hresult⟩ := h
  cases hresult
  exact hop

/-- A raise sets the pending bit. -/
theorem raise_cases {index : ℕ} {plic plic' : Plic} {calls : List Callback}
    (h : plic.raise index = some (plic', calls)) :
    plic.setPending index = some plic' := by
  unfold raise at h
  rw [Option.map_eq_some_iff] at h
  obtain ⟨⟨_, after, calls'⟩, hupdate, hresult⟩ := h
  cases hresult
  have hop := of_update hupdate
  rw [Option.map_eq_some_iff] at hop
  obtain ⟨after', hset, hpair⟩ := hop
  cases hpair
  exact hset

/-- A reset makes a new PLIC. -/
theorem reset_cases {plic plic' : Plic} {calls : List Callback}
    (h : plic.reset = some (plic', calls)) : plic' = new := by
  unfold reset at h
  rw [Option.map_eq_some_iff] at h
  obtain ⟨⟨_, after, calls'⟩, hupdate, hresult⟩ := h
  cases hresult
  have hop := of_update hupdate
  cases hop
  rfl

/-- A read changes nothing, unless it is a claim. -/
theorem readU32_cases {address value : BitVec 32} {plic plic' : Plic}
    {calls : List Callback}
    (h : plic.readU32 address = some (value, plic', calls)) :
    (AddrAccessor.fromAddress address.toNat = some .claimComplete ∧
      Claimed plic plic.highestPriorityPending plic') ∨
    (AddrAccessor.fromAddress address.toNat ≠ some .claimComplete ∧
      plic' = plic ∧ calls = []) := by
  by_cases haddress :
      AddrAccessor.fromAddress address.toNat = some .claimComplete
  · obtain ⟨index, _, hclaimed⟩ := claimed_of_read haddress h
    refine Or.inl ⟨haddress, ?_⟩
    have hbest := hclaimed.best
    rw [← hbest]
    exact hclaimed
  · refine Or.inr ⟨haddress, ?_⟩
    unfold readU32 at h
    cases hacc : AddrAccessor.fromAddress address.toNat with
    | none =>
        simp only [hacc] at h
        cases h
        exact ⟨rfl, rfl⟩
    | some accessor =>
        simp only [hacc] at h
        cases accessor with
        | claimComplete => exact absurd hacc haddress
        | _ =>
            rw [Option.map_eq_some_iff] at h
            obtain ⟨_, _, hresult⟩ := h
            cases hresult
            exact ⟨rfl, rfl⟩

/-- A write goes to the register that its address selects, or nowhere. -/
theorem writeU32_cases {address value : BitVec 32} {plic plic' : Plic}
    {calls : List Callback}
    (h : plic.writeU32 address value = some (plic', calls)) :
    (AddrAccessor.fromAddress address.toNat = none ∧ plic' = plic ∧
      calls = []) ∨
    ∃ accessor, AddrAccessor.fromAddress address.toNat = some accessor ∧
      plic.poke accessor value = some plic' := by
  unfold writeU32 at h
  cases hacc : AddrAccessor.fromAddress address.toNat with
  | none =>
      simp only [hacc] at h
      cases h
      exact Or.inl ⟨rfl, rfl, rfl⟩
  | some accessor =>
      simp only [hacc] at h
      refine Or.inr ⟨accessor, rfl, ?_⟩
      rw [Option.map_eq_some_iff] at h
      obtain ⟨⟨_, after, calls'⟩, hupdate, hresult⟩ := h
      cases hresult
      have hop := of_update hupdate
      rw [Option.map_eq_some_iff] at hop
      obtain ⟨after', hpoke, hpair⟩ := hop
      cases hpair
      exact hpoke

/-- Only completing a source changes a pending bit, apart from a write of the
pending register itself. -/
theorem pending_poke {accessor : AddrAccessor} {value : BitVec 32}
    {plic plic' : Plic} (h : plic.poke accessor value = some plic')
    (hpending : ∀ i, accessor ≠ .pending i) {index : ℕ} (hpos : 1 ≤ index)
    (hle : index ≤ 52) :
    plic'.pending.bit index
      = if accessor = .claimComplete ∧ value.toNat = index then false
        else plic.pending.bit index := by
  cases accessor with
  | priorities i =>
      unfold poke setPriority at h
      dsimp only at h
      split at h
      · cases h
        rfl
      · exact nomatch h
  | pending i => exact absurd rfl (hpending i)
  | enabled i =>
      unfold poke at h
      dsimp only at h
      rw [Option.map_eq_some_iff] at h
      obtain ⟨_, _, hplic⟩ := h
      cases hplic
      rfl
  | threshold =>
      unfold poke setPriorityThreshold at h
      cases h
      rfl
  | claimComplete =>
      unfold poke at h
      dsimp only at h
      by_cases hvalue : value.toNat = index
      · rw [if_pos ⟨rfl, hvalue⟩]
        have hrange : 1 ≤ value ∧ value ≤ 52 := by
          constructor <;> rw [BitVec.le_def] <;> simp <;> omega
        rw [if_pos hrange] at h
        obtain ⟨_, _, _, hbits⟩ := pending_setComplete h
        rw [hbits, if_pos hvalue.symm]
      · rw [if_neg fun hboth => hvalue hboth.2]
        split at h
        · obtain ⟨_, _, _, hbits⟩ := pending_setComplete h
          rw [hbits, if_neg fun hi => hvalue hi.symm]
        · cases h
          rfl

/-- What one operation does to a pending bit that is neither claimed nor
overwritten. -/
theorem pending_apply {op : Operation} {plic plic' : Plic}
    {calls : List Callback} (h : op.apply plic = some (plic', calls))
    {index : ℕ} (hpos : 1 ≤ index) (hle : index ≤ 52)
    (hclaim : ¬ op.Claims index plic) (hoverwrite : ¬ op.Overwrites) :
    plic'.pending.bit index
      = if op = .raise index then true
        else if op.Completes index then false
        else plic.pending.bit index := by
  cases op with
  | raise i =>
      have hset := raise_cases h
      unfold setPending at hset
      rw [Option.map_eq_some_iff] at hset
      obtain ⟨after, hset, hplic⟩ := hset
      cases hplic
      rw [BitArr.bit_set hset]
      by_cases hi : index = i
      · rw [if_pos hi, hi, if_pos rfl]
      · have hne : Operation.raise i ≠ .raise index := by
          intro heq
          cases heq
          exact hi rfl
        rw [if_neg hi, if_neg hne, if_neg (by exact id)]
  | lower i =>
      cases h
      rw [if_neg (nofun), if_neg (by exact id)]
  | readU32 address =>
      rw [if_neg (nofun), if_neg (by exact id)]
      simp only [Operation.apply, Option.map_eq_some_iff] at h
      obtain ⟨⟨value, after, calls'⟩, hread, hresult⟩ := h
      cases hresult
      rcases readU32_cases hread with ⟨haddress, hclaimed⟩ | ⟨_, hsame, _⟩
      · rw [hclaimed.pending, if_neg]
        intro ⟨hbest, _⟩
        exact hclaim ⟨haddress, hbest.symm⟩
      · rw [hsame]
  | writeU32 address value =>
      rw [if_neg (nofun)]
      rcases writeU32_cases h with ⟨hnone, hsame, _⟩ | ⟨accessor, hacc, hpoke⟩
      · rw [hsame, if_neg]
        intro hcompletes
        rw [Operation.completes_writeU32, hnone] at hcompletes
        exact nomatch hcompletes.1
      · have hpending : ∀ i, accessor ≠ .pending i := by
          intro i hi
          exact hoverwrite ⟨i, hi ▸ hacc⟩
        rw [pending_poke hpoke hpending hpos hle]
        have hiff : accessor = .claimComplete ∧ value.toNat = index ↔
            (Operation.writeU32 address value).Completes index := by
          rw [Operation.completes_writeU32, hacc, Option.some.injEq]
        rw [if_congr hiff rfl rfl]
  | reset => exact absurd trivial hoverwrite

/-! ## Runs -/

/-- A source is pending after a run in which nothing took it away iff it was
pending or raised, and every complete of it was followed by a raise. -/
theorem pending_of_run {ops : List Operation} {plic final : Plic} {index : ℕ}
    (hpos : 1 ≤ index) (hle : index ≤ 52) (h : run ops plic = some final)
    (hundisturbed : Undisturbed index ops plic) :
    final.pending.bit index = true ↔
      RaisedAgain index ops ∧
        (plic.pending.bit index = true ∨ Operation.raise index ∈ ops) := by
  induction ops generalizing plic with
  | nil =>
      cases h
      simp [RaisedAgain]
  | cons op ops ih =>
      obtain ⟨⟨hclaim, hoverwrite⟩, hrest⟩ := hundisturbed
      rw [run_cons, Option.bind_eq_some_iff] at h
      obtain ⟨⟨plic', calls⟩, happly, hrun⟩ := h
      have hstep := pending_apply happly hpos hle hclaim hoverwrite
      rw [ih hrun (hrest (plic', calls) happly), hstep]
      by_cases hraise : op = .raise index
      · subst hraise
        simp [RaisedAgain, Operation.Completes]
      · rw [if_neg hraise]
        have hmem : Operation.raise index ∈ op :: ops ↔
            Operation.raise index ∈ ops := by
          rw [List.mem_cons]
          exact or_iff_right fun heq => hraise heq.symm
        rw [hmem, raisedAgain_cons]
        by_cases hcompletes : op.Completes index
        · rw [if_pos hcompletes]
          simp only [hcompletes, Bool.false_eq_true, false_or, forall_const]
          constructor
          · intro ⟨hagain, hin⟩
            exact ⟨⟨hin, hagain⟩, Or.inr hin⟩
          · intro ⟨⟨hin, hagain⟩, _⟩
            exact ⟨hagain, hin⟩
        · rw [if_neg hcompletes]
          simp only [hcompletes, false_implies, true_and]

/-! ## Source 0 -/

/-- No address selects the priority of source 0. -/
theorem fromAddress_priorities {address i : ℕ}
    (h : AddrAccessor.fromAddress address = some (.priorities i)) : 1 ≤ i := by
  unfold AddrAccessor.fromAddress at h
  split at h
  · cases h
    omega
  · exact absurd h (by split_ifs <;> nofun)

/-- So the priority of source 0 stays zero. -/
theorem reserved_setPriority {i : ℕ} {value : BitVec 32} {plic plic' : Plic}
    (hi : 1 ≤ i) (h : plic.setPriority i value = some plic')
    (hreserved : plic.Reserved) : plic'.Reserved := by
  unfold setPriority at h
  split at h
  · cases h
    unfold Reserved priority at hreserved ⊢
    dsimp only
    rw [Vector.getElem?_set_ne _ (by omega)]
    exact hreserved
  · exact nomatch h

/-- A write of any register keeps it zero. -/
theorem reserved_poke {address : BitVec 32} {accessor : AddrAccessor}
    {value : BitVec 32} {plic plic' : Plic}
    (hacc : AddrAccessor.fromAddress address.toNat = some accessor)
    (h : plic.poke accessor value = some plic')
    (hreserved : plic.Reserved) : plic'.Reserved := by
  cases accessor with
  | priorities i =>
      exact reserved_setPriority (fromAddress_priorities hacc) h hreserved
  | pending i =>
      unfold poke at h
      dsimp only at h
      rw [Option.map_eq_some_iff] at h
      obtain ⟨_, _, hplic⟩ := h
      cases hplic
      exact hreserved
  | enabled i =>
      unfold poke at h
      dsimp only at h
      rw [Option.map_eq_some_iff] at h
      obtain ⟨_, _, hplic⟩ := h
      cases hplic
      exact hreserved
  | threshold =>
      unfold poke setPriorityThreshold at h
      cases h
      exact hreserved
  | claimComplete =>
      unfold poke at h
      dsimp only at h
      split at h
      · obtain ⟨hpriorities, _⟩ := pending_setComplete h
        unfold Reserved priority at hreserved ⊢
        rw [hpriorities]
        exact hreserved
      · cases h
        exact hreserved

/-- No operation changes the priority of source 0. -/
theorem reserved_apply {op : Operation} {plic plic' : Plic}
    {calls : List Callback} (h : op.apply plic = some (plic', calls))
    (hreserved : plic.Reserved) : plic'.Reserved := by
  cases op with
  | raise i =>
      have hset := raise_cases h
      unfold setPending at hset
      rw [Option.map_eq_some_iff] at hset
      obtain ⟨_, _, hplic⟩ := hset
      cases hplic
      exact hreserved
  | lower i =>
      cases h
      exact hreserved
  | readU32 address =>
      simp only [Operation.apply, Option.map_eq_some_iff] at h
      obtain ⟨⟨value, after, calls'⟩, hread, hresult⟩ := h
      cases hresult
      rcases readU32_cases hread with ⟨_, hclaimed⟩ | ⟨_, hsame, _⟩
      · unfold Reserved priority at hreserved ⊢
        rw [hclaimed.priorities]
        exact hreserved
      · rw [hsame]
        exact hreserved
  | writeU32 address value =>
      rcases writeU32_cases h with ⟨_, hsame, _⟩ | ⟨accessor, hacc, hpoke⟩
      · rw [hsame]
        exact hreserved
      · exact reserved_poke hacc hpoke hreserved
  | reset =>
      rw [reset_cases h]
      rfl

theorem reserved_run {ops : List Operation} {plic final : Plic}
    (h : run ops plic = some final) (hreserved : plic.Reserved) :
    final.Reserved := by
  induction ops generalizing plic with
  | nil =>
      cases h
      exact hreserved
  | cons op ops ih =>
      rw [run_cons, Option.bind_eq_some_iff] at h
      obtain ⟨⟨plic', calls⟩, happly, hrun⟩ := h
      exact ih hrun (reserved_apply happly hreserved)

/-! ## Lost interrupts -/

/-- Only pending sources are claimed. -/
theorem pending_of_mem_drain {k : ℕ} {plic : Plic} {values : List (BitVec 32)}
    (h : plic.drain k = some values) {index : ℕ} (hpos : 1 ≤ index)
    (hle : index ≤ 52) (hmem : BitVec.ofNat 32 index ∈ values) :
    plic.pending.bit index = true := by
  induction k generalizing plic values with
  | zero =>
      cases h
      exact absurd hmem List.not_mem_nil
  | succ k ih =>
      obtain ⟨claimed, plic', calls, hclaim, hclaimed⟩ := plic.claimed_readClaim
      unfold drain at h
      simp only [hclaim, Option.bind_eq_bind, Option.bind_some,
        Option.pure_def, Option.bind_eq_some_iff, Option.some.injEq] at h
      obtain ⟨rest, hrest, hvalues⟩ := h
      rw [← hvalues] at hmem
      rcases List.mem_cons.1 hmem with hhead | htail
      · have hlt : claimed < 53 := by
          rw [hclaimed.best]
          exact plic.highestPriorityPending_lt
        have hsame : index = claimed := by
          have hnat := congrArg BitVec.toNat hhead
          simp only [BitVec.toNat_ofNat] at hnat
          omega
        have hne : plic.highestPriorityPending ≠ 0 := by
          rw [← hclaimed.best]
          omega
        have hasserts := asserts_highestPriorityPending hne
        rw [hsame, hclaimed.best]
        exact hasserts.2.pending
      · have hafter := ih hrest htail
        rw [hclaimed.pending] at hafter
        by_cases hsame : index = claimed ∧ claimed ≠ 0
        · rw [if_pos hsame] at hafter
          exact absurd hafter Bool.false_ne_true
        · rw [if_neg hsame] at hafter
          exact hafter

/-- A raise survives iff every later complete of the source is followed by
another raise; it then is claimed as soon as it asks for an interrupt. -/
theorem pending_iff_raisedAgain {index : ℕ} {ops : List Operation}
    {plic final : Plic} (hpos : 1 ≤ index) (hle : index ≤ 52)
    (h : run (.raise index :: ops) plic = some final)
    (hundisturbed : Undisturbed index (.raise index :: ops) plic) :
    (final.pending.bit index = true ↔ RaisedAgain index ops) ∧
      ∀ before, run before new = some plic →
        final.enabled.bit index = true →
        final.priorityThreshold < final.priority index →
        ((∃ values, final.drain 53 = some values ∧
            BitVec.ofNat 32 index ∈ values) ↔ RaisedAgain index ops) := by
  have hpending : final.pending.bit index = true ↔ RaisedAgain index ops := by
    rw [pending_of_run hpos hle h hundisturbed, raisedAgain_cons]
    simp [Operation.Completes]
  refine ⟨hpending, ?_⟩
  intro before hbefore henabled habove
  have hreserved : final.Reserved :=
    reserved_run h (reserved_run hbefore rfl)
  rw [← hpending]
  constructor
  · intro ⟨values, hdrain, hmem⟩
    exact pending_of_mem_drain hdrain hpos hle hmem
  · intro hset
    exact mem_drain hreserved (by omega) ⟨henabled, hset, habove⟩

/-- Source 40 is enabled, with priority 1. -/
def arm40 : List Operation := [.writeU32 0x2B 1, .writeU32 0x2001 0xFFFFFFFF]

/-- Raised, completed and raised again, the source is claimed. -/
theorem pending_iff_raisedAgain_arm40 :
    ∃ plic final values, run arm40 new = some plic ∧
      run [.raise 40, .writeU32 0x200004 40, .raise 40] plic = some final ∧
      final.drain 53 = some values ∧ 40 ∈ values := by
  obtain ⟨plic, hplic⟩ := Option.ne_none_iff_exists'.1
    (show run arm40 new ≠ none by decide +kernel)
  have hops : (run arm40 new).all fun plic =>
      Undisturbed 40 [.raise 40, .writeU32 0x200004 40, .raise 40] plic ∧
      (run [.raise 40, .writeU32 0x200004 40, .raise 40] plic).any fun final =>
        final.enabled.bit 40 = true ∧
          final.priorityThreshold < final.priority 40 := by
    decide +kernel
  rw [hplic, Option.all_some, decide_eq_true_iff, Option.any_eq_true] at hops
  obtain ⟨hundisturbed, final, hrun, hfinal⟩ := hops
  rw [decide_eq_true_iff] at hfinal
  obtain ⟨values, hdrain, hmem⟩ :=
    ((pending_iff_raisedAgain (by decide) (by decide) hrun hundisturbed).2
      arm40 hplic hfinal.1 hfinal.2).2 (by decide)
  exact ⟨plic, final, values, hplic, hrun, hdrain, hmem⟩

/-- A raise between a claim of the source and the complete of it is lost, and
so is one that the guest completes without a claim. -/
theorem complete_discards_raise :
    (run (arm40 ++ [.raise 40]) new).any (fun plic =>
      Operation.Claims 40 plic (.readU32 0x200004) ∧
        (run [.readU32 0x200004] plic).any fun served =>
          Undisturbed 40 [.raise 40, .writeU32 0x200004 40] served ∧
            (run [.raise 40, .writeU32 0x200004 40] served).any
              fun final => final.pending.bit 40 = false) ∧
    Undisturbed 3 [.raise 3, .writeU32 0x200004 3] new ∧
      (run [.raise 3, .writeU32 0x200004 3] new).any
        fun final => final.pending.bit 3 = false := by
  decide +kernel

end Plic

end RedPlanet.Resources
