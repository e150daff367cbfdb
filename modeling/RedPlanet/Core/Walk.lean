import RedPlanet.Core.Rules

/-!
# The page table walk, turn by turn

What one turn of the loop in `translate_address_common` does with the entry
it reads, and which tables a walk reaches.  Addresses are natural numbers
here: `entryAt` and `physicalAt` are the exact values, and the code computes
them modulo `2 ^ 32`.

`walk_succ` is one turn of the walk: read the entry, then `turn`.  A turn does
one of three things, each with a lemma: it goes on with the table that the
entry points to (`turn_pointer`), faults (`turn_of_faults`), or ends at a leaf
(`turn_of_permits`).  `Reaches` is the relation of the tables that a walk gets
to, for the inductions on it.
-/

namespace RedPlanet.Core

open RedPlanet.Verified Discipline

/-! ## Exact addresses -/

namespace Sv32

/-- The virtual page number that indexes the tables of a level. -/
def vpn (address : BitVec 32) (level : Nat) : Nat :=
  address.toNat / 2 ^ (PAGE_SIZE_SHF + level * PTE_COUNT_SHF) % 1024

/-- The place of an address in its page. -/
def pageOffset (address : BitVec 32) : Nat := address.toNat % 4096

/-- A table has 1024 entries. -/
theorem vpn_lt (address : BitVec 32) (level : Nat) : vpn address level < 1024 :=
  Nat.mod_lt _ (by decide)

/-- A page has 4096 bytes. -/
theorem pageOffset_lt (address : BitVec 32) : pageOffset address < 4096 :=
  Nat.mod_lt _ (by decide)

/-- Where the entry for `address` lies in the table with page number
`ppn`. -/
def entryAt (ppn : BitVec 32) (address : BitVec 32) (level : Nat) : Nat :=
  ppn.toNat * 4096 + vpn address level * 4

/-- The same as the code has it. -/
def entryAddress (ppn : BitVec 32) (address : BitVec 32) (level : Nat) :
    BitVec 32 := BitVec.ofNat 32 (entryAt ppn address level)

/-- The index that the code computes, as a number. -/
theorem toNat_vpn (address : BitVec 32) (level : Nat) :
    (address >>> (PAGE_SIZE_SHF + level * PTE_COUNT_SHF)
      &&& PTE_COUNT_MSK).toNat = vpn address level := by
  rw [BitVec.toNat_and, BitVec.toNat_ushiftRight, Nat.shiftRight_eq_div_pow]
  exact Nat.and_two_pow_sub_one_eq_mod _ 10

/-- The offset that the code computes, as a number. -/
theorem toNat_pageOffset (address : BitVec 32) :
    (address &&& PAGE_SIZE_MSK).toNat = pageOffset address := by
  rw [BitVec.toNat_and]
  exact Nat.and_two_pow_sub_one_eq_mod _ 12

/-- An addition that does not overflow is the same in every build. -/
theorem addChecked_of_lt {ε σ : Type} [Build] {a b : BitVec 32}
    (h : a.toNat + b.toNat < 2 ^ 32) :
    (addChecked a b : Exec ε σ _) = pure (a + b) := by
  unfold addChecked addU32
  rw [if_neg fun hc => by omega]
  rfl

/-- A page and an offset into it make the exact address, modulo `2 ^ 32`. -/
theorem page_add {page offset : BitVec 32} {p o : Nat} (hp : page.toNat = p)
    (ho : offset.toNat = o) :
    page <<< PAGE_SIZE_SHF + offset = BitVec.ofNat 32 (p * 4096 + o) := by
  apply BitVec.eq_of_toNat_eq
  rw [BitVec.toNat_add, BitVec.toNat_shiftLeft, Nat.shiftLeft_eq, hp, ho,
    BitVec.toNat_ofNat]
  show (p * 4096 % 4294967296 + o) % 4294967296 = (p * 4096 + o) % 4294967296
  omega

/-- The address of an entry as the code computes it. -/
theorem entryAddress_eq (ppn address : BitVec 32) (level : Nat) :
    ppn <<< PAGE_SIZE_SHF
        + (address >>> (PAGE_SIZE_SHF + level * PTE_COUNT_SHF)
          &&& PTE_COUNT_MSK) <<< PTE_SIZE_SHF
      = entryAddress ppn address level := by
  have hvpn := toNat_vpn address level
  have hlt := vpn_lt address level
  have hoffset : ((address >>> (PAGE_SIZE_SHF + level * PTE_COUNT_SHF)
      &&& PTE_COUNT_MSK) <<< PTE_SIZE_SHF).toNat = vpn address level * 4 := by
    rw [BitVec.toNat_shiftLeft, Nat.shiftLeft_eq, hvpn]
    show vpn address level * 4 % 4294967296 = _
    omega
  exact page_add rfl hoffset

/-- The address of an entry never overflows in its addition, since a table
lies in one page. -/
theorem addChecked_entry {ε σ : Type} [Build] (ppn address : BitVec 32)
    (level : Nat) :
    (addChecked (ppn <<< PAGE_SIZE_SHF)
      ((address >>> (PAGE_SIZE_SHF + level * PTE_COUNT_SHF) &&& PTE_COUNT_MSK)
        <<< PTE_SIZE_SHF) : Exec ε σ _)
      = pure (entryAddress ppn address level) := by
  rw [addChecked_of_lt (page_add_lt ppn _ (entryOffset_lt _)),
    entryAddress_eq]

/-- The mask test of the code for a superpage is one of divisibility. -/
theorem ppn_and_mask_eq_zero_iff (ppn : BitVec 32) :
    ppn &&& ((1#32 <<< (1 * PTE_COUNT_SHF)) - 1) = 0 ↔ ppn.toNat % 1024 = 0 := by
  have hand : (ppn &&& ((1#32 <<< (1 * PTE_COUNT_SHF)) - 1)).toNat
      = ppn.toNat % 1024 := by
    rw [BitVec.toNat_and]
    exact Nat.and_two_pow_sub_one_eq_mod _ 10
  rw [← hand]
  constructor
  · intro h
    rw [h]
    rfl
  · intro h
    exact BitVec.eq_of_toNat_eq h

/-- The page number of an aligned superpage has room for that of the virtual
address. -/
theorem toNat_splice {ppn : BitVec 32} (h : ppn.toNat % 1024 = 0)
    (address : BitVec 32) (level : Nat) :
    (ppn ||| (address >>> (PAGE_SIZE_SHF + level * PTE_COUNT_SHF)
        &&& PTE_COUNT_MSK) &&& ((1#32 <<< (1 * PTE_COUNT_SHF)) - 1)).toNat
      = ppn.toNat + vpn address level := by
  have hlow : ((address >>> (PAGE_SIZE_SHF + level * PTE_COUNT_SHF)
      &&& PTE_COUNT_MSK) &&& ((1#32 <<< (1 * PTE_COUNT_SHF)) - 1)).toNat
      = vpn address level := by
    rw [BitVec.toNat_and, toNat_vpn]
    refine (Nat.and_two_pow_sub_one_eq_mod _ 10).trans ?_
    exact Nat.mod_eq_of_lt (vpn_lt address level)
  have hhigh : ppn.toNat = 2 ^ 10 * (ppn.toNat / 1024) := by omega
  rw [BitVec.toNat_or, hlow, hhigh]
  exact (Nat.two_pow_add_eq_or_of_lt (vpn_lt address level) _).symm

end Sv32

/-! ## Entries -/

namespace Pte

/-- The entry is valid, and does not allow writes without reads. -/
def isValid (entry : Pte) : Bool := entry.v && (entry.r || !entry.w)

/-- The entry maps a page and does not point to a table. -/
def isLeaf (entry : Pte) : Bool := entry.r || entry.x

/-- The entry refers to a table of the next level. -/
def isPointer (entry : Pte) : Bool := entry.isValid && !entry.isLeaf

/-- The page of a leaf at this level does not start at a multiple of its
size. -/
def Misaligned (entry : Pte) (level : Nat) : Prop :=
  level ≠ 0 ∧ entry.ppn.toNat % 1024 ≠ 0

/-- A test of the bits of the page number. -/
instance (entry : Pte) (level : Nat) : Decidable (entry.Misaligned level) :=
  inferInstanceAs (Decidable (_ ∧ _))

/-- The entry ends the walk of an access with a page fault. -/
def Faults (entry : Pte) (accessType : AccessType) (userMode mxr sum : Bool)
    (level : Nat) : Prop :=
  entry.isValid = false ∨ (level = 0 ∧ entry.isLeaf = false) ∨
    (entry.isLeaf = true ∧
      (entry.allows accessType userMode mxr sum = false ∨
        entry.Misaligned level))

instance (entry : Pte) (accessType : AccessType) (userMode mxr sum : Bool)
    (level : Nat) :
    Decidable (entry.Faults accessType userMode mxr sum level) :=
  inferInstanceAs (Decidable (_ ∨ _ ∨ _))

/-- The entry is a leaf through which the access is permitted. -/
structure Permits (entry : Pte) (accessType : AccessType)
    (userMode mxr sum : Bool) (level : Nat) : Prop where
  valid : entry.isValid = true
  leaf : entry.isLeaf = true
  allows : entry.allows accessType userMode mxr sum = true
  aligned : ¬ entry.Misaligned level

/-- An access through the leaf changes its A or D bit. -/
def needsUpdate (entry : Pte) (accessType : AccessType) : Bool :=
  !entry.a || (accessType == .write && !entry.d)

/-- What the code stores for such an access. -/
def updated (entry : Pte) (accessType : AccessType) : Pte :=
  entry.setAD true (accessType == .write)

/-- The page number that the code puts in front of the page offset: at level
one with the virtual page number of that same level in its low part. -/
def page (entry : Pte) (level : Nat) (address : BitVec 32) : Nat :=
  if level = 0 then entry.ppn.toNat
  else entry.ppn.toNat + Sv32.vpn address level

/-- The exact physical address that the code arrives at. -/
def physicalAt (entry : Pte) (level : Nat) (address : BitVec 32) : Nat :=
  entry.page level address * 4096 + Sv32.pageOffset address

/-- A valid entry that is no pointer is a leaf. -/
theorem isLeaf_of_not_isPointer {entry : Pte} (hvalid : entry.isValid = true)
    (h : entry.isPointer = false) : entry.isLeaf = true := by
  unfold isPointer at h
  rw [hvalid, Bool.true_and] at h
  simpa using h

/-- A pointer is valid. -/
theorem isValid_of_isPointer {entry : Pte} (h : entry.isPointer = true) :
    entry.isValid = true := by
  unfold isPointer at h
  rw [Bool.and_eq_true] at h
  exact h.1

/-- A pointer is no leaf. -/
theorem isLeaf_of_isPointer {entry : Pte} (h : entry.isPointer = true) :
    entry.isLeaf = false := by
  unfold isPointer at h
  rw [Bool.and_eq_true] at h
  simpa using h.2

/-- The entry at which a walk ends either faults or permits the access. -/
theorem faults_or_permits {entry : Pte} {level : Nat}
    (h : level = 0 ∨ entry.isPointer = false) (accessType : AccessType)
    (userMode mxr sum : Bool) :
    entry.Faults accessType userMode mxr sum level ∨
      entry.Permits accessType userMode mxr sum level := by
  by_cases hfaults : entry.Faults accessType userMode mxr sum level
  · exact Or.inl hfaults
  · right
    unfold Faults at hfaults
    rw [not_or, not_or] at hfaults
    have hvalid : entry.isValid = true := by simpa using hfaults.1
    have hleaf : entry.isLeaf = true := by
      cases h with
      | inl hzero =>
          by_contra hnot
          exact hfaults.2.1 ⟨hzero, by simpa using hnot⟩
      | inr hpointer => exact isLeaf_of_not_isPointer hvalid hpointer
    have hrest : ¬ (entry.allows accessType userMode mxr sum = false ∨
        entry.Misaligned level) := fun hbad => hfaults.2.2 ⟨hleaf, hbad⟩
    rw [not_or] at hrest
    exact ⟨hvalid, hleaf, by simpa using hrest.1, hrest.2⟩

end Pte

variable {β : Type}
  {readPte : BitVec 32 → CoreM β MemoryError Pte}
  {writePte : BitVec 32 → Pte → CoreM β MemoryError Unit}
  {address : BitVec 32} {accessType : AccessType} {userMode : Bool}
  {level : Nat} {ppn : BitVec 32} {s t : State β} {entry : Pte}

open Sv32

/-! ## The tables that a walk reaches -/

/-- From the table `ppn` of a level in state `s` the walk gets to the last
table in the last state, through pointers. -/
inductive Reaches (readPte : BitVec 32 → CoreM β MemoryError Pte)
    (address : BitVec 32) :
    Nat → BitVec 32 → State β → Nat → BitVec 32 → State β → Prop
  | here {level : Nat} {ppn : BitVec 32} {s : State β} :
      Reaches readPte address level ppn s level ppn s
  | next {level level' : Nat} {ppn ppn' : BitVec 32} {s t u : State β}
      {entry : Pte} :
      readPte (entryAddress ppn address (level + 1)) s = .ok entry t →
      entry.isPointer = true →
      Reaches readPte address level entry.ppn t level' ppn' u →
      Reaches readPte address (level + 1) ppn s level' ppn' u

/-- The walk reads `entry` from its table of a level, at this address. -/
def Visits (readPte : BitVec 32 → CoreM β MemoryError Pte)
    (address : BitVec 32) (level : Nat) (ppn : BitVec 32) (s : State β)
    (level' : Nat) (entryAddress : BitVec 32) (entry : Pte) (t : State β) :
    Prop :=
  ∃ ppn' u, Reaches readPte address level ppn s level' ppn' u ∧
    entryAddress = Sv32.entryAddress ppn' address level' ∧
    readPte entryAddress u = .ok entry t

variable {level' : Nat} {ppn' : BitVec 32} {u : State β}

/-- A walk goes down the levels. -/
theorem Reaches.level_le (h : Reaches readPte address level ppn s level' ppn' u) :
    level' ≤ level := by
  induction h with
  | here => exact Nat.le_refl _
  | next _ _ _ ih => exact Nat.le_succ_of_le ih

/-- A part of the state that reading entries keeps is the same at every
table. -/
theorem Reaches.keeps {τ : Type} {view : State β → τ}
    (hread : ∀ address s entry t, readPte address s = .ok entry t →
      view t = view s)
    (h : Reaches readPte address level ppn s level' ppn' u) :
    view u = view s := by
  induction h with
  | here => rfl
  | next hentry _ _ ih => rw [ih, hread _ _ _ _ hentry]

/-- The table at which a walk ends: it does not get an entry there, or one
that it does not follow. -/
def Last (readPte : BitVec 32 → CoreM β MemoryError Pte) (address : BitVec 32)
    (level : Nat) (ppn : BitVec 32) (s : State β) : Prop :=
  ∀ entry t, readPte (entryAddress ppn address level) s = .ok entry t →
    level = 0 ∨ entry.isPointer = false

/-- Every walk ends at some table. -/
theorem exists_last (readPte : BitVec 32 → CoreM β MemoryError Pte)
    (address : BitVec 32) (level : Nat) (ppn : BitVec 32) (s : State β) :
    ∃ level' ppn' u, Reaches readPte address level ppn s level' ppn' u ∧
      Last readPte address level' ppn' u := by
  induction level generalizing ppn s with
  | zero => exact ⟨0, ppn, s, Reaches.here, fun _ _ _ => Or.inl rfl⟩
  | succ level ih =>
      by_cases hlast : Last readPte address (level + 1) ppn s
      · exact ⟨level + 1, ppn, s, Reaches.here, hlast⟩
      · unfold Last at hlast
        push Not at hlast
        obtain ⟨entry, t, hread, _, hpointer⟩ := hlast
        obtain ⟨level', ppn', u, hreach, hend⟩ := ih entry.ppn t
        refine ⟨level', ppn', u, ?_, hend⟩
        exact Reaches.next hread (by simpa using hpointer) hreach

variable [Build]

/-! ## One turn -/

/-- The part of a turn after the entry has been read. -/
def turn (readPte : BitVec 32 → CoreM β MemoryError Pte)
    (writePte : BitVec 32 → Pte → CoreM β MemoryError Unit)
    (address : BitVec 32) (accessType : AccessType) (userMode : Bool)
    (level : Nat) (entryAddress : BitVec 32) (entry : Pte) :
    CoreM β MemoryError (BitVec 32) :=
  if entry.isValid = false then Exec.throw .pageFault
  else if entry.isLeaf = false then
    if level = 0 then Exec.throw .pageFault
    else
      walk readPte writePte address accessType userMode level
        (entry.ppn <<< PAGE_SIZE_SHF)
  else
    leaf writePte address accessType userMode level
      (address >>> (PAGE_SIZE_SHF + level * PTE_COUNT_SHF) &&& PTE_COUNT_MSK)
      entryAddress entry

/-- One turn of the loop: the entry is read, and a failure to read it is an
access fault. -/
theorem walk_succ (ppn : BitVec 32) (level : Nat) :
    walk readPte writePte address accessType userMode (level + 1)
        (ppn <<< PAGE_SIZE_SHF)
      = Exec.mapError (fun _ => .accessFault)
          (readPte (entryAddress ppn address level)) >>=
        turn readPte writePte address accessType userMode level
          (entryAddress ppn address level) := by
  rw [walk, addChecked_entry]
  funext s
  rw [Exec.pure_bind']
  refine congrFun (congrArg (Exec.mapError _ _ >>= ·) ?_) s
  funext entry
  unfold turn
  have hinvalid : (!entry.v || (!entry.r && entry.w)) = true ↔
      entry.isValid = false := by
    unfold Pte.isValid
    cases entry.v <;> cases entry.r <;> cases entry.w <;> decide
  have hpointer : (!entry.r && !entry.x) = true ↔ entry.isLeaf = false := by
    unfold Pte.isLeaf
    cases entry.r <;> cases entry.x <;> decide
  simp only [hinvalid, hpointer]

/-- A turn reads and writes nothing but entries. -/
theorem tame_turn {D : Discipline (State β)}
    (hread : ∀ address, D.Tame (readPte address))
    (hwrite : ∀ address value, D.Tame (writePte address value))
    (entryAddress : BitVec 32) (entry : Pte) :
    D.Tame (turn readPte writePte address accessType userMode level
      entryAddress entry) := by
  unfold turn
  apply Tame.ite
  · intro _
    exact Tame.throw _
  · intro _
    apply Tame.ite
    · intro _
      apply Tame.ite
      · intro _
        exact Tame.throw _
      · intro hlevel
        obtain ⟨level, rfl⟩ := Nat.exists_eq_succ_of_ne_zero hlevel
        exact tame_walk hread hwrite _ _ _ _ _
    · intro _
      exact tame_leaf hwrite _ _ _ _ _ _ _

/-! ## The leaf -/

/-- The physical address does not overflow in its last addition, since the
offset stays in the page. -/
theorem addChecked_physical {σ ε : Type} {page : BitVec 32} (p : Nat)
    (hpage : page.toNat = p) (address : BitVec 32) :
    (addChecked (page <<< PAGE_SIZE_SHF) (address &&& PAGE_SIZE_MSK)
        : Exec ε σ _)
      = pure (BitVec.ofNat 32 (p * 4096 + pageOffset address)) := by
  rw [addChecked_of_lt (page_add_lt page _ (Core.pageOffset_lt address)),
    page_add hpage (toNat_pageOffset address)]

/-- The end of a turn at a leaf that permits the access. -/
theorem leaf_end (entryAddress : BitVec 32) (entry : Pte) {page : BitVec 32}
    (hpage : page.toNat = entry.page level address) (s : State β) :
    (do
        if !entry.a || (accessType == AccessType.write && !entry.d) then
          Exec.mapError (fun _ => MemoryError.accessFault)
            (writePte entryAddress
              (entry.setAD true (accessType == AccessType.write)))
        addChecked (page <<< PAGE_SIZE_SHF) (address &&& PAGE_SIZE_MSK)
          : CoreM β MemoryError (BitVec 32)) s
      = if entry.needsUpdate accessType then
          (Exec.mapError (fun _ => .accessFault)
              (writePte entryAddress (entry.updated accessType)) >>= fun _ =>
            pure (BitVec.ofNat 32 (entry.physicalAt level address))) s
        else .ok (BitVec.ofNat 32 (entry.physicalAt level address)) s := by
  rw [addChecked_physical _ hpage]
  unfold Pte.needsUpdate Pte.updated
  by_cases hupdate : (!entry.a || (accessType == AccessType.write && !entry.d))
      = true
  · rw [if_pos hupdate, if_pos hupdate]
    rfl
  · rw [if_neg hupdate, if_neg hupdate]
    rfl

/-- What the walk does at a leaf of either level. -/
theorem leaf_apply (hlevel : level ≤ 1) (entryAddress : BitVec 32)
    (entry : Pte) (s : State β) :
    leaf writePte address accessType userMode level
        (address >>> (PAGE_SIZE_SHF + level * PTE_COUNT_SHF) &&& PTE_COUNT_MSK)
        entryAddress entry s
      = if entry.allows accessType userMode s.status.mxr s.status.sum = false ∨
            entry.Misaligned level then
          .error .pageFault s
        else if entry.needsUpdate accessType then
          (Exec.mapError (fun _ => .accessFault)
              (writePte entryAddress (entry.updated accessType)) >>= fun _ =>
            pure (BitVec.ofNat 32 (entry.physicalAt level address))) s
        else .ok (BitVec.ofNat 32 (entry.physicalAt level address)) s := by
  unfold leaf
  rw [Exec.get_bind]
  by_cases hallows : entry.allows accessType userMode s.status.mxr
      s.status.sum = true
  · rw [if_neg (by simp [hallows])]
    have hlevels : level = 0 ∨ level = 1 := by omega
    rcases hlevels with rfl | rfl
    · have hok : ¬ (entry.allows accessType userMode s.status.mxr s.status.sum
          = false ∨ entry.Misaligned 0) := by
        simp [hallows, Pte.Misaligned]
      rw [if_neg fun h => h.1 rfl, if_neg hok]
      exact leaf_end entryAddress entry rfl s
    · by_cases haligned : entry.ppn.toNat % 1024 = 0
      · have hok : ¬ (entry.allows accessType userMode s.status.mxr s.status.sum
            = false ∨ entry.Misaligned 1) := by
          simp [hallows, Pte.Misaligned, haligned]
        rw [if_neg fun h => h.2 ((ppn_and_mask_eq_zero_iff _).2 haligned),
          if_neg hok]
        exact leaf_end entryAddress entry (toNat_splice haligned address 1) s
      · rw [if_pos ⟨by decide, fun h =>
            haligned ((ppn_and_mask_eq_zero_iff _).1 h)⟩,
          if_pos (Or.inr ⟨by decide, haligned⟩)]
        rfl
  · rw [if_pos (by simpa using hallows),
      if_pos (Or.inl (by simpa using hallows))]
    rfl

/-- The entry was read, and the turn is made. -/
theorem walk_read_ok (h : readPte (entryAddress ppn address level) s = .ok entry t) :
    walk readPte writePte address accessType userMode (level + 1)
        (ppn <<< PAGE_SIZE_SHF) s
      = turn readPte writePte address accessType userMode level
          (entryAddress ppn address level) entry t := by
  rw [walk_succ]
  apply Exec.bind_ok
  unfold Exec.mapError
  rw [h]

/-- The entry could not be read. -/
theorem walk_read_error {e : MemoryError}
    (h : readPte (entryAddress ppn address level) s = .error e t) :
    walk readPte writePte address accessType userMode (level + 1)
        (ppn <<< PAGE_SIZE_SHF) s = .error .accessFault t := by
  rw [walk_succ]
  apply Exec.bind_error
  unfold Exec.mapError
  rw [h]

/-- A device panicked. -/
theorem walk_read_panic
    (h : readPte (entryAddress ppn address level) s = .panic t) :
    walk readPte writePte address accessType userMode (level + 1)
        (ppn <<< PAGE_SIZE_SHF) s = .panic t := by
  rw [walk_succ]
  apply Exec.bind_panic
  unfold Exec.mapError
  rw [h]

/-- The walk goes on with the table that the entry points to. -/
theorem turn_pointer (h : entry.isPointer = true) (address' : BitVec 32) :
    turn readPte writePte address accessType userMode (level + 1) address' entry
      = walk readPte writePte address accessType userMode (level + 1)
          (entry.ppn <<< PAGE_SIZE_SHF) := by
  unfold turn
  rw [if_neg (by simp [Pte.isValid_of_isPointer h]),
    if_pos (Pte.isLeaf_of_isPointer h), if_neg (Nat.succ_ne_zero level)]

/-- A walk goes on like the walk from any table it reaches. -/
theorem walk_of_reaches (h : Reaches readPte address level ppn s level' ppn' u) :
    walk readPte writePte address accessType userMode (level + 1)
        (ppn <<< PAGE_SIZE_SHF) s
      = walk readPte writePte address accessType userMode (level' + 1)
          (ppn' <<< PAGE_SIZE_SHF) u := by
  induction h with
  | here => rfl
  | next hread hpointer _ ih =>
      rw [walk_read_ok hread, turn_pointer hpointer]
      exact ih

/-! ## How a walk ends -/

/-- An entry at which the access faults, with nothing changed. -/
theorem turn_of_faults (hlevel : level ≤ 1) (entryAddress : BitVec 32)
    (h : entry.Faults accessType userMode s.status.mxr s.status.sum level) :
    turn readPte writePte address accessType userMode level entryAddress entry s
      = .error .pageFault s := by
  unfold turn
  cases hvalid : entry.isValid with
  | false => rfl
  | true =>
      rw [if_neg Bool.true_eq_false.mp]
      cases hleaf : entry.isLeaf with
      | false =>
          have hzero : level = 0 := by
            unfold Pte.Faults at h
            rw [hvalid, hleaf] at h
            simpa using h
          rw [if_pos rfl, if_pos hzero]
          rfl
      | true =>
          have hbad : entry.allows accessType userMode s.status.mxr s.status.sum
              = false ∨ entry.Misaligned level := by
            unfold Pte.Faults at h
            rw [hvalid, hleaf] at h
            simpa using h
          rw [if_neg Bool.true_eq_false.mp, leaf_apply hlevel, if_pos hbad]

/-- The end of a walk that is permitted: the A and D bits, and the physical
address. -/
def finish (writePte : BitVec 32 → Pte → CoreM β MemoryError Unit)
    (address : BitVec 32) (accessType : AccessType) (level : Nat)
    (entryAddress : BitVec 32) (entry : Pte) :
    CoreM β MemoryError (BitVec 32) :=
  if entry.needsUpdate accessType then
    Exec.mapError (fun _ => .accessFault)
        (writePte entryAddress (entry.updated accessType)) >>= fun _ =>
      pure (BitVec.ofNat 32 (entry.physicalAt level address))
  else pure (BitVec.ofNat 32 (entry.physicalAt level address))

/-- A leaf that permits the access: what is left are the A and D bits and the
address. -/
theorem turn_of_permits (hlevel : level ≤ 1) (entryAddress : BitVec 32)
    (h : entry.Permits accessType userMode s.status.mxr s.status.sum level) :
    turn readPte writePte address accessType userMode level entryAddress entry s
      = finish writePte address accessType level entryAddress entry s := by
  unfold turn finish
  have hok : ¬ (entry.allows accessType userMode s.status.mxr s.status.sum
      = false ∨ entry.Misaligned level) := by
    simp [h.allows, h.aligned]
  rw [if_neg (by simp [h.valid]), if_neg (by simp [h.leaf]),
    leaf_apply hlevel, if_neg hok]
  by_cases hupdate : entry.needsUpdate accessType = true
  · rw [if_pos hupdate, if_pos hupdate]
  · rw [if_neg hupdate, if_neg hupdate]
    rfl

end RedPlanet.Core
