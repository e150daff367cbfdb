import RedPlanet.Core.Step

/-!
# CSR accesses at a privilege level

`readCsr_cases` and `writeCsr_cases` say what the checks in front of the two
dispatches let through: an error, or an arm of the dispatch for a register of
at most that level, writable in the second case, with a number in range.
Reads keep to the memory discipline at any level, and at user level writes
never get past the checks.

So whoever proves something about every CSR access need not look at specifiers:
it is a claim about the arms `readCsrOf` and `writeCsrOf`, one register each,
with what the checks have established as hypotheses.
-/

namespace RedPlanet.Core

open RedPlanet.Verified Discipline

variable {β ε : Type}

/-! ## The checks in front of the dispatch -/

/-- The check refuses the access, or lets it through to a specifier of at most
the given level. -/
theorem checkCsrAccess_cases (specifier : CsrSpecifier)
    (level : PrivilegeLevel) :
    (∃ e, (checkCsrAccess specifier level : CoreM β _ Unit) = Exec.throw e) ∨
      (requiredPrivilegeLevel specifier).toNat ≤ level.toNat ∧
        (checkCsrAccess specifier level : CoreM β _ Unit) = pure () := by
  unfold checkCsrAccess
  by_cases hvalid : isValid specifier
  · by_cases hlevel : level.toNat < (requiredPrivilegeLevel specifier).toNat
    · left
      simp only [hvalid, hlevel]
      exact ⟨_, rfl⟩
    · right
      simp only [hvalid, hlevel]
      exact ⟨by omega, rfl⟩
  · left
    simp only [hvalid]
    exact ⟨_, rfl⟩

/-- A write is refused, or goes to a writable register of at most the given
level. -/
theorem writeCsr_cases (specifier : CsrSpecifier) (level : PrivilegeLevel)
    (value mask : BitVec 32) :
    (∃ e, (writeCsr specifier level value mask : CoreM β _ _)
        = Exec.throw e) ∨
      ∃ csr, Csr.ofSpecifier specifier = some csr ∧
        csr.level.toNat ≤ level.toNat ∧ csr.readOnly = false ∧ csr.Numbered ∧
        (writeCsr specifier level value mask : CoreM β _ _)
          = writeCsrOf specifier value mask csr := by
  unfold writeCsr
  cases checkCsrAccess_cases specifier level (β := β) with
  | inl hthrow =>
      obtain ⟨e, he⟩ := hthrow
      rw [he]
      exact Or.inl ⟨_, rfl⟩
  | inr hpass =>
      rw [hpass.2]
      cases hread : isReadOnly specifier with
      | true => exact Or.inl ⟨_, rfl⟩
      | false =>
          cases hcsr : Csr.ofSpecifier specifier with
          | none => exact Or.inl ⟨_, rfl⟩
          | some csr =>
              obtain ⟨hlevel, hwritable, hnumbered⟩ :=
                Csr.ofSpecifier_sound hcsr
              rw [hread] at hwritable
              have hle := hpass.1
              rw [hlevel] at hle
              exact Or.inr ⟨csr, rfl, hle, hwritable.symm, hnumbered, rfl⟩

/-! ## User level -/

/-- No CSR can be written at user level: the floating-point ones are
unsupported and the counters are read-only. -/
theorem writeCsr_user (specifier : CsrSpecifier) (value mask : BitVec 32) :
    ∃ e, (writeCsr specifier .user value mask : CoreM β _ _)
      = Exec.throw e := by
  cases writeCsr_cases specifier .user value mask (β := β) with
  | inl hthrow => exact hthrow
  | inr harm =>
      obtain ⟨csr, _, hlevel, hwritable, _, harm⟩ := harm
      rw [harm]
      cases csr <;> first
        | exact ⟨_, rfl⟩
        | cases hwritable; done
        | exact absurd hlevel (Nat.not_succ_le_zero _)

/-! ## Reads -/

variable [SystemBus β]

/-- A read is refused, or goes to a register of at most the given level. -/
theorem readCsr_cases (config : Config) (specifier : CsrSpecifier)
    (level : PrivilegeLevel) :
    (∃ e, (readCsr config specifier level : CoreM β _ _) = Exec.throw e) ∨
      ∃ csr, Csr.ofSpecifier specifier = some csr ∧ csr.Numbered ∧
        (readCsr config specifier level : CoreM β _ _)
          = readCsrOf config specifier csr := by
  unfold readCsr
  cases checkCsrAccess_cases specifier level (β := β) with
  | inl hthrow =>
      obtain ⟨e, he⟩ := hthrow
      rw [he]
      exact Or.inl ⟨e, rfl⟩
  | inr hpass =>
      rw [hpass.2]
      cases hcsr : Csr.ofSpecifier specifier with
      | none => exact Or.inl ⟨_, rfl⟩
      | some csr =>
          have hsound := Csr.ofSpecifier_sound hcsr
          exact Or.inr ⟨csr, rfl, hsound.2.2, rfl⟩

end RedPlanet.Core
