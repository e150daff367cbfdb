import RedPlanet.SpaceTime.Renumbering
import RedPlanet.SpaceTime.Runs

/-!
# Ranges of indices

`iter_range` of the accessor that reads an array and of the one that also
writes it (`lib.rs`).  Each translates the two ends of a range into the
elements to go through in its own way: the first into a start and a length,
the second into a start and an end.

Both are compared with each other (`Reachable.iterRange_alike_iff`), and the
first with the rules for slices (`Reachable.iterRange_slice_iff`), for all nine
kinds of bounds and with or without overflow checks.  The conditions are those
on the bounds and on the size of the array, and each has an example on either
side.
-/

set_option linter.dupNamespace false

namespace RedPlanet.SpaceTime

open RedPlanet.Core RedPlanet.Verified Limited

/-! ## Ranges -/

/-- One end of a range of `usize`. -/
inductive Bound where
  | included (i : BitVec 64)
  | excluded (i : BitVec 64)
  | unbounded
deriving DecidableEq, Repr

/-- What a `RangeBounds<usize>` says. -/
structure IndexRange where
  startBound : Bound
  endBound : Bound
deriving DecidableEq, Repr

/-- `a.checked_sub(b)` of two `u64`. -/
def checkedSubU64 (a b : ℕ) : Option ℕ := if b ≤ a then some (a - b) else none

/-- `a.saturating_add(b)` of two `u64`. -/
def saturatingAddU64 (a b : ℕ) : ℕ := min (a + b) (2 ^ 64 - 1)

/-- `start`, the same in both accessors. -/
def IndexRange.start (range : IndexRange) : ℕ :=
  match range.startBound with
  | .unbounded => 0
  | .included s => s.toNat
  | .excluded s => saturatingAddU64 s.toNat 1

/-! ## The two accessors -/

section Build

variable [Build] {T : Type}

/-- `a + b` of two `u64`. -/
def addU64 (a b : ℕ) : Limited ℕ :=
  if a + b < 2 ^ 64 then pure (a + b)
  else if Build.overflowChecks then panic
  else pure ((a + b) % 2 ^ 64)

namespace STArrayAccessor

/-- `len`; `none` is the early return of `?`. -/
def rangeLen (range : IndexRange) (array : Instance) : Limited (Option ℕ) :=
  match range.endBound with
  | .unbounded => pure (checkedSubU64 array.len range.start)
  | .included e =>
      match checkedSubU64 e.toNat range.start with
      | none => pure none
      | some len => do
          let len ← addU64 len 1
          return some len
  | .excluded e => pure (checkedSubU64 e.toNat range.start)

def iterRange (range : IndexRange) (storage : DefaultStorage T)
    (array : Instance) : Limited (Option (List T)) := do
  match ← rangeLen range array with
  | none => return none
  | some len => array.iterRange storage range.start len

end STArrayAccessor

namespace STArrayAccessorMut

/-- `end`. -/
def rangeEnd (range : IndexRange) (array : Instance) : ℕ :=
  match range.endBound with
  | .unbounded => array.len
  | .included e => e.toNat
  | .excluded e => e.toNat - 1

/-- All elements of the iterator. -/
def iterRange (range : IndexRange) (storage : DefaultStorage T)
    (array : Instance) : Limited (Option (List T)) := do
  let stop := rangeEnd range array
  if array.len ≤ stop ∨ array.len ≤ range.start then return none
  else
    let items ←
      (List.range' range.start (stop - range.start)).mapM fun i => do
        let x ← array.get storage i
        unwrap x
    return some items

end STArrayAccessorMut

variable {ι : Type} [DecidableEq ι] {A : Type → Type} [Arena A]
  {Ty : ι → Type}

namespace SpaceTime

/-- `get_array(id)?.iter_range(range)`. -/
def arrayIterRange (τ : ι) (id : Index) (range : IndexRange)
    (space : SpaceTime A Ty) :
    Limited (Except InvalidIdError (Option (List (Ty τ)))) := do
  let snapshot ← space.getHead
  match Arena.get id snapshot.instances with
  | none => return .error {}
  | some array => do
      let s ← unwrap (space.storage.arrayStorage τ)
      let items ← STArrayAccessor.iterRange range s array.array
      return .ok items

/-- `get_array_mut(id)?.iter_range(range)`. -/
def arrayMutIterRange (τ : ι) (id : Index) (range : IndexRange)
    (space : SpaceTime A Ty) :
    Limited (Except InvalidIdError (Option (List (Ty τ))) ×
      SpaceTime A Ty) := do
  let (snapshot, space) ← space.getHeadMut
  match Arena.get id snapshot.instances with
  | none => return (.error {}, space)
  | some array => do
      let s ← unwrap (space.storage.arrayStorage τ)
      let items ← STArrayAccessorMut.iterRange range s array.array
      return (.ok items, space)

end SpaceTime

end Build

/-! ## The elements they go through -/

namespace IndexRange

/-- One past the last index there is. -/
def WrapsAround (range : IndexRange) : Prop :=
  range.start = 0 ∧ range.endBound = .included (BitVec.allOnes 64)

/-- `len` of the first accessor for an array of `n` elements, as long as it
does not overflow. -/
def length (range : IndexRange) (n : ℕ) : Option ℕ :=
  match range.endBound with
  | .unbounded => checkedSubU64 n range.start
  | .included e => (checkedSubU64 e.toNat range.start).map (· + 1)
  | .excluded e => checkedSubU64 e.toNat range.start

/-- `end` of the second. -/
def stop (range : IndexRange) (n : ℕ) : ℕ :=
  match range.endBound with
  | .unbounded => n
  | .included e => e.toNat
  | .excluded e => e.toNat - 1

/-- What the first accessor goes through. -/
def items {T : Type} (range : IndexRange) (content : Flat T) :
    Option (List T) :=
  (range.length content.size).bind fun len => content.read range.start len

/-- What the second goes through. -/
def itemsMut {T : Type} (range : IndexRange) (content : Flat T) :
    Option (List T) :=
  if content.size ≤ range.stop content.size ∨ content.size ≤ range.start then
    none
  else content.read range.start (range.stop content.size - range.start)

theorem start_lt (range : IndexRange) : range.start < 2 ^ 64 := by
  unfold start saturatingAddU64
  cases range.startBound with
  | unbounded => exact Nat.two_pow_pos 64
  | included s => exact s.isLt
  | excluded s =>
      dsimp only
      omega

/-- The one sum that overflows. -/
theorem wrapsAround_iff (range : IndexRange) {e : BitVec 64}
    (hend : range.endBound = .included e) :
    range.WrapsAround ↔ 2 ^ 64 ≤ e.toNat - range.start + 1 := by
  have he := e.isLt
  have hones : (BitVec.allOnes 64).toNat = 2 ^ 64 - 1 := BitVec.toNat_allOnes
  unfold WrapsAround
  rw [hend, Bound.included.injEq, ← BitVec.toNat_inj, hones]
  omega

/-! ## Where the two agree -/

/-- Both accessors return the same for arrays of `n` elements: they return
`None`, or the range is empty. -/
def AlikeFor (range : IndexRange) (n : ℕ) : Prop :=
  match range.endBound with
  | .unbounded => n < range.start
  | .included e =>
      (n ≤ e.toNat ∨ n ≤ range.start) ∧
        ¬ (range.start = 0 ∧ e = BitVec.allOnes 64)
  | .excluded e =>
      n < e.toNat ∨ (e.toNat < range.start ∧ n ≤ range.start) ∨
        (range.start = e.toNat ∧ range.start < n)

instance (range : IndexRange) (n : ℕ) : Decidable (range.AlikeFor n) := by
  unfold AlikeFor
  cases range.endBound <;> infer_instance

theorem items_eq_itemsMut_iff {T : Type} {range : IndexRange}
    {content : Flat T} (hno : ¬ range.WrapsAround) :
    range.items content = range.itemsMut content ↔
      range.AlikeFor content.size := by
  unfold items itemsMut length stop AlikeFor
  unfold WrapsAround at hno
  cases hend : range.endBound with
  | unbounded =>
      dsimp only
      rw [if_pos (Or.inl (Nat.le_refl _))]
      unfold checkedSubU64
      by_cases hle : range.start ≤ content.size
      · rw [if_pos hle, Option.bind_some, Flat.read_eq_none_iff]
        omega
      · rw [if_neg hle]
        simp only [Option.bind_none, true_iff]
        omega
  | included e =>
      rw [hend, Bound.included.injEq] at hno
      dsimp only
      rw [and_iff_left hno]
      unfold checkedSubU64
      by_cases hout : content.size ≤ e.toNat ∨ content.size ≤ range.start
      · rw [if_pos hout]
        by_cases hle : range.start ≤ e.toNat
        · rw [if_pos hle, Option.map_some, Option.bind_some,
            Flat.read_eq_none_iff]
          omega
        · rw [if_neg hle]
          simpa using hout
      · rw [if_neg hout]
        by_cases hle : range.start ≤ e.toNat
        · rw [if_pos hle, Option.map_some, Option.bind_some,
            Flat.read_eq_read_iff]
          omega
        · rw [if_neg hle, Option.map_none, Option.bind_none, eq_comm,
            Flat.read_eq_none_iff]
          omega
  | excluded e =>
      dsimp only
      unfold checkedSubU64
      by_cases hout : content.size ≤ e.toNat - 1 ∨ content.size ≤ range.start
      · rw [if_pos hout]
        by_cases hle : range.start ≤ e.toNat
        · rw [if_pos hle, Option.bind_some, Flat.read_eq_none_iff]
          omega
        · rw [if_neg hle]
          simp only [Option.bind_none, true_iff]
          omega
      · rw [if_neg hout]
        by_cases hle : range.start ≤ e.toNat
        · rw [if_pos hle, Option.bind_some, Flat.read_eq_read_iff]
          omega
        · rw [if_neg hle, Option.bind_none, eq_comm, Flat.read_eq_none_iff]
          omega

/-! ## Where the first one follows the rules for slices -/

/-- `checked_add(1)` of a `usize`. -/
def checkedSuccU64 (i : BitVec 64) : Option ℕ :=
  if i.toNat + 1 < 2 ^ 64 then some (i.toNat + 1) else none

/-- Where a slice is indexed from. -/
def sliceStart (range : IndexRange) : Option ℕ :=
  match range.startBound with
  | .included s => some s.toNat
  | .excluded s => checkedSuccU64 s
  | .unbounded => some 0

/-- One past the last element that is indexed, in a slice of `n` elements. -/
def sliceStop (range : IndexRange) (n : ℕ) : Option ℕ :=
  match range.endBound with
  | .included e => checkedSuccU64 e
  | .excluded e => some e.toNat
  | .unbounded => some n

/-- The start and the end of what the standard library indexes; `none` where
it panics. -/
def slice (range : IndexRange) (n : ℕ) : Option (ℕ × ℕ) := do
  let start ← range.sliceStart
  let stop ← range.sliceStop n
  if start ≤ stop ∧ stop ≤ n then some (start, stop) else none

/-- The two kinds of ranges for which the first accessor does something else:
an empty range whose included end is before its start, and the range that
wraps around. -/
def Strays (range : IndexRange) (n : ℕ) : Prop :=
  range.WrapsAround ∨
    ∃ e, range.endBound = .included e ∧ e.toNat + 1 = range.start ∧
      range.start ≤ n

/-- A start that saturates lies past the end of every array. -/
theorem slice_eq {range : IndexRange} {n : ℕ} (hn : n < 2 ^ 64 - 1) :
    range.slice n = (range.sliceStop n).bind fun stop =>
      if range.start ≤ stop ∧ stop ≤ n then some (range.start, stop)
      else none := by
  have hstart : range.sliceStart = some range.start ∨
      (range.sliceStart = none ∧ n < range.start) := by
    unfold sliceStart start saturatingAddU64
    cases range.startBound with
    | included s => exact Or.inl rfl
    | unbounded => exact Or.inl rfl
    | excluded s =>
        dsimp only
        unfold checkedSuccU64
        by_cases hlt : s.toNat + 1 < 2 ^ 64
        · rw [if_pos hlt, Option.some.injEq]
          omega
        · rw [if_neg hlt]
          exact Or.inr ⟨rfl, by omega⟩
  unfold slice
  rcases hstart with hsome | ⟨hnone, hlt⟩
  · rw [hsome]
    rfl
  · rw [hnone]
    show none = Option.bind _ _
    symm
    rw [Option.bind_eq_none_iff]
    intro stop _
    rw [if_neg]
    omega

theorem items_eq_slice_iff {T : Type} {range : IndexRange}
    {content : Flat T} (hsize : content.size < 2 ^ 64 - 1)
    (hno : ¬ range.WrapsAround) :
    range.items content
        = (range.slice content.size).bind (fun r =>
          content.read r.1 (r.2 - r.1)) ↔
      ¬ range.Strays content.size := by
  have hstart := range.start_lt
  rw [slice_eq hsize]
  unfold items length Strays sliceStop
  rw [or_iff_right hno]
  unfold checkedSubU64
  cases hend : range.endBound with
  | unbounded =>
      simp only [reduceCtorEq, false_and, exists_false, not_false_iff, iff_true,
        Option.bind_some]
      by_cases hle : range.start ≤ content.size
      · rw [if_pos hle, if_pos ⟨hle, Nat.le_refl _⟩]
        rfl
      · rw [if_neg hle, if_neg (by omega)]
        rfl
  | excluded e =>
      simp only [reduceCtorEq, false_and, exists_false, not_false_iff, iff_true,
        Option.bind_some]
      by_cases hle : range.start ≤ e.toNat
      · rw [if_pos hle, Option.bind_some]
        by_cases hin : e.toNat ≤ content.size
        · rw [if_pos ⟨hle, hin⟩]
          rfl
        · rw [if_neg (by omega), Option.bind_none, Flat.read_eq_none_iff]
          omega
      · rw [if_neg hle, if_neg (by omega)]
        rfl
  | included e =>
      have he := e.isLt
      have hstrays : (∃ e', Bound.included e = .included e' ∧
          e'.toNat + 1 = range.start ∧ range.start ≤ content.size) ↔
          e.toNat + 1 = range.start ∧ range.start ≤ content.size := by
        simp
      rw [hstrays]
      dsimp only
      by_cases hle : range.start ≤ e.toNat
      · have hright : ¬ (e.toNat + 1 = range.start ∧
            range.start ≤ content.size) := by omega
        rw [if_pos hle, Option.map_some, Option.bind_some,
          iff_true_intro hright, iff_true]
        unfold checkedSuccU64
        by_cases hin : e.toNat + 1 ≤ content.size
        · have hcount : e.toNat - range.start + 1
              = e.toNat + 1 - range.start := by omega
          rw [if_pos (by omega), Option.bind_some, if_pos (by omega), hcount]
          rfl
        · have hnone : content.read range.start (e.toNat - range.start + 1)
              = none := by
            rw [Flat.read_eq_none_iff]
            omega
          rw [hnone]
          by_cases hlt : e.toNat + 1 < 2 ^ 64
          · rw [if_pos hlt, Option.bind_some, if_neg (by omega)]
            rfl
          · rw [if_neg hlt]
            rfl
      · have hsucc : checkedSuccU64 e = some (e.toNat + 1) :=
          if_pos (by omega)
        rw [if_neg hle, Option.map_none, Option.bind_none, hsucc,
          Option.bind_some]
        by_cases hempty : e.toNat + 1 = range.start ∧
            range.start ≤ content.size
        · rw [if_pos (by omega), Option.bind_some, eq_comm,
            Flat.read_eq_none_iff]
          dsimp only
          omega
        · rw [if_neg (by omega), iff_true_intro hempty]
          simp

theorem slice_bounds {range : IndexRange} {n start stop : ℕ}
    (h : range.slice n = some (start, stop)) : start ≤ stop ∧ stop ≤ n := by
  unfold slice at h
  obtain ⟨start', _, h⟩ := Option.bind_eq_some_iff.1 h
  obtain ⟨stop', _, h⟩ := Option.bind_eq_some_iff.1 h
  by_cases hbounds : start' ≤ stop' ∧ stop' ≤ n
  · rw [if_pos hbounds] at h
    cases h
    exact hbounds
  · rw [if_neg hbounds] at h
    exact nomatch h

theorem slice_of_wraps {range : IndexRange} (h : range.WrapsAround) (n : ℕ) :
    range.slice n = none := by
  have hones : checkedSuccU64 (BitVec.allOnes 64) = none := by decide
  have hstop : range.sliceStop n = none := by
    unfold sliceStop
    rw [h.2]
    exact hones
  unfold slice
  rw [hstop]
  cases range.sliceStart with
  | none => rfl
  | some start => rfl

theorem itemsMut_of_wraps {T : Type} {range : IndexRange} {content : Flat T}
    (h : range.WrapsAround) (hsize : content.size < 2 ^ 64) :
    range.itemsMut content = none := by
  have hones : (BitVec.allOnes 64).toNat = 2 ^ 64 - 1 := BitVec.toNat_allOnes
  have hstop : range.stop content.size = 2 ^ 64 - 1 := by
    unfold stop
    rw [h.2]
    exact hones
  unfold itemsMut
  rw [hstop, if_pos (Or.inl (by omega))]

theorem not_alikeFor_of_wraps {range : IndexRange} (h : range.WrapsAround)
    (n : ℕ) : ¬ range.AlikeFor n := by
  unfold AlikeFor
  rw [h.2]
  dsimp only
  intro halike
  exact halike.2 ⟨h.1, rfl⟩

end IndexRange

section Build

variable [Build] {T : Type} {range : IndexRange} {array : Instance}
  {storage : DefaultStorage T} {R : TablePtr → ℕ} {content : Flat T} {value : T}

theorem STArrayAccessor.rangeLen_eq (h : ¬ range.WrapsAround) :
    rangeLen range array = pure (range.length array.len) := by
  unfold rangeLen IndexRange.length
  cases hend : range.endBound with
  | unbounded => rfl
  | excluded e => rfl
  | included e =>
      rw [range.wrapsAround_iff hend] at h
      dsimp only
      unfold checkedSubU64 addU64
      by_cases hle : range.start ≤ e.toNat
      · rw [if_pos hle]
        dsimp only
        rw [if_pos (by omega)]
        rfl
      · rw [if_neg hle]
        rfl

/-- `0..=usize::MAX` panics, or it wraps around to the empty range. -/
theorem STArrayAccessor.rangeLen_wraps (h : range.WrapsAround) :
    rangeLen range array = panic ∨ rangeLen range array = pure (some 0) := by
  obtain ⟨hstart, hend⟩ := h
  have hones : (BitVec.allOnes 64).toNat = 2 ^ 64 - 1 := BitVec.toNat_allOnes
  have hlen : rangeLen range array = (do
      let len ← addU64 (2 ^ 64 - 1) 1
      return some len) := by
    unfold rangeLen
    rw [hend, hstart]
    dsimp only
    rw [hones]
    rfl
  rw [hlen]
  unfold addU64
  rw [if_neg (by decide)]
  by_cases hchecks : Build.overflowChecks = true
  · rw [if_pos hchecks]
    exact Or.inl rfl
  · rw [if_neg hchecks]
    exact Or.inr rfl

theorem addU64_unlimited (a b : ℕ) : (addU64 a b).Unlimited :=
  Unlimited.ite (Unlimited.pure _)
    (Unlimited.ite Unlimited.panic (Unlimited.pure _))

theorem STArrayAccessor.iterRange_unlimited :
    (iterRange range storage array).Unlimited := by
  have hlen : (rangeLen range array).Unlimited := by
    unfold rangeLen
    cases range.endBound with
    | unbounded => exact Unlimited.pure _
    | excluded e => exact Unlimited.pure _
    | included e =>
        dsimp only
        cases checkedSubU64 e.toNat range.start with
        | none => exact Unlimited.pure _
        | some len =>
            exact (addU64_unlimited len 1).bind fun _ => Unlimited.pure _
  unfold iterRange
  apply hlen.bind
  intro len
  cases len with
  | none => exact Unlimited.pure _
  | some len => exact array.iterRange_unlimited storage range.start len

theorem STArrayAccessor.iterRange_spec (hno : ¬ range.WrapsAround)
    (h : Owned storage R) (hheld : ∀ ptr ∈ array.ptrs, 0 < R ptr)
    (hshows : Represents storage array content value)
    (hsize : content.size < 2 ^ 64) :
    (iterRange range storage array).Ensures fun r =>
      r = range.items content := by
  have hlen : array.len = content.size := hshows.size
  unfold iterRange IndexRange.items
  rw [rangeLen_eq hno, pure_bind, hlen]
  cases range.length content.size with
  | none => exact Ensures.pure rfl
  | some len =>
      exact Instance.iterRange_spec h (by decide) hheld hshows range.start len
        hsize

theorem STArrayAccessorMut.iterRange_unlimited :
    (iterRange range storage array).Unlimited := by
  unfold iterRange
  apply Unlimited.ite (Unlimited.pure _)
  apply Unlimited.bind _ fun _ => Unlimited.pure _
  apply Unlimited.mapM
  intro i
  exact (array.get_unlimited storage i).bind fun x => Unlimited.unwrap x

theorem STArrayAccessorMut.iterRange_spec (h : Owned storage R)
    (hheld : ∀ ptr ∈ array.ptrs, 0 < R ptr)
    (hshows : Represents storage array content value) :
    (iterRange range storage array).Ensures fun r =>
      r = range.itemsMut content := by
  have hlen : array.len = content.size := hshows.size
  have hstop : rangeEnd range array = range.stop content.size := by
    unfold rangeEnd IndexRange.stop
    rw [hlen]
  unfold iterRange IndexRange.itemsMut
  dsimp only
  rw [hstop, hlen]
  by_cases hout :
      content.size ≤ range.stop content.size ∨ content.size ≤ range.start
  · rw [if_pos hout, if_pos hout]
    exact Ensures.pure rfl
  · rw [if_neg hout, if_neg hout]
    rw [not_or] at hout
    have hget : ∀ i ∈ List.range' range.start
        (range.stop content.size - range.start),
        (do
          let x ← array.get storage i
          unwrap x : Limited T).Ensures fun x => x = content.elem i := by
      intro i hi
      have hbounds := List.mem_range'_1.1 hi
      apply Ensures.bind (Instance.get_spec h (by decide) hheld hshows i)
      intro x hx
      apply Ensures.unwrap
      rw [hx]
      unfold Flat.get
      rw [if_pos (by omega)]
    apply Ensures.bind (Ensures.mapM hget)
    intro items hitems
    apply Ensures.pure
    unfold Flat.read
    rw [hitems, if_pos (by omega), List.range'_eq_map_range, List.map_map]
    rfl

/-! ## In a space time -/

variable {ι : Type} [DecidableEq ι] {A : Type → Type} [Arena A]
  [LawfulArena A] {Ty : ι → Type}

namespace SpaceTime

variable {space : SpaceTime A Ty} {leak : Refs ι} {τ : ι} {id : Index}
  {inst : Instance}

/-- The first accessor looks at the pages of the array that the id names. -/
theorem arrayIterRange_eq (h : Valid space leak)
    (harray : space.arrayAt id = some ⟨inst, τ⟩) :
    space.arrayIterRange τ id range = (do
      let items ←
        STArrayAccessor.iterRange range (space.storage.arrays τ) inst
      return .ok items) := by
  obtain ⟨snapshot, hsnapshot⟩ := h.headSnapshot
  have hget : Arena.get id snapshot.instances = some ⟨inst, τ⟩ := by
    rw [← arrayAt_eq hsnapshot]
    exact harray
  have hheld := h.array_held harray
  have hsome := h.held.arrayStorage_of_pos (hheld _ List.mem_cons_self)
  unfold arrayIterRange
  rw [getHead_spec hsnapshot, pure_bind, hget]
  dsimp only
  rw [hsome, unwrap_some, pure_bind]

variable {content : Flat (Ty τ)} {value : Ty τ}

theorem arrayIterRange_items (h : Valid space leak)
    (hno : ¬ range.WrapsAround)
    (harray : space.arrayAt id = some ⟨inst, τ⟩)
    (hshows : Represents (space.storage.arrays τ) inst content value)
    (hsize : content.size < 2 ^ 64) :
    (space.arrayIterRange τ id range).result
      = .ok (.ok (range.items content)) := by
  obtain ⟨r, hresult, hr⟩ := STArrayAccessor.iterRange_unlimited.ok_of_ensures
    (STArrayAccessor.iterRange_spec hno (h.held.pages τ) (h.array_held harray)
      hshows hsize)
  rw [arrayIterRange_eq h harray, (bind_of_ok hresult _).1, hr]
  rfl

/-- The range that wraps around is taken for an empty one, if the sum does
not panic. -/
theorem arrayIterRange_wraps (h : Valid space leak) (hwraps : range.WrapsAround)
    (harray : space.arrayAt id = some ⟨inst, τ⟩)
    (hshows : Represents (space.storage.arrays τ) inst content value)
    (hsize : content.size < 2 ^ 64) :
    (space.arrayIterRange τ id range).result = .error .panic ∨
      (space.arrayIterRange τ id range).result = .ok (.ok (some [])) := by
  rw [arrayIterRange_eq h harray]
  unfold STArrayAccessor.iterRange
  have hlen : STArrayAccessor.rangeLen range inst = panic ∨
      STArrayAccessor.rangeLen range inst = pure (some 0) :=
    STArrayAccessor.rangeLen_wraps hwraps
  rcases hlen with hlen | hlen
  · rw [hlen]
    exact Or.inl rfl
  · have hread : content.read 0 0 = some [] := by
      unfold Flat.read
      rw [if_pos (Nat.zero_le _)]
      rfl
    obtain ⟨r, hresult, hr⟩ := (inst.iterRange_unlimited
      (space.storage.arrays τ) 0 0).ok_of_ensures
        (Instance.iterRange_spec (h.held.pages τ) (by decide)
          (h.array_held harray) hshows 0 0 hsize)
    rw [hlen, pure_bind, hwraps.1]
    dsimp only
    rw [(bind_of_ok hresult _).1, hr, hread]
    exact Or.inr rfl

/-- The second accessor, after HEAD is made dirty. -/
theorem arrayMutIterRange_items (h : Valid space leak)
    (harray : space.arrayAt id = some ⟨inst, τ⟩)
    (hshows : Represents (space.storage.arrays τ) inst content value)
    (hwithin : (space.arrayMutIterRange τ id range).exceeded = false) :
    ∃ space', (space.arrayMutIterRange τ id range).result
      = .ok (.ok (range.itemsMut content), space') := by
  have hroomy : (space.arrayMutIterRange τ id range).Roomy := by
    unfold arrayMutIterRange
    apply space.getHeadMut_roomy.bind
    rintro ⟨snapshot, space'⟩
    dsimp only
    cases Arena.get id snapshot.instances with
    | none => exact Roomy.pure _
    | some array =>
        apply (Roomy.unwrap _).bind
        intro s
        exact Roomy.bind STArrayAccessorMut.iterRange_unlimited.room
          fun _ => Roomy.pure _
  have hspec : (space.arrayMutIterRange τ id range).Ensures fun r =>
      r.1 = .ok (range.itemsMut content) := by
    unfold arrayMutIterRange
    apply Ensures.bind (getHeadMut_spec h)
    rintro ⟨snapshot, space'⟩ ⟨hhead, hedits, hkept⟩
    dsimp only at hhead hedits hkept ⊢
    have hget : Arena.get id snapshot.instances = some ⟨inst, τ⟩ := by
      rw [← arrayAt_eq hhead]
      exact harray
    have harray' : space'.arrayAt id = some ⟨inst, τ⟩ := by
      simp [arrayAt, headSnapshot, hedits.head, hget]
    have hheld := hedits.valid.array_held harray'
    have hsome := hedits.valid.held.arrayStorage_of_pos
      (hheld _ List.mem_cons_self)
    have hshows' := represents_kept hshows hkept
    rw [hget]
    dsimp only
    apply Ensures.bind (Ensures.unwrap hsome)
    intro s hs
    subst hs
    apply Ensures.bind (STArrayAccessorMut.iterRange_spec
      (hedits.valid.held.pages τ) hheld hshows')
    intro items hitems
    exact Ensures.pure (by rw [hitems])
  obtain ⟨⟨reply, space'⟩, hresult, hreply⟩ := hroomy.ok_of_ensures hspec hwithin
  dsimp only at hreply
  rw [hreply] at hresult
  exact ⟨space', hresult⟩

theorem Valid.iterRange_alike (h : Valid space leak)
    (harray : space.arrayAt id = some ⟨inst, τ⟩)
    (hwithin : (space.arrayMutIterRange τ id range).exceeded = false) :
    (∃ items space', (space.arrayIterRange τ id range).result = .ok (.ok items) ∧
      (space.arrayMutIterRange τ id range).result
        = .ok (.ok items, space')) ↔ range.AlikeFor inst.len := by
  obtain ⟨content, value, hshows, hsize⟩ := h.shows_of_arrayAt harray
  obtain ⟨space', hmut⟩ := arrayMutIterRange_items h harray hshows hwithin
  have hlen : inst.len = content.size := hshows.size
  rw [hlen, hmut]
  by_cases hwraps : range.WrapsAround
  · have hnot := IndexRange.not_alikeFor_of_wraps hwraps content.size
    rw [IndexRange.itemsMut_of_wraps hwraps hsize]
    constructor
    · rintro ⟨items, space'', hitems, hitems'⟩
      have hright := Except.ok.inj (congrArg Prod.fst (Except.ok.inj hitems'))
      rcases arrayIterRange_wraps h hwraps harray hshows hsize with hpanic | hok
      · rw [hpanic] at hitems
        exact nomatch hitems
      · rw [hok, ← hright] at hitems
        exact nomatch hitems
    · intro halike
      exact absurd halike hnot
  · rw [arrayIterRange_items h hwraps harray hshows hsize,
      ← IndexRange.items_eq_itemsMut_iff hwraps]
    constructor
    · rintro ⟨items, space'', hitems, hitems'⟩
      have hleft := Except.ok.inj (Except.ok.inj hitems)
      have hright := Except.ok.inj (congrArg Prod.fst (Except.ok.inj hitems'))
      rw [hleft, hright]
    · intro heq
      exact ⟨_, space', rfl, by rw [heq]⟩

/-- `iter_range` is `None` iff a slice of `n` elements panics for the range;
otherwise it goes through the elements in the range one after the other. -/
def FollowsSlice (τ : ι) (id : Index) (range : IndexRange) (n : ℕ)
    (space : SpaceTime A Ty) : Prop :=
  ∃ items, (space.arrayIterRange τ id range).result = .ok (.ok items) ∧
    match range.slice n with
    | none => items = none
    | some (start, stop) => ∃ list, items = some list ∧
        list.length = stop - start ∧
        ∀ k, k < stop - start →
          (space.getArray τ id (.get (BitVec.ofNat 64 (start + k)))).result
            = .ok (.ok (list[k]?.map fun x => [x]))

/-- Those elements, of a flat array. -/
theorem Valid.getArray_elem (h : Valid space leak)
    (harray : space.arrayAt id = some ⟨inst, τ⟩)
    (hshows : Represents (space.storage.arrays τ) inst content value)
    (hsize : content.size < 2 ^ 64) {i : ℕ} (hi : i < content.size) :
    (space.getArray τ id (.get (BitVec.ofNat 64 i))).result
      = .ok (.ok (some [content.elem i])) := by
  have htoNat : (BitVec.ofNat 64 i).toNat = i := by
    rw [BitVec.toNat_ofNat]
    omega
  rw [getArray_some h _ harray hshows hsize]
  unfold ReadAccess.apply Flat.get
  dsimp only
  rw [htoNat, if_pos hi, Option.map_some]

theorem followsSlice_iff (h : Valid space leak)
    (harray : space.arrayAt id = some ⟨inst, τ⟩)
    (hshows : Represents (space.storage.arrays τ) inst content value)
    (hsize : content.size < 2 ^ 64) {items : Option (List (Ty τ))}
    (hitems : (space.arrayIterRange τ id range).result = .ok (.ok items)) :
    space.FollowsSlice τ id range content.size ↔
      items = (range.slice content.size).bind fun r =>
        content.read r.1 (r.2 - r.1) := by
  unfold FollowsSlice
  rw [hitems]
  cases hslice : range.slice content.size with
  | none =>
      dsimp only
      rw [Option.bind_none]
      constructor
      · rintro ⟨items', heq, hnone⟩
        rw [Except.ok.inj (Except.ok.inj heq), hnone]
      · intro hnone
        exact ⟨items, rfl, hnone⟩
  | some r =>
      obtain ⟨start, stop⟩ := r
      have hbounds := IndexRange.slice_bounds hslice
      have hget : ∀ k, k < stop - start →
          (space.getArray τ id (.get (BitVec.ofNat 64 (start + k)))).result
            = .ok (.ok (some [content.elem (start + k)])) := by
        intro k hk
        exact h.getArray_elem harray hshows hsize (by omega)
      obtain ⟨elems, helems⟩ := Option.ne_none_iff_exists'.1
        (Flat.read_ne_none content start (stop - start) (by omega))
      dsimp only
      rw [Option.bind_some, helems]
      constructor
      · rintro ⟨items', heq, list, hlist, hlength, hall⟩
        rw [Except.ok.inj (Except.ok.inj heq), hlist, Option.some.injEq]
        apply List.ext_getElem?
        intro k
        by_cases hk : k < stop - start
        · have hk' := hall k hk
          rw [hget k hk, Except.ok.injEq, Except.ok.injEq] at hk'
          rw [Flat.getElem?_read helems hk]
          cases hx : list[k]? with
          | none =>
              rw [hx] at hk'
              exact nomatch hk'
          | some x =>
              rw [hx] at hk'
              rw [(List.cons.inj (Option.some.inj hk')).1]
        · have hlength' := Flat.length_read helems
          rw [List.getElem?_eq_none (by omega), List.getElem?_eq_none (by omega)]
      · intro heq
        refine ⟨items, rfl, elems, heq, Flat.length_read helems, ?_⟩
        intro k hk
        rw [hget k hk, Flat.getElem?_read helems hk]
        rfl

theorem Valid.iterRange_slice (h : Valid space leak)
    (harray : space.arrayAt id = some ⟨inst, τ⟩) :
    space.FollowsSlice τ id range inst.len ↔ ¬ range.Strays inst.len := by
  obtain ⟨content, value, hshows, hsize⟩ := h.shows_of_arrayAt harray
  have hlen : inst.len = content.size := hshows.size
  have hroom := hshows.room_of_layers content.size
  have hcapacity : capacity 3 = 2 ^ 24 := by decide
  rw [hcapacity, Nat.min_self] at hroom
  have hsmall : content.size < 2 ^ 64 - 1 := by omega
  rw [hlen]
  by_cases hwraps : range.WrapsAround
  · have hslice := IndexRange.slice_of_wraps hwraps content.size
    constructor
    · intro hfollows
      rcases arrayIterRange_wraps h hwraps harray hshows hsize with
        hpanic | hok
      · obtain ⟨items, hitems, _⟩ := hfollows
        rw [hpanic] at hitems
        exact nomatch hitems
      · rw [followsSlice_iff h harray hshows hsize hok, hslice] at hfollows
        exact nomatch hfollows
    · intro hno
      exact absurd (Or.inl hwraps) hno
  · rw [followsSlice_iff h harray hshows hsize
      (arrayIterRange_items h hwraps harray hshows hsize)]
    exact IndexRange.items_eq_slice_iff hsmall hwraps

end SpaceTime

/-! ## In all states of a run -/

variable {space : SpaceTime A Ty} {τ : ι} {id : Index} {inst : Instance}

/-- The accessors of `get_array` and `get_array_mut` return the same for these
ranges, and for no others. -/
theorem Reachable.iterRange_alike_iff
    (h : Reachable (fun op space => op.Typed space ∧ op.Within space) space)
    (harray : space.arrayAt id = some ⟨inst, τ⟩) (range : IndexRange)
    (hwithin : (space.arrayMutIterRange τ id range).exceeded = false) :
    (∃ items space', (space.arrayIterRange τ id range).result = .ok (.ok items) ∧
      (space.arrayMutIterRange τ id range).result
        = .ok (.ok items, space')) ↔ range.AlikeFor inst.len := by
  obtain ⟨leak, hvalid⟩ := h.valid fun _ _ hop => hop
  exact hvalid.iterRange_alike harray hwithin

/-- `iter_range` follows the rules for slices except for these ranges. -/
theorem Reachable.iterRange_slice_iff
    (h : Reachable (fun op space => op.Typed space ∧ op.Within space) space)
    (harray : space.arrayAt id = some ⟨inst, τ⟩) (range : IndexRange) :
    space.FollowsSlice τ id range inst.len ↔ ¬ range.Strays inst.len := by
  obtain ⟨leak, hvalid⟩ := h.valid fun _ _ hop => hop
  exact hvalid.iterRange_slice harray

end Build

/-- A space time with one array of two elements. -/
def twoElements : SpaceTime GenArena fun _ : Unit => Bool :=
  @Operation.after _ _ _ _ _ Build.debug (.insertArray () true 2) .new

theorem twoElements_reachable : @Reachable _ _ _ _ _ Build.debug
    (fun op space => op.Typed space ∧
      @Operation.Within _ _ _ _ _ Build.debug op space) twoElements := by
  have hnew := @Reachable.new Unit _ GenArena _ (fun _ => Bool) Build.debug
    (fun op space => op.Typed space ∧
      @Operation.Within _ _ _ _ _ Build.debug op space)
  have hwithin : @Operation.Within Unit _ GenArena _ (fun _ => Bool)
      Build.debug (.insertArray () true 2) .new := by
    unfold Operation.Within
    decide +kernel
  exact @Reachable.after _ _ _ _ _ Build.debug _ _ hnew
    (.insertArray () true 2) ⟨True.intro, hwithin⟩

theorem twoElements_array :
    twoElements.arrayAt ⟨0, 0⟩ = some ⟨⟨⟨0⟩, [⟨0⟩], 2⟩, ()⟩ := by
  decide +kernel

/-- `0..=7`, past the end. -/
def pastEnd : IndexRange where
  startBound := .included 0
  endBound := .included 7

/-- Both accessors refuse the range. -/
theorem Reachable.iterRange_alike_iff_pastEnd : ∃ items space',
    (@SpaceTime.arrayIterRange Build.debug _ _ _ _ () ⟨0, 0⟩ pastEnd
      twoElements).result = .ok (.ok items) ∧
    (@SpaceTime.arrayMutIterRange Build.debug _ _ _ _ _ () ⟨0, 0⟩ pastEnd
      twoElements).result = .ok (.ok items, space') := by
  refine (@Reachable.iterRange_alike_iff Build.debug _ _ _ _ _ _ _ _ _ _
    twoElements_reachable twoElements_array pastEnd ?_).2 (by decide)
  decide +kernel

/-- `..` -/
def wholeRange : IndexRange where
  startBound := .unbounded
  endBound := .unbounded

/-- The accessor that reads goes through the two elements, the other one says
that the range is out of bounds. -/
theorem iterRange_not_alike : ¬ ∃ items space',
    (@SpaceTime.arrayIterRange Build.debug _ _ _ _ () ⟨0, 0⟩ wholeRange
      twoElements).result = .ok (.ok items) ∧
    (@SpaceTime.arrayMutIterRange Build.debug _ _ _ _ _ () ⟨0, 0⟩ wholeRange
      twoElements).result = .ok (.ok items, space') := by
  obtain ⟨leak, hvalid⟩ := @Reachable.valid _ _ _ _ _ Build.debug _ _
    (fun _ _ hop => hop) _ twoElements_reachable
  have hwithin : (@SpaceTime.arrayMutIterRange Build.debug _ _ _ _ _ ()
      ⟨0, 0⟩ wholeRange twoElements).exceeded = false := by decide +kernel
  rw [@SpaceTime.Valid.iterRange_alike Build.debug _ _ _ _ _ _ _ _ _ _ _ _
    hvalid twoElements_array hwithin]
  decide

/-- The accessor that reads goes through both elements, as a slice does. -/
theorem Reachable.iterRange_slice_iff_wholeRange :
    @SpaceTime.FollowsSlice Build.debug _ _ _ _ () ⟨0, 0⟩ wholeRange 2
      twoElements := by
  refine (@Reachable.iterRange_slice_iff Build.debug _ _ _ _ _ _ _ _ _ _
    twoElements_reachable twoElements_array wholeRange).2 ?_
  rintro (hwraps | ⟨e, hend, _⟩)
  · exact nomatch hwraps.2
  · exact nomatch hend

/-- `1..=0`, empty for a slice. -/
def emptyRange : IndexRange where
  startBound := .included 1
  endBound := .included 0

/-- `iter_range` says that it is out of bounds. -/
theorem not_followsSlice : ¬ @SpaceTime.FollowsSlice Build.debug _ _ _ _ ()
    ⟨0, 0⟩ emptyRange 2 twoElements := by
  obtain ⟨leak, hvalid⟩ := @Reachable.valid _ _ _ _ _ Build.debug _ _
    (fun _ _ hop => hop) _ twoElements_reachable
  intro hfollows
  have hno := (@SpaceTime.Valid.iterRange_slice Build.debug _ _ _ _ _ _ _ _
    _ _ _ _ hvalid twoElements_array).1 hfollows
  exact hno (Or.inr ⟨0, rfl, by decide⟩)

end RedPlanet.SpaceTime
