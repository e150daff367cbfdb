import RedPlanet.Core.Basic
import RedPlanet.Verified.Limited

/-!
# Ranges over pages

`read_impl`, `write_impl` and `iter_range_impl` of `array_storage.rs`, and the
`read`, `write` and `iter_range` of an instance, all cut a range of indices
into pieces that lie in one page each.  The arithmetic is the same everywhere:
`spans` for the first and `ranges` for the iterators.

`Tiles` says what both compute: the pieces follow each other, and together
they are the range (`spans_spec`, `ranges_spec`).  None of the additions and
products overflows as long as the range lies within the array.
-/

namespace RedPlanet.SpaceTime

open RedPlanet.Core RedPlanet.Verified Limited

variable {α : Type}

/-! ## `u64` arithmetic -/

section Build

variable [Build]

/-- `a * b` of two `u64`. -/
def mulU64 (a b : ℕ) : Limited ℕ :=
  if a * b < 2 ^ 64 then pure (a * b)
  else if Build.overflowChecks then panic
  else pure (a * b % 2 ^ 64)

/-- `a - b` of two `u64`. -/
def subU64 (a b : ℕ) : Limited ℕ :=
  if b ≤ a then pure (a - b)
  else if Build.overflowChecks then panic
  else pure (2 ^ 64 + a - b)

/-- `a.pow(b)` of a `u64`. -/
def powU64 (a b : ℕ) : Limited ℕ :=
  if a ^ b < 2 ^ 64 then pure (a ^ b)
  else if Build.overflowChecks then panic
  else pure (a ^ b % 2 ^ 64)

end Build

def divU64 (a b : ℕ) : Limited ℕ := if b = 0 then panic else pure (a / b)

/-- `a.div_ceil(b)`. -/
def divCeilU64 (a b : ℕ) : Limited ℕ :=
  if b = 0 then panic else pure ((a + (b - 1)) / b)

/-! ## Slices -/

/-- `&buf[start..stop]`. -/
def slice (buf : List α) (start stop : ℕ) : Limited (List α) :=
  if start ≤ stop ∧ stop ≤ buf.length then
    pure ((buf.take stop).drop start)
  else panic

/-- `buf[start..]` begins with the elements of `part` now. -/
def splice (buf : List α) (start : ℕ) (part : List α) : List α :=
  buf.take start ++ part ++ buf.drop (start + part.length)

/-! ## Spans -/

/-- The elements `start..stop` of the buffer are those from `index` on in the
page. -/
structure Span where
  page : ℕ
  index : ℕ
  start : ℕ
  stop : ℕ
deriving DecidableEq, Repr

section Build

variable [Build]

/-- The iterations of the loops in `read_impl` and `write_impl`.  The sum of
`index` and `len` fits: it was compared with the length of the array. -/
def spans (divisor index len : ℕ) : Limited (List Span) := do
  let firstPage ← divU64 index divisor
  let lastPage ← divCeilU64 (index + len) divisor
  let pageIndex := index - firstPage * divisor
  (List.range (lastPage - firstPage)).mapM fun i => do
    let low ← mulU64 i divisor
    let high ← mulU64 (i + 1) divisor
    let stop ← subU64 high pageIndex
    return { page := firstPage + i
             index := if i = 0 then pageIndex else 0
             start := low - pageIndex
             stop := min stop len }

/-- The iterations of the closure in `iter_range_impl`. -/
def ranges (divisor index len : ℕ) : Limited (List Span) := do
  let firstPage ← divU64 index divisor
  let lastPage ← divCeilU64 (index + len) divisor
  let pageIndex := index - firstPage * divisor
  (List.range (lastPage - firstPage)).mapM fun i => do
    let index := if i = 0 then pageIndex else 0
    let low ← mulU64 i divisor
    let start := low - pageIndex
    let left ← subU64 len start
    let room ← subU64 divisor index
    return { page := firstPage + i
             index := index
             start := start
             stop := start + min room left }

end Build

/-- The spans are what is left of the range when `first` elements of the
buffer are done. -/
def Tiles (divisor index len : ℕ) : ℕ → List Span → Prop
  | first, [] => first = len
  | first, span :: rest =>
      (span.start = first ∧ first ≤ span.stop ∧ span.stop ≤ len) ∧
      (span.page * divisor + span.index = index + first ∧
        span.index + (span.stop - first) ≤ divisor) ∧
      span.page < (index + len + (divisor - 1)) / divisor ∧
      Tiles divisor index len span.stop rest

/-- One piece of the range. -/
def piece (divisor index len i : ℕ) : Span where
  page := index / divisor + i
  index := if i = 0 then index % divisor else 0
  start := i * divisor - index % divisor
  stop := min ((i + 1) * divisor - index % divisor) len

theorem lt_divCeil_iff {x d j : ℕ} (hpos : 0 < d) :
    j < (x + (d - 1)) / d ↔ j * d < x := by
  have hstep : (j + 1) * d = j * d + d := Nat.succ_mul j d
  rw [Nat.lt_iff_add_one_le, Nat.le_div_iff_mul_le hpos, hstep]
  omega

/-- The pages that the pieces lie in, compared with the end of the range. -/
theorem piece_lt_iff {divisor index len j : ℕ} (hpos : 0 < divisor) :
    index / divisor + j < (index + len + (divisor - 1)) / divisor ↔
      j * divisor < index % divisor + len := by
  have hindex := Nat.div_add_mod' index divisor
  rw [lt_divCeil_iff hpos, Nat.add_mul]
  omega

/-- A span of a range that fits into `count` pages lies in one of them. -/
theorem Tiles.page_lt {divisor index len first count : ℕ} {span : Span}
    {rest : List Span} (hpos : 0 < divisor)
    (h : Tiles divisor index len first (span :: rest))
    (hfits : index + len ≤ count * divisor) : span.page < count := by
  obtain ⟨_, _, hlast, _⟩ := h
  rw [lt_divCeil_iff hpos] at hlast
  exact Nat.lt_of_mul_lt_mul_right (Nat.lt_of_lt_of_le hlast hfits)

/-- The pieces from `i` on, `k` of them. -/
theorem tiles_pieces {divisor index len : ℕ} (hpos : 0 < divisor) (k i : ℕ)
    (hk : index / divisor + (i + k)
      = (index + len + (divisor - 1)) / divisor) :
    Tiles divisor index len
      (if k = 0 then len else i * divisor - index % divisor)
      ((List.range' i k).map (piece divisor index len)) := by
  have hindex : index / divisor * divisor + index % divisor = index :=
    Nat.div_add_mod' index divisor
  have hmod : index % divisor < divisor := Nat.mod_lt _ hpos
  induction k generalizing i with
  | zero => exact rfl
  | succ k ih =>
      have hsucc : (i + 1) * divisor = i * divisor + divisor :=
        Nat.succ_mul i divisor
      have hpage := fun j => @piece_lt_iff divisor index len j hpos
      have hthis := (hpage i).1 (by omega)
      have hrest := ih (i + 1) (by omega)
      have hstop : (if k = 0 then len
            else (i + 1) * divisor - index % divisor)
          = min ((i + 1) * divisor - index % divisor) len := by
        by_cases hlast : k = 0
        · have hnot := (not_congr (hpage (i + 1))).1 (by omega)
          rw [if_pos hlast]
          omega
        · have hnext := (hpage (i + 1)).1 (by omega)
          rw [if_neg hlast]
          omega
      rw [if_neg (Nat.succ_ne_zero k), List.range'_succ, List.map_cons]
      rw [hstop] at hrest
      refine ⟨⟨rfl, ?_, Nat.min_le_right _ _⟩, ⟨?_, ?_⟩, ?_, hrest⟩
      · show i * divisor - index % divisor
          ≤ min ((i + 1) * divisor - index % divisor) len
        omega
      · show (index / divisor + i) * divisor
            + (if i = 0 then index % divisor else 0)
          = index + (i * divisor - index % divisor)
        rw [Nat.add_mul]
        by_cases hi : i = 0
        · rw [if_pos hi, hi]
          omega
        · have hle : divisor ≤ i * divisor :=
            Nat.le_mul_of_pos_left _ (Nat.pos_of_ne_zero hi)
          rw [if_neg hi]
          omega
      · show (if i = 0 then index % divisor else 0)
            + (min ((i + 1) * divisor - index % divisor) len
              - (i * divisor - index % divisor)) ≤ divisor
        by_cases hi : i = 0
        · rw [if_pos hi]
          subst hi
          omega
        · have hle : divisor ≤ i * divisor :=
            Nat.le_mul_of_pos_left _ (Nat.pos_of_ne_zero hi)
          rw [if_neg hi]
          omega
      · show index / divisor + i < _
        omega

/-- All pieces of a range. -/
theorem tiles_range {divisor index len : ℕ} (hpos : 0 < divisor) :
    Tiles divisor index len 0
      ((List.range ((index + len + (divisor - 1)) / divisor
        - index / divisor)).map (piece divisor index len)) := by
  have hle : index / divisor ≤ (index + len + (divisor - 1)) / divisor :=
    Nat.div_le_div_right (by omega)
  have hcount : index / divisor
        + (0 + ((index + len + (divisor - 1)) / divisor - index / divisor))
      = (index + len + (divisor - 1)) / divisor := by omega
  have hfirst := tiles_pieces hpos _ 0 hcount
  rw [List.range_eq_range']
  by_cases hnone :
      (index + len + (divisor - 1)) / divisor - index / divisor = 0
  · have hlen : len = 0 := by
      have hnot : ¬ index / divisor
          < (index + len + (divisor - 1)) / divisor := by omega
      rw [lt_divCeil_iff hpos] at hnot
      have hindex := Nat.div_add_mod' index divisor
      omega
    rw [if_pos hnone, hlen] at hfirst
    rw [hlen]
    exact hfirst
  · rw [if_neg hnone, Nat.zero_mul, Nat.zero_sub] at hfirst
    exact hfirst

/-! ## What the loops compute -/

theorem mapM_spec {β : Type} {f : α → Limited β} {g : α → β} (l : List α)
    (h : ∀ a ∈ l, (f a).Ensures fun b => b = g a) :
    (l.mapM f).Ensures fun bs => bs = l.map g := by
  induction l with
  | nil => exact Ensures.pure rfl
  | cons a l ih =>
      rw [List.mapM_cons]
      apply Ensures.bind (h a List.mem_cons_self)
      intro b hb
      apply Ensures.bind (ih fun x hx => h x (List.mem_cons_of_mem _ hx))
      intro bs hbs
      rw [hb, hbs]
      exact Ensures.pure rfl

/-- Where each iteration computes its piece, the loop cuts up the range. -/
theorem ensures_tiles {divisor index len : ℕ} (hpos : 0 < divisor)
    {f : ℕ → Limited Span}
    (hf : ∀ i, i * divisor < index % divisor + len →
      (f i).Ensures fun span => span = piece divisor index len i) :
    ((List.range ((index + len + (divisor - 1)) / divisor
        - index / divisor)).mapM f).Ensures fun list =>
      Tiles divisor index len 0 list := by
  refine (mapM_spec (g := piece divisor index len) _ ?_).imp ?_
  · intro i hi
    have hlt := List.mem_range.1 hi
    exact hf i ((piece_lt_iff hpos).1 (by omega))
  · intro list hlist
    rw [hlist]
    exact tiles_range hpos

theorem divU64_spec {a b : ℕ} (h : 0 < b) :
    (divU64 a b).Ensures fun c => c = a / b := by
  unfold divU64
  rw [if_neg (by omega)]
  exact Ensures.pure rfl

theorem divCeilU64_spec {a b : ℕ} (h : 0 < b) :
    (divCeilU64 a b).Ensures fun c => c = (a + (b - 1)) / b := by
  unfold divCeilU64
  rw [if_neg (by omega)]
  exact Ensures.pure rfl

section Build

variable [Build]

theorem mulU64_spec {a b : ℕ} (h : a * b < 2 ^ 64) :
    (mulU64 a b).Ensures fun c => c = a * b := by
  unfold mulU64
  rw [if_pos h]
  exact Ensures.pure rfl

theorem subU64_spec {a b : ℕ} (h : b ≤ a) :
    (subU64 a b).Ensures fun c => c = a - b := by
  unfold subU64
  rw [if_pos h]
  exact Ensures.pure rfl

/-- The loops of `read_impl` and `write_impl`, when no product overflows. -/
theorem spans_spec {divisor index len : ℕ} (hpos : 0 < divisor)
    (hfits : len + 2 * divisor ≤ 2 ^ 64) :
    (spans divisor index len).Ensures fun list =>
      Tiles divisor index len 0 list := by
  have hindex := Nat.div_add_mod' index divisor
  have hmod : index % divisor < divisor := Nat.mod_lt _ hpos
  unfold spans
  apply Ensures.bind (divU64_spec hpos)
  intro firstPage hfirstPage
  apply Ensures.bind (divCeilU64_spec hpos)
  intro lastPage hlastPage
  subst hfirstPage hlastPage
  apply ensures_tiles hpos
  intro i hstart
  have hsucc : (i + 1) * divisor = i * divisor + divisor :=
    Nat.succ_mul i divisor
  have hrest : index - index / divisor * divisor = index % divisor := by
    omega
  rw [hrest]
  apply Ensures.bind (mulU64_spec (by omega))
  intro low hlow
  apply Ensures.bind (mulU64_spec (by omega))
  intro high hhigh
  subst hlow hhigh
  apply Ensures.bind (subU64_spec (by omega))
  intro stop hstop
  subst hstop
  exact Ensures.pure rfl

/-- The closure of `iter_range_impl` cuts the range in the same way. -/
theorem ranges_spec {divisor index len : ℕ} (hpos : 0 < divisor)
    (hfits : index + len < 2 ^ 64) :
    (ranges divisor index len).Ensures fun list =>
      Tiles divisor index len 0 list := by
  have hindex := Nat.div_add_mod' index divisor
  have hmod : index % divisor < divisor := Nat.mod_lt _ hpos
  unfold ranges
  apply Ensures.bind (divU64_spec hpos)
  intro firstPage hfirstPage
  apply Ensures.bind (divCeilU64_spec hpos)
  intro lastPage hlastPage
  subst hfirstPage hlastPage
  apply ensures_tiles hpos
  intro i hstart
  have hsucc : (i + 1) * divisor = i * divisor + divisor :=
    Nat.succ_mul i divisor
  have hrest : index - index / divisor * divisor = index % divisor := by
    omega
  rw [hrest]
  apply Ensures.bind (mulU64_spec (by omega))
  intro low hlow
  subst hlow
  apply Ensures.bind (subU64_spec (by omega))
  intro left hleft
  have hpage : (if i = 0 then index % divisor else 0) ≤ divisor := by
    split <;> omega
  apply Ensures.bind (subU64_spec hpage)
  intro room hroom
  apply Ensures.pure
  subst hleft hroom
  have hstop : i * divisor - index % divisor
        + min (divisor - if i = 0 then index % divisor else 0)
          (len - (i * divisor - index % divisor))
      = min ((i + 1) * divisor - index % divisor) len := by
    by_cases hzero : i = 0
    · subst hzero
      simp only [if_pos]
      omega
    · have hle : divisor ≤ i * divisor :=
        Nat.le_mul_of_pos_left _ (Nat.pos_of_ne_zero hzero)
      rw [if_neg hzero]
      omega
  rw [hstop]
  rfl

end Build

end RedPlanet.SpaceTime
