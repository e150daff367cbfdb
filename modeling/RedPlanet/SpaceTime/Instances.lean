import RedPlanet.SpaceTime.Elements
import RedPlanet.Verified.Flat

/-!
# Arrays

An instance holds its pages and the page it starts with.  `Represents` says
which flat array it shows; every operation does to the instance what the
operation of the flat array does, and those who hold other pages see no
difference.

The operations are those of `ArrayInstance`: a new one, a clone, a read, an
iteration, a write, a reset and its end.  `write_spec` and `reset_spec` change
the pages, and `Updates` is what they have in common.
-/

namespace RedPlanet.SpaceTime

open RedPlanet.Core RedPlanet.Verified Limited

variable {T : Type} {layers : ℕ} {R : TablePtr → ℕ}

/-- What an instance holds. -/
def Instance.ptrs (array : Instance) : List TablePtr :=
  array.resetPage :: array.pages

theorem holding_ptrs (array : Instance) (R : TablePtr → ℕ) :
    holding array.ptrs R = holding array.pages (holding [array.resetPage] R) := by
  unfold Instance.ptrs
  rw [holding_cons, holding_comm]

/-- The instance shows this array, and its reset page this value. -/
structure Represents (storage : ArrayStorage T layers) (array : Instance)
    (content : Flat T) (value : T) : Prop where
  size : array.size = content.size
  count : array.pages.length < 2 ^ 31
  room : array.size ≤ array.pages.length * capacity layers
  elements : ∀ i, i < content.size →
    flat storage array.pages i = some (content.elem i)
  reset : ∀ i, i < capacity layers →
    lookup storage array.resetPage i = some value

/-- The array of those who hold their pages while others change theirs. -/
theorem Represents.keeps {storage storage' : ArrayStorage T layers}
    {array : Instance} {content : Flat T} {value : T}
    (h : Represents storage array content value)
    (hkeeps : Keeps R storage storage')
    (hheld : ∀ ptr ∈ array.ptrs, 0 < R ptr) :
    Represents storage' array content value where
  size := h.size
  count := h.count
  room := h.room
  elements := fun i hi => by
    rw [hkeeps.flat_eq fun ptr hptr => hheld ptr (List.mem_cons_of_mem _ hptr)]
    exact h.elements i hi
  reset := fun i hi => by
    rw [hkeeps _ (hheld _ List.mem_cons_self)]
    exact h.reset i hi

/-- Within nine layers, the elements under a pointer can be counted. -/
theorem capacity_lt (h : layers ≤ 9) : 16 * capacity layers ≤ 2 ^ 64 := by
  have hle : capacity layers ≤ PAGE_SIZE ^ 10 :=
    Nat.pow_le_pow_right (by decide) (by omega)
  have hlast : 16 * PAGE_SIZE ^ 10 ≤ 2 ^ 64 := by decide
  omega

/-- The page of an element, and the index in it. -/
theorem index_in_page {size : ℕ} {ptrs : List TablePtr} {index : ℕ}
    (hindex : index < size) (hroom : size ≤ ptrs.length * capacity layers) :
    ∃ ptr, ptrs[index / capacity layers]? = some ptr ∧
      index - index / capacity layers * capacity layers
        = index % capacity layers ∧
      index % capacity layers < capacity layers ∧
      index / capacity layers * capacity layers + index % capacity layers
        = index := by
  have hdiv := Nat.div_add_mod' index (capacity layers)
  have hlt : index / capacity layers < ptrs.length :=
    (Nat.div_lt_iff_lt_mul (capacity_pos layers)).2
      (Nat.lt_of_lt_of_le hindex hroom)
  exact ⟨_, List.getElem?_eq_getElem hlt, by omega,
    Nat.mod_lt _ (capacity_pos layers), hdiv⟩

/-- An element, looked up in its page. -/
theorem Represents.lookup_at {storage : ArrayStorage T layers}
    {array : Instance} {content : Flat T} {value : T} {index : ℕ}
    {ptr : TablePtr} (h : Represents storage array content value)
    (hlt : index < array.size)
    (hptr : array.pages[index / capacity layers]? = some ptr) :
    lookup storage ptr (index % capacity layers)
      = some (content.elem index) := by
  have hsize := h.size
  have hmod := Nat.mod_lt index (capacity_pos layers)
  rw [← flat_at hptr hmod, Nat.div_add_mod']
  exact h.elements index (by omega)

/-- The array after a write, with the other holders as they were. -/
structure Updates (storage storage' : ArrayStorage T layers)
    (array' : Instance) (content' : Flat T) (value : T) (R : TablePtr → ℕ) :
    Prop where
  owned : Owned storage' (holding array'.ptrs R)
  keeps : Keeps R storage storage'
  shows : Represents storage' array' content' value

theorem Updates.of_writes {storage storage' : ArrayStorage T layers}
    {array : Instance} {ptrs : List TablePtr} {content content' : Flat T}
    {value : T} {index : ℕ} {buf : List T}
    (hshows : Represents storage array content value)
    (h : WritesFlat storage storage' array.pages ptrs
      (holding [array.resetPage] R) index buf)
    (hsize : content'.size = content.size)
    (helem : ∀ i, i < content.size →
      overlay index buf (fun j => some (content.elem j)) i
        = some (content'.elem i)) :
    Updates storage storage' { array with pages := ptrs } content' value R where
  owned := by
    rw [holding_ptrs]
    exact h.owned
  keeps := h.keeps.imp fun _ hq => holding_pos hq _
  shows :=
    { size := hshows.size.trans hsize.symm
      count := by
        rw [h.length]
        exact hshows.count
      room := by
        rw [h.length]
        exact hshows.room
      elements := fun i hi => by
        rw [hsize] at hi
        rw [h.elements, ← helem i hi]
        exact overlay_congr (hshows.elements i hi) _ _
      reset := fun i hi => by
        rw [h.keeps _ (holding_pos_of_mem List.mem_cons_self R)]
        exact hshows.reset i hi }

/-- The elements of a range of the flat array. -/
theorem read_of_reads {storage : ArrayStorage T layers} {array : Instance}
    {content : Flat T} {value : T} (hshows : Represents storage array content value)
    {index len : ℕ} {items : List T} (hfits : index + len ≤ content.size)
    (h : Reads (flat storage array.pages) index len items) :
    content.read index len = some items := by
  unfold Flat.read
  rw [if_pos hfits, Option.some_inj]
  apply List.ext_getElem?
  intro k
  by_cases hk : k < len
  · have hlen : k < (List.range len).length := by simpa using hk
    rw [h.elements k hk, hshows.elements _ (by omega), List.getElem?_map,
      List.getElem?_range hk]
    rfl
  · have hlength := h.length
    rw [List.getElem?_eq_none (by simp; omega),
      List.getElem?_eq_none (by omega)]

section Build

variable [Build]

theorem itemsPerTopLevelPage_spec (h : layers ≤ 9) :
    (ArrayStorage.itemsPerTopLevelPage layers).Ensures
      fun items => items = capacity layers := by
  have hlt := capacity_lt h
  unfold capacity at hlt
  unfold ArrayStorage.itemsPerTopLevelPage powU64
  rw [if_pos (by omega)]
  exact Ensures.pure rfl

/-! ## Creation -/

theorem newInstance_spec {storage : ArrayStorage T layers} (value : T)
    (size : ℕ) (h : Owned storage R) (hlayers : layers ≤ 9) :
    (storage.newInstance value size).Ensures fun r =>
      Owned r.2 (holding r.1.ptrs R) ∧ Keeps R storage r.2 ∧
        Represents r.2 r.1 (Flat.replicate size value) value := by
  unfold ArrayStorage.newInstance
  apply Ensures.bind (ArrayStorage.addTopLevelPage_spec value h)
  rintro ⟨ptr, storage'⟩ ⟨howned, hkeeps, hvalue⟩
  apply Ensures.bind (itemsPerTopLevelPage_spec hlayers)
  intro items hitems
  subst hitems
  apply Ensures.bind (divCeilU64_spec (capacity_pos layers))
  intro count hcount
  dsimp only at howned hkeeps hvalue ⊢
  have hheld : ∀ q ∈ List.replicate count ptr, 0 < holding [ptr] R q := by
    intro q hq
    rw [List.eq_of_mem_replicate hq]
    exact holding_pos_of_mem List.mem_cons_self R
  apply Ensures.bind (ArrayStorage.clonePtrs_spec howned hheld)
  rintro ⟨ptrs, storage''⟩ ⟨hptrs, howned', hlookup⟩
  dsimp only at hptrs howned' hlookup ⊢
  subst hptrs
  have hroom : size ≤ count * capacity layers := by
    rcases Nat.lt_or_ge (count * capacity layers) size with hlt | hge
    · rw [← lt_divCeil_iff (capacity_pos layers)] at hlt
      omega
    · exact hge
  apply Ensures.pure
  refine ⟨?_, hkeeps.trans (Keeps.of_eq hlookup), ⟨rfl, ?_, ?_, ?_, ?_⟩⟩
  · rw [holding_ptrs]
    exact howned'
  · -- all pages are references to the one page
    have hlt := howned'.lt_mask ptr
    unfold holding at hlt
    rw [List.count_replicate_self] at hlt
    rw [List.length_replicate]
    omega
  · rw [List.length_replicate]
    exact hroom
  · intro i hi
    have hi' : i < count * capacity layers := Nat.lt_of_lt_of_le hi hroom
    have hlt : i / capacity layers < count :=
      (Nat.div_lt_iff_lt_mul (capacity_pos layers)).2 hi'
    unfold flat
    rw [List.getElem?_replicate, if_pos hlt, Option.bind_some, hlookup]
    exact hvalue _ (Nat.mod_lt _ (capacity_pos layers))
  · intro i hi
    rw [hlookup]
    exact hvalue i hi

theorem cloneInstance_spec {storage : ArrayStorage T layers}
    {array : Instance} (h : Owned storage R)
    (hheld : ∀ ptr ∈ array.ptrs, 0 < R ptr) :
    (storage.cloneInstance array).Ensures fun r =>
      r.1 = array ∧ Owned r.2 (holding array.ptrs R) ∧
        ∀ q i, lookup r.2 q i = lookup storage q i := by
  unfold ArrayStorage.cloneInstance
  apply Ensures.bind (ArrayStorage.clonePtrs_spec h fun ptr hptr =>
    hheld ptr (List.mem_cons_of_mem _ hptr))
  rintro ⟨ptrs, storage'⟩ ⟨hptrs, howned, hlookup⟩
  dsimp only at hptrs howned hlookup ⊢
  subst hptrs
  have hpos : 0 < holding array.pages R array.resetPage :=
    holding_pos (hheld _ List.mem_cons_self) _
  apply Ensures.bind (ArrayStorage.cloneTablePtr_spec howned hpos)
  rintro ⟨ptr, storage''⟩ ⟨hptr, howned', hlookup'⟩
  dsimp only at hptr howned' hlookup' ⊢
  subst hptr
  refine Ensures.pure ⟨rfl, ?_, ?_⟩
  · rw [holding_ptrs, holding_comm]
    exact howned'
  · intro q i
    exact (hlookup' q i).trans (hlookup q i)

/-! ## Removal -/

/-- The pages go one by one; the reset page stays. -/
theorem dropPages_spec {storage : ArrayStorage T layers}
    {ptrs : List TablePtr} (h : Owned storage (holding ptrs R)) :
    (ArrayStorage.dropPages ptrs storage).Ensures fun storage' =>
      Owned storage' R ∧ Keeps R storage storage' := by
  induction ptrs generalizing storage with
  | nil =>
      rw [holding_nil] at h
      exact Ensures.pure ⟨h, Keeps.refl⟩
  | cons ptr ptrs ih =>
      rw [holding_cons] at h
      unfold ArrayStorage.dropPages
      apply Ensures.bind (ArrayStorage.dropTablePtr_spec h)
      rintro storage' ⟨howned, hkeeps⟩
      apply (ih howned).imp
      rintro storage'' ⟨howned', hkeeps'⟩
      refine ⟨howned', Keeps.trans (hkeeps.imp ?_) hkeeps'⟩
      intro q hq
      exact holding_pos hq ptrs

/-! ## Access -/

namespace Instance

variable {storage : ArrayStorage T layers} {array : Instance}
  {content : Flat T} {value : T}

theorem get_spec (h : Owned storage R) (hlayers : layers ≤ 9)
    (hheld : ∀ ptr ∈ array.ptrs, 0 < R ptr)
    (hshows : Represents storage array content value) (index : ℕ) :
    (array.get storage index).Ensures fun r => r = content.get index := by
  have hsize := hshows.size
  unfold get len Flat.get
  by_cases hindex : array.size ≤ index
  · rw [if_pos hindex, if_neg (by omega)]
    exact Ensures.pure rfl
  · have hlt : index < array.size := by omega
    obtain ⟨ptr, hptr, hsub, hmod, hdiv⟩ := index_in_page hlt hshows.room
    have hheld' := hheld ptr
      (List.mem_cons_of_mem _ (List.mem_of_getElem? hptr))
    have hitems : capacity layers / PAGE_SIZE = PAGE_SIZE ^ layers :=
      capacity_div layers
    rw [if_neg hindex, if_pos (by omega)]
    apply Ensures.bind (itemsPerTopLevelPage_spec hlayers)
    intro items hsame
    subst hsame
    apply Ensures.bind (divU64_spec (capacity_pos layers))
    intro page hsame
    subst hsame
    apply Ensures.bind (Ensures.unwrap hptr)
    intro ptr' hsame
    subst hsame
    rw [hsub]
    have hget : (storage.get ptr' (index % capacity layers)).Ensures
        fun x => lookup storage ptr' (index % capacity layers) = some x := by
      unfold ArrayStorage.get
      apply Ensures.bind (itemsPerTopLevelPage_spec hlayers)
      intro items hsame
      subst hsame
      exact getImpl_spec h hheld' hmod hitems
    apply Ensures.bind hget
    intro x hx
    apply Ensures.pure
    rw [hshows.lookup_at hlt hptr] at hx
    exact hx.symm

theorem getMut_spec (f : T → T) (h : Owned storage (holding array.ptrs R))
    (hlayers : layers ≤ 9) (hshows : Represents storage array content value)
    (index : ℕ) :
    (array.getMut f storage index).Ensures fun r =>
      (∃ content', content.set index (f (content.elem index)) = some content' ∧
        r.1 = true ∧ Updates storage r.2.2 r.2.1 content' value R) ∨
      (content.set index (f (content.elem index)) = none ∧
        r = (false, array, storage)) := by
  have hsize := hshows.size
  unfold getMut len Flat.set
  by_cases hindex : array.size ≤ index
  · rw [if_pos hindex, if_neg (by omega)]
    exact Ensures.pure (Or.inr ⟨rfl, rfl⟩)
  · have hlt : index < array.size := by omega
    obtain ⟨ptr, hptr, hsub, hmod, hdiv⟩ := index_in_page hlt hshows.room
    rw [holding_ptrs, holding_eraseIdx hptr] at h
    rw [if_neg hindex, if_pos (by omega)]
    apply Ensures.bind (itemsPerTopLevelPage_spec hlayers)
    intro items hsame
    subst hsame
    apply Ensures.bind (divU64_spec (capacity_pos layers))
    intro page hsame
    subst hsame
    apply Ensures.bind (Ensures.unwrap hptr)
    intro ptr' hsame
    subst hsame
    rw [hsub]
    have hget : (storage.getMut f ptr' (index % capacity layers)).Ensures
        fun r => ∃ x, lookup storage ptr' (index % capacity layers) = some x ∧
          Writes storage r.2 ptr' r.1
            (holding (array.pages.eraseIdx (index / capacity layers))
              (holding [array.resetPage] R))
            (index % capacity layers) [f x] := by
      unfold ArrayStorage.getMut
      apply Ensures.bind (itemsPerTopLevelPage_spec hlayers)
      intro items hsame
      subst hsame
      exact getMutImpl_spec f h hmod (capacity_div layers)
    apply Ensures.bind hget
    rintro ⟨child, storage'⟩ ⟨x, hx, hwrites⟩
    have harray := hwrites.inArray hptr hmod
    rw [hdiv] at harray
    -- the element that was replaced is the one of the flat array
    rw [hshows.lookup_at hlt hptr] at hx
    cases hx
    apply Ensures.pure
    refine Or.inl ⟨_, rfl, rfl, Updates.of_writes hshows harray rfl ?_⟩
    intro i _
    unfold overlay
    dsimp only
    by_cases hi : i = index
    · subst hi
      simp
    · rw [if_neg hi]
      rcases Nat.lt_or_gt_of_ne hi with hbefore | hafter
      · rw [if_neg (by omega)]
      · rw [if_pos (by omega), List.getElem?_eq_none (by simp; omega),
          Option.none_or]

theorem read_spec (h : Owned storage R) (hlayers : layers ≤ 9)
    (hheld : ∀ ptr ∈ array.ptrs, 0 < R ptr)
    (hshows : Represents storage array content value) (index : ℕ)
    {buf : List T}
    (hbuf : min buf.length content.size + 2 * capacity layers ≤ 2 ^ 64) :
    (array.read storage buf index).Ensures fun r =>
      (∃ items, content.read index buf.length = some items ∧
        r = (true, items)) ∨
      (content.read index buf.length = none ∧ r = (false, buf)) := by
  have hsize := hshows.size
  have hroom' := hshows.room
  unfold read len
  by_cases hfits : array.size < index + buf.length
  · rw [if_pos hfits]
    apply Ensures.pure
    refine Or.inr ⟨?_, rfl⟩
    unfold Flat.read
    rw [if_neg (by omega)]
  · rw [if_neg hfits]
    have hfits' : index + buf.length ≤ array.pages.length * capacity layers := by
      omega
    have hless := pow_le_capacity layers
    apply Ensures.bind (itemsPerTopLevelPage_spec hlayers)
    intro items hsame
    subst hsame
    have hroom : buf.length + 2 * capacity layers ≤ 2 ^ 64 := by omega
    apply Ensures.bind (spans_spec (capacity_pos layers) hroom)
    intro list htiles
    have hread : ∀ {ptr} (part : List T) (index : ℕ), 0 < R ptr →
        index + part.length ≤ capacity layers → part.length ≤ buf.length →
        (storage.read part ptr index).Ensures
          fun r => Reads (lookup storage ptr) index part.length r := by
      intro ptr part index hpos hpart hle
      unfold ArrayStorage.read
      apply Ensures.bind (itemsPerTopLevelPage_spec hlayers)
      intro items hsame
      subst hsame
      exact readImpl_spec h hpos hpart (capacity_div layers) (by omega)
    have hpages : ∀ ptr ∈ array.pages, 0 < R ptr :=
      fun ptr hptr => hheld ptr (List.mem_cons_of_mem _ hptr)
    apply Ensures.bind (readSpans_spec hread htiles hpages rfl nofun hfits')
    intro items hitems
    apply Ensures.pure
    exact Or.inl ⟨items, read_of_reads hshows (by omega) hitems, rfl⟩

theorem iterRange_spec (h : Owned storage R) (hlayers : layers ≤ 9)
    (hheld : ∀ ptr ∈ array.ptrs, 0 < R ptr)
    (hshows : Represents storage array content value) (index len : ℕ)
    (hsize : content.size < 2 ^ 64) :
    (array.iterRange storage index len).Ensures fun r =>
      r = content.read index len := by
  have hsize := hshows.size
  have hroom' := hshows.room
  unfold iterRange Instance.len
  by_cases hfits : array.size < index + len
  · rw [if_pos hfits]
    apply Ensures.pure
    unfold Flat.read
    rw [if_neg (by omega)]
  · rw [if_neg hfits]
    have hfits' : index + len ≤ array.pages.length * capacity layers := by
      omega
    have hcapacity := capacity_lt hlayers
    apply Ensures.bind (itemsPerTopLevelPage_spec hlayers)
    intro items hsame
    subst hsame
    apply Ensures.bind (ranges_spec (capacity_pos layers) (by omega))
    intro list htiles
    have hiter : ∀ {ptr} (index count : ℕ), 0 < R ptr →
        index + count ≤ capacity layers → count ≤ len →
        (storage.iterRange ptr index count).Ensures
          fun r => Reads (lookup storage ptr) index count r := by
      intro ptr index count hpos hcount _
      unfold ArrayStorage.iterRange
      apply Ensures.bind (itemsPerTopLevelPage_spec hlayers)
      intro items hsame
      subst hsame
      exact iterRangeImpl_spec h hpos hcount (capacity_div layers) (by omega)
    have hpages : ∀ ptr ∈ array.pages, 0 < R ptr :=
      fun ptr hptr => hheld ptr (List.mem_cons_of_mem _ hptr)
    have hspans := iterSpans_spec hiter htiles hpages hfits'
    rw [Nat.add_zero, Nat.sub_zero] at hspans
    apply Ensures.bind hspans
    intro items hitems
    apply Ensures.pure
    exact (read_of_reads hshows (by omega) hitems).symm

theorem write_spec (h : Owned storage (holding array.ptrs R))
    (hlayers : layers ≤ 9) (hshows : Represents storage array content value)
    (index : ℕ) {buf : List T}
    (hbuf : min buf.length content.size + 2 * capacity layers ≤ 2 ^ 64) :
    (array.write storage index buf).Ensures fun r =>
      (∃ content', content.write index buf = some content' ∧
        r.1 = true ∧ Updates storage r.2.2 r.2.1 content' value R) ∨
      (content.write index buf = none ∧ r = (false, array, storage)) := by
  have hsize := hshows.size
  have hroom' := hshows.room
  unfold write len
  by_cases hfits : array.size < index + buf.length
  · rw [if_pos hfits]
    apply Ensures.pure
    refine Or.inr ⟨?_, rfl⟩
    unfold Flat.write
    rw [if_neg (by omega)]
  · rw [if_neg hfits]
    have hfits' : index + buf.length ≤ array.pages.length * capacity layers := by
      omega
    have hless := pow_le_capacity layers
    rw [holding_ptrs] at h
    apply Ensures.bind (itemsPerTopLevelPage_spec hlayers)
    intro items hsame
    subst hsame
    have hroom : buf.length + 2 * capacity layers ≤ 2 ^ 64 := by omega
    apply Ensures.bind (spans_spec (capacity_pos layers) hroom)
    intro list htiles
    apply Ensures.bind (writeSpans_spec ?_ htiles h hfits')
    · rintro ⟨ptrs, storage'⟩ hwrites
      apply Ensures.pure
      rw [Nat.add_zero, List.drop_zero] at hwrites
      refine Or.inl ⟨_, if_pos (by omega), rfl,
        Updates.of_writes hshows hwrites rfl ?_⟩
      intro i _
      unfold overlay
      dsimp only
      by_cases hi : index ≤ i
      · rw [if_pos hi, if_pos hi]
        cases buf[i - index]? with
        | none => rfl
        | some x => rfl
      · rw [if_neg hi, if_neg hi]
    · intro storage ptr R index part howned hpart hle
      unfold ArrayStorage.write
      apply Ensures.bind (itemsPerTopLevelPage_spec hlayers)
      intro items hsame
      subst hsame
      exact writeImpl_spec howned hpart (capacity_div layers) (by omega)

/-- After the loop all pages are the reset page. -/
theorem resetPages_spec {resetPage : TablePtr} {ptrs : List TablePtr}
    (h : Owned storage (holding ptrs (holding [resetPage] R))) :
    (resetPages resetPage ptrs storage).Ensures fun r =>
      r.1 = List.replicate ptrs.length resetPage ∧
        Owned r.2 (holding r.1 (holding [resetPage] R)) ∧
        Keeps (holding [resetPage] R) storage r.2 := by
  induction ptrs generalizing storage R with
  | nil => exact Ensures.pure ⟨rfl, h, Keeps.refl⟩
  | cons ptr ptrs ih =>
      rw [holding_cons] at h
      unfold resetPages
      have hrest : ∀ {storage' : ArrayStorage T layers},
          Owned storage' (holding [resetPage]
            (holding ptrs (holding [resetPage] R))) →
          Keeps (holding ptrs (holding [resetPage] R)) storage storage' →
          (resetPages resetPage ptrs storage' >>= fun r =>
            pure (resetPage :: r.1, r.2)).Ensures fun r =>
            r.1 = List.replicate (ptrs.length + 1) resetPage ∧
              Owned r.2 (holding r.1 (holding [resetPage] R)) ∧
              Keeps (holding [resetPage] R) storage r.2 := by
        intro storage' howned hkeeps
        rw [holding_comm] at howned
        apply Ensures.bind (ih howned)
        rintro ⟨ptrs', storage''⟩ ⟨hptrs, howned', hkeeps'⟩
        dsimp only at hptrs howned' hkeeps' ⊢
        apply Ensures.pure
        refine ⟨congrArg _ hptrs, ?_, ?_⟩
        · rw [holding_cons, holding_comm]
          exact howned'
        · apply Keeps.trans (hkeeps.imp fun q hq => holding_pos hq ptrs)
          exact hkeeps'.imp fun q hq => holding_pos hq _
      dsimp only
      by_cases heq : ptr = resetPage
      · rw [if_neg (not_not_intro heq), pure_bind]
        rw [heq] at h ⊢
        exact hrest h Keeps.refl
      · rw [if_pos heq]
        apply Ensures.bind (ArrayStorage.dropTablePtr_spec h)
        rintro storage' ⟨howned, hkeeps⟩
        have hpos : 0 < holding ptrs (holding [resetPage] R) resetPage :=
          holding_pos (holding_pos_of_mem List.mem_cons_self R) ptrs
        apply Ensures.bind (ArrayStorage.cloneTablePtr_spec howned hpos)
        rintro ⟨ptr', storage''⟩ ⟨hptr, howned', hlookup⟩
        dsimp only at hptr howned' hlookup ⊢
        rw [hptr]
        exact hrest howned' (hkeeps.trans (Keeps.of_eq hlookup))

theorem reset_spec (h : Owned storage (holding array.ptrs R))
    (hshows : Represents storage array content value) :
    (array.reset storage).Ensures fun r =>
      Updates storage r.2 r.1 (Flat.replicate content.size value) value R := by
  rw [holding_ptrs] at h
  unfold reset
  apply Ensures.bind (resetPages_spec h)
  rintro ⟨ptrs, storage'⟩ ⟨hptrs, howned, hkeeps⟩
  dsimp only at hptrs howned hkeeps ⊢
  have hreset : ∀ i, i < capacity layers →
      lookup storage' array.resetPage i = some value := by
    intro i hi
    rw [hkeeps _ (holding_pos_of_mem List.mem_cons_self R)]
    exact hshows.reset i hi
  have hroom := hshows.room
  apply Ensures.pure
  refine ⟨?_, hkeeps.imp fun _ hq => holding_pos hq _,
    ⟨hshows.size, ?_, ?_, ?_, hreset⟩⟩
  · rw [holding_ptrs]
    exact howned
  · rw [hptrs, List.length_replicate]
    exact hshows.count
  · rw [hptrs, List.length_replicate]
    exact hroom
  · intro i hi
    have hi' : i < array.pages.length * capacity layers := by
      rw [hshows.size] at hroom
      exact Nat.lt_of_lt_of_le hi hroom
    have hlt : i / capacity layers < array.pages.length :=
      (Nat.div_lt_iff_lt_mul (capacity_pos layers)).2 hi'
    unfold flat
    rw [hptrs, List.getElem?_replicate, if_pos hlt, Option.bind_some]
    exact hreset _ (Nat.mod_lt _ (capacity_pos layers))

end Instance

end Build

end RedPlanet.SpaceTime
