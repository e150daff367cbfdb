import RedPlanet.SpaceTime.PageAccess

/-!
# Reading and writing elements

The functions that follow the layers down: each is specified by the elements
that `lookup` sees, by induction on the layers.  The loops over spans are
specified once (`readSpans_spec`, `writeSpans_spec`, `iterSpans_spec`), for the
layers and for the arrays on top of them.

A read returns the elements of its range (`readImpl_spec`,
`iterRangeImpl_spec`), and a write replaces them and nothing else
(`writeImpl_spec`).  That others see no difference is part of the
specification of the pages, in `SpaceTime.PageAccess`.
-/

namespace RedPlanet.SpaceTime

open RedPlanet.Core RedPlanet.Verified Limited

variable {T α σ : Type}

/-! ## Parts of a buffer -/

theorem slice_spec {buf : List α} {start stop : ℕ} (h : start ≤ stop)
    (h' : stop ≤ buf.length) :
    (slice buf start stop).Ensures fun part =>
      part = (buf.take stop).drop start := by
  unfold slice
  rw [if_pos ⟨h, h'⟩]
  exact Ensures.pure rfl

theorem length_splice {page : List T} {index : ℕ} {buf : List T}
    (h : index + buf.length ≤ page.length) :
    (splice page index buf).length = page.length := by
  unfold splice
  simp only [List.length_append, List.length_take, List.length_drop]
  omega

theorem getElem?_splice {page : List T} {index : ℕ} {buf : List T}
    (h : index + buf.length ≤ page.length) (i : ℕ) :
    (splice page index buf)[i]? = overlay index buf (fun j => page[j]?) i := by
  have htake : (page.take index).length = index := by
    rw [List.length_take]
    omega
  unfold splice
  rw [List.append_assoc]
  rcases Nat.lt_or_ge i index with hlt | hge
  · rw [overlay_of_lt hlt, List.getElem?_append_left (by omega),
      List.getElem?_take_of_lt hlt]
  · rw [List.getElem?_append_right (by omega), htake]
    rcases Nat.lt_or_ge i (index + buf.length) with hin | hout
    · have hlt : i - index < buf.length := by omega
      unfold overlay
      rw [if_pos hge, List.getElem?_append_left hlt,
        List.getElem?_eq_getElem hlt, Option.some_or]
    · have hsum : index + buf.length + (i - index - buf.length) = i := by omega
      rw [overlay_of_ge hout, List.getElem?_append_right (by omega),
        List.getElem?_drop, hsum]

theorem getElem?_set_eq_overlay {page : List T} {index : ℕ}
    (h : index < page.length) (x : T) (i : ℕ) :
    (page.set index x)[i]? = overlay index [x] (fun j => page[j]?) i := by
  rcases Nat.lt_trichotomy i index with hlt | heq | hgt
  · rw [overlay_of_lt hlt, List.getElem?_set_ne (by omega)]
  · subst heq
    rw [List.getElem?_set_self h]
    simp [overlay]
  · rw [overlay_of_ge hgt, List.getElem?_set_ne (by omega)]

/-! ## Writing -/

theorem mapItems_pure (items : List α) (state : σ) :
    (mapItems (fun x state => pure (x, state)) items state).Ensures fun r =>
      r.1 = items ∧ True := by
  induction items with
  | nil => exact Ensures.pure ⟨rfl, True.intro⟩
  | cons x items ih =>
      unfold mapItems
      apply Ensures.bind ih
      rintro ⟨items', state'⟩ ⟨hitems, _⟩
      exact Ensures.pure ⟨congrArg _ hitems, True.intro⟩

variable {layers : ℕ} {R : TablePtr → ℕ}

/-- The loop of `write_impl` and of `write`, when `write` does what it should
in each page. -/
theorem writeSpans_spec
    {write : TablePtr → ℕ → List T → ArrayStorage T layers →
      Limited (TablePtr × ArrayStorage T layers)} {buf : List T}
    (hwrite : ∀ {storage ptr R} index part, Owned storage (holding [ptr] R) →
      index + part.length ≤ capacity layers → part.length ≤ buf.length →
      (write ptr index part storage).Ensures fun r =>
        Writes storage r.2 ptr r.1 R index part)
    {list : List Span} {index first : ℕ}
    (htiles : Tiles (capacity layers) index buf.length first list)
    {ptrs : List TablePtr} {storage : ArrayStorage T layers}
    (h : Owned storage (holding ptrs R))
    (hfits : index + buf.length ≤ ptrs.length * capacity layers) :
    (writeSpans write buf list ptrs storage).Ensures fun r =>
      WritesFlat storage r.2 ptrs r.1 R (index + first) (buf.drop first) := by
  induction list generalizing first ptrs storage with
  | nil =>
      have hfirst : first = buf.length := htiles
      rw [hfirst, List.drop_length]
      exact Ensures.pure (WritesFlat.refl h _)
  | cons span rest ih =>
      have hlt := htiles.page_lt (capacity_pos layers) hfits
      have hptr := List.getElem?_eq_getElem hlt
      obtain ⟨⟨hstart, hle, hstop⟩, ⟨hindex, hpage⟩, _, hrest⟩ := htiles
      unfold writeSpans
      apply Ensures.bind (Ensures.unwrap hptr)
      intro ptr hsame
      rw [← hsame] at hptr
      rw [hstart]
      apply Ensures.bind (slice_spec hle hstop)
      intro part hpart
      have hlength : part.length = span.stop - first := by
        rw [hpart, List.length_drop, List.length_take]
        omega
      have hfit : span.index + part.length ≤ capacity layers := by omega
      rw [holding_eraseIdx hptr] at h
      apply Ensures.bind (hwrite span.index part h hfit (by omega))
      rintro ⟨ptr', storage'⟩ hwrites
      have harray := hwrites.inArray hptr hfit
      rw [hindex] at harray
      dsimp only at harray
      have hlength' : (ptrs.set span.page ptr').length = ptrs.length :=
        harray.length
      apply (ih hrest harray.owned (by rw [hlength']; exact hfits)).imp
      intro r hr
      have hsplit : buf.drop first = part ++ buf.drop span.stop := by
        have htake : buf = buf.take span.stop ++ buf.drop span.stop :=
          (List.take_append_drop _ _).symm
        have hlow : first ≤ (buf.take span.stop).length := by
          rw [List.length_take]
          omega
        calc buf.drop first
            = (buf.take span.stop ++ buf.drop span.stop).drop first := by
              rw [← htake]
          _ = part ++ buf.drop span.stop := by
              rw [List.drop_append_of_le_length hlow, hpart]
      have hsum : index + first + part.length = index + span.stop := by omega
      rw [hsplit]
      rw [← hsum] at hr
      exact harray.trans hr

section Build

variable [Build]

theorem debugAssert_spec {b : Bool} (h : b = true) :
    (debugAssert b).Ensures fun _ => True := by
  unfold debugAssert
  apply Ensures.assert
  rw [h, Bool.or_true]

/-- The table of elements, when a page is made unique. -/
theorem makeUnique_data {t : Table (List T)} {ptr : TablePtr} {page : List T}
    (h : t.Counts (holding [ptr] R)) (hpage : t.item ptr = some page) :
    (makeUnique ptr (fun x (state : Unit) => pure (x, state)) t ()).Ensures
      fun r => Unique r.2.1 r.1 R page ∧
        ∀ q, 0 < R q → r.2.1.item q = t.item q := by
  have hcloner := mapItems_pure page ()
  apply (makeUnique_spec (Q := fun _ => True) h hpage hcloner).imp
  rintro r ⟨hunique, hitem, _⟩
  exact ⟨hunique, hitem⟩

/-- A table of pointers: the copy of the page holds the pages below, too. -/
theorem makeUnique_pages {t : Table (List TablePtr)}
    {next : ArrayStorage T layers} {ptr : TablePtr} {page : List TablePtr}
    (h : Owned (.pages t next) (holding [ptr] R))
    (hpage : t.item ptr = some page) :
    (makeUnique ptr ArrayStorage.cloneTablePtr t next).Ensures fun r =>
      Unique r.2.1 r.1 R page ∧ Owned r.2.2 (holders r.2.1) ∧
        (∀ q, 0 < R q → r.2.1.item q = t.item q) ∧
        ∀ q i, lookup r.2.2 q i = lookup next q i := by
  have hcloner := ArrayStorage.clonePtrs_spec h.2 fun child hmem =>
    holders_pos h.1.wf hpage hmem
  apply (makeUnique_spec (Q := fun next' => Owned next'
    (holding page (holders t)) ∧ ∀ q i, lookup next' q i = lookup next q i)
    h.1 hpage hcloner).imp
  rintro ⟨ptr', t', next'⟩ ⟨hunique, hitem, hstate⟩
  dsimp only at hunique hitem hstate ⊢
  rcases hstate with ⟨hsame, htotal⟩ | ⟨⟨howned, hlookup⟩, htotal⟩
  · have hholders : holders t' = holders t := by
      funext q
      exact htotal (List.count q)
    rw [hsame, hholders]
    exact ⟨hunique, h.2, hitem, fun _ _ => rfl⟩
  · have hholders : holders t' = holding page (holders t) := by
      funext q
      exact htotal (List.count q)
    rw [hholders]
    exact ⟨hunique, howned, hitem, hlookup⟩

/-- The copy of the one page on the way and of those below it. -/
theorem getMutImpl_spec (f : T → T) {storage : ArrayStorage T layers}
    {ptr : TablePtr} {index divisor : ℕ} (h : Owned storage (holding [ptr] R))
    (hindex : index < capacity layers) (hdivisor : divisor = PAGE_SIZE ^ layers) :
    (storage.getMutImpl f ptr index divisor).Ensures fun r =>
      ∃ x, lookup storage ptr index = some x ∧
        Writes storage r.2 ptr r.1 R index [f x] := by
  have hheld : 0 < holding [ptr] R ptr :=
    holding_pos_of_mem List.mem_cons_self R
  -- the storage below changes when the page is copied
  induction layers generalizing R ptr index divisor with
  | zero =>
      obtain ⟨t⟩ := storage
      obtain ⟨page, hpage, hlength⟩ := h.page_of_pos hheld
      have hlt : index < page.length := by
        rw [hlength]
        exact hindex
      unfold ArrayStorage.getMutImpl
      apply Ensures.bind (debugAssert_spec (by rw [hdivisor]; rfl))
      intro _ _
      apply Ensures.bind (makeUnique_data h hpage)
      rintro ⟨ptr', t', _⟩ ⟨hunique, hitem⟩
      apply Ensures.bind hunique.uniquePage_spec
      intro _ hsame
      rw [hsame]
      apply Ensures.bind (Ensures.unwrap (List.getElem?_eq_getElem hlt))
      intro x hx
      rw [hx]
      apply Ensures.pure
      refine ⟨page[index], ?_, ?_⟩
      · simp [lookup, hpage, List.getElem?_eq_getElem hlt]
      · apply Writes.inData hunique hpage hitem List.length_set
        exact getElem?_set_eq_overlay hlt _
  | succ layers ih =>
      obtain ⟨t, next⟩ := storage
      obtain ⟨page, hpage, hlength⟩ := h.1.page_of_pos hheld
      have hdivisor' : divisor = capacity layers := hdivisor
      have hmod := Nat.mod_lt index (capacity_pos layers)
      have hdiv := Nat.div_add_mod' index (capacity layers)
      have hlt : index / capacity layers < page.length := by
        rw [hlength]
        exact div_capacity_lt hindex
      have hchild : page[index / capacity layers]?
          = some page[index / capacity layers] := List.getElem?_eq_getElem hlt
      unfold ArrayStorage.getMutImpl
      rw [hdivisor']
      apply Ensures.bind (makeUnique_pages h hpage)
      rintro ⟨ptr', t', next'⟩ ⟨hunique, howned, hitem, hlookup⟩
      dsimp only at hunique howned hitem hlookup ⊢
      apply Ensures.bind hunique.uniquePage_spec
      intro _ hsame
      rw [hsame]
      apply Ensures.bind (divU64_spec (capacity_pos layers))
      intro i hi
      subst hi
      apply Ensures.bind (Ensures.unwrap hchild)
      intro child hsame
      have hsub : index - index / capacity layers * capacity layers
          = index % capacity layers := by omega
      rw [← hsame] at hchild
      rw [hsub, capacity_div]
      have hbelow : Owned next' (holding [child]
          (holding (page.eraseIdx (index / capacity layers))
            (otherHolders t' ptr'))) := by
        rw [← holding_eraseIdx hchild,
          ← holders_eq hunique.counts.wf hunique.item]
        exact howned
      apply Ensures.bind (ih hbelow hmod rfl
        (holding_pos_of_mem List.mem_cons_self _))
      rintro ⟨child', next''⟩ ⟨x, hx, hwrites⟩
      dsimp only at hx hwrites
      have harray := hwrites.inArray hchild hmod
      rw [hdiv] at harray
      apply Ensures.pure
      refine ⟨x, ?_, Writes.inPage hunique hpage hitem hlookup harray⟩
      rw [lookup_pages, hpage, ← hx, hlookup]
      simp [flat, hchild]

theorem writeImpl_spec {storage : ArrayStorage T layers} {ptr : TablePtr}
    {index divisor : ℕ} {buf : List T} (h : Owned storage (holding [ptr] R))
    (hfits : index + buf.length ≤ capacity layers)
    (hdivisor : divisor = PAGE_SIZE ^ layers)
    (hroom : buf.length + 2 * PAGE_SIZE ^ layers ≤ 2 ^ 64) :
    (ArrayStorage.writeImpl ptr index divisor buf storage).Ensures fun r =>
      Writes storage r.2 ptr r.1 R index buf := by
  have hheld : 0 < holding [ptr] R ptr :=
    holding_pos_of_mem List.mem_cons_self R
  induction layers generalizing R ptr index divisor buf with
  | zero =>
      obtain ⟨t⟩ := storage
      obtain ⟨page, hpage, hlength⟩ := h.page_of_pos hheld
      have hle : index + buf.length ≤ page.length := by
        rw [hlength]
        exact hfits
      have hassert : decide (index + buf.length ≤ PAGE_SIZE) = true :=
        decide_eq_true hfits
      unfold ArrayStorage.writeImpl
      apply Ensures.bind (debugAssert_spec hassert)
      intro _ _
      apply Ensures.bind (debugAssert_spec (by rw [hdivisor]; rfl))
      intro _ _
      apply Ensures.bind (makeUnique_data h hpage)
      rintro ⟨ptr', t', _⟩ ⟨hunique, hitem⟩
      apply Ensures.bind hunique.uniquePage_spec
      intro _ hsame
      rw [hsame]
      apply Ensures.bind (slice_spec (by omega) hle)
      intro _ _
      apply Ensures.pure
      apply Writes.inData hunique hpage hitem (length_splice hle)
      exact getElem?_splice hle
  | succ layers ih =>
      obtain ⟨t, next⟩ := storage
      obtain ⟨page, hpage, hlength⟩ := h.1.page_of_pos hheld
      have hdivisor' : divisor = capacity layers := hdivisor
      have hroom' : buf.length + 2 * capacity layers ≤ 2 ^ 64 := hroom
      have hless := pow_le_capacity layers
      have hfits' : index + buf.length ≤ page.length * capacity layers := by
        rw [hlength, Nat.mul_comm]
        exact hfits
      unfold ArrayStorage.writeImpl
      rw [hdivisor']
      apply Ensures.bind (spans_spec (capacity_pos layers) hroom')
      intro list htiles
      apply Ensures.bind (makeUnique_pages h hpage)
      rintro ⟨ptr', t', next'⟩ ⟨hunique, howned, hitem, hlookup⟩
      dsimp only at hunique howned hitem hlookup ⊢
      apply Ensures.bind hunique.uniquePage_spec
      intro _ hsame
      rw [hsame]
      rw [holders_eq hunique.counts.wf hunique.item] at howned
      apply Ensures.bind (writeSpans_spec ?_ htiles howned hfits')
      · rintro ⟨page', next''⟩ hwrites
        exact Ensures.pure (Writes.inPage hunique hpage hitem hlookup hwrites)
      · intro storage ptr R index part howned' hfits'' hpart
        exact ih howned' hfits'' (capacity_div layers) (by omega)
          (holding_pos_of_mem List.mem_cons_self R)

end Build

/-! ## Reading -/

/-- The elements of `g` from `index` on, `len` of them. -/
structure Reads (g : ℕ → Option T) (index len : ℕ) (items : List T) : Prop where
  length : items.length = len
  elements : ∀ k, k < len → items[k]? = g (index + k)

theorem Reads.nil (g : ℕ → Option T) (index : ℕ) : Reads g index 0 [] where
  length := rfl
  elements := nofun

theorem Reads.append {g : ℕ → Option T} {index len len' : ℕ}
    {items items' : List T} (h : Reads g index len items)
    (h' : Reads g (index + len) len' items') :
    Reads g index (len + len') (items ++ items') where
  length := by rw [List.length_append, h.length, h'.length]
  elements := fun k hk => by
    have hlength := h.length
    rcases Nat.lt_or_ge k len with hlt | hge
    · rw [List.getElem?_append_left (by omega)]
      exact h.elements k hlt
    · have hsum : index + len + (k - len) = index + k := by omega
      rw [List.getElem?_append_right (by omega), hlength,
        h'.elements _ (by omega), hsum]

/-- A part of a page. -/
theorem reads_slice {page : List T} {index len : ℕ}
    (h : index + len ≤ page.length) :
    (slice page index (index + len)).Ensures
      fun items => Reads (fun i => page[i]?) index len items := by
  apply (slice_spec (by omega) h).imp
  intro items hitems
  subst hitems
  refine ⟨?_, ?_⟩
  · rw [List.length_drop, List.length_take]
    omega
  · intro k hk
    rw [List.getElem?_drop, List.getElem?_take_of_lt (by omega)]

theorem Reads.congr {g g' : ℕ → Option T} {index index' len : ℕ}
    {items : List T} (h : Reads g index len items)
    (hg : ∀ k, k < len → g' (index' + k) = g (index + k)) :
    Reads g' index' len items where
  length := h.length
  elements := fun k hk => by rw [h.elements k hk, hg k hk]

/-- A part of a page, as the storage looks it up. -/
theorem reads_lookup {t : Table (List T)} {ptr : TablePtr} {page : List T}
    {index len : ℕ} (hpage : t.item ptr = some page)
    (hle : index + len ≤ page.length) :
    (slice page index (index + len)).Ensures fun r =>
      Reads (lookup (.data t) ptr) index len r := by
  apply (reads_slice hle).imp
  intro r hr
  apply hr.congr
  intro k _
  simp [lookup, hpage]

/-- The elements in one page of an array. -/
theorem flat_at {storage : ArrayStorage T layers} {ptrs : List TablePtr}
    {n : ℕ} {child : TablePtr} (hchild : ptrs[n]? = some child) {i : ℕ}
    (hi : i < capacity layers) :
    flat storage ptrs (n * capacity layers + i) = lookup storage child i := by
  have hdiv : (n * capacity layers + i) / capacity layers = n := by
    rw [Nat.mul_comm, Nat.mul_add_div (capacity_pos layers),
      Nat.div_eq_of_lt hi, Nat.add_zero]
  have hmod : (n * capacity layers + i) % capacity layers = i := by
    rw [Nat.mul_comm, Nat.mul_add_mod, Nat.mod_eq_of_lt hi]
  unfold flat
  rw [hdiv, hmod, hchild, Option.bind_some]

/-- A piece of a range, read in its page. -/
theorem Reads.inArray {storage : ArrayStorage T layers} {ptrs : List TablePtr}
    {n : ℕ} {child : TablePtr} (hchild : ptrs[n]? = some child)
    {index len : ℕ} {items : List T} (hfits : index + len ≤ capacity layers)
    (h : Reads (lookup storage child) index len items) :
    Reads (flat storage ptrs) (n * capacity layers + index) len items := by
  apply h.congr
  intro k hk
  rw [Nat.add_assoc]
  exact flat_at hchild (by omega)

/-- The loop of `read_impl` and of `read`: the part of the buffer before
`first` is done. -/
theorem readSpans_spec {read : List T → TablePtr → ℕ → Limited (List T)}
    {storage : ArrayStorage T layers} {len : ℕ}
    (hread : ∀ {ptr} part index, 0 < R ptr →
      index + part.length ≤ capacity layers → part.length ≤ len →
      (read part ptr index).Ensures fun r =>
        Reads (lookup storage ptr) index part.length r)
    {list : List Span} {index first : ℕ}
    (htiles : Tiles (capacity layers) index len first list)
    {ptrs : List TablePtr} (hptrs : ∀ ptr ∈ ptrs, 0 < R ptr) {buf : List T}
    (hbuf : buf.length = len)
    (hdone : ∀ k, k < first → buf[k]? = flat storage ptrs (index + k))
    (hfits : index + len ≤ ptrs.length * capacity layers) :
    (readSpans read ptrs list buf).Ensures fun r =>
      Reads (flat storage ptrs) index len r := by
  induction list generalizing first buf with
  | nil =>
      have hfirst : first = len := htiles
      rw [hfirst] at hdone
      exact Ensures.pure ⟨hbuf, hdone⟩
  | cons span rest ih =>
      have hlt := htiles.page_lt (capacity_pos layers) hfits
      have hptr := List.getElem?_eq_getElem hlt
      obtain ⟨⟨hstart, hle, hstop⟩, ⟨hindex, hpage⟩, _, hrest⟩ := htiles
      unfold readSpans
      rw [hstart]
      apply Ensures.bind (slice_spec hle (by omega))
      intro part hpart
      have hlength : part.length = span.stop - first := by
        rw [hpart, List.length_drop, List.length_take]
        omega
      apply Ensures.bind (Ensures.unwrap hptr)
      intro ptr hsame
      rw [← hsame] at hptr
      have hfit : span.index + part.length ≤ capacity layers := by omega
      have hheld := hptrs ptr (List.mem_of_getElem? hptr)
      apply Ensures.bind (hread part span.index hheld hfit (by omega))
      intro items hitems
      have harray := hitems.inArray hptr hfit
      rw [hindex] at harray
      have hitems' : first + items.length ≤ buf.length := by
        rw [hitems.length]
        omega
      apply ih hrest
      · rw [length_splice hitems', hbuf]
      · intro k hk
        rw [getElem?_splice hitems']
        rcases Nat.lt_or_ge k first with hbefore | hafter
        · rw [overlay_of_lt hbefore]
          exact hdone k hbefore
        · have hk' : k - first < part.length := by omega
          have hitem := harray.elements (k - first) hk'
          have hsum : index + first + (k - first) = index + k := by omega
          have hlt' : k - first < items.length := by
            rw [hitems.length]
            exact hk'
          rw [hsum, List.getElem?_eq_getElem hlt'] at hitem
          unfold overlay
          rw [if_pos hafter, List.getElem?_eq_getElem hlt', Option.some_or]
          exact hitem

/-- The iterators of the spans, one after the other. -/
theorem iterSpans_spec {iter : TablePtr → ℕ → ℕ → Limited (List T)}
    {storage : ArrayStorage T layers} {len : ℕ}
    (hiter : ∀ {ptr} index count, 0 < R ptr →
      index + count ≤ capacity layers → count ≤ len →
      (iter ptr index count).Ensures fun r =>
        Reads (lookup storage ptr) index count r)
    {list : List Span} {index first : ℕ}
    (htiles : Tiles (capacity layers) index len first list)
    {ptrs : List TablePtr} (hptrs : ∀ ptr ∈ ptrs, 0 < R ptr)
    (hfits : index + len ≤ ptrs.length * capacity layers) :
    (iterSpans iter ptrs list).Ensures fun r =>
      Reads (flat storage ptrs) (index + first) (len - first) r := by
  induction list generalizing first with
  | nil =>
      have hfirst : first = len := htiles
      rw [hfirst, Nat.sub_self]
      exact Ensures.pure (Reads.nil _ _)
  | cons span rest ih =>
      have hlt := htiles.page_lt (capacity_pos layers) hfits
      have hptr := List.getElem?_eq_getElem hlt
      obtain ⟨⟨hstart, hle, hstop⟩, ⟨hindex, hpage⟩, _, hrest⟩ := htiles
      unfold iterSpans
      apply Ensures.bind (Ensures.unwrap hptr)
      intro ptr hsame
      rw [← hsame] at hptr
      have hheld := hptrs ptr (List.mem_of_getElem? hptr)
      rw [hstart]
      apply Ensures.bind (hiter span.index _ hheld hpage (by omega))
      intro items hitems
      have harray := hitems.inArray hptr hpage
      rw [hindex] at harray
      apply Ensures.bind (ih hrest)
      intro more hmore
      apply Ensures.pure
      have hsum : index + first + (span.stop - first) = index + span.stop := by
        omega
      have hcount : span.stop - first + (len - span.stop) = len - first := by
        omega
      rw [← hsum] at hmore
      rw [← hcount]
      exact harray.append hmore

section Build

variable [Build]

theorem getImpl_spec {storage : ArrayStorage T layers} {ptr : TablePtr}
    {index divisor : ℕ} (h : Owned storage R) (hheld : 0 < R ptr)
    (hindex : index < capacity layers)
    (hdivisor : divisor = PAGE_SIZE ^ layers) :
    (storage.getImpl ptr index divisor).Ensures fun x =>
      lookup storage ptr index = some x := by
  induction storage generalizing R ptr index divisor with
  | data t =>
      obtain ⟨page, hpage, hlength⟩ := h.page_of_pos hheld
      have hlt : index < page.length := by
        rw [hlength]
        exact hindex
      unfold ArrayStorage.getImpl
      apply Ensures.bind (debugAssert_spec (by rw [hdivisor]; rfl))
      intro _ _
      apply Ensures.bind (h.getItem_page hheld hpage)
      intro _ hsame
      rw [hsame]
      apply (Ensures.unwrap (List.getElem?_eq_getElem hlt)).imp
      intro x hx
      rw [hx]
      simp [lookup, hpage, List.getElem?_eq_getElem hlt]
  | @pages layers t next ih =>
      obtain ⟨page, hpage, hlength⟩ := h.1.page_of_pos hheld
      have hdivisor' : divisor = capacity layers := hdivisor
      have hdiv := Nat.div_add_mod' index (capacity layers)
      have hlt : index / capacity layers < page.length := by
        rw [hlength]
        exact div_capacity_lt hindex
      have hchild := List.getElem?_eq_getElem hlt
      have hsub : index - index / capacity layers * capacity layers
          = index % capacity layers := by omega
      unfold ArrayStorage.getImpl
      rw [hdivisor']
      apply Ensures.bind (h.1.getItem_page hheld hpage)
      intro _ hsame
      rw [hsame]
      apply Ensures.bind (divU64_spec (capacity_pos layers))
      intro i hi
      subst hi
      apply Ensures.bind (Ensures.unwrap hchild)
      intro child hsame
      rw [← hsame] at hchild
      have hheld' := holders_pos h.1.wf hpage (List.mem_of_getElem? hchild)
      rw [hsub]
      apply (ih h.2 hheld' (Nat.mod_lt _ (capacity_pos layers))
        (capacity_div layers)).imp
      intro x hx
      rw [lookup_pages, hpage, ← hx]
      simp [flat, hchild]

theorem readImpl_spec {storage : ArrayStorage T layers} {ptr : TablePtr}
    {index divisor : ℕ} {buf : List T} (h : Owned storage R)
    (hheld : 0 < R ptr) (hfits : index + buf.length ≤ capacity layers)
    (hdivisor : divisor = PAGE_SIZE ^ layers)
    (hroom : buf.length + 2 * PAGE_SIZE ^ layers ≤ 2 ^ 64) :
    (storage.readImpl buf ptr index divisor).Ensures fun r =>
      Reads (lookup storage ptr) index buf.length r := by
  induction storage generalizing R ptr index divisor buf with
  | data t =>
      obtain ⟨page, hpage, hlength⟩ := h.page_of_pos hheld
      have hle : index + buf.length ≤ page.length := by
        rw [hlength]
        exact hfits
      unfold ArrayStorage.readImpl
      apply Ensures.bind (debugAssert_spec (decide_eq_true hfits))
      intro _ _
      apply Ensures.bind (debugAssert_spec (by rw [hdivisor]; rfl))
      intro _ _
      apply Ensures.bind (h.getItem_page hheld hpage)
      intro _ hsame
      rw [hsame]
      exact reads_lookup hpage hle
  | @pages layers t next ih =>
      obtain ⟨page, hpage, hlength⟩ := h.1.page_of_pos hheld
      have hdivisor' : divisor = capacity layers := hdivisor
      have hroom' : buf.length + 2 * capacity layers ≤ 2 ^ 64 := hroom
      have hless := pow_le_capacity layers
      have hfits' : index + buf.length ≤ page.length * capacity layers := by
        rw [hlength, Nat.mul_comm]
        exact hfits
      unfold ArrayStorage.readImpl
      rw [hdivisor']
      apply Ensures.bind (spans_spec (capacity_pos layers) hroom')
      intro list htiles
      apply Ensures.bind (h.1.getItem_page hheld hpage)
      intro _ hsame
      rw [hsame]
      have hread : ∀ {ptr} (part : List T) (index : ℕ), 0 < holders t ptr →
          index + part.length ≤ capacity layers → part.length ≤ buf.length →
          (next.readImpl part ptr index (capacity layers / PAGE_SIZE)).Ensures
            fun r => Reads (lookup next ptr) index part.length r := by
        intro ptr part index hheld' hfits'' hpart
        exact ih h.2 hheld' hfits'' (capacity_div layers) (by omega)
      have hchildren : ∀ child ∈ page, 0 < holders t child :=
        fun child hmem => holders_pos h.1.wf hpage hmem
      have hdone : ∀ k, k < 0 → buf[k]? = flat next page (index + k) := by
        intro k hk
        omega
      apply (readSpans_spec hread htiles hchildren rfl hdone hfits').imp
      intro r hr
      apply hr.congr
      intro k _
      rw [lookup_pages, hpage]
      rfl

theorem iterRangeImpl_spec {storage : ArrayStorage T layers} {ptr : TablePtr}
    {index len divisor : ℕ} (h : Owned storage R) (hheld : 0 < R ptr)
    (hfits : index + len ≤ capacity layers)
    (hdivisor : divisor = PAGE_SIZE ^ layers)
    (hroom : capacity layers < 2 ^ 64) :
    (storage.iterRangeImpl ptr index len divisor).Ensures fun r =>
      Reads (lookup storage ptr) index len r := by
  induction storage generalizing R ptr index len divisor with
  | data t =>
      obtain ⟨page, hpage, hlength⟩ := h.page_of_pos hheld
      have hle : index + len ≤ page.length := by
        rw [hlength]
        exact hfits
      unfold ArrayStorage.iterRangeImpl
      apply Ensures.bind (debugAssert_spec (decide_eq_true hfits))
      intro _ _
      apply Ensures.bind (debugAssert_spec (by rw [hdivisor]; rfl))
      intro _ _
      apply Ensures.bind (h.getItem_page hheld hpage)
      intro _ hsame
      rw [hsame]
      exact reads_lookup hpage hle
  | @pages layers t next ih =>
      obtain ⟨page, hpage, hlength⟩ := h.1.page_of_pos hheld
      have hdivisor' : divisor = capacity layers := hdivisor
      have hless : capacity layers ≤ capacity (layers + 1) := by
        rw [capacity_succ]
        omega
      have hfits' : index + len ≤ page.length * capacity layers := by
        rw [hlength, Nat.mul_comm]
        exact hfits
      unfold ArrayStorage.iterRangeImpl
      rw [hdivisor']
      apply Ensures.bind (ranges_spec (capacity_pos layers) (by omega))
      intro list htiles
      apply Ensures.bind (h.1.getItem_page hheld hpage)
      intro _ hsame
      rw [hsame]
      have hiter : ∀ {ptr} (index count : ℕ), 0 < holders t ptr →
          index + count ≤ capacity layers → count ≤ len →
          (next.iterRangeImpl ptr index count
            (capacity layers / PAGE_SIZE)).Ensures
            fun r => Reads (lookup next ptr) index count r := by
        intro ptr index count hheld' hfits'' _
        exact ih h.2 hheld' hfits'' (capacity_div layers) (by omega)
      have hchildren : ∀ child ∈ page, 0 < holders t child :=
        fun child hmem => holders_pos h.1.wf hpage hmem
      have hspans := iterSpans_spec hiter htiles hchildren hfits'
      rw [Nat.add_zero, Nat.sub_zero] at hspans
      apply hspans.imp
      intro r hr
      apply hr.congr
      intro k _
      rw [lookup_pages, hpage]
      rfl

end Build

end RedPlanet.SpaceTime
