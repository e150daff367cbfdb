import RedPlanet.SpaceTime.Leaks
import RedPlanet.SpaceTime.Pool

/-!
# Pages of arrays that are gone

`remove_instance` and `drop_instance` drop the pages of an array but not the
pointer to its reset page, which `new_instance` and `clone_instance` count
like the others.  So for each array that is gone one top level page is still
held, and with it a page in every table below.

`Pool.Run.freed_iff` says that once all arrays are gone there are no pages
exactly if there never was an array, by an invariant that counts the holders
that are left behind.
-/

set_option linter.dupNamespace false

namespace RedPlanet.SpaceTime

open RedPlanet.Core RedPlanet.Verified Limited

variable {T : Type} {layers : ℕ}

/-! ## Storage without pages -/

/-- No slot of any table is filled. -/
def ArrayStorage.Vacant : {layers : ℕ} → ArrayStorage T layers → Prop
  | _, .data t => ∀ ptr, ¬ t.Filled ptr
  | _, .pages t next => (∀ ptr, ¬ t.Filled ptr) ∧ next.Vacant

theorem Table.Counted.filled_iff {α : Type} {t : Table α} {R : TablePtr → ℕ}
    (h : t.Counted R) (ptr : TablePtr) : t.Filled ptr ↔ 0 < R ptr := by
  rw [← h.refs]
  constructor
  · intro hfilled
    obtain ⟨data, hdata, hisFilled⟩ := hfilled
    rw [Table.refs_of_filled hdata hisFilled]
    exact h.wf.counted _ data hdata hisFilled
  · intro hpos
    obtain ⟨data, hdata, hisFilled, -⟩ := Table.filled_of_refs hpos
    exact ⟨data, hdata, hisFilled⟩

theorem holders_of_vacant {t : Table (List TablePtr)}
    (h : ∀ ptr, t.refs ptr = 0) (ptr : TablePtr) : holders t ptr = 0 := by
  unfold holders Table.total
  apply Finset.sum_eq_zero
  intro i _
  apply Table.weight_none
  unfold Table.item
  rw [if_neg]
  rw [h]
  exact Nat.lt_irrefl 0

/-- There are no pages exactly when no page is held. -/
theorem Owned.vacant_iff {storage : ArrayStorage T layers} {R : TablePtr → ℕ}
    (h : Owned storage R) : storage.Vacant ↔ ∀ ptr, R ptr = 0 := by
  induction storage generalizing R with
  | data t =>
      have hfilled := h.toCounted.filled_iff
      constructor
      · intro hvacant ptr
        have hnot := hvacant ptr
        rw [hfilled] at hnot
        omega
      · intro hzero ptr
        rw [hfilled, hzero]
        exact Nat.lt_irrefl 0
  | pages t next ih =>
      have hfilled := h.1.toCounted.filled_iff
      constructor
      · intro hvacant ptr
        have hnot := hvacant.1 ptr
        rw [hfilled] at hnot
        omega
      · intro hzero
        refine ⟨?_, ?_⟩
        · intro ptr
          rw [hfilled, hzero]
          exact Nat.lt_irrefl 0
        · apply (ih h.2).2
          intro ptr
          apply holders_of_vacant
          intro ptr'
          rw [h.1.refs, hzero]

theorem holding_eq_zero_iff {ptrs : List TablePtr} :
    (∀ ptr, holding ptrs 0 ptr = 0) ↔ ptrs = [] := by
  constructor
  · intro h
    rw [List.eq_nil_iff_forall_not_mem]
    intro ptr hmem
    have hpos := holding_pos_of_mem hmem 0
    have hzero := h ptr
    omega
  · intro h ptr
    rw [h, holding_nil]
    rfl

/-! ## The pointers that are forgotten -/

namespace Pool

/-- Arrays that are gone. -/
def gone (arrays : List (Option Instance)) : ℕ :=
  arrays.countP fun array => array.isNone

/-- Beside what the arrays hold, one pointer is counted for each array that is
gone. -/
def Forgets (pool : Pool T layers) : Prop :=
  ∃ forgotten : List TablePtr, forgotten.length = gone pool.arrays ∧
    Owned pool.storage (holding (heldBy pool.arrays) (holding forgotten 0))

theorem gone_set {arrays : List (Option Instance)} {i : ℕ} {array : Instance}
    (h : arrays[i]? = some (some array)) (array' : Option Instance) :
    gone (arrays.set i array') = gone arrays + array'.isNone.toNat := by
  obtain ⟨hi, hget⟩ := List.getElem?_eq_some_iff.1 h
  unfold gone
  rw [List.countP_set hi, hget]
  cases array' with
  | none => rfl
  | some array' => rfl

theorem gone_of_all {arrays : List (Option Instance)}
    (h : ∀ array ∈ arrays, array = none) : gone arrays = arrays.length := by
  unfold gone
  rw [List.countP_eq_length]
  intro array hmem
  rw [h array hmem]
  rfl

theorem heldBy_of_all {arrays : List (Option Instance)}
    (h : ∀ array ∈ arrays, array = none) : heldBy arrays = [] := by
  unfold heldBy
  rw [List.flatMap_eq_nil_iff]
  intro array hmem
  rw [h array hmem]
  rfl

variable {pool : Pool T layers} {flats : List (Option (Resettable T))}

theorem forgets_new : (new : Pool T layers).Forgets :=
  ⟨[], rfl, owned_new layers⟩

/-- An array joins the others. -/
theorem forgets_append {storage : ArrayStorage T layers} {array : Instance}
    {forgotten : List TablePtr} (hlength : forgotten.length = gone pool.arrays)
    (howned : Owned storage (holding array.ptrs
      (holding (heldBy pool.arrays) (holding forgotten 0)))) :
    Forgets { storage := storage, arrays := pool.arrays ++ [some array] } := by
  refine ⟨forgotten, ?_, ?_⟩
  · rw [hlength]
    unfold gone
    rw [List.countP_append]
    rfl
  · rw [holding_perm (heldBy_append pool.arrays (some array)), holding_append]
    exact howned

/-- What became of one array: when it is gone, one pointer is forgotten. -/
def Remembers (R : TablePtr → ℕ)
    (r : Bool × Option Instance × ArrayStorage T layers) : Prop :=
  ∃ extra : List TablePtr, extra.length = r.2.1.isNone.toNat ∧
    Owned r.2.2 (holding (ptrsOf r.2.1) (holding extra R))

theorem remembers_of_owned {storage : ArrayStorage T layers}
    {R : TablePtr → ℕ} {ok : Bool} {array : Instance}
    (h : Owned storage (holding array.ptrs R)) :
    Remembers R (ok, some array, storage) := by
  refine ⟨[], rfl, ?_⟩
  rw [holding_nil]
  exact h

/-- An update that may be out of bounds forgets nothing. -/
theorem remembers_of_result {storage : ArrayStorage T layers}
    {R : TablePtr → ℕ} {array : Instance} {value : T}
    {content : Option (Flat T)} {r : Bool × Instance × ArrayStorage T layers}
    (howned : Owned storage (holding array.ptrs R))
    (h : (∃ content', content = some content' ∧ r.1 = true ∧
        Updates storage r.2.2 r.2.1 content' value R) ∨
      (content = none ∧ r = (false, array, storage))) :
    Remembers R (r.1, some r.2.1, r.2.2) := by
  rcases h with ⟨content', -, -, hupdates⟩ | ⟨-, hsame⟩
  · exact remembers_of_owned hupdates.owned
  · rw [hsame]
    exact remembers_of_owned howned

theorem onArray_forgets (hshows : pool.Shows flats) (h : pool.Forgets) (i : ℕ)
    {f : Instance → ArrayStorage T layers →
      Limited (Bool × Option Instance × ArrayStorage T layers)}
    (hf : ∀ array x R, Owned pool.storage (holding array.ptrs R) →
      ShowsFlat pool.storage array x →
      (f array pool.storage).Ensures (Remembers R)) :
    (pool.onArray i f).Ensures fun r => r.2.Forgets := by
  unfold onArray
  split
  · rename_i array harray
    obtain ⟨forgotten, hlength, howned⟩ := h
    obtain ⟨x, -, hshown⟩ := hshows.flat harray
    obtain ⟨hi, -⟩ := List.getElem?_eq_some_iff.1 harray
    rw [holding_perm (heldBy_get harray), holding_append] at howned
    apply Ensures.bind (hf array x _ howned hshown)
    intro r hr
    obtain ⟨extra, hextra, howned'⟩ := hr
    apply Ensures.pure
    refine ⟨extra ++ forgotten, ?_, ?_⟩
    · rw [List.length_append, hextra, hlength]
      dsimp only
      rw [gone_set harray, Nat.add_comm]
    · rw [holding_perm (heldBy_set hi r.2.1), holding_append, holding_append,
        holding_comm _ extra]
      exact howned'
  · exact Ensures.pure h

end Pool

section Build

variable [Build] {pool : Pool T layers} {flats : List (Option (Resettable T))}

theorem dropPages_remembers {storage : ArrayStorage T layers}
    {array : Instance} {R : TablePtr → ℕ}
    (h : Owned storage (holding array.ptrs R)) :
    (do
      let storage ← ArrayStorage.dropPages array.pages storage
      return ((true, none, storage) :
        Bool × Option Instance × ArrayStorage T layers)).Ensures
      (Pool.Remembers R) := by
  rw [holding_ptrs] at h
  apply Ensures.bind (dropPages_spec h)
  intro storage' hdropped
  apply Ensures.pure
  refine ⟨[array.resetPage], rfl, ?_⟩
  show Owned storage' (holding [] (holding [array.resetPage] R))
  rw [holding_nil]
  exact hdropped.1

/-- A call forgets a pointer exactly when an array goes. -/
theorem PoolCall.run_forgets (hlayers : layers ≤ 9) (hshows : pool.Shows flats)
    (h : pool.Forgets) {call : PoolCall T} (hsliced : call.Sliced) :
    (call.run pool).Ensures fun r => r.2.Forgets := by
  cases call with
  | newInstance value size =>
      obtain ⟨forgotten, hlength, howned⟩ := h
      apply Ensures.bind (newInstance_spec value size.toNat howned hlayers)
      intro r hr
      exact Ensures.pure (Pool.forgets_append hlength hr.1)
  | cloneInstance i =>
      unfold run
      dsimp only
      split
      · rename_i array harray
        obtain ⟨forgotten, hlength, howned⟩ := h
        have hheld : ∀ ptr ∈ array.ptrs,
            0 < holding (heldBy pool.arrays) (holding forgotten 0) ptr :=
          fun ptr hptr => holding_pos_of_mem (mem_heldBy harray hptr) _
        apply Ensures.bind (cloneInstance_spec howned hheld)
        intro r hr
        apply Ensures.pure
        apply Pool.forgets_append hlength
        rw [hr.1]
        exact hr.2.1
      · exact Ensures.pure h
  | removeInstance i =>
      exact Pool.onArray_forgets hshows h i fun array x R howned _ =>
        dropPages_remembers howned
  | dropInstance i =>
      exact Pool.onArray_forgets hshows h i fun array x R howned _ =>
        dropPages_remembers howned
  | getMut i index f =>
      apply Pool.onArray_forgets hshows h i
      intro array x R howned hshown
      apply Ensures.bind (Instance.getMut_spec f howned hlayers
        hshown.represents index.toNat)
      intro r hresult
      exact Ensures.pure (Pool.remembers_of_result howned hresult)
  | write i index buf =>
      apply Pool.onArray_forgets hshows h i
      intro array x R howned hshown
      apply Ensures.bind (Instance.write_spec howned hlayers
        hshown.represents index.toNat (room_of_layers hlayers hsliced _))
      intro r hresult
      exact Ensures.pure (Pool.remembers_of_result howned hresult)
  | reset i =>
      apply Pool.onArray_forgets hshows h i
      intro array x R howned hshown
      apply Ensures.bind (Instance.reset_spec howned hshown.represents)
      intro r hupdates
      exact Ensures.pure (Pool.remembers_of_owned hupdates.owned)

/-! ## Runs -/

theorem Pool.Run.forgets (hlayers : layers ≤ 9)
    (h : Pool.Run PoolCall.Within pool flats) : pool.Forgets := by
  induction h with
  | new => exact Pool.forgets_new
  | call hrest hcall hrun ih =>
      have hstep := PoolCall.run_forgets hlayers (hrest.shows hlayers) ih
        hcall.1
      exact hstep.of_ok hcall.2 hrun

omit [Build] in
theorem Pool.onArray_unused {i : ℕ}
    {f : Instance → ArrayStorage T layers →
      Limited (Bool × Option Instance × ArrayStorage T layers)}
    {r : Bool × Pool T layers} (hrun : (pool.onArray i f).result = .ok r)
    (hunused : r.2.arrays = []) : r.2 = pool := by
  unfold onArray at hrun
  split at hrun
  · rename_i array harray
    obtain ⟨⟨ok, array', storage⟩, -, hpure⟩ := exists_of_bind_ok hrun
    cases hpure
    have hnil : pool.arrays = [] := (List.set_eq_nil_iff i array').1 hunused
    rw [hnil] at harray
    cases harray
  · cases hrun
    rfl

omit [Build] in
theorem Pool.onArray_nil (h : pool.arrays = []) {i : ℕ}
    {f : Instance → ArrayStorage T layers →
      Limited (Bool × Option Instance × ArrayStorage T layers)}
    {r : Bool × Pool T layers} (hrun : (pool.onArray i f).result = .ok r) :
    r.2.arrays = [] := by
  unfold onArray at hrun
  rw [h, List.getElem?_nil] at hrun
  cases hrun
  exact h

/-- A call that leaves no array, neither there nor gone, did nothing. -/
theorem PoolCall.run_unused {call : PoolCall T} {r : Bool × Pool T layers}
    (hrun : (call.run pool).result = .ok r) (hunused : r.2.arrays = []) :
    r.2 = pool := by
  cases call with
  | newInstance value size =>
      obtain ⟨⟨array, storage⟩, -, hpure⟩ := exists_of_bind_ok hrun
      cases hpure
      simp at hunused
  | cloneInstance i =>
      unfold run at hrun
      dsimp only at hrun
      split at hrun
      · obtain ⟨⟨array, storage⟩, -, hpure⟩ := exists_of_bind_ok hrun
        cases hpure
        simp at hunused
      · cases hrun
        rfl
  | removeInstance i => exact Pool.onArray_unused hrun hunused
  | dropInstance i => exact Pool.onArray_unused hrun hunused
  | getMut i index f => exact Pool.onArray_unused hrun hunused
  | write i index buf => exact Pool.onArray_unused hrun hunused
  | reset i => exact Pool.onArray_unused hrun hunused

/-- Before the first array the pool is new. -/
theorem Pool.Run.new_of_unused {C : PoolCall T → Pool T layers → Prop}
    (h : Pool.Run C pool flats) (hunused : pool.arrays = []) :
    pool = Pool.new := by
  induction h with
  | new => rfl
  | @call pool pool' flats call ok _ _ hrun ih =>
      have hsame : pool' = pool := PoolCall.run_unused hrun hunused
      rw [hsame] at hunused ⊢
      exact ih hunused

/-- With ten layers or more no array can be created: the number of elements
under a page does not fit. -/
theorem newInstance_ne_ok (hlayers : 9 < layers)
    {storage : ArrayStorage T layers} {value : T} {size : ℕ}
    {r : Instance × ArrayStorage T layers} :
    (storage.newInstance value size).result ≠ .ok r := by
  have hdvd : 2 ^ 64 ∣ PAGE_SIZE ^ (layers + 1) := by
    have hsix : (PAGE_SIZE : ℕ) = 2 ^ 6 := rfl
    rw [hsix, ← Nat.pow_mul]
    exact Nat.pow_dvd_pow 2 (by omega)
  have hitems : ∀ items : ℕ, (ArrayStorage.itemsPerTopLevelPage layers).result
      = .ok items → items = 0 := by
    intro items hok
    have hle : ¬ PAGE_SIZE ^ (layers + 1) < 2 ^ 64 :=
      Nat.not_lt.2 (Nat.le_of_dvd (Nat.pow_pos (by decide)) hdvd)
    unfold ArrayStorage.itemsPerTopLevelPage powU64 at hok
    rw [if_neg hle] at hok
    split at hok
    · cases hok
    · cases hok
      exact Nat.mod_eq_zero_of_dvd hdvd
  intro hok
  unfold ArrayStorage.newInstance at hok
  obtain ⟨top, -, hok⟩ := exists_of_bind_ok hok
  obtain ⟨items, hpow, hok⟩ := exists_of_bind_ok hok
  obtain ⟨count, hcount, -⟩ := exists_of_bind_ok hok
  rw [hitems items hpow] at hcount
  cases hcount

theorem Pool.Run.unused_of_layers {C : PoolCall T → Pool T layers → Prop}
    (hlayers : 9 < layers) (h : Pool.Run C pool flats) : pool.arrays = [] := by
  induction h with
  | new => rfl
  | @call pool pool' flats call ok _ _ hrun ih =>
      cases call with
      | newInstance value size =>
          obtain ⟨created, hcreated, -⟩ := exists_of_bind_ok hrun
          exact absurd hcreated (newInstance_ne_ok hlayers)
      | cloneInstance i =>
          unfold PoolCall.run at hrun
          dsimp only at hrun
          rw [ih, List.getElem?_nil] at hrun
          cases hrun
          exact ih
      | removeInstance i => exact Pool.onArray_nil ih hrun
      | dropInstance i => exact Pool.onArray_nil ih hrun
      | getMut i index f => exact Pool.onArray_nil ih hrun
      | write i index buf => exact Pool.onArray_nil ih hrun
      | reset i => exact Pool.onArray_nil ih hrun

/-- Once all arrays are gone: there are no pages if there never was an array.
Within the limits there are some otherwise, and one pointer for each array is
what still holds them. -/
theorem Pool.Run.freed_iff (h : Pool.Run (fun _ _ => True) pool flats)
    (hgone : ∀ array ∈ pool.arrays, array = none) :
    (pool.arrays = [] → pool.storage.Vacant) ∧
      (Pool.Run PoolCall.Within pool flats →
        (pool.storage.Vacant ↔ pool.arrays = []) ∧
        ∃ forgotten : List TablePtr,
          forgotten.length = pool.arrays.length ∧
            Owned pool.storage (holding forgotten 0)) := by
  have hnew : pool.arrays = [] → Owned pool.storage 0 := by
    intro hunused
    rw [h.new_of_unused hunused]
    exact owned_new layers
  refine ⟨fun hunused => (hnew hunused).vacant_iff.2 fun _ => rfl, ?_⟩
  intro hwithin
  have howned : ∃ forgotten : List TablePtr,
      forgotten.length = pool.arrays.length ∧
        Owned pool.storage (holding forgotten 0) := by
    rcases Nat.lt_or_ge 9 layers with hmany | hlayers
    · have hunused := hwithin.unused_of_layers hmany
      refine ⟨[], ?_, ?_⟩
      · rw [hunused]
        rfl
      · rw [holding_nil]
        exact hnew hunused
    · obtain ⟨forgotten, hlength, howned⟩ := hwithin.forgets hlayers
      rw [gone_of_all hgone] at hlength
      rw [heldBy_of_all hgone, holding_nil] at howned
      exact ⟨forgotten, hlength, howned⟩
  refine ⟨?_, howned⟩
  obtain ⟨forgotten, hlength, howned⟩ := howned
  rw [howned.vacant_iff, holding_eq_zero_iff, ← List.length_eq_zero_iff,
    hlength, List.length_eq_zero_iff]

end Build

/-- The pool after an array of three elements was created and removed. -/
def removed : Pool (BitVec 8) 0 where
  storage := .data (single (List.replicate PAGE_SIZE 7) 1)
  arrays := [none]

theorem removed_run {C : PoolCall (BitVec 8) → Pool (BitVec 8) 0 → Prop}
    (hnew : C (.newInstance 7 3) Pool.new)
    (hremove : C (.removeInstance 0)
      { storage := .data (single (List.replicate PAGE_SIZE 7) 2)
        arrays := [some { resetPage := ⟨0⟩, pages := [⟨0⟩], size := 3 }] }) :
    @Pool.Run (BitVec 8) 0 Build.debug C removed [none] := by
  let _ : Build := Build.debug
  exact @Pool.Run.call _ _ _ _ _ _ _ (.removeInstance 0) true
    (@Pool.Run.call _ _ _ _ _ _ _ (.newInstance 7 3) true .new hnew rfl)
    hremove rfl

/-- With its array gone the pool still has a page. -/
theorem Pool.Run.freed_iff_removed : ¬ removed.storage.Vacant := by
  let _ : Build := Build.debug
  have hany := @removed_run (fun _ _ => True) True.intro True.intro
  have hwithin := @removed_run PoolCall.Within ⟨True.intro, rfl⟩
    ⟨True.intro, rfl⟩
  have hgone : ∀ array ∈ removed.arrays, array = none := by decide
  intro hvacant
  have hunused := ((hany.freed_iff hgone).2 hwithin).1.1 hvacant
  cases hunused

/-- The array is gone, but its page is not. -/
theorem removed_not_freed :
    ¬ ∀ (pool : Pool (BitVec 8) 0)
      (flats : List (Option (Resettable (BitVec 8)))),
        @Pool.Run (BitVec 8) 0 Build.debug (fun _ _ => True) pool flats →
          (∀ array ∈ pool.arrays, array = none) → pool.storage.Vacant := by
  intro h
  have hvacant := h removed _ (removed_run True.intro True.intro) (by decide)
  exact hvacant ⟨0⟩ ⟨⟨1⟩, rfl, by decide⟩

end RedPlanet.SpaceTime
