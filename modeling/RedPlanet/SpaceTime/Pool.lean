import RedPlanet.SpaceTime.Reading

/-!
# Arrays that share one storage

Any number of arrays over one `ArrayStorage`, created, cloned, changed and
removed in any order.  `PoolCall.run` makes a call on the pages, and
`PoolCall.apply` does what the call is for to the flat arrays.

`Pool.Shows` relates the two: every array of the pool represents its flat
array, and the pages that it needs are counted for it.  `Pool.Run.refines_flat`
is the refinement for every run within the limits.  A count that wraps is
outside of them: `crowded_not_behaves` gets there with an array of `2^31`
pages.
-/

set_option linter.dupNamespace false

namespace RedPlanet.SpaceTime

open RedPlanet.Core RedPlanet.Verified Limited

variable {T : Type} {layers : ℕ}

/-! ## Calls -/

/-- The arrays are numbered as they come, and `none` once they are gone. -/
structure Pool (T : Type) (layers : ℕ) where
  storage : ArrayStorage T layers
  arrays : List (Option Instance)

/-- A call that may change something.  `getMut` also makes an assignment
through the reference. -/
inductive PoolCall (T : Type) where
  | newInstance (value : T) (size : BitVec 64)
  | cloneInstance (i : ℕ)
  | removeInstance (i : ℕ)
  | dropInstance (i : ℕ)
  | getMut (i : ℕ) (index : BitVec 64) (f : T → T)
  | write (i : ℕ) (index : BitVec 64) (buf : List T)
  | reset (i : ℕ)

namespace Pool

def new : Pool T layers where
  storage := ArrayStorage.new layers
  arrays := []

/-- Change one array, or take it away. -/
def onArray (i : ℕ)
    (f : Instance → ArrayStorage T layers →
      Limited (Bool × Option Instance × ArrayStorage T layers))
    (pool : Pool T layers) : Limited (Bool × Pool T layers) :=
  match pool.arrays[i]? with
  | some (some array) => do
      let (ok, array, storage) ← f array pool.storage
      return (ok, { storage := storage, arrays := pool.arrays.set i array })
  | _ => return (false, pool)

end Pool

section Build

variable [Build]

/-- `false` where there is no such array, or no such elements. -/
def PoolCall.run (call : PoolCall T) (pool : Pool T layers) :
    Limited (Bool × Pool T layers) :=
  match call with
  | .newInstance value size => do
      let (array, storage) ← pool.storage.newInstance value size.toNat
      return (true,
        { storage := storage, arrays := pool.arrays ++ [some array] })
  | .cloneInstance i =>
      match pool.arrays[i]? with
      | some (some array) => do
          let (clone, storage) ← pool.storage.cloneInstance array
          return (true,
            { storage := storage, arrays := pool.arrays ++ [some clone] })
      | _ => return (false, pool)
  | .removeInstance i => pool.onArray i fun array storage => do
      let storage ← storage.removeInstance array
      return (true, none, storage)
  | .dropInstance i => pool.onArray i fun array storage => do
      let storage ← storage.dropInstance array
      return (true, none, storage)
  | .getMut i index f => pool.onArray i fun array storage => do
      let (ok, array, storage) ← array.getMut f storage index.toNat
      return (ok, some array, storage)
  | .write i index buf => pool.onArray i fun array storage => do
      let (ok, array, storage) ← array.write storage index.toNat buf
      return (ok, some array, storage)
  | .reset i => pool.onArray i fun array storage => do
      let (array, storage) ← array.reset storage
      return (true, some array, storage)

end Build

/-! ## The calls on flat arrays -/

/-- A flat array, and the value that a reset restores. -/
structure Resettable (T : Type) where
  content : Flat T
  value : T

/-- Change one of the flat arrays, or take it away. -/
def onFlat (i : ℕ) (f : Resettable T → Bool × Option (Resettable T))
    (flats : List (Option (Resettable T))) :
    Bool × List (Option (Resettable T)) :=
  match flats[i]? with
  | some (some x) => ((f x).1, flats.set i (f x).2)
  | _ => (false, flats)

/-- The result of an update that may be out of bounds. -/
def Resettable.replace (x : Resettable T) (content : Option (Flat T)) :
    Bool × Option (Resettable T) :=
  (content.isSome, some { x with content := content.getD x.content })

def PoolCall.apply (call : PoolCall T)
    (flats : List (Option (Resettable T))) :
    Bool × List (Option (Resettable T)) :=
  match call with
  | .newInstance value size =>
      (true, flats ++ [some ⟨Flat.replicate size.toNat value, value⟩])
  | .cloneInstance i =>
      match flats[i]? with
      | some (some x) => (true, flats ++ [some x])
      | _ => (false, flats)
  | .removeInstance i => onFlat i (fun _ => (true, none)) flats
  | .dropInstance i => onFlat i (fun _ => (true, none)) flats
  | .getMut i index f => onFlat i (fun x => x.replace
      (x.content.set index.toNat (f (x.content.elem index.toNat)))) flats
  | .write i index buf => onFlat i (fun x => x.replace
      (x.content.write index.toNat buf)) flats
  | .reset i => onFlat i (fun x =>
      (true, some { x with
        content := Flat.replicate x.content.size x.value })) flats

/-- The array that a call changes. -/
def PoolCall.target : PoolCall T → Option ℕ
  | .newInstance _ _ | .cloneInstance _ => none
  | .removeInstance i | .dropInstance i | .getMut i _ _ | .write i _ _
  | .reset i => some i

theorem onFlat_other {i j : ℕ} (hne : i ≠ j)
    (f : Resettable T → Bool × Option (Resettable T))
    (flats : List (Option (Resettable T))) :
    (onFlat i f flats).2[j]? = flats[j]? := by
  unfold onFlat
  split
  · exact List.getElem?_set_ne hne
  · rfl

/-- A call leaves the other arrays alone. -/
theorem PoolCall.apply_other {call : PoolCall T}
    {flats : List (Option (Resettable T))} {j : ℕ} (hj : j < flats.length)
    (htarget : call.target ≠ some j) :
    (call.apply flats).2[j]? = flats[j]? := by
  have hne : ∀ i, some i ≠ some j → i ≠ j := fun i h heq => h (by rw [heq])
  cases call with
  | newInstance value size => exact List.getElem?_append_left hj
  | cloneInstance i =>
      unfold apply
      dsimp only
      split
      · exact List.getElem?_append_left hj
      · rfl
  | removeInstance i => exact onFlat_other (hne i htarget) _ flats
  | dropInstance i => exact onFlat_other (hne i htarget) _ flats
  | getMut i index f => exact onFlat_other (hne i htarget) _ flats
  | write i index buf => exact onFlat_other (hne i htarget) _ flats
  | reset i => exact onFlat_other (hne i htarget) _ flats

/-! ## What the arrays hold -/

/-- What an array holds, if it is there. -/
def ptrsOf (array : Option Instance) : List TablePtr :=
  (array.map Instance.ptrs).getD []

/-- What all arrays hold. -/
def heldBy (arrays : List (Option Instance)) : List TablePtr :=
  arrays.flatMap ptrsOf

theorem heldBy_append (arrays : List (Option Instance))
    (array : Option Instance) :
    (heldBy (arrays ++ [array])).Perm (ptrsOf array ++ heldBy arrays) := by
  have happend : heldBy (arrays ++ [array]) =
      heldBy arrays ++ ptrsOf array := by simp [heldBy]
  rw [happend]
  exact List.perm_append_comm

/-- The pages of one array apart from those of the others. -/
theorem heldBy_set {arrays : List (Option Instance)} {i : ℕ}
    (hi : i < arrays.length) (array : Option Instance) :
    (heldBy (arrays.set i array)).Perm
      (ptrsOf array ++ heldBy (arrays.set i none)) := by
  induction arrays generalizing i with
  | nil => exact absurd hi (Nat.not_lt_zero i)
  | cons first rest ih =>
      cases i with
      | zero =>
          show (ptrsOf array ++ heldBy rest).Perm
            (ptrsOf array ++ (ptrsOf none ++ heldBy rest))
          exact List.Perm.refl _
      | succ i =>
          have hrest := ih (Nat.lt_of_succ_lt_succ hi)
          show (ptrsOf first ++ heldBy (rest.set i array)).Perm
            (ptrsOf array ++ (ptrsOf first ++ heldBy (rest.set i none)))
          exact (hrest.append_left _).trans
            (List.perm_append_comm_assoc _ _ _)

theorem heldBy_get {arrays : List (Option Instance)} {i : ℕ}
    {array : Option Instance} (h : arrays[i]? = some array) :
    (heldBy arrays).Perm (ptrsOf array ++ heldBy (arrays.set i none)) := by
  obtain ⟨hi, hget⟩ := List.getElem?_eq_some_iff.1 h
  have hself : arrays.set i array = arrays := by
    rw [← hget]
    exact List.set_getElem_self hi
  have hperm := heldBy_set hi array
  rw [hself] at hperm
  exact hperm

theorem mem_heldBy {arrays : List (Option Instance)} {i : ℕ}
    {array : Instance} (h : arrays[i]? = some (some array)) {ptr : TablePtr}
    (hptr : ptr ∈ array.ptrs) : ptr ∈ heldBy arrays :=
  (heldBy_get h).mem_iff.2 (List.mem_append_left _ hptr)

/-! ## What the pool shows -/

/-- The array represents the flat array. -/
structure ShowsFlat (storage : ArrayStorage T layers) (array : Instance)
    (x : Resettable T) : Prop where
  represents : Represents storage array x.content x.value
  size_lt : x.content.size < 2 ^ 64

theorem ShowsFlat.keeps {storage storage' : ArrayStorage T layers}
    {array : Instance} {x : Resettable T} {R : TablePtr → ℕ}
    (h : ShowsFlat storage array x) (hkeeps : Keeps R storage storage')
    (hheld : ∀ ptr ∈ array.ptrs, 0 < R ptr) : ShowsFlat storage' array x where
  represents := h.represents.keeps hkeeps hheld
  size_lt := h.size_lt

/-- Every array shows its flat array, and its pages are counted for it.  The
reset pages of arrays that are gone stay counted. -/
structure Pool.Shows (pool : Pool T layers)
    (flats : List (Option (Resettable T))) : Prop where
  owned : ∃ leak, Owned pool.storage (holding (heldBy pool.arrays) leak)
  length : flats.length = pool.arrays.length
  shown : ∀ (i : ℕ) array x, pool.arrays[i]? = some array →
    flats[i]? = some x → Option.Rel (ShowsFlat pool.storage) array x

namespace Pool

variable {pool : Pool T layers} {flats : List (Option (Resettable T))}

theorem shows_new : (new : Pool T layers).Shows [] where
  owned := ⟨0, owned_new layers⟩
  length := rfl
  shown := by simp

/-- What the pool has at a place, the flat arrays have there too. -/
theorem Shows.flat_of_get (h : pool.Shows flats) {i : ℕ}
    {array : Option Instance} (harray : pool.arrays[i]? = some array) :
    ∃ x, flats[i]? = some x ∧
      Option.Rel (ShowsFlat pool.storage) array x := by
  obtain ⟨hi, _⟩ := List.getElem?_eq_some_iff.1 harray
  rw [← h.length] at hi
  have hflats := List.getElem?_eq_getElem hi
  exact ⟨flats[i], hflats, h.shown i _ _ harray hflats⟩

/-- What the flat arrays have at a place, the pool has there too. -/
theorem Shows.array_of_get (h : pool.Shows flats) {i : ℕ}
    {x : Option (Resettable T)} (hx : flats[i]? = some x) :
    ∃ array, pool.arrays[i]? = some array ∧
      Option.Rel (ShowsFlat pool.storage) array x := by
  obtain ⟨hi, _⟩ := List.getElem?_eq_some_iff.1 hx
  rw [h.length] at hi
  have harrays := List.getElem?_eq_getElem hi
  exact ⟨pool.arrays[i], harrays, h.shown i _ _ harrays hx⟩

theorem Shows.flat (h : pool.Shows flats) {i : ℕ} {array : Instance}
    (harray : pool.arrays[i]? = some (some array)) :
    ∃ x, flats[i]? = some (some x) ∧ ShowsFlat pool.storage array x := by
  obtain ⟨x, hx, hshown⟩ := h.flat_of_get harray
  cases hshown with
  | some hshown => exact ⟨_, hx, hshown⟩

/-- The array that is not there is not there as a flat array either. -/
theorem Shows.gone (h : pool.Shows flats) {i : ℕ}
    (harray : ∀ array, pool.arrays[i]? ≠ some (some array))
    (x : Resettable T) : flats[i]? ≠ some (some x) := by
  intro hx
  obtain ⟨array, hget, hshown⟩ := h.array_of_get hx
  cases hshown with
  | some hshown => exact harray _ hget

/-- An array joins the others. -/
theorem Shows.append (h : pool.Shows flats) {leak : TablePtr → ℕ}
    {storage : ArrayStorage T layers} {array : Instance} {x : Resettable T}
    (hkeeps : Keeps (holding (heldBy pool.arrays) leak) pool.storage storage)
    (howned : Owned storage
      (holding array.ptrs (holding (heldBy pool.arrays) leak)))
    (hshows : ShowsFlat storage array x) :
    Shows { storage := storage, arrays := pool.arrays ++ [some array] }
      (flats ++ [some x]) where
  owned := by
    refine ⟨leak, ?_⟩
    rw [holding_perm (heldBy_append pool.arrays (some array)),
      holding_append]
    exact howned
  length := by simp [h.length]
  shown := by
    intro i array' x' harray hx
    dsimp only at harray
    rcases Nat.lt_or_ge i pool.arrays.length with hlt | hge
    · rw [List.getElem?_append_left hlt] at harray
      rw [List.getElem?_append_left (by rw [h.length]; exact hlt)] at hx
      cases h.shown i _ _ harray hx with
      | none => exact Option.Rel.none
      | some hshown =>
          apply Option.Rel.some
          apply hshown.keeps hkeeps
          intro ptr hptr
          exact holding_pos_of_mem (mem_heldBy harray hptr) leak
    · rw [List.getElem?_append_right hge] at harray
      rw [List.getElem?_append_right (by rw [h.length]; exact hge),
        h.length] at hx
      have hzero : i - pool.arrays.length = 0 := by
        by_contra hne
        rw [List.getElem?_eq_none (by simp; omega)] at harray
        cases harray
      rw [hzero] at harray hx
      cases harray
      cases hx
      exact Option.Rel.some hshows

/-- One array is exchanged for another, or goes. -/
theorem Shows.set (h : pool.Shows flats) {i : ℕ} {leak : TablePtr → ℕ}
    {storage : ArrayStorage T layers} {array : Option Instance}
    {x : Option (Resettable T)} {extra : List TablePtr}
    (hi : i < pool.arrays.length)
    (hkeeps : Keeps (holding (heldBy (pool.arrays.set i none)) leak)
      pool.storage storage)
    (howned : Owned storage (holding (ptrsOf array)
      (holding extra (holding (heldBy (pool.arrays.set i none)) leak))))
    (hshows : Option.Rel (ShowsFlat storage) array x) :
    Shows { storage := storage, arrays := pool.arrays.set i array }
      (flats.set i x) where
  owned := by
    refine ⟨holding extra leak, ?_⟩
    rw [holding_perm (heldBy_set hi array), holding_append,
      holding_comm _ extra]
    exact howned
  length := by simp [h.length]
  shown := by
    intro j array' x' harray hx
    dsimp only at harray
    by_cases hij : i = j
    · subst hij
      rw [List.getElem?_set_self hi] at harray
      rw [List.getElem?_set_self (by rw [h.length]; exact hi)] at hx
      cases harray
      cases hx
      exact hshows
    · rw [List.getElem?_set_ne hij] at harray hx
      cases h.shown j _ _ harray hx with
      | none => exact Option.Rel.none
      | some hshown =>
          apply Option.Rel.some
          apply hshown.keeps hkeeps
          intro ptr hptr
          refine holding_pos_of_mem (mem_heldBy (i := j) ?_ hptr) leak
          rw [List.getElem?_set_ne hij]
          exact harray

/-! ## What a call does -/

/-- What became of one array, while those who hold `R` see no difference. -/
structure Exchanges (storage : ArrayStorage T layers) (R : TablePtr → ℕ)
    (r : Bool × Option Instance × ArrayStorage T layers)
    (x : Bool × Option (Resettable T)) : Prop where
  ok : r.1 = x.1
  keeps : Keeps R storage r.2.2
  owned : ∃ extra, Owned r.2.2 (holding (ptrsOf r.2.1) (holding extra R))
  shows : Option.Rel (ShowsFlat r.2.2) r.2.1 x.2

theorem Exchanges.of_updates {storage storage' : ArrayStorage T layers}
    {R : TablePtr → ℕ} {ok : Bool} {array : Instance} {content : Flat T}
    {value : T} (h : Updates storage storage' array content value R)
    (hsize : content.size < 2 ^ 64) :
    Exchanges storage R (ok, some array, storage')
      (ok, some ⟨content, value⟩) where
  ok := rfl
  keeps := h.keeps
  owned := ⟨[], by rw [holding_nil]; exact h.owned⟩
  shows := Option.Rel.some ⟨h.shows, hsize⟩

/-- An update within the bounds has happened, and one out of bounds has
not. -/
theorem Exchanges.of_result {storage : ArrayStorage T layers}
    {R : TablePtr → ℕ} {array : Instance} {x : Resettable T}
    {content : Option (Flat T)}
    {r : Bool × Instance × ArrayStorage T layers}
    (howned : Owned storage (holding array.ptrs R))
    (hshows : ShowsFlat storage array x)
    (hsize : ∀ content', content = some content' →
      content'.size = x.content.size)
    (h : (∃ content', content = some content' ∧ r.1 = true ∧
        Updates storage r.2.2 r.2.1 content' x.value R) ∨
      (content = none ∧ r = (false, array, storage))) :
    Exchanges storage R (r.1, some r.2.1, r.2.2) (x.replace content) := by
  rcases h with ⟨content', rfl, hok, hupdates⟩ | ⟨rfl, rfl⟩
  · rw [hok]
    apply Exchanges.of_updates hupdates
    rw [hsize content' rfl]
    exact hshows.size_lt
  · exact Exchanges.of_updates ⟨howned, Keeps.refl, hshows.represents⟩
      hshows.size_lt

theorem onArray_spec (h : pool.Shows flats) (i : ℕ)
    {f : Instance → ArrayStorage T layers →
      Limited (Bool × Option Instance × ArrayStorage T layers)}
    {g : Resettable T → Bool × Option (Resettable T)}
    (hf : ∀ array x R, Owned pool.storage (holding array.ptrs R) →
      ShowsFlat pool.storage array x →
      (f array pool.storage).Ensures fun r =>
        Exchanges pool.storage R r (g x)) :
    (pool.onArray i f).Ensures fun r =>
      r.1 = (onFlat i g flats).1 ∧ r.2.Shows (onFlat i g flats).2 := by
  unfold onArray
  split
  · rename_i array harray
    obtain ⟨leak, howned⟩ := h.owned
    obtain ⟨x, hx, hshows⟩ := h.flat harray
    obtain ⟨hi, _⟩ := List.getElem?_eq_some_iff.1 harray
    have happly : onFlat i g flats = ((g x).1, flats.set i (g x).2) := by
      unfold onFlat
      rw [hx]
    rw [holding_perm (heldBy_get harray), holding_append] at howned
    rw [happly]
    apply Ensures.bind (hf array x _ howned hshows)
    rintro r hr
    obtain ⟨extra, hextra⟩ := hr.owned
    exact Ensures.pure ⟨hr.ok, h.set hi hr.keeps hextra hr.shows⟩
  · rename_i hnone
    have happly : onFlat i g flats = (false, flats) := by
      unfold onFlat
      split
      · rename_i x hx
        exact absurd hx (h.gone hnone x)
      · rfl
    rw [happly]
    exact Ensures.pure ⟨rfl, h⟩

end Pool

/-- A slice of elements that take up memory is shorter than this. -/
def PoolCall.Sliced : PoolCall T → Prop
  | .write _ _ buf => buf.length < 2 ^ 63
  | _ => True

theorem room_of_layers (hlayers : layers ≤ 9) {length : ℕ}
    (hlength : length < 2 ^ 63) (size : ℕ) :
    min length size + 2 * capacity layers ≤ 2 ^ 64 := by
  have hcapacity := capacity_lt hlayers
  omega

section Build

variable [Build] {pool : Pool T layers}
  {flats : List (Option (Resettable T))}

/-- The pages of an array go, its reset page stays. -/
theorem dropPages_exchanges {storage : ArrayStorage T layers}
    {array : Instance} {R : TablePtr → ℕ}
    (h : Owned storage (holding array.ptrs R)) :
    (do
      let storage ← ArrayStorage.dropPages array.pages storage
      return ((true, none, storage) :
        Bool × Option Instance × ArrayStorage T layers)).Ensures
      fun r => Pool.Exchanges storage R r (true, none) := by
  rw [holding_ptrs] at h
  apply Ensures.bind (dropPages_spec h)
  rintro storage' ⟨howned, hkeeps⟩
  apply Ensures.pure
  exact {
    ok := rfl
    keeps := hkeeps.imp fun _ hq => holding_pos hq _
    owned := by
      refine ⟨[array.resetPage], ?_⟩
      show Owned storage' (holding [] (holding [array.resetPage] R))
      rw [holding_nil]
      exact howned
    shows := Option.Rel.none }

/-- A call does to the pool what it does to the flat arrays. -/
theorem PoolCall.run_spec (hlayers : layers ≤ 9) (h : pool.Shows flats)
    {call : PoolCall T} (hsliced : call.Sliced) :
    (call.run pool).Ensures fun r =>
      r.1 = (call.apply flats).1 ∧ r.2.Shows (call.apply flats).2 := by
  cases call with
  | newInstance value size =>
      obtain ⟨leak, howned⟩ := h.owned
      apply Ensures.bind (newInstance_spec value size.toNat howned hlayers)
      rintro ⟨array, storage⟩ ⟨howned', hkeeps, hshows⟩
      exact Ensures.pure
        ⟨rfl, h.append hkeeps howned' ⟨hshows, size.isLt⟩⟩
  | cloneInstance i =>
      unfold run apply
      dsimp only
      split
      · rename_i array harray
        obtain ⟨leak, howned⟩ := h.owned
        obtain ⟨x, hx, hshows⟩ := h.flat harray
        have hheld : ∀ ptr ∈ array.ptrs,
            0 < holding (heldBy pool.arrays) leak ptr :=
          fun ptr hptr => holding_pos_of_mem (mem_heldBy harray hptr) leak
        rw [hx]
        apply Ensures.bind (cloneInstance_spec howned hheld)
        rintro ⟨clone, storage⟩ ⟨hclone, howned', hlookup⟩
        dsimp only at hclone howned' hlookup ⊢
        subst hclone
        have hkeeps := Keeps.of_eq (R := holding (heldBy pool.arrays) leak)
          hlookup
        exact Ensures.pure
          ⟨rfl, h.append hkeeps howned' (hshows.keeps hkeeps hheld)⟩
      · rename_i hnone
        have hgone := h.gone hnone
        split
        · rename_i x hx
          exact absurd hx (hgone x)
        · exact Ensures.pure ⟨rfl, h⟩
  | removeInstance i =>
      exact Pool.onArray_spec h i fun array x R howned _ =>
        dropPages_exchanges howned
  | dropInstance i =>
      exact Pool.onArray_spec h i fun array x R howned _ =>
        dropPages_exchanges howned
  | getMut i index f =>
      apply Pool.onArray_spec h i
      intro array x R howned hshows
      apply Ensures.bind (Instance.getMut_spec f howned hlayers
        hshows.represents index.toNat)
      intro r hresult
      exact Ensures.pure (Pool.Exchanges.of_result howned hshows
        (fun _ hset => Flat.size_set hset) hresult)
  | write i index buf =>
      apply Pool.onArray_spec h i
      intro array x R howned hshows
      apply Ensures.bind (Instance.write_spec howned hlayers
        hshows.represents index.toNat (room_of_layers hlayers hsliced _))
      intro r hresult
      exact Ensures.pure (Pool.Exchanges.of_result howned hshows
        (fun _ hwrite => Flat.size_write hwrite) hresult)
  | reset i =>
      apply Pool.onArray_spec h i
      intro array x R howned hshows
      apply Ensures.bind (Instance.reset_spec howned hshows.represents)
      rintro ⟨array', storage'⟩ hupdates
      exact Ensures.pure (Pool.Exchanges.of_updates hupdates hshows.size_lt)

/-! ## Runs -/

/-- Reading the array returns what the flat array has. -/
structure ReadsFlat (storage : ArrayStorage T layers) (array : Instance)
    (content : Flat T) : Prop where
  get : ∀ index : BitVec 64, (array.get storage index.toNat).result =
    .ok (content.get index.toNat)
  read : ∀ (index : BitVec 64) (buf : List T), buf.length < 2 ^ 63 →
    (array.read storage buf index.toNat).result =
      .ok (match content.read index.toNat buf.length with
        | some items => (true, items)
        | none => (false, buf))
  iterRange : ∀ start len : BitVec 64,
    (array.iterRange storage start.toNat len.toNat).result =
      .ok (content.read start.toNat len.toNat)

theorem readsFlat {storage : ArrayStorage T layers} {array : Instance}
    {x : Resettable T} {R : TablePtr → ℕ} (hlayers : layers ≤ 9)
    (howned : Owned storage R) (hheld : ∀ ptr ∈ array.ptrs, 0 < R ptr)
    (hshows : ShowsFlat storage array x) :
    ReadsFlat storage array x.content where
  get index := by
    obtain ⟨r, hresult, hr⟩ :=
      (array.get_unlimited storage index.toNat).ok_of_ensures
        (Instance.get_spec howned hlayers hheld hshows.represents _)
    rw [hresult, hr]
  read index buf hbuf := by
    obtain ⟨r, hresult, hr⟩ :=
      (array.read_unlimited storage buf index.toNat).ok_of_ensures
        (Instance.read_spec howned hlayers hheld hshows.represents _
          (room_of_layers hlayers hbuf _))
    rw [hresult]
    rcases hr with ⟨items, hitems, rfl⟩ | ⟨hnone, rfl⟩
    · rw [hitems]
    · rw [hnone]
  iterRange start len := by
    obtain ⟨r, hresult, hr⟩ :=
      (array.iterRange_unlimited storage start.toNat
        len.toNat).ok_of_ensures (Instance.iterRange_spec howned hlayers hheld
          hshows.represents _ _ hshows.size_lt)
    rw [hresult, hr]

/-- The pool behaves like the flat arrays.  A call that finds no room stops,
and says so. -/
structure Pool.Behaves (pool : Pool T layers)
    (flats : List (Option (Resettable T))) : Prop where
  length : pool.arrays.length = flats.length
  gone : ∀ i : ℕ, pool.arrays[i]? = some none ↔ flats[i]? = some none
  reads : ∀ (i : ℕ) array x, pool.arrays[i]? = some (some array) →
    flats[i]? = some (some x) → ReadsFlat pool.storage array x.content
  call : ∀ call : PoolCall T, call.Sliced →
    (call.run pool).exceeded = false →
      (call.run pool).result = .error .full ∨
        ∃ pool', (call.run pool).result = .ok ((call.apply flats).1, pool')
  others : ∀ (call : PoolCall T) (j : ℕ), j < flats.length →
    call.target ≠ some j → (call.apply flats).2[j]? = flats[j]?

theorem Pool.Shows.behaves (hlayers : layers ≤ 9) (h : pool.Shows flats) :
    pool.Behaves flats where
  length := h.length.symm
  gone i := by
    constructor
    · intro harray
      obtain ⟨x, hx, hshown⟩ := h.flat_of_get harray
      cases hshown with
      | none => exact hx
    · intro hx
      obtain ⟨array, harray, hshown⟩ := h.array_of_get hx
      cases hshown with
      | none => exact harray
  reads i array x harray hx := by
    obtain ⟨leak, howned⟩ := h.owned
    obtain ⟨x', hx', hshows⟩ := h.flat harray
    rw [hx] at hx'
    cases hx'
    exact readsFlat hlayers howned
      (fun ptr hptr => holding_pos_of_mem (mem_heldBy harray hptr) leak) hshows
  call call hsliced hwithin := by
    have hspec := PoolCall.run_spec hlayers h hsliced
    rcases hresult : (call.run pool).result with stop | r
    · left
      have hstop := hspec hwithin
      rw [hresult] at hstop
      exact congrArg Except.error hstop
    · right
      have hr := hspec.of_ok hwithin hresult
      exact ⟨r.2, by rw [← hr.1]⟩
  others call j := PoolCall.apply_other

/-- A call within the limits: no count and no link runs into the mask bit. -/
def PoolCall.Within (call : PoolCall T) (pool : Pool T layers) : Prop :=
  call.Sliced ∧ (call.run pool).exceeded = false

/-- The pools, with their flat arrays, after calls that meet the condition. -/
inductive Pool.Run (C : PoolCall T → Pool T layers → Prop) :
    Pool T layers → List (Option (Resettable T)) → Prop where
  | new : Run C Pool.new []
  | call {pool pool' : Pool T layers} {flats : List (Option (Resettable T))}
      {call : PoolCall T} {ok : Bool} (h : Run C pool flats)
      (hcall : C call pool) (hrun : (call.run pool).result = .ok (ok, pool')) :
      Run C pool' (call.apply flats).2

theorem Pool.Run.shows (hlayers : layers ≤ 9)
    (h : Pool.Run PoolCall.Within pool flats) : pool.Shows flats := by
  induction h with
  | new => exact Pool.shows_new
  | call _ hcall hrun ih =>
      exact ((PoolCall.run_spec hlayers ih hcall.1).of_ok hcall.2 hrun).2

/-- Within the limits, paged arrays behave like flat arrays. -/
theorem Pool.Run.refines_flat (hlayers : layers ≤ 9)
    (h : Pool.Run PoolCall.Within pool flats) : pool.Behaves flats :=
  (h.shows hlayers).behaves hlayers

end Build

set_option maxRecDepth 4096 in

/-- An array that was created, cloned and then written. -/
theorem Pool.Run.refines_flat_write :
    ∃ pool : Pool (BitVec 8) 0, @Pool.Behaves (BitVec 8) 0 Build.debug pool
      ((PoolCall.write 0 1 [5, 6]).apply ((PoolCall.cloneInstance 0).apply
        ((PoolCall.newInstance 7 3).apply []).2).2).2 := by
  let _ : Build := Build.debug
  have hlength : ([5, 6] : List (BitVec 8)).length < 2 ^ 63 := by decide
  exact ⟨_, Pool.Run.refines_flat (Nat.zero_le 9)
    (((Pool.Run.new.call ⟨True.intro, rfl⟩ rfl).call ⟨True.intro, rfl⟩
      rfl).call ⟨hlength, rfl⟩ rfl)⟩

/-! ## A page with too many references -/

/-- A table with one item that has this count. -/
def single (item : List T) (bits : BitVec 32) : Table (List T) where
  metadata := [⟨bits⟩]
  table := [item]
  nextEmpty := 1

/-- In a release build references are counted past the mask bit. -/
theorem clonePtrs_release (n : ℕ) (item : List T) (bits : BitVec 32) :
    (mapItems (@ArrayStorage.cloneTablePtr T Build.release 0)
        (List.replicate n ⟨0⟩) (.data (single item bits))).result =
      .ok (List.replicate n ⟨0⟩,
        .data (single item (bits + BitVec.ofNat 32 n))) := by
  induction n generalizing bits with
  | zero =>
      rw [BitVec.add_zero]
      rfl
  | succ n ih =>
      have hclone : (@ArrayStorage.cloneTablePtr T Build.release 0 ⟨0⟩
          (.data (single item bits))).result =
            .ok (⟨0⟩, .data (single item (bits + 1))) := rfl
      have hsum : bits + 1 + BitVec.ofNat 32 n =
          bits + BitVec.ofNat 32 (n + 1) := by
        rw [BitVec.add_assoc, BitVec.add_comm 1]
        exact congrArg (bits + ·) (BitVec.ofNat_add n 1).symm
      rw [List.replicate_succ]
      unfold mapItems
      rw [(bind_of_ok hclone _).1]
      dsimp only
      rw [(bind_of_ok (ih (bits + 1)) _).1, hsum]
      rfl

/-- The pool after `new_instance` of an array of `n` pages. -/
def crowded (n : ℕ) (size : BitVec 64) : Pool Bool 0 where
  storage := .data (single (List.replicate PAGE_SIZE false)
    (1 + BitVec.ofNat 32 n))
  arrays := [some
    { resetPage := ⟨0⟩
      pages := List.replicate n ⟨0⟩
      size := size.toNat }]

theorem crowded_run {n : ℕ} {size : BitVec 64}
    (hsize : (size.toNat + 63) / 64 = n) :
    (@PoolCall.run Bool 0 Build.release (.newInstance false size)
      Pool.new).result = .ok (true, crowded n size) := by
  have hadd : (@ArrayStorage.addTopLevelPage Bool Build.release false 0
      (ArrayStorage.new 0)).result =
        .ok (⟨0⟩, .data (single (List.replicate PAGE_SIZE false) 1)) := rfl
  have hitems : (@ArrayStorage.itemsPerTopLevelPage Build.release 0).result =
      .ok 64 := rfl
  have hpages : (divCeilU64 size.toNat 64).result = .ok n := by
    rw [← hsize]
    rfl
  have hclones := clonePtrs_release n (List.replicate PAGE_SIZE false) 1
  have hnew : (@ArrayStorage.newInstance Bool Build.release 0 false
      size.toNat (ArrayStorage.new 0)).result = .ok
        ({ resetPage := ⟨0⟩
           pages := List.replicate n ⟨0⟩
           size := size.toNat }, (crowded n size).storage) := by
    unfold ArrayStorage.newInstance
    rw [(bind_of_ok hadd _).1]
    dsimp only
    rw [(bind_of_ok hitems _).1, (bind_of_ok hpages _).1,
      (bind_of_ok hclones _).1]
    rfl
  unfold PoolCall.run
  dsimp only
  unfold Pool.new
  dsimp only
  rw [(bind_of_ok hnew _).1]
  rfl

theorem crowded_get {n : ℕ} {size : BitVec 64}
    (hsize : (size.toNat + 63) / 64 = n) (hpos : 0 < n)
    (hfilled : ItemMetaData.isFilled ⟨1 + BitVec.ofNat 32 n⟩ = false)
    (array : Instance) (harray : (crowded n size).arrays[0]? =
      some (some array)) :
    (@Instance.get Bool Build.release 0 (crowded n size).storage 0
      array).result = .error .panic := by
  have hitems : (@ArrayStorage.itemsPerTopLevelPage Build.release 0).result =
      .ok 64 := rfl
  have hlt : ¬ size.toNat ≤ 0 := by
    intro hle
    have hzero : size.toNat = 0 := by omega
    rw [hzero] at hsize
    omega
  cases harray
  unfold Instance.get Instance.len
  dsimp only
  rw [if_neg hlt, (bind_of_ok hitems _).1]
  have hpage : (divU64 0 64).result = .ok 0 := rfl
  have hitem : (Table.getItem ⟨0⟩ (single (List.replicate PAGE_SIZE false)
      (1 + BitVec.ofNat 32 n))).result = .error .panic := by
    show (if ItemMetaData.isFilled ⟨1 + BitVec.ofNat 32 n⟩ then _
      else panic : Limited _).result = _
    rw [hfilled]
    rfl
  have hget : (@ArrayStorage.get Bool Build.release 0
      (crowded n size).storage ⟨0⟩ (0 - 0 * 64)).result = .error .panic := by
    unfold ArrayStorage.get
    rw [(bind_of_ok hitems _).1]
    exact (bind_of_error hitem _).1
  rw [(bind_of_ok hpage _).1, List.getElem?_replicate, if_pos hpos,
    unwrap_some, pure_bind, (bind_of_error hget _).1]

/-- The first element of an array with `2 ^ 31` pages cannot be read. -/
theorem crowded_not_behaves :
    ¬ ∀ (pool : Pool Bool 0) (flats : List (Option (Resettable Bool))),
      @Pool.Run Bool 0 Build.release (fun _ _ => True) pool flats →
        @Pool.Behaves Bool 0 Build.release pool flats := by
  let _ : Build := Build.release
  intro h
  have hsize : ((0x2000000000#64).toNat + 63) / 64 = 2 ^ 31 := by decide
  have hrun : Pool.Run (fun _ _ => True) (crowded (2 ^ 31) 0x2000000000#64) _ :=
    Pool.Run.call Pool.Run.new True.intro (crowded_run hsize)
  have hget := ((h _ _ hrun).reads 0 _ _ rfl rfl).get 0
  have hpanic := crowded_get hsize (by decide) (by decide) _ rfl
  have hzero : (0 : BitVec 64).toNat = 0 := rfl
  rw [hzero, hpanic] at hget
  cases hget

end RedPlanet.SpaceTime
