import RedPlanet.SpaceTime.Refinement

/-!
# Programs over an allocator

Code that reaches its allocator through the `Allocator` trait only, and
removes nothing: a call, and what follows for each of its results.  A program
runs on a space time and on a heap.

Wherever it uses its ids at their types, both runs give the same result, and
HEAD shows the heap afterwards (`onSpace_spec`, `onSpace_eq`).  The proof is an
induction on the program, with the refinement of one call as its step.  Ticks
of a simulator on a space time are such programs.
-/

set_option linter.dupNamespace false

namespace RedPlanet.SpaceTime

open RedPlanet.Core RedPlanet.Verified Limited

variable {ι : Type} {Ty : ι → Type} {R : Type}

inductive Program {ι : Type} (Ty : ι → Type) (R : Type) where
  | done (result : R)
  | insert (τ : ι) (object : Ty τ) (next : Index → Program Ty R)
  | insertArray (τ : ι) (object : Ty τ) (n : BitVec 64)
      (next : Index → Program Ty R)
  | get (τ : ι) (id : Index)
      (next : Except InvalidIdError (Ty τ) → Program Ty R)
  | getMut (τ : ι) (id : Index) (f : Ty τ → Ty τ)
      (next : Except InvalidIdError Unit → Program Ty R)
  | getArray (τ : ι) (id : Index) (access : ReadAccess (Ty τ))
      (next : Except InvalidIdError (Option (List (Ty τ))) → Program Ty R)
  | getArrayMut (τ : ι) (id : Index) (access : ArrayAccess (Ty τ))
      (next : Except InvalidIdError Bool → Program Ty R)

namespace Program

/-- The program only reads. -/
def Reads : Program Ty R → Prop
  | .done _ => True
  | .get _ _ next => ∀ result, (next result).Reads
  | .getArray _ _ _ next => ∀ result, (next result).Reads
  | .insert _ _ _ | .insertArray _ _ _ _ | .getMut _ _ _ _
  | .getArrayMut _ _ _ _ => False

section Run

variable {A : Type → Type} [Arena A] [DecidableEq ι] [Build]

def onSpace : Program Ty R → SpaceTime A Ty → Limited (R × SpaceTime A Ty)
  | .done result, space => return (result, space)
  | .insert τ object next, space => do
      let (id, space) ← space.insert τ object
      (next id).onSpace space
  | .insertArray τ object n next, space => do
      let (id, space) ← space.insertArray τ object n
      (next id).onSpace space
  | .get τ id next, space => do
      let result ← space.get τ id
      (next result).onSpace space
  | .getMut τ id f next, space => do
      let (result, space) ← space.getMut τ id f
      (next result).onSpace space
  | .getArray τ id access next, space => do
      let result ← space.getArray τ id access
      (next result).onSpace space
  | .getArrayMut τ id access next, space => do
      let (result, space) ← space.getArrayMut τ id access
      (next result).onSpace space

end Run

variable [DecidableEq ι]

def onHeap : Program Ty R → Heap Ty → R × Heap Ty
  | .done result, heap => (result, heap)
  | .insert τ object next, heap =>
      let (id, heap) := heap.insert τ object
      (next id).onHeap heap
  | .insertArray τ object n next, heap =>
      let (id, heap) := heap.insertArray τ object n
      (next id).onHeap heap
  | .get τ id next, heap => (next (heap.get τ id)).onHeap heap
  | .getMut τ id f next, heap =>
      let (result, heap) := heap.getMut τ id f
      (next result).onHeap heap
  | .getArray τ id access next, heap =>
      (next (heap.getArray τ id access)).onHeap heap
  | .getArrayMut τ id access next, heap =>
      let (result, heap) := heap.getArrayMut τ id access
      (next result).onHeap heap

/-- All ids are used at the types of their entries.  In the source an id has
its type as a parameter. -/
def Typed : Program Ty R → Heap Ty → Prop
  | .done _, _ => True
  | .insert τ object next, heap =>
      let (id, heap) := heap.insert τ object
      (next id).Typed heap
  | .insertArray τ object n next, heap =>
      let (id, heap) := heap.insertArray τ object n
      (next id).Typed heap
  | .get τ id next, heap =>
      (∀ x, entry heap.objects id = some x → x.1 = τ) ∧
        (next (heap.get τ id)).Typed heap
  | .getMut τ id f next, heap =>
      (∀ x, entry heap.objects id = some x → x.1 = τ) ∧
        (next (heap.getMut τ id f).1).Typed (heap.getMut τ id f).2
  | .getArray τ id access next, heap =>
      (∀ x, entry heap.arrays id = some x → x.1 = τ) ∧
        (next (heap.getArray τ id access)).Typed heap
  | .getArrayMut τ id access next, heap =>
      (∀ x, entry heap.arrays id = some x → x.1 = τ) ∧
        (next (heap.getArrayMut τ id access).1).Typed
          (heap.getArrayMut τ id access).2

/-! ## Both runs -/

variable {A : Type → Type} [Arena A] {space : SpaceTime A Ty}
  {versions : Versions Ty} {leak : Refs ι}

omit [DecidableEq ι] in
/-- Entries of HEAD have the types that they have in the heap. -/
theorem typeId_of_object (h : space.Shows versions) {τ : ι} {id : Index}
    (htype : ∀ x, entry versions.head.objects id = some x → x.1 = τ)
    {ptr : TypedTablePtr ι} (hptr : space.ptrAt id = some ptr) :
    ptr.typeId = τ := by
  obtain ⟨snapshot, hhead, _, hdenotes⟩ := h.head
  have hat := SpaceTime.ptrAt_eq hhead id
  rw [hptr] at hat
  obtain ⟨_, hentry, y, rfl, _⟩ := hdenotes.objects.of_get hat.symm
  exact htype _ hentry

omit [DecidableEq ι] in
theorem typeId_of_array (h : space.Shows versions) {τ : ι} {id : Index}
    (htype : ∀ x, entry versions.head.arrays id = some x → x.1 = τ)
    {array : TypedInstance ι} (harray : space.arrayAt id = some array) :
    array.typeId = τ := by
  obtain ⟨snapshot, hhead, _, hdenotes⟩ := h.head
  have hat := SpaceTime.arrayAt_eq hhead id
  rw [harray] at hat
  obtain ⟨_, hentry, y, rfl, _⟩ := hdenotes.arrays.of_get hat.symm
  exact htype _ hentry

variable [SequentialArena A] [Build]

/-- The program does on HEAD what it does on the heap. -/
theorem onSpace_spec (program : Program Ty R) :
    ∀ {space : SpaceTime A Ty} {versions : Versions Ty},
      space.Shows versions → space.Valid leak →
      program.Typed versions.head →
        (program.onSpace space).Ensures fun r =>
          r.2.Valid leak ∧ r.1 = (program.onHeap versions.head).1 ∧
            r.2.Shows { versions with
              head := (program.onHeap versions.head).2 } := by
  induction program with
  | done result =>
      intro space versions h hvalid _
      exact Ensures.pure ⟨hvalid, rfl, h⟩
  | insert τ object next ih =>
      intro space versions h hvalid htyped
      apply Ensures.bind (h.insert hvalid τ object)
      rintro ⟨id, space'⟩ ⟨hvalid', rfl, hshows⟩
      exact ih _ hshows hvalid' htyped
  | insertArray τ object n next ih =>
      intro space versions h hvalid htyped
      apply Ensures.bind (h.insertArray hvalid τ object n)
      rintro ⟨id, space'⟩ ⟨hvalid', rfl, hshows⟩
      exact ih _ hshows hvalid' htyped
  | get τ id next ih =>
      rintro space versions h hvalid ⟨hid, htyped⟩
      have htype : ∀ ptr, space.ptrAt id = some ptr → ptr.typeId = τ :=
        fun _ => typeId_of_object h hid
      have hget := h.get hvalid htype
      apply Ensures.bind (Ensures.of_result hget)
      rintro result rfl
      exact ih _ h hvalid htyped
  | getMut τ id f next ih =>
      rintro space versions h hvalid ⟨hid, htyped⟩
      apply Ensures.bind (h.getMut hvalid f fun _ => typeId_of_object h hid)
      rintro ⟨result, space'⟩ ⟨hvalid', rfl, hshows⟩
      exact ih _ hshows hvalid' htyped
  | getArray τ id access next ih =>
      rintro space versions h hvalid ⟨hid, htyped⟩
      have hget := h.getArray hvalid access fun _ => typeId_of_array h hid
      apply Ensures.bind (Ensures.of_result hget)
      rintro result rfl
      exact ih _ h hvalid htyped
  | getArrayMut τ id access next ih =>
      rintro space versions h hvalid ⟨hid, htyped⟩
      apply Ensures.bind
        (h.getArrayMut hvalid access fun _ => typeId_of_array h hid)
      rintro ⟨result, space'⟩ ⟨hvalid', rfl, hshows⟩
      exact ih _ hshows hvalid' htyped

/-- A program that only reads returns what it returns on the heap. -/
theorem onSpace_eq (program : Program Ty R) :
    program.Reads → ∀ {space : SpaceTime A Ty} {versions : Versions Ty},
      space.Shows versions → space.Valid leak →
      program.Typed versions.head →
        (program.onSpace space).result
          = .ok ((program.onHeap versions.head).1, space) := by
  induction program with
  | done result => exact fun _ _ _ _ _ _ => rfl
  | get τ id next ih =>
      rintro hreads space versions h hvalid ⟨hid, htyped⟩
      have htype : ∀ ptr, space.ptrAt id = some ptr → ptr.typeId = τ :=
        fun _ => typeId_of_object h hid
      have hget := h.get hvalid htype
      exact (bind_of_ok hget _).1.trans (ih _ (hreads _) h hvalid htyped)
  | getArray τ id access next ih =>
      rintro hreads space versions h hvalid ⟨hid, htyped⟩
      have hget := h.getArray hvalid access fun _ => typeId_of_array h hid
      exact (bind_of_ok hget _).1.trans (ih _ (hreads _) h hvalid htyped)
  | insert _ _ _ | insertArray _ _ _ _ | getMut _ _ _ _
  | getArrayMut _ _ _ _ => exact fun hreads => hreads.elim

end Program

end RedPlanet.SpaceTime
