import RedPlanet.SpaceTime.Pool
import RedPlanet.SpaceTime.Runs
import RedPlanet.Verified.Sequential

/-!
# A space time is a heap with saved versions

What a space time is for: objects and arrays that are named in the order in
which they are inserted, and copies of all of them that can be saved, restored
and forgotten.  Tables, counts, pages and clones are not part of this picture.

As long as nothing is removed and the limits are kept, every call returns what
it returns on the heap, and leaves HEAD and all snapshots showing what the
heap and its saved versions hold (`Shows`).  The calls are here, and the proof
that a space time makes them as the heap does is in `SpaceTime.Refinement`.
-/

set_option linter.dupNamespace false

namespace RedPlanet.SpaceTime

open RedPlanet.Core RedPlanet.Verified Limited

variable {ι : Type} {Ty : ι → Type}

/-! ## The heap -/

/-- Objects and arrays with their types, in the order of insertion. -/
structure Heap {ι : Type} (Ty : ι → Type) where
  objects : List ((τ : ι) × Ty τ)
  arrays : List ((τ : ι) × Resettable (Ty τ))

namespace Heap

/-- Nothing is named. -/
def empty : Heap Ty where
  objects := []
  arrays := []

/-- The object gets the next id. -/
def insert (τ : ι) (object : Ty τ) (heap : Heap Ty) : Index × Heap Ty :=
  (⟨heap.objects.length, 0⟩,
    { heap with objects := heap.objects ++ [⟨τ, object⟩] })

/-- The array gets the next id, and remembers the object to reset to. -/
def insertArray (τ : ι) (object : Ty τ) (n : BitVec 64) (heap : Heap Ty) :
    Index × Heap Ty :=
  (⟨heap.arrays.length, 0⟩,
    { heap with arrays := heap.arrays
        ++ [⟨τ, ⟨Flat.replicate n.toNat object, object⟩⟩] })

variable [DecidableEq ι]

/-- The value of an entry, if it is of this type. -/
def ofType {P : ι → Type} (τ : ι) (x : (τ : ι) × P τ) : Option (P τ) :=
  if h : x.1 = τ then some (h ▸ x.2) else none

/-- What is stored at its type is found there. -/
@[simp] theorem ofType_self {P : ι → Type} (τ : ι) (x : P τ) :
    ofType τ ⟨τ, x⟩ = some x := by
  simp [ofType]

/-- The object with this id, if it is of this type. -/
def object (τ : ι) (id : Index) (heap : Heap Ty) : Option (Ty τ) :=
  (entry heap.objects id).bind (ofType τ)

/-- The array with this id, if its elements are of this type. -/
def array (τ : ι) (id : Index) (heap : Heap Ty) : Option (Resettable (Ty τ)) :=
  (entry heap.arrays id).bind (ofType τ)

/-- What `get` is for. -/
def get (τ : ι) (id : Index) (heap : Heap Ty) : Except InvalidIdError (Ty τ) :=
  match heap.object τ id with
  | none => .error {}
  | some x => .ok x

/-- What `get_mut` is for. -/
def getMut (τ : ι) (id : Index) (f : Ty τ → Ty τ) (heap : Heap Ty) :
    Except InvalidIdError Unit × Heap Ty :=
  match heap.object τ id with
  | none => (.error {}, heap)
  | some x =>
      (.ok (), { heap with
        objects := heap.objects.set id.index ⟨τ, f x⟩ })

/-- What `get_array` is for. -/
def getArray (τ : ι) (id : Index) (access : ReadAccess (Ty τ))
    (heap : Heap Ty) : Except InvalidIdError (Option (List (Ty τ))) :=
  match heap.array τ id with
  | none => .error {}
  | some x => .ok (access.apply x.content)

/-- What `get_array_mut` is for. -/
def getArrayMut (τ : ι) (id : Index) (access : ArrayAccess (Ty τ))
    (heap : Heap Ty) : Except InvalidIdError Bool × Heap Ty :=
  match heap.array τ id with
  | none => (.error {}, heap)
  | some x =>
      let result := access.apply x.content x.value
      (.ok result.1, { heap with
        arrays := heap.arrays.set id.index ⟨τ, ⟨result.2, x.value⟩⟩ })

end Heap

/-- The calls through the `Allocator` trait that remove nothing. -/
def Operation.Grows : Operation Ty → Prop
  | .insert _ _ | .insertArray _ _ _ | .getMut _ _ _ | .getArrayMut _ _ _ =>
      True
  | .remove _ _ | .removeArray _ _ | .pop _ _ | .makeSnapshot
  | .dropSnapshot _ | .checkout _ => False

/-- The calls that take something out of HEAD. -/
def Operation.Removes : Operation Ty → Prop
  | .remove _ _ | .removeArray _ _ | .pop _ _ => True
  | .insert _ _ | .insertArray _ _ _ | .getMut _ _ _ | .getArrayMut _ _ _
  | .makeSnapshot | .dropSnapshot _ | .checkout _ => False

/-- The calls of `Grows` on the heap. -/
def Operation.onHeap [DecidableEq ι] (op : Operation Ty) (heap : Heap Ty) :
    Reply Ty × Heap Ty :=
  match op with
  | .insert τ object =>
      let (id, heap) := heap.insert τ object
      (.id id, heap)
  | .insertArray τ object n =>
      let (id, heap) := heap.insertArray τ object n
      (.id id, heap)
  | .getMut τ id f =>
      let (result, heap) := heap.getMut τ id f
      (.ofExcept (fun _ => .done true) result, heap)
  | .getArrayMut τ id access =>
      let (result, heap) := heap.getArrayMut τ id access
      (.ofExcept (fun b => .done b) result, heap)
  | _ => (.invalid, heap)

/-! ## Saved versions -/

/-- The heap, and the copies of it that are saved under some name. -/
structure Versions {ι : Type} (Ty : ι → Type) where
  head : Heap Ty
  saved : Index → Option (Heap Ty)

namespace Versions

def empty : Versions Ty where
  head := .empty
  saved := fun _ => none

/-- What each call does and returns.  A copy may be saved under any name that
is not in use. -/
inductive Step [DecidableEq ι] : Versions Ty → Operation Ty → Reply Ty →
    Versions Ty → Prop where
  | change {versions : Versions Ty} {op : Operation Ty} (hgrows : op.Grows) :
      Step versions op (op.onHeap versions.head).1
        { versions with head := (op.onHeap versions.head).2 }
  | save {versions : Versions Ty} {id : Index}
      (hfresh : versions.saved id = none) :
      Step versions .makeSnapshot (.id id)
        { versions with
          saved := Function.update versions.saved id (some versions.head) }
  | restore {versions : Versions Ty} {id : Index} {heap : Heap Ty}
      (hsaved : versions.saved id = some heap) :
      Step versions (.checkout id) (.done true) { versions with head := heap }
  | noRestore {versions : Versions Ty} {id : Index}
      (hsaved : versions.saved id = none) :
      Step versions (.checkout id) .invalid versions
  | forget {versions : Versions Ty} {id : Index} {heap : Heap Ty}
      (hsaved : versions.saved id = some heap) :
      Step versions (.dropSnapshot id) (.done true)
        { versions with saved := Function.update versions.saved id none }
  | noForget {versions : Versions Ty} {id : Index}
      (hsaved : versions.saved id = none) :
      Step versions (.dropSnapshot id) .invalid versions

/-- Calls one after the other, with what they return. -/
inductive Run [DecidableEq ι] : Versions Ty →
    List (Operation Ty × Reply Ty) → Versions Ty → Prop where
  | nil (versions : Versions Ty) : Run versions [] versions
  | snoc {versions versions' versions'' : Versions Ty}
      {calls : List (Operation Ty × Reply Ty)} {op : Operation Ty}
      {reply : Reply Ty} (run : Run versions calls versions')
      (step : Step versions' op reply versions'') :
      Run versions (calls ++ [(op, reply)]) versions''

end Versions

/-! ## What is shown -/

section Denotes

variable {A : Type → Type} [Arena A]

/-- The pointer is to this object. -/
def ObjectAt (storage : SpaceTimeStorage Ty) (ptr : TypedTablePtr ι)
    (x : (τ : ι) × Ty τ) : Prop :=
  ∃ y : Ty ptr.typeId, x = ⟨ptr.typeId, y⟩ ∧
    (storage.table ptr.typeId).item ptr.tablePtr = some y

/-- The pages are those of this array. -/
def ArrayAt (storage : SpaceTimeStorage Ty) (array : TypedInstance ι)
    (x : (τ : ι) × Resettable (Ty τ)) : Prop :=
  ∃ y : Resettable (Ty array.typeId), x = ⟨array.typeId, y⟩ ∧
    Represents (storage.arrays array.typeId) array.array y.content y.value

/-- The entries stand for what the heap holds. -/
structure Snapshot.Denotes (snapshot : Snapshot A ι)
    (storage : SpaceTimeStorage Ty) (heap : Heap Ty) : Prop where
  objects : Arena.Lists (ObjectAt storage) snapshot.tablePtrs heap.objects
  arrays : Arena.Lists (ArrayAt storage) snapshot.instances heap.arrays

/-- HEAD shows the heap, and every snapshot the version saved under its id. -/
structure SpaceTime.Shows (space : SpaceTime A Ty) (versions : Versions Ty) :
    Prop where
  head : ∃ snapshot, space.headSnapshot = some snapshot ∧
    snapshot.collected = snapshot ∧
    snapshot.Denotes space.storage versions.head
  saved : ∀ id, Option.Rel
    (fun snapshot heap => snapshot.Denotes space.storage heap)
    (Arena.get id space.snapshots) (versions.saved id)

end Denotes

end RedPlanet.SpaceTime
