import Mathlib.Logic.Function.Basic
import RedPlanet.SpaceTime.ArrayStorage
import RedPlanet.Verified.Arena

/-!
# Space time

`lib.rs` and `snapshot.rs`: objects of any type in counted tables, one table a
type, and snapshots that are arenas of pointers to them.  `ι` is the type of
type ids, `Ty` says which type an id stands for, and `A` is the arena that
names objects, arrays and snapshots.

A reference that is handed out is modelled with what is assigned through it:
`getMut` takes the function that is applied to the object, `getArrayMut` what
is done with the accessor.  `Operation` lists the calls that change a space
time, with their arguments, and `Operation.run` makes one; the results about
runs are about lists of these.
-/

set_option linter.dupNamespace false

namespace RedPlanet.SpaceTime

open RedPlanet.Core RedPlanet.Verified Limited

/-- The id does not name anything in HEAD. -/
structure InvalidIdError where
deriving DecidableEq, Repr

/-- The id does not name a snapshot. -/
structure InvalidSnapshotIdError where
deriving DecidableEq, Repr

/-- A pointer to an object, with the type of the object. -/
structure TypedTablePtr (ι : Type) where
  tablePtr : TablePtr
  typeId : ι
deriving DecidableEq

/-- An array, with the type of its elements. -/
structure TypedInstance (ι : Type) where
  array : Instance
  typeId : ι
deriving DecidableEq

/-- The objects and arrays of one state, by their ids. -/
structure Snapshot (A : Type → Type) (ι : Type) where
  tablePtrs : A (TypedTablePtr ι)
  instances : A (TypedInstance ι)

/-- `T` is `Default::default()`: three layers of pages. -/
abbrev DefaultStorage (T : Type) : Type := ArrayStorage T 3

/-- The objects and pages of all states, by their types. -/
structure SpaceTimeStorage {ι : Type} (Ty : ι → Type) where
  tables : (τ : ι) → Option (Table (Ty τ))
  arrayStorage : (τ : ι) → Option (DefaultStorage (Ty τ))

/-- HEAD is a snapshot that is checked out, or one that is written. -/
inductive Head (A : Type → Type) (ι : Type) where
  | dirty (snapshot : Snapshot A ι)
  | checkout (snapshotId : Index)

/-- `SpaceTime`: HEAD, the snapshots and what they point to. -/
structure SpaceTime {ι : Type} (A : Type → Type) (Ty : ι → Type) where
  storage : SpaceTimeStorage Ty
  head : Head A ι
  snapshots : A (Snapshot A ι)

variable {ι : Type} [DecidableEq ι] {A : Type → Type} [Arena A]
  {Ty : ι → Type}

namespace Snapshot

/-- Nothing is stored. -/
def default : Snapshot A ι where
  tablePtrs := Arena.new
  instances := Arena.new

end Snapshot

namespace SpaceTimeStorage

def default : SpaceTimeStorage Ty where
  tables := fun _ => none
  arrayStorage := fun _ => none

/-- The table of a type; a new one if there is none. -/
def table (τ : ι) (storage : SpaceTimeStorage Ty) : Table (Ty τ) :=
  (storage.tables τ).getD Table.new

/-- Replace the table of a type. -/
def setTable (τ : ι) (t : Table (Ty τ)) (storage : SpaceTimeStorage Ty) :
    SpaceTimeStorage Ty :=
  { storage with tables := Function.update storage.tables τ (some t) }

/-- The arrays of a type; a new storage if there is none. -/
def arrays (τ : ι) (storage : SpaceTimeStorage Ty) : DefaultStorage (Ty τ) :=
  (storage.arrayStorage τ).getD (ArrayStorage.new 3)

/-- Replace the pages of a type. -/
def setArrays (τ : ι) (s : DefaultStorage (Ty τ))
    (storage : SpaceTimeStorage Ty) : SpaceTimeStorage Ty :=
  { storage with
    arrayStorage := Function.update storage.arrayStorage τ (some s) }

section Build

variable [Build]

/-! ## Snapshots in the storage -/

/-- Another pointer to an object. -/
def clonePtr (ptr : TypedTablePtr ι) (storage : SpaceTimeStorage Ty) :
    Limited (TypedTablePtr ι × SpaceTimeStorage Ty) := do
  let t ← unwrap (storage.tables ptr.typeId)
  let (tablePtr, t) ← t.cloneTablePtr ptr.tablePtr
  return ({ tablePtr := tablePtr, typeId := ptr.typeId },
    storage.setTable ptr.typeId t)

/-- Another array with the same pages. -/
def cloneArray (array : TypedInstance ι) (storage : SpaceTimeStorage Ty) :
    Limited (TypedInstance ι × SpaceTimeStorage Ty) := do
  let s ← unwrap (storage.arrayStorage array.typeId)
  let (inst, s) ← s.cloneInstance array.array
  return ({ array := inst, typeId := array.typeId },
    storage.setArrays array.typeId s)

/-- `clone_snapshot`: both arenas are collected anew. -/
def cloneSnapshot (snapshot : Snapshot A ι) (storage : SpaceTimeStorage Ty) :
    Limited (Snapshot A ι × SpaceTimeStorage Ty) := do
  let (tablePtrs, storage) ←
    mapItems clonePtr (Arena.values snapshot.tablePtrs) storage
  let (instances, storage) ←
    mapItems cloneArray (Arena.values snapshot.instances) storage
  return ({ tablePtrs := Arena.collect tablePtrs
            instances := Arena.collect instances }, storage)

/-- Drop the pointers to some objects, one after the other. -/
def dropPtrs : List (TypedTablePtr ι) → SpaceTimeStorage Ty →
    Limited (SpaceTimeStorage Ty)
  | [], storage => pure storage
  | ptr :: ptrs, storage => do
      let t ← unwrap (storage.tables ptr.typeId)
      let t ← t.dropTablePtr ptr.tablePtr
      dropPtrs ptrs (storage.setTable ptr.typeId t)

/-- Drop some arrays, one after the other. -/
def dropArrays : List (TypedInstance ι) → SpaceTimeStorage Ty →
    Limited (SpaceTimeStorage Ty)
  | [], storage => pure storage
  | array :: arrays, storage => do
      let s ← unwrap (storage.arrayStorage array.typeId)
      let s ← s.dropInstance array.array
      dropArrays arrays (storage.setArrays array.typeId s)

/-- Drop all that a snapshot points to. -/
def deleteSnapshot (snapshot : Snapshot A ι) (storage : SpaceTimeStorage Ty) :
    Limited (SpaceTimeStorage Ty) := do
  let storage ← dropPtrs (Arena.values snapshot.tablePtrs) storage
  dropArrays (Arena.values snapshot.instances) storage

end Build

end SpaceTimeStorage

namespace SpaceTime

/-- `SpaceTime::new`: HEAD is dirty and empty. -/
def new : SpaceTime A Ty where
  storage := .default
  head := .dirty .default
  snapshots := Arena.new

/-- The snapshot that is checked out, if one is. -/
def headId (space : SpaceTime A Ty) : Option Index :=
  match space.head with
  | .checkout snapshotId => some snapshotId
  | .dirty _ => none

/-- What is read: HEAD, or the snapshot that is checked out. -/
def getHead (space : SpaceTime A Ty) : Limited (Snapshot A ι) :=
  match space.head with
  | .dirty snapshot => pure snapshot
  | .checkout snapshotId => unwrap (Arena.get snapshotId space.snapshots)

/-- The assignment through the reference that `get_head_mut` returned. -/
def setHead (snapshot : Snapshot A ι) (space : SpaceTime A Ty) :
    SpaceTime A Ty :=
  { space with head := .dirty snapshot }

/-- The assignments through the references to the tables. -/
def setStorage (storage : SpaceTimeStorage Ty) (space : SpaceTime A Ty) :
    SpaceTime A Ty :=
  { space with storage := storage }

section Build

variable [Build]

/-- A HEAD that is checked out is cloned first. -/
def getHeadMut (space : SpaceTime A Ty) :
    Limited (Snapshot A ι × SpaceTime A Ty) :=
  match space.head with
  | .dirty snapshot => pure (snapshot, space)
  | .checkout snapshotId => do
      let refHead ← unwrap (Arena.get snapshotId space.snapshots)
      let (newSnapshot, storage) ← space.storage.cloneSnapshot refHead
      return (newSnapshot, (space.setStorage storage).setHead newSnapshot)

/-! ## Snapshots -/

/-- `make_snapshot`: HEAD is cloned, stored, and then checked out. -/
def makeSnapshot (space : SpaceTime A Ty) :
    Limited (Index × SpaceTime A Ty) := do
  let head ← space.getHead
  let (snapshot, storage) ← space.storage.cloneSnapshot head
  let (index, snapshots) := Arena.insert snapshot space.snapshots
  return (index,
    { storage := storage, head := .checkout index, snapshots := snapshots })

/-- `drop_snapshot`. -/
def dropSnapshot (snapshotId : Index) (space : SpaceTime A Ty) :
    Limited (Except InvalidSnapshotIdError Unit × SpaceTime A Ty) :=
  let (snapshot, snapshots) := Arena.remove snapshotId space.snapshots
  match snapshot with
  | none => pure (.error {}, { space with snapshots := snapshots })
  | some snapshot =>
      if space.headId = some snapshotId then
        pure (.ok (), { space with
          head := .dirty snapshot, snapshots := snapshots })
      else do
        let storage ← space.storage.deleteSnapshot snapshot
        return (.ok (), { space with
          storage := storage, snapshots := snapshots })

/-- The snapshot is stored. -/
def contains (snapshotId : Index) (space : SpaceTime A Ty) : Bool :=
  (Arena.get snapshotId space.snapshots).isSome

/-- `checkout`: a HEAD that was written is deleted. -/
def checkout (snapshotId : Index) (space : SpaceTime A Ty) :
    Limited (Except InvalidSnapshotIdError Unit × SpaceTime A Ty) :=
  if space.contains snapshotId then
    match space.head with
    | .dirty oldHead => do
        let storage ← space.storage.deleteSnapshot oldHead
        return (.ok (), { space with
          storage := storage, head := .checkout snapshotId })
    | .checkout _ =>
        pure (.ok (), { space with head := .checkout snapshotId })
  else pure (.error {}, space)

/-! ## Objects -/

/-- `insert`. -/
def insert (τ : ι) (object : Ty τ) (space : SpaceTime A Ty) :
    Limited (Index × SpaceTime A Ty) := do
  let (tablePtr, t) ← (space.storage.table τ).addItem object
  let space := space.setStorage (space.storage.setTable τ t)
  let (snapshot, space) ← space.getHeadMut
  let (index, tablePtrs) :=
    Arena.insert { tablePtr := tablePtr, typeId := τ } snapshot.tablePtrs
  return (index, space.setHead { snapshot with tablePtrs := tablePtrs })

/-- `remove`: HEAD is fetched for writing before the id is looked up. -/
def remove (τ : ι) (id : Index) (space : SpaceTime A Ty) :
    Limited (Except InvalidIdError Unit × SpaceTime A Ty) := do
  let (snapshot, space) ← space.getHeadMut
  let (ptr, tablePtrs) := Arena.remove id snapshot.tablePtrs
  let space := space.setHead { snapshot with tablePtrs := tablePtrs }
  match ptr with
  | none => return (.error {}, space)
  | some ptr => do
      let t ← unwrap (space.storage.tables τ)
      let t ← t.dropTablePtr ptr.tablePtr
      return (.ok (), space.setStorage (space.storage.setTable τ t))

/-- `pop`: the object is taken out, or cloned if others point to it. -/
def pop (τ : ι) (id : Index) (space : SpaceTime A Ty) :
    Limited (Except InvalidIdError (Ty τ) × SpaceTime A Ty) := do
  let (snapshot, space) ← space.getHeadMut
  let (ptr, tablePtrs) := Arena.remove id snapshot.tablePtrs
  let space := space.setHead { snapshot with tablePtrs := tablePtrs }
  match ptr with
  | none => return (.error {}, space)
  | some ptr => do
      let t ← unwrap (space.storage.tables τ)
      let (object, t) ← t.popOrGetItem ptr.tablePtr
      return (.ok object, space.setStorage (space.storage.setTable τ t))

omit [Build] in
/-- `get`. -/
def get (τ : ι) (id : Index) (space : SpaceTime A Ty) :
    Limited (Except InvalidIdError (Ty τ)) := do
  let snapshot ← space.getHead
  match Arena.get id snapshot.tablePtrs with
  | none => return .error {}
  | some ptr => do
      let t ← unwrap (space.storage.tables τ)
      let object ← t.getItem ptr.tablePtr
      return .ok object

/-- The pointer to a copy that nobody else holds. -/
def uniqueObject {α : Type} (ptr : TablePtr) (t : Table α) :
    Limited (TablePtr × Table α) := do
  if ← t.isUniqueTablePtr ptr then return (ptr, t)
  else t.cloneItem ptr

/-- Replace the object `x` by `f x`, through the reference. -/
def getMut (τ : ι) (id : Index) (f : Ty τ → Ty τ) (space : SpaceTime A Ty) :
    Limited (Except InvalidIdError Unit × SpaceTime A Ty) := do
  let (snapshot, space) ← space.getHeadMut
  match Arena.get id snapshot.tablePtrs with
  | none => return (.error {}, space)
  | some ptr => do
      let t ← unwrap (space.storage.tables τ)
      let (tablePtr, t) ← uniqueObject ptr.tablePtr t
      let object ← t.getItemMut tablePtr
      let object ← unwrap object
      let t := t.setItem tablePtr (f object)
      let tablePtrs :=
        Arena.set id { ptr with tablePtr := tablePtr } snapshot.tablePtrs
      let space := space.setStorage (space.storage.setTable τ t)
      return (.ok (), space.setHead { snapshot with tablePtrs := tablePtrs })

/-! ## Arrays -/

/-- `insert_array`. -/
def insertArray (τ : ι) (object : Ty τ) (n : BitVec 64)
    (space : SpaceTime A Ty) : Limited (Index × SpaceTime A Ty) := do
  let (inst, s) ← (space.storage.arrays τ).newInstance object n.toNat
  let space := space.setStorage (space.storage.setArrays τ s)
  let (snapshot, space) ← space.getHeadMut
  let (index, instances) :=
    Arena.insert { array := inst, typeId := τ } snapshot.instances
  return (index, space.setHead { snapshot with instances := instances })

/-- `remove_array`. -/
def removeArray (τ : ι) (id : Index) (space : SpaceTime A Ty) :
    Limited (Except InvalidIdError Unit × SpaceTime A Ty) := do
  let (snapshot, space) ← space.getHeadMut
  let (array, instances) := Arena.remove id snapshot.instances
  let space := space.setHead { snapshot with instances := instances }
  match array with
  | none => return (.error {}, space)
  | some array => do
      let s ← unwrap (space.storage.arrayStorage τ)
      let s ← s.removeInstance array.array
      return (.ok (), space.setStorage (space.storage.setArrays τ s))

end Build

end SpaceTime

/-- What can be done with a mutable accessor. -/
inductive ArrayAccess (T : Type) where
  | leave
  | getMut (index : BitVec 64) (f : T → T)
  | write (index : BitVec 64) (buf : List T)
  | reset

/-- What can be done with an accessor that only reads. -/
inductive ReadAccess (T : Type) where
  | get (index : BitVec 64)
  | read (buf : List T) (index : BitVec 64)
  | iterRange (start len : BitVec 64)

section Build

variable [Build]

/-- The elements; `none` where they are out of bounds. -/
def ReadAccess.run {T : Type} (access : ReadAccess T)
    (storage : DefaultStorage T) (array : Instance) :
    Limited (Option (List T)) :=
  match access with
  | .get index => do
      let x ← array.get storage index.toNat
      return x.map fun x => [x]
  | .read buf index => do
      let (result, buf) ← array.read storage buf index.toNat
      return if result then some buf else none
  | .iterRange start len => array.iterRange storage start.toNat len.toNat

/-- What is done with the accessor that writes. -/
def ArrayAccess.run {T : Type} (access : ArrayAccess T)
    (storage : DefaultStorage T) (array : Instance) :
    Limited (Bool × Instance × DefaultStorage T) :=
  match access with
  | .leave => pure (true, array, storage)
  | .getMut index f => array.getMut f storage index.toNat
  | .write index buf => array.write storage index.toNat buf
  | .reset => do
      let (array, storage) ← array.reset storage
      return (true, array, storage)

namespace SpaceTime

/-- `get_array`, with what is done with the accessor that reads. -/
def getArray (τ : ι) (id : Index) (access : ReadAccess (Ty τ))
    (space : SpaceTime A Ty) :
    Limited (Except InvalidIdError (Option (List (Ty τ)))) := do
  let snapshot ← space.getHead
  match Arena.get id snapshot.instances with
  | none => return .error {}
  | some array => do
      let s ← unwrap (space.storage.arrayStorage τ)
      let result ← access.run s array.array
      return .ok result

/-- `false` if there is no such element, or no such range. -/
def getArrayMut (τ : ι) (id : Index) (access : ArrayAccess (Ty τ))
    (space : SpaceTime A Ty) :
    Limited (Except InvalidIdError Bool × SpaceTime A Ty) := do
  let (snapshot, space) ← space.getHeadMut
  match Arena.get id snapshot.instances with
  | none => return (.error {}, space)
  | some array => do
      let s ← unwrap (space.storage.arrayStorage τ)
      let (result, inst, s) ← access.run s array.array
      let instances :=
        Arena.set id { array with array := inst } snapshot.instances
      let space := space.setStorage (space.storage.setArrays τ s)
      return (.ok result, space.setHead { snapshot with instances := instances })

end SpaceTime

/-! ## Operations -/

/-- The calls that change a space time. -/
inductive Operation {ι : Type} (Ty : ι → Type) where
  | insert (τ : ι) (object : Ty τ)
  | insertArray (τ : ι) (object : Ty τ) (n : BitVec 64)
  | remove (τ : ι) (id : Index)
  | removeArray (τ : ι) (id : Index)
  | pop (τ : ι) (id : Index)
  | getMut (τ : ι) (id : Index) (f : Ty τ → Ty τ)
  | getArrayMut (τ : ι) (id : Index) (access : ArrayAccess (Ty τ))
  | makeSnapshot
  | dropSnapshot (snapshotId : Index)
  | checkout (snapshotId : Index)

/-- What they return: the id of what was created, or whether they succeeded. -/
inductive Reply {ι : Type} (Ty : ι → Type) where
  | id (index : Index)
  | object (τ : ι) (x : Ty τ)
  | done (result : Bool)
  | invalid

/-- An invalid id is reported, whatever it is the id of. -/
def Reply.ofExcept {ε α : Type} (f : α → Reply Ty) : Except ε α → Reply Ty
  | .ok x => f x
  | .error _ => .invalid

/-- The call that the operation stands for. -/
def Operation.run (op : Operation Ty) (space : SpaceTime A Ty) :
    Limited (Reply Ty × SpaceTime A Ty) :=
  match op with
  | .insert τ object => do
      let (index, space) ← space.insert τ object
      return (.id index, space)
  | .insertArray τ object n => do
      let (index, space) ← space.insertArray τ object n
      return (.id index, space)
  | .remove τ id => do
      let (result, space) ← space.remove τ id
      return (.ofExcept (fun _ => .done true) result, space)
  | .removeArray τ id => do
      let (result, space) ← space.removeArray τ id
      return (.ofExcept (fun _ => .done true) result, space)
  | .pop τ id => do
      let (result, space) ← space.pop τ id
      return (.ofExcept (fun x => .object τ x) result, space)
  | .getMut τ id f => do
      let (result, space) ← space.getMut τ id f
      return (.ofExcept (fun _ => .done true) result, space)
  | .getArrayMut τ id access => do
      let (result, space) ← space.getArrayMut τ id access
      return (.ofExcept (fun b => .done b) result, space)
  | .makeSnapshot => do
      let (index, space) ← space.makeSnapshot
      return (.id index, space)
  | .dropSnapshot snapshotId => do
      let (result, space) ← space.dropSnapshot snapshotId
      return (.ofExcept (fun _ => .done true) result, space)
  | .checkout snapshotId => do
      let (result, space) ← space.checkout snapshotId
      return (.ofExcept (fun _ => .done true) result, space)

end Build

end RedPlanet.SpaceTime
