import RedPlanet.SpaceTime.Spans
import RedPlanet.SpaceTime.Table

/-!
# Paged arrays

`array_storage.rs`: arrays whose elements lie in counted pages of 64, under
some layers of pages of pointers.  A page is shared between positions, arrays
and clones until it is written.  The functions follow the layers down, as
`write_impl` does with `split_first_mut`.

`ArrayStorage T layers` is the tables of one type of element, and an
`Instance` the top level pages of one array.  A range is cut into the pieces
that lie in one page each, by `SpaceTime.Spans`, and the loops of the source
over these pieces are recursions on the list of them.
-/

namespace RedPlanet.SpaceTime

open RedPlanet.Core RedPlanet.Verified Limited

/-- The number of elements, or of pointers, in a page. -/
def PAGE_SIZE : ℕ := 64

/-- The tables of pointers from the top one on, and the data table. -/
inductive ArrayStorage (T : Type) : ℕ → Type where
  | data (dataTable : Table (List T)) : ArrayStorage T 0
  | pages {layers : ℕ} (pageTable : Table (List TablePtr))
      (next : ArrayStorage T layers) : ArrayStorage T (layers + 1)

/-- An array: where its pages are, and the page to start with. -/
structure Instance where
  resetPage : TablePtr
  pages : List TablePtr
  size : ℕ
deriving DecidableEq, Repr

variable {T σ : Type}

/-! ## Loops over spans -/

/-- Fill the buffer, one span after the other. -/
def readSpans (read : List T → TablePtr → ℕ → Limited (List T))
    (tables : List TablePtr) : List Span → List T → Limited (List T)
  | [], buf => pure buf
  | span :: rest, buf => do
      let part ← slice buf span.start span.stop
      let ptr ← unwrap tables[span.page]?
      let part ← read part ptr span.index
      readSpans read tables rest (splice buf span.start part)

/-- Write the buffer, one span after the other.  `write` also returns the
pointer to the page that was written, as it may be a new one. -/
def writeSpans (write : TablePtr → ℕ → List T → σ → Limited (TablePtr × σ))
    (buf : List T) :
    List Span → List TablePtr → σ → Limited (List TablePtr × σ)
  | [], tables, state => pure (tables, state)
  | span :: rest, tables, state => do
      let ptr ← unwrap tables[span.page]?
      let part ← slice buf span.start span.stop
      let (ptr, state) ← write ptr span.index part state
      writeSpans write buf rest (tables.set span.page ptr) state

/-- The elements of the spans. -/
def iterSpans (iter : TablePtr → ℕ → ℕ → Limited (List T))
    (tables : List TablePtr) : List Span → Limited (List T)
  | [] => pure []
  | span :: rest => do
      let ptr ← unwrap tables[span.page]?
      let items ← iter ptr span.index (span.stop - span.start)
      let more ← iterSpans iter tables rest
      return items ++ more

section Build

variable [Build]

/-- `debug_assert!`. -/
def debugAssert (b : Bool) : Limited Unit :=
  assert (!Build.overflowChecks || b)

/-- The copy of a page before it is written, unless it has one owner only.
The pointer that is replaced is not counted twice. -/
def makeUnique {α : Type} (ptr : TablePtr)
    (cloner : α → σ → Limited (α × σ)) (t : Table (List α)) (state : σ) :
    Limited (TablePtr × Table (List α) × σ) := do
  if ← t.isUniqueTablePtr ptr then return (ptr, t, state)
  else t.cloneArrayItem ptr cloner state

/-- Drop the pointers; the items that are not referenced any more. -/
def popAll {α : Type} : List TablePtr → Table α →
    Limited (List α × Table α)
  | [], t => pure ([], t)
  | ptr :: ptrs, t => do
      let (item, t) ← t.popItem ptr
      let (items, t) ← popAll ptrs t
      return (item.toList ++ items, t)

namespace ArrayStorage

/-- Empty tables for all of the layers. -/
def new : (layers : ℕ) → ArrayStorage T layers
  | 0 => .data Table.new
  | layers + 1 => .pages Table.new (new layers)

/-- The number of elements below one pointer of an array. -/
def itemsPerTopLevelPage (layers : ℕ) : Limited ℕ :=
  powU64 PAGE_SIZE (layers + 1)

/-! ## Pointers to top level pages -/

/-- Add a reference to a top level page. -/
def cloneTablePtr {layers : ℕ} (ptr : TablePtr) :
    ArrayStorage T layers → Limited (TablePtr × ArrayStorage T layers)
  | .data t => do
      let (ptr, t) ← t.cloneTablePtr ptr
      return (ptr, .data t)
  | .pages t next => do
      let (ptr, t) ← t.cloneTablePtr ptr
      return (ptr, .pages t next)

/-- 64 references in place of the one. -/
def cloneTablePtrArray {layers : ℕ} (ptr : TablePtr) :
    ArrayStorage T layers → Limited (List TablePtr × ArrayStorage T layers)
  | .data t => do
      let (page, t) ← t.cloneTablePtrArray PAGE_SIZE ptr
      return (page, .data t)
  | .pages t next => do
      let (page, t) ← t.cloneTablePtrArray PAGE_SIZE ptr
      return (page, .pages t next)

/-- Remove references, and all pages that are not referenced any more. -/
def dropPtrs : {layers : ℕ} → List TablePtr → ArrayStorage T layers →
    Limited (ArrayStorage T layers)
  | 0, ptrs, .data t => do
      let (_, t) ← popAll ptrs t
      return .data t
  | _ + 1, ptrs, .pages t next => do
      let (droped, t) ← popAll ptrs t
      if droped.isEmpty then return .pages t next
      else
        let next ← next.dropPtrs droped.flatten
        return .pages t next

/-- Drop a pointer to a top level page, and with the last one the page. -/
def dropTablePtr {layers : ℕ} (ptr : TablePtr)
    (storage : ArrayStorage T layers) : Limited (ArrayStorage T layers) :=
  storage.dropPtrs [ptr]

/-- A top level page with `value` everywhere: one page in every table. -/
def addTopLevelPage (value : T) : {layers : ℕ} → ArrayStorage T layers →
    Limited (TablePtr × ArrayStorage T layers)
  | 0, .data t => do
      let (ptr, t) ← t.addItem (List.replicate PAGE_SIZE value)
      return (ptr, .data t)
  | _ + 1, .pages t next => do
      let (prev, next) ← next.addTopLevelPage value
      let (page, next) ← next.cloneTablePtrArray prev
      let (ptr, t) ← t.addItem page
      return (ptr, .pages t next)

/-! ## Access to the elements under a top level page -/

/-- The element at an index below a pointer, one layer after the other. -/
def getImpl : {layers : ℕ} → ArrayStorage T layers → TablePtr → ℕ → ℕ →
    Limited T
  | 0, .data t, ptr, index, divisor => do
      debugAssert (divisor = 1)
      let page ← t.getItem ptr
      unwrap page[index]?
  | _ + 1, .pages t next, ptr, index, divisor => do
      let page ← t.getItem ptr
      let i ← divU64 index divisor
      let ptr ← unwrap page[i]?
      next.getImpl ptr (index - i * divisor) (divisor / PAGE_SIZE)

/-- The element at an index below a top level page. -/
def get {layers : ℕ} (storage : ArrayStorage T layers) (ptr : TablePtr)
    (index : ℕ) : Limited T := do
  let items ← itemsPerTopLevelPage layers
  storage.getImpl ptr index (items / PAGE_SIZE)

/-- Fill a buffer from a range below a pointer, page by page. -/
def readImpl : {layers : ℕ} → ArrayStorage T layers → List T → TablePtr →
    ℕ → ℕ → Limited (List T)
  | 0, .data t, buf, ptr, index, divisor => do
      debugAssert (index + buf.length ≤ PAGE_SIZE)
      debugAssert (divisor = 1)
      let page ← t.getItem ptr
      slice page index (index + buf.length)
  | _ + 1, .pages t next, buf, ptr, index, divisor => do
      let list ← spans divisor index buf.length
      let tables ← t.getItem ptr
      readSpans (fun part ptr index =>
        next.readImpl part ptr index (divisor / PAGE_SIZE)) tables list buf

/-- Fill a buffer from a range below a top level page. -/
def read {layers : ℕ} (storage : ArrayStorage T layers) (buf : List T)
    (ptr : TablePtr) (index : ℕ) : Limited (List T) := do
  let items ← itemsPerTopLevelPage layers
  storage.readImpl buf ptr index (items / PAGE_SIZE)

/-- The elements of a range below a pointer, page by page. -/
def iterRangeImpl : {layers : ℕ} → ArrayStorage T layers → TablePtr → ℕ →
    ℕ → ℕ → Limited (List T)
  | 0, .data t, ptr, index, len, divisor => do
      debugAssert (index + len ≤ PAGE_SIZE)
      debugAssert (divisor = 1)
      let page ← t.getItem ptr
      slice page index (index + len)
  | _ + 1, .pages t next, ptr, index, len, divisor => do
      let list ← ranges divisor index len
      let tables ← t.getItem ptr
      iterSpans (fun ptr index len =>
        next.iterRangeImpl ptr index len (divisor / PAGE_SIZE)) tables list

/-- The elements of a range below a top level page. -/
def iterRange {layers : ℕ} (storage : ArrayStorage T layers)
    (ptr : TablePtr) (index len : ℕ) : Limited (List T) := do
  let items ← itemsPerTopLevelPage layers
  storage.iterRangeImpl ptr index len (items / PAGE_SIZE)

/-- The page that `get_item_mut` unwraps. -/
def uniquePage {α : Type} (ptr : TablePtr) (t : Table (List α)) :
    Limited (List α) := do
  let page ← t.getItemMut ptr
  unwrap page

/-- Replace the element `x` at `index` by `f x`, through the reference that
`get_mut` returns.  With it comes the pointer in place of `ptr`. -/
def getMutImpl (f : T → T) : {layers : ℕ} → ArrayStorage T layers →
    TablePtr → ℕ → ℕ → Limited (TablePtr × ArrayStorage T layers)
  | 0, .data t, ptr, index, divisor => do
      debugAssert (divisor = 1)
      let (ptr, t, _) ← makeUnique ptr (fun x state => pure (x, state)) t ()
      let page ← uniquePage ptr t
      let x ← unwrap page[index]?
      return (ptr, .data (t.setItem ptr (page.set index (f x))))
  | _ + 1, .pages t next, ptr, index, divisor => do
      let (ptr, t, next) ← makeUnique ptr cloneTablePtr t next
      let page ← uniquePage ptr t
      let i ← divU64 index divisor
      let child ← unwrap page[i]?
      let (child, next) ←
        next.getMutImpl f child (index - i * divisor) (divisor / PAGE_SIZE)
      return (ptr, .pages (t.setItem ptr (page.set i child)) next)

/-- Change an element, with the pages on the way made unique. -/
def getMut {layers : ℕ} (f : T → T) (storage : ArrayStorage T layers)
    (ptr : TablePtr) (index : ℕ) :
    Limited (TablePtr × ArrayStorage T layers) := do
  let items ← itemsPerTopLevelPage layers
  storage.getMutImpl f ptr index (items / PAGE_SIZE)

/-- Write a buffer to a range below a pointer; what is shared is copied. -/
def writeImpl : {layers : ℕ} → TablePtr → ℕ → ℕ → List T →
    ArrayStorage T layers → Limited (TablePtr × ArrayStorage T layers)
  | 0, ptr, index, divisor, buf, .data t => do
      debugAssert (index + buf.length ≤ PAGE_SIZE)
      debugAssert (divisor = 1)
      let (ptr, t, _) ← makeUnique ptr (fun x state => pure (x, state)) t ()
      let page ← uniquePage ptr t
      let _ ← slice page index (index + buf.length)
      return (ptr, .data (t.setItem ptr (splice page index buf)))
  | _ + 1, ptr, index, divisor, buf, .pages t next => do
      let list ← spans divisor index buf.length
      let (ptr, t, next) ← makeUnique ptr cloneTablePtr t next
      let page ← uniquePage ptr t
      let (page, next) ← writeSpans
        (fun ptr index part next =>
          writeImpl ptr index (divisor / PAGE_SIZE) part next)
        buf list page next
      return (ptr, .pages (t.setItem ptr page) next)

/-- Write a buffer to a range below a top level page. -/
def write {layers : ℕ} (ptr : TablePtr) (index : ℕ) (buf : List T)
    (storage : ArrayStorage T layers) :
    Limited (TablePtr × ArrayStorage T layers) := do
  let items ← itemsPerTopLevelPage layers
  writeImpl ptr index (items / PAGE_SIZE) buf storage

/-! ## Instances -/

/-- `size` elements, all of them `value`. -/
def newInstance {layers : ℕ} (value : T) (size : ℕ)
    (storage : ArrayStorage T layers) :
    Limited (Instance × ArrayStorage T layers) := do
  let (ptr, storage) ← storage.addTopLevelPage value
  let items ← itemsPerTopLevelPage layers
  let pagesNeeded ← divCeilU64 size items
  let (ptrs, storage) ←
    mapItems cloneTablePtr (List.replicate pagesNeeded ptr) storage
  return ({ resetPage := ptr, pages := ptrs, size := size }, storage)

/-- Drop the pages of an array, one after the other. -/
def dropPages {layers : ℕ} : List TablePtr → ArrayStorage T layers →
    Limited (ArrayStorage T layers)
  | [], storage => pure storage
  | ptr :: ptrs, storage => do
      let storage ← storage.dropTablePtr ptr
      dropPages ptrs storage

/-- `remove_instance`, which keeps the pointer to the reset page. -/
def removeInstance {layers : ℕ} (array : Instance)
    (storage : ArrayStorage T layers) : Limited (ArrayStorage T layers) :=
  dropPages array.pages storage

/-- `drop_instance`, which keeps the pointer to the reset page. -/
def dropInstance {layers : ℕ} (array : Instance)
    (storage : ArrayStorage T layers) : Limited (ArrayStorage T layers) :=
  dropPages array.pages storage

/-- Another array with the same pages. -/
def cloneInstance {layers : ℕ} (array : Instance)
    (storage : ArrayStorage T layers) :
    Limited (Instance × ArrayStorage T layers) := do
  let (ptrs, storage) ← mapItems cloneTablePtr array.pages storage
  let (resetPage, storage) ← storage.cloneTablePtr array.resetPage
  return ({ resetPage := resetPage, pages := ptrs, size := array.size },
    storage)

end ArrayStorage

namespace Instance

open ArrayStorage

variable {layers : ℕ}

/-- The number of elements. -/
def len (array : Instance) : ℕ := array.size

def get (storage : ArrayStorage T layers) (index : ℕ) (array : Instance) :
    Limited (Option T) := do
  if array.len ≤ index then return none
  else
    let items ← itemsPerTopLevelPage layers
    let page ← divU64 index items
    let ptr ← unwrap array.pages[page]?
    let x ← storage.get ptr (index - page * items)
    return some x

/-- `false` if there is no such element. -/
def getMut (f : T → T) (storage : ArrayStorage T layers) (index : ℕ)
    (array : Instance) :
    Limited (Bool × Instance × ArrayStorage T layers) := do
  if array.len ≤ index then return (false, array, storage)
  else
    let items ← itemsPerTopLevelPage layers
    let page ← divU64 index items
    let ptr ← unwrap array.pages[page]?
    let (ptr, storage) ← storage.getMut f ptr (index - page * items)
    return (true, { array with pages := array.pages.set page ptr }, storage)

def read (storage : ArrayStorage T layers) (buf : List T) (index : ℕ)
    (array : Instance) : Limited (Bool × List T) := do
  if array.len < index + buf.length then return (false, buf)
  else
    let items ← itemsPerTopLevelPage layers
    let list ← spans items index buf.length
    let buf ← readSpans (fun part ptr index => storage.read part ptr index)
      array.pages list buf
    return (true, buf)

def write (storage : ArrayStorage T layers) (index : ℕ) (buf : List T)
    (array : Instance) :
    Limited (Bool × Instance × ArrayStorage T layers) := do
  if array.len < index + buf.length then return (false, array, storage)
  else
    let items ← itemsPerTopLevelPage layers
    let list ← spans items index buf.length
    let (ptrs, storage) ← writeSpans ArrayStorage.write buf list array.pages
      storage
    return (true, { array with pages := ptrs }, storage)

def iterRange (storage : ArrayStorage T layers) (index len : ℕ)
    (array : Instance) : Limited (Option (List T)) := do
  if array.len < index + len then return none
  else
    let items ← itemsPerTopLevelPage layers
    let list ← ranges items index len
    let elements ← iterSpans storage.iterRange array.pages list
    return some elements

/-- The pages of the array after a reset. -/
def resetPages (resetPage : TablePtr) : List TablePtr →
    ArrayStorage T layers → Limited (List TablePtr × ArrayStorage T layers)
  | [], storage => pure ([], storage)
  | page :: rest, storage => do
      let (page, storage) ←
        if page ≠ resetPage then do
          let storage ← storage.dropTablePtr page
          storage.cloneTablePtr resetPage
        else pure (page, storage)
      let (rest, storage) ← resetPages resetPage rest storage
      return (page :: rest, storage)

/-- Every page becomes the reset page. -/
def reset (storage : ArrayStorage T layers) (array : Instance) :
    Limited (Instance × ArrayStorage T layers) := do
  let (ptrs, storage) ← resetPages array.resetPage array.pages storage
  return ({ array with pages := ptrs }, storage)

end Instance

end Build

end RedPlanet.SpaceTime
