import PageTxn.Storage.HeapFile
import PageTxn.Storage.MemoryStore

/-!
Everything that is stored: the disk, the memory stores, and the catalog that
finds the store of a table.

* `Store` is the handle of a page store, a heap file or a memory store.
* `Storage.readPage` and `Storage.writePage` read and write a page of a store;
  `Storage.storeOf` finds the store of a table in the catalog.
-/

namespace PageTxn

/-- The identity of a memory store. -/
abbrev MemoryId := Nat

/-- The handle of a page store. -/
inductive Store where
  | heap (file : HeapFile)
  | memory (table : TableId) (id : MemoryId)
  deriving DecidableEq

/-- The table of a page store. -/
def Store.table : Store → TableId
  | heap file => file.table
  | memory table _ => table

/-- The stored pages and the way to them. -/
structure Storage where
  pageSize : PageSize
  disk : Disk
  memories : Std.ExtTreeMap MemoryId MemoryStore
  /-- The identity of the next memory store. -/
  nextMemory : MemoryId
  /-- The stores of the registered tables. -/
  catalog : Std.ExtTreeMap TableId Store

namespace Storage

/-- Nothing is stored. -/
def empty (pageSize : PageSize) : Storage := ⟨pageSize, .empty, ∅, 0, ∅⟩

/-- A memory store by its identity. -/
def memory (storage : Storage) (id : MemoryId) : MemoryStore :=
  storage.memories.getD id default

/-- Replace a memory store. -/
def setMemory (storage : Storage) (id : MemoryId) (store : MemoryStore) : Storage :=
  { storage with memories := storage.memories.insert id store }

/-- Add a memory store. -/
def addMemory (storage : Storage) (store : MemoryStore) : Store × Storage :=
  (.memory store.table storage.nextMemory,
    { storage.setMemory storage.nextMemory store with
      nextMemory := storage.nextMemory + 1 })

/-- Replacing a memory store changes that store and no other. -/
theorem memory_setMemory (storage : Storage) (id other : MemoryId) (store : MemoryStore) :
    (storage.setMemory id store).memory other =
      if id = other then store else storage.memory other := by
  simp [setMemory, memory, Std.ExtTreeMap.getD_insert]

/-! ### The catalog -/

/-- Register a store under its table, in place of an earlier one. -/
def register (storage : Storage) (store : Store) : Storage :=
  { storage with catalog := storage.catalog.insert store.table store }

/-- The registered tables in ascending order. -/
def tables (storage : Storage) : List TableId := storage.catalog.keys

/-- The store of a table. -/
def storeOf (storage : Storage) (table : TableId) : Except Error Store :=
  match storage.catalog[table]? with
  | some store => .ok store
  | none => .error (.tableNotFound table)

/-! ### Pages -/

/-- The number of pages of a heap file. -/
def heapPages (storage : Storage) (heap : HeapFile) : Nat :=
  heap.pageCount storage.disk storage.pageSize

/-- The numbers of the pages of a store in ascending order. -/
def pageNumbers (storage : Storage) : Store → List Nat
  | .heap heap => List.range (storage.heapPages heap)
  | .memory _ id => (storage.memory id).pages.keys

/-- Read a page of a store. The result tells which transaction, if any, overtakes
the read. -/
def readPage (storage : Storage) (store : Store) (page : PageId) :
    Storage × Except Error (Image × Option TxnId) :=
  match store with
  | .heap heap =>
      (storage,
        (heap.readPage storage.disk storage.pageSize page).map fun image => (image, none))
  | .memory _ id =>
      let (memory, result) := (storage.memory id).readPage page
      (storage.setMemory id memory, result)

/-- Write a page of a store. A refused write changes nothing. -/
def writePage (storage : Storage) (store : Store) (page : PageId) (image : Image) :
    Storage × Except Error Unit :=
  match store with
  | .heap heap =>
      match heap.writePage storage.disk storage.pageSize page image with
      | .ok disk => ({ storage with disk }, .ok ())
      | .error error => (storage, .error error)
  | .memory _ id =>
      let (memory, result) := (storage.memory id).writePage page image
      (storage.setMemory id memory, result)

/-- Append a zeroed page to a heap file; the result tells its number. -/
def appendPage (storage : Storage) (heap : HeapFile) : Nat × Storage :=
  let (number, disk) := heap.appendPage storage.disk storage.pageSize
  (number, { storage with disk })

end Storage

end PageTxn
