import PageTxn.Image

/-!
Memory stores: pages kept in memory, with switches that let them fail.

A `MemoryStore` can refuse reads (`failReads`), refuse writes after a number of
them (`writesLeft`), and let its next successful read be overtaken by another
transaction that loads and dirties the page meanwhile (`race`). It logs the
pages that are written.
-/

namespace PageTxn

/-- Pages of one table in memory. -/
structure MemoryStore where
  table : TableId
  pages : Std.ExtTreeMap Nat Image
  /-- The numbers of the pages that an insert or a delete touches. -/
  targets : List Nat
  /-- Reads are refused. -/
  failReads : Bool
  /-- Writes that are still accepted, `none` if they all are. -/
  writesLeft : Option Nat
  /-- The transaction that overtakes the next successful read. -/
  race : Option TxnId
  /-- The pages written, in order. -/
  log : List PageId

namespace MemoryStore

/-- A store of zeroed pages, numbered from 0 on, that does not fail. -/
def zeroed (table : TableId) (count pageSize : Nat) (targets : List Nat) : MemoryStore where
  table := table
  pages := Std.ExtTreeMap.ofList
    ((List.range count).map fun number => (number, Image.zeros pageSize))
  targets := targets
  failReads := false
  writesLeft := none
  race := none
  log := []

instance : Inhabited MemoryStore := ⟨zeroed ⟨0⟩ 0 0 []⟩

/-- The number of pages. -/
def pageCount (store : MemoryStore) : Nat := store.pages.size

/-- Read a page. A successful read uses up the race; the result tells who
overtakes it. -/
def readPage (store : MemoryStore) (page : PageId) :
    MemoryStore × Except Error (Image × Option TxnId) :=
  if store.failReads then (store, .error (.io .badSector))
  else
    match store.pages[page.number]? with
    | some image => ({ store with race := none }, .ok (image, store.race))
    | none => (store, .error (.pageNotFound page))

/-- Write a page, also one that did not exist. -/
def writePage (store : MemoryStore) (page : PageId) (image : Image) :
    MemoryStore × Except Error Unit :=
  match store.writesLeft with
  | some 0 => (store, .error (.io .diskFull))
  | left =>
      ({ store with
          pages := store.pages.insert page.number image
          writesLeft := left.map (· - 1)
          log := store.log ++ [page] },
        .ok ())

/-- The place that an insert names for its record: the first slot of the first
target. -/
def place (store : MemoryStore) : RecordId :=
  ⟨⟨store.table, store.targets.headD 0⟩, 0⟩

end MemoryStore

end PageTxn
