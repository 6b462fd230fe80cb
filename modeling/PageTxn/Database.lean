import PageTxn.Cache.Basic
import PageTxn.Lock.Manager
import PageTxn.Storage.Catalog
import PageTxn.Transaction

/-!
The database: stores, cache and locks together.

* `Database.readPage` and `Database.flush` move one page between a store and the
  cache.
* `Database.flushEach` and `Database.flushAll` write the dirty ones of some or of
  all resident pages, in the order given, and stop at the first refusal.
* `Database.complete` ends a transaction. A commit forces the resident pages that
  the transaction holds to their stores and takes new before-images of them; an
  abort returns the pages that the transaction changed to their before-images.
  Either way all its locks are released, also if a store refused a page.
* `Database.commit` and `Database.abort` do so for a transaction handle.
-/

namespace PageTxn

/-- Stores, cache and locks. -/
structure Database where
  storage : Storage
  cache : Cache
  locks : LockManager

namespace Database

/-- A database without tables. -/
def create (pageSize : PageSize) (capacity : Nat) : Except Fault Database := do
  let cache ← Cache.ofCapacity? capacity
  pure ⟨.empty pageSize, cache, .empty⟩

/-! ### One page -/

/-- Read a page of a store. If another transaction overtakes the read, it has
loaded and dirtied the page meanwhile. -/
def readPage (db : Database) (store : Store) (page : PageId) :
    Database × Except Failure Image :=
  match db.storage.readPage store page with
  | (storage, .error error) => ({ db with storage }, .error error)
  | (storage, .ok (image, none)) => ({ db with storage }, .ok image)
  | (storage, .ok (image, some txn)) =>
      let (id, cache) := db.cache.newFrame (.ofImage page image)
      match cache.markDirty txn id with
      | (cache, .error (.fault fault)) => ({ db with storage, cache }, .error fault)
      | (cache, _) => ({ db with storage, cache }, .ok image)

/-- Write a frame to the store of its table and mark it clean, if it is dirty. -/
def flush (db : Database) (id : FrameId) : Database × Except Error Unit :=
  let frame := db.cache.frame id
  if frame.isDirty then
    match db.storage.storeOf frame.page.table with
    | .error error => (db, .error error)
    | .ok store =>
        match db.storage.writePage store frame.page frame.live with
        | (storage, .error error) => ({ db with storage }, .error error)
        | (storage, .ok ()) =>
            ({ db with
                storage
                cache := (db.cache.updateFrame id Frame.clean).countWritten },
              .ok ())
  else (db, .ok ())

/-- Write a page if it is resident and dirty. -/
def flushPage (db : Database) (page : PageId) : Database × Except Error Unit :=
  match db.cache.residentFrame? page with
  | some id => db.flush id
  | none => (db, .ok ())

/-- Record that a transaction changed the page of a frame. -/
def markDirty (db : Database) (txn : TxnId) (id : FrameId) :
    Database × Except Failure Unit :=
  let (cache, result) := db.cache.markDirty txn id
  ({ db with cache }, result)

/-- Drop a page from the cache without writing it. -/
def discard (db : Database) (page : PageId) : Database :=
  { db with cache := db.cache.discard page }

/-- Give back the lock on a page. -/
def release (db : Database) (txn : TxnId) (page : PageId) : Database :=
  { db with locks := db.locks.release txn page }

/-! ### Several pages -/

/-- Write the dirty ones of some resident pages, up to the first refusal. -/
def flushEach (db : Database) : List PageId → Database × Except Error Unit
  | [] => (db, .ok ())
  | page :: rest =>
      match db.flushPage page with
      | (db, .ok ()) => db.flushEach rest
      | (db, .error error) => (db, .error error)

/-- Write all dirty resident pages. -/
def flushAll (db : Database) : Database × Except Error Unit :=
  db.flushEach db.cache.residentPages

/-- Write the dirty ones of the resident pages that a transaction holds. -/
def flushHeld (db : Database) (txn : TxnId) : Database × Except Error Unit :=
  db.flushEach (db.locks.heldPages txn)

/-! ### Completion -/

/-- Force some resident pages to their stores, up to the first refusal, and take
new before-images of them. -/
def commitPages (db : Database) : List PageId → Database × Except Error Unit
  | [] => (db, .ok ())
  | page :: rest =>
      match db.cache.residentFrame? page with
      | none => db.commitPages rest
      | some id =>
          match db.flush id with
          | (db, .error error) => (db, .error error)
          | (db, .ok ()) =>
              { db with cache := db.cache.updateFrame id Frame.refresh }.commitPages rest

/-- Return some pages to their before-images, where the transaction owns their
changes. -/
def rollbackPages (db : Database) (txn : TxnId) (pages : List PageId) : Database :=
  { db with cache := db.cache.rollbackEach txn pages }

/-- Write or undo the changes of a transaction, before its locks go. -/
def settle (db : Database) (txn : TxnId) (commit : Bool) : Database × Except Error Unit :=
  let pages := db.locks.heldPages txn
  if commit then db.commitPages pages else (db.rollbackPages txn pages, .ok ())

/-- End a transaction. Its locks are released whatever happens. -/
def complete (db : Database) (txn : TxnId) (commit : Bool) :
    Database × Except Error Unit :=
  let (db, result) := db.settle txn commit
  ({ db with locks := db.locks.releaseAll txn }, result)

/-- Commit a transaction; if a store refuses a page it stays committing. -/
def commit (db : Database) (txn : Transaction) :
    Database × Transaction × Except Error Unit :=
  match db.complete txn.id true with
  | (db, .ok ()) => (db, { txn with state := .committed }, .ok ())
  | (db, .error error) => (db, { txn with state := .committing }, .error error)

/-- Abort a transaction. -/
def abort (db : Database) (txn : Transaction) :
    Database × Transaction × Except Error Unit :=
  match db.complete txn.id false with
  | (db, .ok ()) => (db, { txn with state := .aborted }, .ok ())
  | (db, .error error) => (db, { txn with state := .aborting }, .error error)

end Database

end PageTxn
