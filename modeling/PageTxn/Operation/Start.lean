import PageTxn.Operation.Step
import PageTxn.Schedule

/-!
Starting and running operations.

* `Database.resume` moves an operation until it is parked or finished.
* `Database.fetch`, `Database.insertRecord`, `Database.deleteRecord` and
  `Database.scan` start an operation and move it as far;
  `Database.insertInto` and `Database.deleteFrom` ask a store directly.

A memory store takes no locks and does its part at once, when the operation is
started.
-/

namespace PageTxn.Database

/-! ### Running an operation -/

/-- Move an operation until it is parked or finished; `fuel` bounds the moves. -/
def advance : Nat → Database → Operation → Database × Turn Operation Outcome
  | 0, db, operation => (db, .parked operation)
  | fuel + 1, db, operation =>
      match db.step operation with
      | (db, .running operation) => advance fuel db operation
      | (db, .parked operation) => (db, .parked operation)
      | (db, .finished outcome) => (db, .finished outcome)

/-- Move an operation until it is parked or finished. -/
def resume (db : Database) (operation : Operation) : Database × Turn Operation Outcome :=
  advance operation.budget db operation

/-- Go on after a move until the operation is parked or finished. -/
def proceed (db : Database) : Progress → Database × Turn Operation Outcome
  | .running operation => db.resume operation
  | .parked operation => (db, .parked operation)
  | .finished outcome => (db, .finished outcome)

/-! ### Operations on a memory store -/

/-- Read some pages of a store and make a page object of each changed image, up
to the first failure. -/
def changeEach (db : Database) (store : Store) (change : Image → Image) :
    List PageId → Database × Except Failure (List FrameId)
  | [] => (db, .ok [])
  | page :: rest =>
      match db.readPage store page with
      | (db, .error failure) => (db, .error failure)
      | (db, .ok image) =>
          let (id, cache) := db.cache.newFrame (.ofImage page (change image))
          match { db with cache }.changeEach store change rest with
          | (db, .error failure) => (db, .error failure)
          | (db, .ok ids) => (db, .ok (id :: ids))

/-- Change the targets of a memory store. -/
def changeTargets (db : Database) (table : TableId) (id : MemoryId)
    (change : Image → Image) : Database × Except Failure (List FrameId) :=
  db.changeEach (.memory table id) change
    ((db.storage.memory id).targets.map fun number => ⟨table, number⟩)

/-! ### Starting an operation -/

/-- Start to fetch a page for a transaction. -/
def startFetch (db : Database) (txn : TxnId) (page : PageId) (mode : LockMode) :
    Database × Progress :=
  (db, (Aim.hand page mode).start txn .database)

/-- Start to insert a record into a store. A memory store writes the payload to
the start of its targets. -/
def startInsert (db : Database) (txn : TxnId) (level : Level) (store : Store)
    (record : Record) : Database × Progress :=
  match store with
  | .heap heap =>
      if record.data.size = heap.layout.recordSize then
        db.nextProbe txn level heap record 0 (db.storage.heapPages heap)
      else
        let error := Error.recordSize heap.layout.recordSize record.data.size
        (db, .finished (level.failedInsert record error))
  | .memory table id =>
      let record := record.placed (db.storage.memory id).place
      let write (image : Image) : Image := image.splice 0 (record.data.extract 0 image.size)
      match db.changeTargets table id write with
      | (db, .ok pages) => (db, (Change.insertion record pages).next txn level)
      | (db, .error failure) => (db, .finished (level.failedInsert record failure))

/-- Start to delete a record from a store. A memory store zeroes its targets,
whatever the record. -/
def startDelete (db : Database) (txn : TxnId) (level : Level) (store : Store)
    (record : Record) : Database × Progress :=
  match store with
  | .heap heap =>
      match record.id with
      | none => (db, .finished (.deleted (.error Error.unplacedRecord)))
      | some id =>
          if id.page.table = heap.table ∧ id.page.number < db.storage.heapPages heap then
            (db, (Aim.erase heap id).start txn level)
          else (db, .finished (.deleted (.error (Error.recordNotFound id))))
  | .memory table id =>
      match db.changeTargets table id fun image => Image.zeros image.size with
      | (db, .ok pages) => (db, (Change.deletion pages).next txn level)
      | (db, .error failure) => (db, .finished (.deleted (.error failure)))

/-- Start to insert a record into the store of a table. Without a store nothing is
tried, and the record stays as it is. -/
def startInsertRecord (db : Database) (txn : TxnId) (table : TableId) (record : Record) :
    Database × Progress :=
  match db.storage.storeOf table with
  | .ok store => db.startInsert txn .database store record
  | .error error => (db, .finished (.inserted (.error error) record))

/-- Start to delete a record from the store of its table. -/
def startDeleteRecord (db : Database) (txn : TxnId) (record : Record) :
    Database × Progress :=
  match record.id with
  | none => (db, .finished (.deleted (.error Error.unplacedRecord)))
  | some id =>
      match db.storage.storeOf id.page.table with
      | .ok store => db.startDelete txn .database store record
      | .error error => (db, .finished (.deleted (.error error)))

/-- Start to scan the records of a heap file. -/
def startScan (db : Database) (txn : TxnId) (heap : HeapFile) : Database × Progress :=
  match db.storage.heapPages heap with
  | 0 => (db, .finished (.scanned (.ok [])))
  | remaining + 1 => (db, (Aim.collect heap 0 remaining []).start txn .store)

/-! ### Operations from their start on -/

/-- Fetch a page for a transaction. -/
def fetch (db : Database) (txn : TxnId) (page : PageId) (mode : LockMode) :
    Database × Turn Operation Outcome :=
  let (db, progress) := db.startFetch txn page mode
  db.proceed progress

/-- Insert a record into the store of a table and report the changed pages dirty. -/
def insertRecord (db : Database) (txn : TxnId) (table : TableId) (record : Record) :
    Database × Turn Operation Outcome :=
  let (db, progress) := db.startInsertRecord txn table record
  db.proceed progress

/-- Insert a record into a store. -/
def insertInto (db : Database) (txn : TxnId) (store : Store) (record : Record) :
    Database × Turn Operation Outcome :=
  let (db, progress) := db.startInsert txn .store store record
  db.proceed progress

/-- Delete a record from the store of its table and report the changed pages dirty. -/
def deleteRecord (db : Database) (txn : TxnId) (record : Record) :
    Database × Turn Operation Outcome :=
  let (db, progress) := db.startDeleteRecord txn record
  db.proceed progress

/-- Delete a record from a store. -/
def deleteFrom (db : Database) (txn : TxnId) (store : Store) (record : Record) :
    Database × Turn Operation Outcome :=
  let (db, progress) := db.startDelete txn .store store record
  db.proceed progress

/-- Scan the records of a heap file. -/
def scan (db : Database) (txn : TxnId) (heap : HeapFile) :
    Database × Turn Operation Outcome :=
  let (db, progress) := db.startScan txn heap
  db.proceed progress

end PageTxn.Database
