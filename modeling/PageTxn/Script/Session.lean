import PageTxn.Script.Command

/-!
Running the steps of a script.

* A `Session` is a database together with the names of a script: stores, kept
  page objects, kept records and transaction handles.
* An operation that has to wait becomes a `Pending` one, which remembers who asked
  for it; `Session.conclude` says what the session does with its outcome.
* `Session.start` runs a step and `Session.resume` goes on with a pending one.
-/

namespace PageTxn

/-- A database and the names of a script. -/
structure Session where
  db : Database
  heaps : Std.ExtTreeMap String HeapFile
  /-- The memory stores with their tables; one hides a heap file of its name from the
  steps that any store can answer. -/
  memories : Std.ExtTreeMap String (TableId × MemoryId)
  /-- The page objects that transactions last fetched or made. -/
  frames : Std.ExtTreeMap TxnId (Std.ExtTreeMap PageId FrameId)
  records : Std.ExtTreeMap String Record
  handles : Std.ExtTreeMap TxnId Transaction

/-- Who asked for an operation. -/
structure Asker where
  /-- The transaction that a fetched page is kept for. -/
  txn : TxnId
  /-- Whether a store or the database was asked. -/
  level : Level
  /-- The name under which an inserted record is kept. -/
  keepAs : Option String

/-- An operation that waits, and who asked for it. -/
structure Pending where
  operation : Operation
  asker : Asker

namespace Session

/-- A session with a database and no names. -/
def ofDatabase (db : Database) : Session := ⟨db, ∅, ∅, ∅, ∅, ∅⟩

/-! ### Names -/

/-- The store of a name. -/
def store? (session : Session) (name : String) : Option Store :=
  match session.memories[name]? with
  | some (table, id) => some (.memory table id)
  | none => session.heaps[name]?.map Store.heap

/-- The heap file of a name, also if a memory store hides it. -/
def heap? (session : Session) (name : String) : Option HeapFile := session.heaps[name]?

/-- The frame that a transaction keeps of a page. -/
def frame? (session : Session) (txn : TxnId) (page : PageId) : Option FrameId :=
  (session.frames.getD txn ∅)[page]?

/-- Keep a frame of a page for a transaction. -/
def keepFrame (session : Session) (txn : TxnId) (page : PageId) (id : FrameId) : Session :=
  { session with
    frames := session.frames.insert txn ((session.frames.getD txn ∅).insert page id) }

/-- Keep a record, if it has a name. -/
def keepRecord (session : Session) (record : Record) : Option String → Session
  | some name => { session with records := session.records.insert name record }
  | none => session

/-- The record that is meant. -/
def record (session : Session) (choice : RecordChoice) : Record :=
  (choice.name.bind fun name => session.records[name]?).getD ⟨choice.place, choice.data⟩

/-- The handle of a transaction, which begins now if it has not begun yet. -/
def handle (session : Session) (txn : TxnId) : Transaction :=
  session.handles.getD txn (.begin txn)

/-- Pages of frames, with the owners of their changes. -/
def owners (db : Database) (ids : List FrameId) : List (PageId × Option TxnId) :=
  ids.map fun id => ((db.cache.frame id).page, (db.cache.frame id).owner)

/-! ### Operations on pages and records -/

/-- The reply to an insert that met no fault. -/
def insertReply (db : Database) (level : Level) (result : Except Error (List FrameId))
    (id : Option RecordId) : Reply :=
  match level with
  | .database => .inserted (result.map fun _ => ()) id
  | .store => .placed (result.map (owners db)) id

/-- The reply to a delete that succeeded. -/
def deleteReply (db : Database) (level : Level) (ids : List FrameId) : Reply :=
  match level with
  | .database => .done
  | .store => .changed (owners db ids)

/-- What a session does with the outcome of an operation: it keeps the page that was
fetched, and it keeps the record of an insert whether or not that succeeded. A
fault leaves nothing to keep. -/
def conclude (session : Session) (asker : Asker) : Outcome → Session × Reply
  | .fetched (.ok id) =>
      let frame := session.db.cache.frame id
      (session.keepFrame asker.txn frame.page id, .image (some frame.live))
  | .inserted (.ok ids) record =>
      (session.keepRecord record asker.keepAs,
        insertReply session.db asker.level (.ok ids) record.id)
  | .inserted (.error (.error error)) record =>
      (session.keepRecord record asker.keepAs,
        insertReply session.db asker.level (.error error) record.id)
  | .deleted (.ok ids) => (session, deleteReply session.db asker.level ids)
  | .scanned (.ok records) => (session, .records records)
  | .inserted (.error (.fault fault)) _ => (session, .failed fault)
  | .fetched (.error failure) | .deleted (.error failure) | .scanned (.error failure) =>
      (session, .failed failure)

/-- What a session makes of an operation that has had its turn. -/
def settle (session : Session) (asker : Asker) :
    Database × Turn Operation Outcome → Session × Turn Pending Reply
  | (db, .parked operation) => ({ session with db }, .parked ⟨operation, asker⟩)
  | (db, .finished outcome) =>
      let (session, reply) := { session with db }.conclude asker outcome
      (session, .finished reply)

/-- Go on with an operation that has waited. -/
def resume (session : Session) (pending : Pending) : Session × Turn Pending Reply :=
  session.settle pending.asker (session.db.resume pending.operation)

/-! ### Steps on stores -/

/-- Open a heap file and give it a name. -/
def openHeap (session : Session) (how : Opening) (name : String) (path : DiskPath)
    (table : TableId) (recordSize : Nat) : Session × Reply :=
  let storage := session.db.storage
  let opened := match how with
    | .create => HeapFile.create storage.disk storage.pageSize path table recordSize
    | .openFile => HeapFile.openFile storage.disk storage.pageSize path table recordSize
    | .openOrCreate =>
        HeapFile.openOrCreate storage.disk storage.pageSize path table recordSize
  match opened with
  | .ok (heap, disk) =>
      ({ session with
          db := { session.db with storage := { storage with disk } }
          heaps := session.heaps.insert name heap },
        .layout heap.layout)
  | .error error => (session, .failed error)

/-- Make a memory store of zeroed pages and give it a name. -/
def addMemory (session : Session) (name : String) (table : TableId) (pages : Nat)
    (targets : List Nat) : Session :=
  let storage := session.db.storage
  let (_, grown) :=
    storage.addMemory (.zeroed table pages storage.pageSize.bytes targets)
  { session with
    db := { session.db with storage := grown }
    memories := session.memories.insert name (table, storage.nextMemory) }

/-- Change the stores. -/
def updateStorage (session : Session) (change : Storage → Storage) : Session :=
  { session with db := { session.db with storage := change session.db.storage } }

/-- Change a memory store. -/
def updateMemory (session : Session) (name : String) (change : MemoryStore → MemoryStore) :
    Session × Reply :=
  match session.memories[name]? with
  | some (_, id) =>
      (session.updateStorage fun storage =>
          storage.setMemory id (change (storage.memory id)),
        .done)
  | none => (session, .unknownName)

/-- Run a step that asks about or changes the stores. -/
def storeStep (session : Session) : StoreCommand → Session × Reply
  | .openHeap how name path table recordSize =>
      session.openHeap how name path table recordSize
  | .addMemory name table pages targets => (session.addMemory name table pages targets, .done)
  | .setSwitches name failReads writesLeft race =>
      session.updateMemory name fun store => { store with failReads, writesLeft, race }
  | .register name =>
      match session.store? name with
      | some store =>
          let session := session.updateStorage fun storage => storage.register store
          (session, .tables session.db.storage.tables)
      | none => (session, .unknownName)
  | .lookUp table =>
      match session.db.storage.storeOf table with
      | .ok store => (session, .table store.table)
      | .error error => (session, .failed error)
  | .appendPage name =>
      match session.heap? name with
      | some heap =>
          let (number, storage) := session.db.storage.appendPage heap
          (session.updateStorage fun _ => storage, .page (heap.page number))
      | none => (session, .unknownName)
  | .info name =>
      match session.heap? name with
      | some heap =>
          let storage := session.db.storage
          (session, .info heap.table (heap.fileSize storage.disk) (storage.heapPages heap))
      | none => (session, .unknownName)
  | .read name page =>
      match session.store? name with
      | some store =>
          match session.db.readPage store page with
          | (db, .ok image) => ({ session with db }, .image (some image))
          | (db, .error failure) => ({ session with db }, .failed failure)
      | none => (session, .unknownName)
  | .write name page data =>
      match session.store? name,
          Image.startingWith? session.db.storage.pageSize.bytes data with
      | some store, .ok image =>
          match session.db.storage.writePage store page image with
          | (storage, .ok ()) => (session.updateStorage fun _ => storage, .done)
          | (storage, .error error) => (session.updateStorage fun _ => storage, .failed error)
      | some _, .error fault => (session, .failed fault)
      | none, _ => (session, .unknownName)
  | .putFile path data =>
      (session.updateStorage fun storage =>
          { storage with disk := storage.disk.put path data },
        .done)
  | .makeDirectory path =>
      (session.updateStorage fun storage =>
          { storage with disk := storage.disk.makeDirectory path },
        .done)
  | .getFile path => (session, .image (session.db.storage.disk.fileAt? path))
  | .setPageSize bytes =>
      match PageSize.ofBytes? bytes with
      | .ok pageSize => (session.updateStorage fun storage => { storage with pageSize }, .done)
      | .error fault => (session, .failed fault)

/-! ### Steps on pages and on whole transactions -/

/-- The reply of a step that succeeds without a value. -/
def replyOf : Except Failure Unit → Reply
  | .ok () => .done
  | .error failure => .failed failure

/-- The reply of a step that succeeds without a value and meets no fault. -/
def replyOfError : Except Error Unit → Reply
  | .ok () => .done
  | .error error => .failed error

/-- Make a page object with `data` at its start, keep it for the transaction, and
report it dirty. -/
def markNew (session : Session) (txn : TxnId) (page : PageId) (data : Image) :
    Session × Reply :=
  match Image.startingWith? session.db.storage.pageSize.bytes data with
  | .error fault => (session, .failed fault)
  | .ok image =>
      let (id, cache) := session.db.cache.newFrame (.ofImage page image)
      let session := session.keepFrame txn page id
      let (db, result) := { session.db with cache }.markDirty txn id
      ({ session with db }, replyOf result)

/-- Overwrite bytes of a kept frame. -/
def poke (session : Session) (id : FrameId) (start : Nat) (data : Image) :
    Session × Reply :=
  let cache := session.db.cache
  match (cache.frame id).poke? start data with
  | .ok frame =>
      ({ session with db := { session.db with cache := cache.setFrame id frame } }, .done)
  | .error fault => (session, .failed fault)

/-- Run a step on pages that never waits. -/
def pageStep (session : Session) : PageCommand → Session × Reply
  | .poke txn page start data =>
      match session.frame? txn page with
      | some id => session.poke id start data
      | none => (session, .unknownName)
  | .peek txn page =>
      match session.frame? txn page with
      | some id =>
          let cache := session.db.cache
          (session, .frame (decide (cache.residentFrame? page = some id)) (cache.frame id))
      | none => (session, .unknownName)
  | .mark txn page =>
      match session.frame? txn page with
      | some id =>
          let (db, result) := session.db.markDirty txn id
          ({ session with db }, replyOf result)
      | none => (session, .unknownName)
  | .markNew txn page data => session.markNew txn page data
  | .release txn page => ({ session with db := session.db.release txn page }, .done)
  | .holds txn page =>
      (session, .holds (session.db.locks.holds txn page) (session.db.cache.isResident page))
  | .flushPage page =>
      let (db, result) := session.db.flushPage page
      ({ session with db }, replyOfError result)
  | .flushHeld txn =>
      let (db, result) := session.db.flushHeld txn
      ({ session with db }, replyOfError result)
  | .flushAll =>
      let (db, result) := session.db.flushAll
      ({ session with db }, replyOfError result)
  | .discard page => ({ session with db := session.db.discard page }, .done)
  | .stats => (session, .stats session.db.cache.stats.snapshot)

/-- Run a step that begins or ends a transaction. -/
def txnStep (session : Session) (txn : TxnId) : TxnCommand → Session × Reply
  | .complete commit =>
      let (db, result) := session.db.complete txn commit
      ({ session with db }, replyOfError result)
  | .begin =>
      let handle := Transaction.begin txn
      ({ session with handles := session.handles.insert txn handle }, .handle handle)
  | .commit =>
      let (db, handle, result) := session.db.commit (session.handle txn)
      ({ session with db, handles := session.handles.insert txn handle },
        .ended result handle)
  | .abort =>
      let (db, handle, result) := session.db.abort (session.handle txn)
      ({ session with db, handles := session.handles.insert txn handle },
        .ended result handle)

/-! ### Steps that may have to wait -/

/-- Run a step that may have to wait, until it waits or is finished. -/
def workStep (session : Session) (txn : TxnId) : WorkCommand → Session × Turn Pending Reply
  | .fetch page mode =>
      session.settle ⟨txn, .database, none⟩ (session.db.fetch txn page mode)
  | .insert table data keepAs =>
      session.settle ⟨txn, .database, keepAs⟩
        (session.db.insertRecord txn table (.ofData data))
  | .insertInto name data keepAs =>
      match session.store? name with
      | some store =>
          session.settle ⟨txn, .store, keepAs⟩
            (session.db.insertInto txn store (.ofData data))
      | none => (session, .finished .unknownName)
  | .delete choice =>
      session.settle ⟨txn, .database, none⟩
        (session.db.deleteRecord txn (session.record choice))
  | .deleteFrom name choice =>
      match session.store? name with
      | some store =>
          session.settle ⟨txn, .store, none⟩
            (session.db.deleteFrom txn store (session.record choice))
      | none => (session, .finished .unknownName)
  | .scan name =>
      match session.heap? name with
      | some heap => session.settle ⟨txn, .store, none⟩ (session.db.scan txn heap)
      | none => (session, .finished .unknownName)

/-! ### All steps -/

/-- Forget what was written to memory stores before. -/
def clearLogs (session : Session) : Session :=
  session.updateStorage fun storage =>
    { storage with memories := storage.memories.map fun _ store => { store with log := [] } }

/-- Run a step that does not wait. -/
def immediate (result : Session × Reply) : Session × Turn Pending Reply :=
  (result.1, .finished result.2)

/-- Start a step. -/
def start (session : Session) (command : Command) : Session × Turn Pending Reply :=
  let session := session.clearLogs
  match command with
  | .store command => immediate (session.storeStep command)
  | .page command => immediate (session.pageStep command)
  | .txn txn command => immediate (session.txnStep txn command)
  | .work txn command => session.workStep txn command

/-- How the steps of a script run. -/
def machine : Machine Session Command Pending Reply where
  start := start
  resume := resume
  signals := fun session => session.db.locks.signals
  budget := fun pending => pending.operation.budget

end Session

end PageTxn
