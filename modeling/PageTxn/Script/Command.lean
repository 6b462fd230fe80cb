import PageTxn.Operation.Start

/-!
The steps of a script, and their results.

A script works on one database. It gives names to stores and to records, keeps
for every transaction the page objects that it fetched or made, and has one
handle a transaction.

* `Command` lists the steps; `Command.txn?` and `Command.pages` tell which
  transaction and which pages a step mentions.
* `Reply` lists the results.
-/

namespace PageTxn

/-- How a heap file is opened. -/
inductive Opening where
  | create
  | openFile
  | openOrCreate
  deriving DecidableEq

/-- The record that a delete is about: the one that is kept under `name`, or else the
one with `data` at `place`, which has no place if none is given. -/
structure RecordChoice where
  name : Option String
  place : Option RecordId
  data : Image
  deriving DecidableEq

/-- Steps that ask about or change the stores, which are meant by their names. -/
inductive StoreCommand where
  | openHeap (how : Opening) (name : String) (path : DiskPath) (table : TableId) (recordSize : Nat)
  | addMemory (name : String) (table : TableId) (pages : Nat) (targets : List Nat)
  | setSwitches (name : String) (failReads : Bool) (writesLeft : Option Nat)
      (race : Option TxnId)
  | register (name : String)
  | lookUp (table : TableId)
  | appendPage (name : String)
  | info (name : String)
  | read (name : String) (page : PageId)
  | write (name : String) (page : PageId) (data : Image)
  | putFile (path : DiskPath) (data : Image)
  | makeDirectory (path : DiskPath)
  | getFile (path : DiskPath)
  | setPageSize (bytes : Nat)
  deriving DecidableEq

/-- Steps on pages that never wait. The first four are about the page object that the
transaction keeps. -/
inductive PageCommand where
  | poke (txn : TxnId) (page : PageId) (start : Nat) (data : Image)
  | peek (txn : TxnId) (page : PageId)
  | mark (txn : TxnId) (page : PageId)
  | markNew (txn : TxnId) (page : PageId) (data : Image)
  | release (txn : TxnId) (page : PageId)
  | holds (txn : TxnId) (page : PageId)
  | flushPage (page : PageId)
  | flushHeld (txn : TxnId)
  | flushAll
  | discard (page : PageId)
  | stats
  deriving DecidableEq

/-- Steps that begin and end transactions. -/
inductive TxnCommand where
  | complete (commit : Bool)
  | begin
  | commit
  | abort
  deriving DecidableEq

/-- Steps that may have to wait for locks. An inserted record is kept under the name
`keepAs`, if there is one. -/
inductive WorkCommand where
  | fetch (page : PageId) (mode : LockMode)
  | insert (table : TableId) (data : Image) (keepAs : Option String)
  | insertInto (name : String) (data : Image) (keepAs : Option String)
  | delete (record : RecordChoice)
  | deleteFrom (name : String) (record : RecordChoice)
  | scan (name : String)
  deriving DecidableEq

/-- The steps of a script. -/
inductive Command where
  | store (command : StoreCommand)
  | page (command : PageCommand)
  | txn (txn : TxnId) (command : TxnCommand)
  | work (txn : TxnId) (command : WorkCommand)
  deriving DecidableEq

/-! ### What a step names -/

/-- The pages that a step on stores names. -/
def StoreCommand.pages : StoreCommand → List PageId
  | read _ page | write _ page _ => [page]
  | _ => []

/-- The transaction that a step on pages acts for. -/
def PageCommand.txn? : PageCommand → Option TxnId
  | poke txn .. | peek txn _ | mark txn _ | markNew txn .. | release txn _ | holds txn _
  | flushHeld txn => some txn
  | flushPage _ | flushAll | discard _ | stats => none

/-- The pages that a step on pages names. -/
def PageCommand.pages : PageCommand → List PageId
  | poke _ page .. | peek _ page | mark _ page | markNew _ page _ | release _ page
  | holds _ page | flushPage page | discard page => [page]
  | flushHeld _ | flushAll | stats => []

/-- The page of the record that is meant, if it is named by its place. -/
def RecordChoice.pages (choice : RecordChoice) : List PageId :=
  choice.place.toList.map RecordId.page

/-- The pages that a step names which may have to wait. -/
def WorkCommand.pages : WorkCommand → List PageId
  | fetch page _ => [page]
  | delete record | deleteFrom _ record => record.pages
  | insert .. | insertInto .. | scan _ => []

namespace Command

/-- The transaction that a step acts for. -/
def txn? : Command → Option TxnId
  | store _ => none
  | page command => command.txn?
  | .txn id _ | .work id _ => some id

/-- The pages that a step names. -/
def pages : Command → List PageId
  | store command => command.pages
  | page command => command.pages
  | txn .. => []
  | work _ command => command.pages

end Command

/-- The results of steps. -/
inductive Reply where
  | done
  | failed (failure : Failure)
  /-- The layout of a heap file that was opened. -/
  | layout (layout : SlotLayout)
  | tables (tables : List TableId)
  | table (table : TableId)
  | page (page : PageId)
  | info (table : TableId) (fileSize pageCount : Nat)
  | image (image : Option Image)
  /-- A kept frame, and whether it is the resident one of its page. -/
  | frame (resident : Bool) (frame : Frame)
  /-- Whether the page is locked by the transaction, and whether it is resident. -/
  | holds (locked resident : Bool)
  | stats (stats : StatsSnapshot)
  /-- An insert by the database, and the place of the record afterwards. -/
  | inserted (result : Except Error Unit) (id : Option RecordId)
  /-- An insert by a store: the pages it changed with their owners, and the place of
  the record afterwards. -/
  | placed (result : Except Error (List (PageId × Option TxnId))) (id : Option RecordId)
  /-- The pages that a store changed, with their owners. -/
  | changed (pages : List (PageId × Option TxnId))
  | records (records : List Record)
  | handle (txn : Transaction)
  | ended (result : Except Error Unit) (txn : Transaction)
  /-- The step names something that the script has not made. -/
  | unknownName

end PageTxn
