import PageTxn.Cache.Basic
import PageTxn.Lock.Table
import PageTxn.Storage.Catalog
import PageTxn.Storage.Record

/-!
Operations that may have to wait for locks: fetching a page, inserting, deleting
and scanning records.

An `Operation` in progress mostly fetches a page for some purpose (`Aim`) and is
at some point of that fetch (`Stage`): it asks for the lock, reads the page from
its store, brings it into the cache, or uses it. What a store changed on behalf of
the database is reported dirty afterwards (`Operation.reporting`).

* An insert goes through the pages of the file. It looks for a free slot under a
  shared lock (`Aim.probe`), claims the page under an exclusive lock if there is
  one (`Aim.claim`), and gives back the lock of a full page unless the
  transaction held it before. If every page is full it appends a page and fills
  that (`Aim.fill`).
* A delete clears its slot under an exclusive lock (`Aim.erase`).
* A scan reads page after page under shared locks (`Aim.collect`).

`Outcome` is the result of an operation, and `Operation.budget` bounds the moves
that are left of it.
-/

namespace PageTxn

/-! ### Operations -/

/-- Who asked for an operation on records: someone who works on a store directly,
or the database, which reports every changed page dirty. -/
inductive Level where
  | store
  | database
  deriving DecidableEq

/-- The purpose for which an operation fetches a page. -/
inductive Aim where
  /-- Hand the page out. -/
  | hand (page : PageId) (mode : LockMode)
  /-- Look for a free slot; `remaining` pages follow, and `alreadyHeld` tells
  whether the transaction held the page before. -/
  | probe (heap : HeapFile) (record : Record) (number remaining : Nat) (alreadyHeld : Bool)
  /-- Put the record into a page that had a free slot; `remaining` pages follow. -/
  | claim (heap : HeapFile) (record : Record) (number remaining : Nat)
  /-- Put the record into a page that was just appended. -/
  | fill (heap : HeapFile) (record : Record) (number : Nat)
  /-- Remove a record. -/
  | erase (heap : HeapFile) (id : RecordId)
  /-- Read the records of a page; `remaining` pages follow, and `found` are the
  records of the pages before. -/
  | collect (heap : HeapFile) (number remaining : Nat) (found : List Record)
  deriving DecidableEq

/-- How far the fetch of a page has come. -/
inductive Stage where
  /-- The lock is asked for; `waited` tells whether the operation has waited for it. -/
  | lock (waited : Bool)
  /-- The lock is granted and the page was not resident. -/
  | read
  /-- The page was read from its store. -/
  | enter (image : Image)
  /-- The page is at hand. -/
  | use (id : FrameId)
  deriving DecidableEq

/-- What a store did with a record, and the pages that it changed. -/
inductive Change where
  | insertion (record : Record) (pages : List FrameId)
  | deletion (pages : List FrameId)
  deriving DecidableEq

/-- An operation in progress. -/
inductive Operation where
  | fetching (txn : TxnId) (level : Level) (aim : Aim) (stage : Stage)
  /-- The pages still to be reported dirty. -/
  | reporting (txn : TxnId) (change : Change) (pages : List FrameId)
  deriving DecidableEq

/-- The result of an operation. An insert also returns its record, with or
without a place. -/
inductive Outcome where
  | fetched (result : Except Failure FrameId)
  | inserted (result : Except Failure (List FrameId)) (record : Record)
  | deleted (result : Except Failure (List FrameId))
  | scanned (result : Except Failure (List Record))

/-- How far one move of an operation came. -/
inductive Progress where
  | running (operation : Operation)
  | parked (operation : Operation)
  | finished (outcome : Outcome)

namespace Aim

/-- The page that is fetched. -/
def page : Aim → PageId
  | hand page _ => page
  | probe heap _ number _ _ | claim heap _ number _ | fill heap _ number =>
      heap.page number
  | erase _ id => id.page
  | collect heap number _ _ => heap.page number

/-- The lock under which the page is fetched. -/
def mode : Aim → LockMode
  | hand _ mode => mode
  | probe .. | collect .. => .shared
  | claim .. | fill .. | erase .. => .exclusive

end Aim

/-- The outcome of an insert that failed in its store or later. The database takes
back the place that its record may have been given, unless a fault ended the
insert at once. -/
def Level.failedInsert (level : Level) (record : Record) (failure : Failure) : Outcome :=
  match level, failure with
  | .database, .error _ => .inserted (.error failure) record.unplaced
  | _, _ => .inserted (.error failure) record

/-- The outcome of an operation that failed while it fetched a page. -/
def Aim.failed (level : Level) (failure : Failure) : Aim → Outcome
  | .hand .. => .fetched (.error failure)
  | .probe _ record .. | .claim _ record .. | .fill _ record _ =>
      level.failedInsert record failure
  | .erase .. => .deleted (.error failure)
  | .collect .. => .scanned (.error failure)

namespace Change

/-- The pages that were changed. -/
def pages : Change → List FrameId
  | insertion _ pages | deletion pages => pages

/-- The outcome of an operation whose change went through. -/
def succeeded : Change → Outcome
  | insertion record pages => .inserted (.ok pages) record
  | deletion pages => .deleted (.ok pages)

/-- The outcome of an operation of the database whose change could not be
reported. -/
def failed (failure : Failure) : Change → Outcome
  | insertion record _ => Level.database.failedInsert record failure
  | deletion _ => .deleted (.error failure)

/-- After a store has done its part, the database reports the changed pages. -/
def next (change : Change) (txn : TxnId) : Level → Progress
  | .store => .finished change.succeeded
  | .database => .running (.reporting txn change change.pages)

end Change

/-- Start to fetch a page. -/
def Aim.start (aim : Aim) (txn : TxnId) (level : Level) : Progress :=
  .running (.fetching txn level aim (.lock false))

/-! ### Bounds on the moves -/

/-- A bound on the moves that follow the use of a page. -/
def Aim.budget : Aim → Nat
  | .hand .. => 0
  | .probe _ _ _ remaining _ => 8 * remaining + 10
  | .claim _ _ _ remaining => 8 * remaining + 6
  | .fill .. | .erase .. => 2
  | .collect _ _ remaining _ => 4 * remaining

/-- A bound on the moves up to the use of a page, that included. -/
def Stage.budget : Stage → Nat
  | .lock _ => 4
  | .read => 3
  | .enter _ => 2
  | .use _ => 1

/-- A bound on the moves of an operation. -/
def Operation.budget : Operation → Nat
  | .fetching _ _ aim stage => aim.budget + stage.budget
  | .reporting _ _ pages => pages.length + 1

end PageTxn
