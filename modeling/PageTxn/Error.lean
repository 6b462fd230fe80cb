import PageTxn.Id

/-!
What can go wrong.

* `Error` lists the causes an operation reports to its caller; `Error.message`
  is the wording and `Error.isDeadlock` tells the one cause that asks for an
  abort.
* `Fault` lists the broken preconditions: a step that meets one stops at once,
  and what it changed before stays changed.
* `Failure` is either of the two.
-/

namespace PageTxn

/-- Why the medium under a page store refused a request. -/
inductive IoCause where
  | alreadyExists
  | notFound
  | isDirectory
  | notDirectory
  | diskFull
  | badSector
  | other (text : String)
  deriving DecidableEq

/-- The wording of a medium's refusal. -/
def IoCause.text : IoCause → String
  | alreadyExists => "File exists (os error 17)"
  | notFound => "No such file or directory (os error 2)"
  | isDirectory => "Is a directory (os error 21)"
  | notDirectory => "Not a directory (os error 20)"
  | diskFull => "disk full"
  | badSector => "bad sector"
  | other text => text

/-- The causes that operations report. -/
inductive Error where
  /-- The medium refused. -/
  | io (cause : IoCause)
  /-- The page does not exist in its table. -/
  | pageNotFound (page : PageId)
  /-- Waiting for the lock would close a cycle of waiting transactions. -/
  | deadlock (txn : TxnId)
  /-- Room was needed, but every resident page is dirty. -/
  | cacheExhausted (capacity : Nat)
  /-- No store is registered for the table. -/
  | tableNotFound (table : TableId)
  /-- There is no record at this place. -/
  | recordNotFound (id : RecordId)
  /-- The record was never placed, so it cannot be located. -/
  | unplacedRecord
  /-- The payload has not the table's fixed record size. -/
  | recordSize (expected actual : Nat)
  /-- Not a single record of this size fits on a page. -/
  | unsupportedRecordSize (size pageSize : Nat)
  deriving DecidableEq

namespace Error

/-- The wording of an error. -/
def message : Error → String
  | io cause => "I/O error: " ++ cause.text
  | pageNotFound page => page.text ++ " not found"
  | deadlock txn => "transaction " ++ txn.text ++ " aborted: deadlock detected"
  | cacheExhausted capacity =>
      "page cache exhausted: all " ++ toString capacity ++ " resident pages are dirty"
  | tableNotFound table => "table " ++ table.text ++ " not found in catalog"
  | recordNotFound id => "record " ++ id.text ++ " not found"
  | unplacedRecord => "record has no record id"
  | recordSize expected actual =>
      "record size mismatch: expected " ++ toString expected ++ " bytes, got " ++
        toString actual
  | unsupportedRecordSize size pageSize =>
      "record size " ++ toString size ++ " does not fit a " ++ toString pageSize ++
        "-byte page"

/-- A deadlock is the cause that asks the transaction to abort. -/
def isDeadlock : Error → Bool
  | deadlock _ => true
  | _ => false

end Error

/-- The preconditions that a step may break. -/
inductive Fault where
  /-- A page size of 0 was asked for. -/
  | zeroPageSize
  /-- A cache without room for a single page was asked for. -/
  | zeroCapacity
  /-- Bytes outside an image were asked for. -/
  | outOfBounds
  /-- An image or a slot was overwritten with bytes of another length. -/
  | lengthMismatch
  deriving DecidableEq

/-- The wording of a fault, for those that have one. -/
def Fault.message? : Fault → Option String
  | zeroPageSize => some "page size must be > 0"
  | zeroCapacity => some "capacity must be > 0"
  | outOfBounds => none
  | lengthMismatch => none

/-- How a step may fail: with an error that it reports, or with a fault. -/
inductive Failure where
  | error (error : Error)
  | fault (fault : Fault)
  deriving DecidableEq

instance : Coe Error Failure := ⟨Failure.error⟩

instance : Coe Fault Failure := ⟨Failure.fault⟩

end PageTxn
