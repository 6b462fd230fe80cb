import PageTxn.Error
import PageTxn.Lock.View
import PageTxn.Schedule

/-!
Scripts of lock requests against a lock manager alone.

`LockCommand` lists the steps, `LockScript.machine` says how each runs, and
`LockScript.run` runs a script and shows the lock manager after every step.
-/

namespace PageTxn

/-- A request for a lock. -/
structure LockRequest where
  txn : TxnId
  page : PageId
  mode : LockMode
  deriving DecidableEq

/-- The steps of a script. -/
inductive LockCommand where
  | acquire (request : LockRequest)
  | release (txn : TxnId) (page : PageId)
  | releaseAll (txn : TxnId)
  | query (txn : TxnId) (page : PageId)
  deriving DecidableEq

/-- The results of steps. -/
inductive LockReply where
  | done
  | failed (error : Error)
  /-- Whether the page is among those held, and how it is held. -/
  | query (holds : Bool) (mode : Option LockMode)
  deriving DecidableEq

/-- The transaction that a step acts for. -/
def LockCommand.txn : LockCommand → TxnId
  | acquire request => request.txn
  | release txn _ => txn
  | releaseAll txn => txn
  | query txn _ => txn

namespace LockScript

/-- One attempt at a request; `waited` tells whether it has waited before. -/
def attempt (waited : Bool) (locks : LockManager) (request : LockRequest) :
    LockManager × Turn LockRequest LockReply :=
  match locks.request request.txn request.page request.mode waited with
  | (locks, .granted) => (locks, .finished .done)
  | (locks, .refused) => (locks, .finished (.failed (.deadlock request.txn)))
  | (locks, .wait) => (locks, .parked request)

/-- Start a step. -/
def start (locks : LockManager) : LockCommand → LockManager × Turn LockRequest LockReply
  | .acquire request => attempt false locks request
  | .release txn page => (locks.release txn page, .finished .done)
  | .releaseAll txn => (locks.releaseAll txn, .finished .done)
  | .query txn page =>
      (locks, .finished (.query (locks.holds txn page) (locks.table.modeOf? txn page)))

/-- How steps run against a lock manager. A request that waits makes no progress
before it ends. -/
def machine : Machine LockManager LockCommand LockRequest LockReply where
  start := start
  resume := attempt true
  signals := LockManager.signals
  budget := fun _ => 0

/-- The transactions that the steps of a script act for, in ascending order. -/
def txns (script : List LockCommand) : List TxnId :=
  (Std.ExtTreeSet.ofList (script.map LockCommand.txn)).toList

/-- Run a script against a lock manager that holds nothing; the result tells what
each step brought and which requests still wait at the end. -/
def run (script : List LockCommand) :
    List (Entry LockReply LockView) × List (Waiting LockRequest) :=
  machine.run (fun _ locks => locks.view (txns script)) 0 .empty [] script

end LockScript

end PageTxn
