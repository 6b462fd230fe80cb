import PageTxn.Lock.Table

/-!
The lock manager: the lock table, what it counts, and its signal to the waiters.

Whoever has to wait remembers how often `LockManager.signals` had been raised by
then; it is woken as soon as the signal is raised once more, and then asks again
(`LockManager.request` with `waited` set). A release raises the signal if a lock
was really given back, and a release of everything raises it always.
-/

namespace PageTxn

/-- What the lock manager counts. -/
structure LockStats where
  /-- Requests granted, repeated ones included. -/
  grants : Nat
  /-- Requests that had to wait at least once. -/
  waits : Nat
  /-- Requests refused because of a deadlock. -/
  deadlocks : Nat
  deriving DecidableEq

namespace LockStats

/-- Nothing was counted yet. -/
def zero : LockStats := ⟨0, 0, 0⟩

instance : Inhabited LockStats := ⟨zero⟩

/-- Read the counters, which are 64-bit words: grants, waits, deadlocks. -/
def words (stats : LockStats) : List UInt64 :=
  [stats.grants, stats.waits, stats.deadlocks].map UInt64.ofNat

/-- Count the end of one attempt; a request is counted as waiting only at its
first attempt that waits. -/
def count (stats : LockStats) (waited : Bool) : Verdict → LockStats
  | .granted => { stats with grants := stats.grants + 1 }
  | .refused => { stats with deadlocks := stats.deadlocks + 1 }
  | .wait => if waited then stats else { stats with waits := stats.waits + 1 }

end LockStats

/-- The lock table, its counters, and the number of signals to the waiters. -/
structure LockManager where
  table : LockTable
  stats : LockStats
  signals : Nat

namespace LockManager

/-- Nothing is locked and nothing was counted. -/
def empty : LockManager := ⟨.empty, .zero, 0⟩

instance : Inhabited LockManager := ⟨empty⟩

/-- One attempt to lock a page; `waited` tells whether the request has waited
before. -/
def request (locks : LockManager) (txn : TxnId) (page : PageId) (mode : LockMode)
    (waited : Bool) : LockManager × Verdict :=
  let (table, verdict) := locks.table.request txn page mode
  ({ locks with table, stats := locks.stats.count waited verdict }, verdict)

/-- Give a page back. -/
def release (locks : LockManager) (txn : TxnId) (page : PageId) : LockManager :=
  let (table, released) := locks.table.release txn page
  { locks with table, signals := if released then locks.signals + 1 else locks.signals }

/-- Give every page back. -/
def releaseAll (locks : LockManager) (txn : TxnId) : LockManager :=
  { locks with table := locks.table.releaseAll txn, signals := locks.signals + 1 }

/-- Whether a transaction holds a page. -/
def holds (locks : LockManager) (txn : TxnId) (page : PageId) : Bool :=
  locks.table.holds txn page

/-- The pages that a transaction holds, in ascending order. -/
def heldPages (locks : LockManager) (txn : TxnId) : List PageId :=
  locks.table.heldPages txn

end LockManager

end PageTxn
