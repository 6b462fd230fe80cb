import PageTxn.Lock.Manager

/-!
What can be seen of a lock manager.

`LockView` shows, for the transactions asked for, the pages that each holds and
the transactions that each waits for, and the counters.
-/

namespace PageTxn

/-- The visible part of a lock manager; transactions that hold nothing and
transactions that wait for nobody are left out. -/
structure LockView where
  /-- The pages that a transaction holds, each with its mode. -/
  held : List (TxnId × List (PageId × Option LockMode))
  /-- The transactions that a transaction waits for. -/
  waits : List (TxnId × List TxnId)
  /-- The counters: grants, waits, deadlocks. -/
  counts : List UInt64

/-- What can be seen of a lock manager, for some transactions. -/
def LockManager.view (locks : LockManager) (txns : List TxnId) : LockView where
  held := (txns.map fun txn =>
      (txn, (locks.heldPages txn).map fun page => (page, locks.table.modeOf? txn page))).filter
    fun entry => !entry.2.isEmpty
  waits := (txns.map fun txn => (txn, locks.table.waits.waitingOn txn)).filter
    fun entry => !entry.2.isEmpty
  counts := locks.stats.words

end PageTxn
