import PageTxn.Lock.WaitGraph

/-!
The lock table: which transaction holds which page how, and who waits for whom.

* `LockState` is the state of one locked page. `LockTable` keeps three things
  side by side: the state of every locked page, the set of pages that every
  transaction holds, and the wait graph.
* `LockTable.blockers` are the transactions in the way of a request, and
  `LockTable.request` is one attempt to lock a page: it is granted if nobody is
  in the way, refused if waiting would close a cycle, and waits otherwise.
* `LockTable.release` and `LockTable.releaseAll` give locks back.
* The views are `LockTable.modeOf?` (by page) and `LockTable.pagesOf` (by
  transaction).
-/

namespace PageTxn

/-- How a page is wanted or held. -/
inductive LockMode where
  /-- Reading; compatible with other readers. -/
  | shared
  /-- Writing; excludes everyone else. -/
  | exclusive
  deriving DecidableEq

/-- The lock on one page. An unlocked page has none. -/
inductive LockState where
  | shared (holders : Std.ExtTreeSet TxnId)
  | exclusive (holder : TxnId)

/-- The locks of all pages, the pages of all transactions, and the waits. -/
structure LockTable where
  locks : Std.ExtTreeMap PageId LockState
  held : Std.ExtTreeMap TxnId (Std.ExtTreeSet PageId)
  waits : WaitGraph

/-- How an attempt to lock a page ends. -/
inductive Verdict where
  | granted
  /-- Waiting would close a cycle of waiting transactions. -/
  | refused
  | wait
  deriving DecidableEq

namespace LockTable

/-- Nothing is locked and nobody waits. -/
def empty : LockTable := ⟨∅, ∅, .empty⟩

instance : Inhabited LockTable := ⟨empty⟩

/-! ### Views -/

/-- How a transaction holds a page, by the state of the page. -/
def modeOf? (table : LockTable) (txn : TxnId) (page : PageId) : Option LockMode :=
  match table.locks[page]? with
  | some (.exclusive holder) => if holder = txn then some .exclusive else none
  | some (.shared holders) => if txn ∈ holders then some .shared else none
  | none => none

/-- The pages that a transaction holds. -/
def pagesOf (table : LockTable) (txn : TxnId) : Std.ExtTreeSet PageId :=
  table.held.getD txn ∅

/-- Whether a page is among those that a transaction holds. -/
def holds (table : LockTable) (txn : TxnId) (page : PageId) : Bool :=
  (table.pagesOf txn).contains page

/-- The pages that a transaction holds, in ascending order. -/
def heldPages (table : LockTable) (txn : TxnId) : List PageId :=
  (table.pagesOf txn).toList

/-! ### Requests -/

/-- The transactions that have to release before the request can be granted. A
transaction is never in its own way. -/
def blockers (table : LockTable) (txn : TxnId) (page : PageId) (mode : LockMode) :
    Std.ExtTreeSet TxnId :=
  match table.locks[page]?, mode with
  | none, _ => ∅
  | some (.exclusive holder), _ => if holder = txn then ∅ else {holder}
  | some (.shared _), .shared => ∅
  | some (.shared holders), .exclusive => holders.erase txn

/-- Give the lock to a transaction that nobody blocks. An exclusive holder who
asks for a shared lock keeps the exclusive one. -/
def grant (table : LockTable) (txn : TxnId) (page : PageId) (mode : LockMode) :
    LockTable where
  locks := match mode, table.locks[page]? with
    | .exclusive, _ => table.locks.insert page (.exclusive txn)
    | .shared, none => table.locks.insert page (.shared {txn})
    | .shared, some (.shared holders) =>
        table.locks.insert page (.shared (holders.insert txn))
    | .shared, some (.exclusive _) => table.locks
  held := table.held.insert txn ((table.pagesOf txn).insert page)
  waits := table.waits.clearWaits txn

/-- One attempt to lock a page. Whoever has to wait is first recorded as waiting
for the present blockers; if that closes a cycle the record is taken back. -/
def request (table : LockTable) (txn : TxnId) (page : PageId) (mode : LockMode) :
    LockTable × Verdict :=
  let blockers := table.blockers txn page mode
  if blockers.isEmpty then (table.grant txn page mode, .granted)
  else
    let waits := table.waits.setWaits txn blockers
    if waits.hasCycleFrom txn then
      ({ table with waits := waits.clearWaits txn }, .refused)
    else ({ table with waits }, .wait)

/-! ### Releases -/

/-- Take a page out of a transaction's set; an empty set is dropped. -/
def forget (table : LockTable) (txn : TxnId) (page : PageId) :
    Std.ExtTreeMap TxnId (Std.ExtTreeSet PageId) :=
  let rest := (table.pagesOf txn).erase page
  if rest.isEmpty then table.held.erase txn else table.held.insert txn rest

/-- The locks without the one that a transaction has on a page; the last sharer
takes the entry along. -/
def unlock (table : LockTable) (txn : TxnId) (page : PageId) :
    Std.ExtTreeMap PageId LockState :=
  match table.locks[page]? with
  | some (.exclusive holder) =>
      if holder = txn then table.locks.erase page else table.locks
  | some (.shared holders) =>
      let rest := holders.erase txn
      if rest.isEmpty then table.locks.erase page
      else table.locks.insert page (.shared rest)
  | none => table.locks

/-- Give a page back, and tell whether the transaction really held it. Nobody
waits for a transaction that has just released: the waiters find out anew whom
they wait for when they are woken. -/
def release (table : LockTable) (txn : TxnId) (page : PageId) : LockTable × Bool :=
  let released := (table.modeOf? txn page).isSome
  ({ locks := table.unlock txn page
     held := table.forget txn page
     waits := if released then table.waits.clearWaitsOn txn else table.waits },
    released)

/-- Give some pages back. -/
def releaseEach (table : LockTable) (txn : TxnId) : List PageId → LockTable
  | [] => table
  | page :: rest => releaseEach (table.release txn page).1 txn rest

/-- Give every page back and take the transaction out of the wait graph. -/
def releaseAll (table : LockTable) (txn : TxnId) : LockTable :=
  let released := table.releaseEach txn (table.heldPages txn)
  { released with
    held := released.held.erase txn
    waits := (released.waits.clearWaits txn).clearWaitsOn txn }

/-! ### What grants and releases do to the views -/

/-- A grant adds the page to the pages of the transaction, and other transactions
keep theirs. -/
theorem pagesOf_grant (table : LockTable) (txn other : TxnId) (page : PageId)
    (mode : LockMode) :
    (table.grant txn page mode).pagesOf other =
      if txn = other then (table.pagesOf other).insert page else table.pagesOf other := by
  by_cases h : txn = other <;>
    simp [grant, pagesOf, Std.ExtTreeMap.getD_insert, h]

/-- A release takes the page out of the pages of the transaction, and other
transactions keep theirs. -/
theorem pagesOf_release (table : LockTable) (txn other : TxnId) (page : PageId) :
    (table.release txn page).1.pagesOf other =
      if txn = other then (table.pagesOf other).erase page else table.pagesOf other := by
  show (table.forget txn page).getD other ∅ = _
  by_cases alone : ((table.pagesOf txn).erase page).isEmpty = true
  · -- an empty set is dropped and reads back as empty
    have rest := Std.ExtTreeSet.isEmpty_iff.1 alone
    rw [forget, if_pos alone, Std.ExtTreeMap.getD_erase]
    by_cases h : txn = other
    · subst h
      simp [rest]
    · simp [h, pagesOf]
  · rw [forget, if_neg alone, Std.ExtTreeMap.getD_insert]
    by_cases h : txn = other
    · subst h
      simp
    · simp [h, pagesOf]

/-- An exclusive grant leaves the transaction as the only holder of the page, and
other pages keep their holders. -/
theorem modeOf?_grant_exclusive (table : LockTable) (txn other : TxnId)
    (page q : PageId) :
    (table.grant txn page .exclusive).modeOf? other q =
      if page = q then if txn = other then some .exclusive else none
      else table.modeOf? other q := by
  by_cases h : page = q <;>
    simp [grant, modeOf?, Std.ExtTreeMap.getElem?_insert, h]

/-- A shared grant of a page that is not held exclusively adds the transaction to the
holders of the page, and changes no other mode. -/
theorem modeOf?_grant_shared {table : LockTable} {txn : TxnId} {page : PageId}
    (free : ∀ holder, table.locks[page]? ≠ some (.exclusive holder)) (other : TxnId)
    (q : PageId) :
    (table.grant txn page .shared).modeOf? other q =
      if page = q ∧ txn = other then some .shared else table.modeOf? other q := by
  by_cases h : page = q
  · subst h
    cases found : table.locks[page]? with
    | none =>
        by_cases h' : txn = other <;>
          simp [grant, modeOf?, found, h']
    | some state =>
        cases state with
        | exclusive holder => exact absurd found (free holder)
        | shared holders =>
            by_cases h' : txn = other <;>
              simp [grant, modeOf?, found, h']
  · cases found : table.locks[page]? with
    | none => simp [grant, modeOf?, Std.ExtTreeMap.getElem?_insert, found, h]
    | some state =>
        cases state with
        | exclusive holder => exact absurd found (free holder)
        | shared holders => simp [grant, modeOf?, Std.ExtTreeMap.getElem?_insert, found, h]

/-- Giving back a page does not touch the locks on other pages. -/
theorem getElem?_unlock_of_ne {table : LockTable} {txn : TxnId} {page q : PageId}
    (h : page ≠ q) : (table.unlock txn page)[q]? = table.locks[q]? := by
  unfold unlock
  split
  · split <;> simp [Std.ExtTreeMap.getElem?_erase, h]
  · next holders _ =>
    by_cases alone : (holders.erase txn).isEmpty = true
    · rw [if_pos alone, Std.ExtTreeMap.getElem?_erase, if_neg (by simpa using h)]
    · rw [if_neg alone, Std.ExtTreeMap.getElem?_insert, if_neg (by simpa using h)]
  · rfl

/-- After a release the transaction holds the page in no mode, and no other mode has
changed. -/
theorem modeOf?_release (table : LockTable) (txn other : TxnId) (page q : PageId) :
    (table.release txn page).1.modeOf? other q =
      if page = q ∧ txn = other then none else table.modeOf? other q := by
  have locks : (table.release txn page).1.locks = table.unlock txn page := rfl
  by_cases h : page = q
  · subst h
    simp only [modeOf?, locks, unlock, true_and]
    cases found : table.locks[page]? with
    | none => simp [found]
    | some state =>
        cases state with
        | exclusive holder =>
            by_cases own : holder = txn
            · by_cases h' : txn = other <;> simp [own, h']
            · by_cases h' : txn = other
              · have apart : holder ≠ other := fun e => own (e.trans h'.symm)
                simp [found, h', apart]
              · simp [own, found, h']
        | shared holders =>
            simp only
            by_cases alone : (holders.erase txn).isEmpty = true
            · -- nobody else shared the page
              have rest := Std.ExtTreeSet.isEmpty_iff.1 alone
              have outside : txn ≠ other → other ∉ holders := by
                intro h' inside
                have still : other ∈ holders.erase txn :=
                  Std.ExtTreeSet.mem_erase.2 ⟨by simpa using h', inside⟩
                rw [rest] at still
                exact Std.ExtTreeSet.not_mem_empty still
              rw [if_pos alone, Std.ExtTreeMap.getElem?_erase_self]
              by_cases h' : txn = other
              · simp [h']
              · simp [h', outside h']
            · rw [if_neg alone, Std.ExtTreeMap.getElem?_insert_self]
              by_cases h' : txn = other <;> simp [Std.ExtTreeSet.mem_erase, h']
  · simp only [modeOf?, locks, getElem?_unlock_of_ne h, h, false_and, if_false]

end LockTable

end PageTxn
