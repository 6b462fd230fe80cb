import PageTxn.Lock.View
import PageTxn.Script.Session

/-!
What a script shows after every step.

An `Observation` shows the locks, the counters of the cache, the resident pages,
the stored pages and what the step has written to memory stores. A script shows
the transactions and pages that it names (`Watch`), and all pages that exist in a
named store at the moment. `Script.run` runs a script from its start.
-/

namespace PageTxn

/-- The transactions and pages that a script names. -/
structure Watch where
  txns : List TxnId
  pages : List PageId

/-- What can be seen of a session. -/
structure Observation where
  locks : LockView
  /-- The number of resident pages. -/
  size : Nat
  stats : StatsSnapshot
  /-- The frames of the resident pages. -/
  pages : List (PageId × Frame)
  /-- The pages of every named store. -/
  disk : List (String × List Image)
  /-- The texts of the pages written to memory stores in this step. -/
  writes : List String

namespace Session

/-- The pages that exist in named stores. -/
def storedPages (session : Session) : List PageId :=
  let storage := session.db.storage
  let stores := session.heaps.values.map Store.heap ++
    session.memories.values.map fun (table, id) => Store.memory table id
  (stores.map fun store =>
    (storage.pageNumbers store).map fun number => ⟨store.table, number⟩).flatten

/-- The images of all pages of named stores, heap files first. -/
def storedImages (session : Session) : List (String × List Image) :=
  let storage := session.db.storage
  let heaps := session.heaps.toList.map fun (name, heap) =>
    (name, (List.range (storage.heapPages heap)).filterMap fun number =>
      (heap.readPage storage.disk storage.pageSize (heap.page number)).toOption)
  let memories := session.memories.toList.map fun (name, _, id) =>
    (name, (storage.memory id).pages.values)
  heaps ++ memories

/-- The texts of the pages written to each named memory store since the logs were
cleared, in order. -/
def loggedWrites (session : Session) : List (List String) :=
  session.memories.values.map fun (_, id) =>
    (session.db.storage.memory id).log.map PageId.shortText

/-- The texts of the pages that a step wrote, one memory store after the other. A
step that writes everything has no order of its own, so that the texts of each
store are sorted. -/
def writesOf (session : Session) (command : Command) : List String :=
  match command with
  | .page .flushAll => (session.loggedWrites.map List.mergeSort).flatten
  | _ => session.loggedWrites.flatten

/-- What can be seen of a session after a step. -/
def observe (watch : Watch) (command : Command) (session : Session) : Observation :=
  let cache := session.db.cache
  let candidates := watch.pages ++ session.storedPages
  { locks := session.db.locks.view watch.txns
    size := cache.size
    stats := cache.stats.snapshot
    pages := cache.resident.toList.filterMap fun (page, id) =>
      if page ∈ candidates then some (page, cache.frame id) else none
    disk := session.storedImages
    writes := session.writesOf command }

end Session

namespace Script

/-- The transactions and pages that a script names, in ascending order. -/
def watch (script : List Command) : Watch where
  txns := (Std.ExtTreeSet.ofList (script.filterMap Command.txn?)).toList
  pages := (Std.ExtTreeSet.ofList (script.map Command.pages).flatten).toList

/-- Run a script against a new database; the result tells what each step brought
and which operations still wait at the end. -/
def run (pageSize capacity : Nat) (script : List Command) :
    Except Fault (List (Entry Reply Observation) × List (Waiting Pending)) := do
  let size ← PageSize.ofBytes? pageSize
  let db ← Database.create size capacity
  pure (Session.machine.run (Session.observe (watch script)) 0 (.ofDatabase db) [] script)

end Script

end PageTxn
