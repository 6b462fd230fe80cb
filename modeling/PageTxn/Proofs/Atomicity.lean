import PageTxn.Proofs.Runs
import PageTxn.Proofs.Scan

/-!
Transactions that work on the records of heap files are atomic.

The transactions insert, delete and scan records, and end, in any interleaving of their moves;
nobody releases, flushes or discards pages, no store fails, and no file runs out of page
numbers, which are 32-bit words.

* `Consistent.records_eq`: the stored records are those of the ledger.
* `unlocked_of_gone` and `Consistent.quiet`: after the last transaction has ended, nothing is
  locked and nothing is dirty.
* `record_atomicity`: then a scan returns what the committed transactions have left, as if they
  had worked one after the other, and nothing else.
-/

namespace PageTxn

open History

/-- A table has no store in memory. -/
def Storage.IsHeap (storage : Storage) (table : TableId) : Prop :=
  ∀ store, storage.catalog[table]? = some store → ∃ heap, store = .heap heap

/-- Whether an act belongs to a transaction that works on the records of heap files. -/
def Act.IsRecordWork (storage : Storage) : Act → Prop
  | call (.insert table _) => storage.IsHeap table
  | call (.delete record) => ∀ id, record.id = some id → storage.IsHeap id.page.table
  | call (.scan _) | move | complete _ => True
  | _ => False

/-- Transactions that work on records neither maintain the cache nor use memory stores. -/
lemma disciplined_recordWork (storage : Storage) :
    Disciplined storage (Act.IsRecordWork storage) where
  upkeep act work := by
    cases act with
    | release page => cases work
    | flushPage page => cases work
    | flushHeld => cases work
    | flushAll => cases work
    | discard page => cases work
    | call call => rfl
    | move => rfl
    | look => rfl
    | overwrite image => rfl
    | report => rfl
    | complete commit => rfl
  inserts table record work := work
  deletes record id work := work id

namespace System

variable {storage : Storage} {allowed : Act → Prop} {s : System}

/-! ### The end of a run -/

/-- The stored records are those of the ledger. -/
lemma Consistent.records_eq (ok : Consistent storage allowed s) (opened : storage.Opened) :
    s.db.storage.records = fun id => storage.payloadIn (ledger storage id.page s.history) id := by
  funext id
  have same : s.db.storage.payloadIn = storage.payloadIn := by
    funext image other
    rw [Storage.payloadIn, Storage.payloadIn, ok.tables.catalog]
  rw [Storage.records, same]
  cases stored : s.db.storage.image? id.page with
  | some image =>
      rw [← ok.stored id.page image stored]
      rfl
  | none =>
      obtain ⟨unwritten, absent⟩ := ok.missing id.page stored
      rw [ledger, unwritten, Option.getD_none, Storage.initially, absent, Option.getD_none,
        Storage.payloadIn_zeros opened]
      rfl

/-- If nothing is locked, nothing is dirty. -/
lemma Consistent.quiet (ok : Consistent storage allowed s)
    (unlocked : ∀ other page, s.mode other page = none) (txn : TxnId) : s.db.Quiet txn := by
  have kept : ∀ (page : PageId) (id : FrameId), s.resident? page = some id →
      (s.frame id).owner = none ∧ (s.frame id).live = (s.frame id).before := by
    intro page id there
    obtain ⟨-, clean | ⟨other, owned⟩⟩ := ok.kept page id there
    · exact clean
    · have lock := owned.lock
      rw [unlocked] at lock
      cases lock
  refine ⟨fun other page _ => unlocked other page, ok.orderly, fun page id there =>
    (kept page id there).1, fun page id there => ?_⟩
  rw [(kept page id there).2]
  exact (ok.kept page id there).before

/-- Who has ended holds no lock, and neither does who has never acted. -/
lemma unlocked_of_gone {capacity : Nat} {capacity_pos : 0 < capacity} {actions : List Action}
    (ok : Consistent storage allowed ((initial storage capacity capacity_pos).run actions))
    (spares : ∀ other, (∀ action ∈ actions, action.txn ≠ other) →
      Spares storage other (initial storage capacity capacity_pos)
        ((initial storage capacity capacity_pos).run actions))
    (gone : ∀ action ∈ actions,
      ((initial storage capacity capacity_pos).run actions).phase action.txn = .gone)
    (txn : TxnId) (page : PageId) :
    ((initial storage capacity capacity_pos).run actions).mode txn page = none := by
  by_cases acted : ∃ action ∈ actions, action.txn = txn
  · obtain ⟨action, inside, rfl⟩ := acted
    exact ok.phaseOk (gone action inside) page
  · push Not at acted
    rw [(spares txn acted).mode page]
    rfl

end System

/-! ### Atomicity -/

/-- **Atomicity of record transactions.** Whatever the capacity and however the transactions
interleave: after the last one has ended, the successful inserts and deletes of the committed
transactions can be replayed on the live records of the beginning, in the order of the commits,
every insert at a free place and every delete of a record that is there; and a scan by any
transaction returns exactly what this leaves in the table, by pages and slots. -/
theorem record_atomicity {storage : Storage} (reliable : storage.Reliable)
    (opened : storage.Opened) (capacity : Nat) (capacity_pos : 0 < capacity)
    (actions : List Action) (work : ∀ action ∈ actions, action.act.IsRecordWork storage)
    (room : ((System.initial storage capacity capacity_pos).run actions).db.storage.Countable)
    (gone : ∀ action ∈ actions,
      ((System.initial storage capacity capacity_pos).run actions).phase action.txn = .gone)
    (txn : TxnId) {table : TableId} {heap : HeapFile}
    (found : storage.catalog[table]? = some (.heap heap)) :
    let s := (System.initial storage capacity capacity_pos).run actions
    ∃ (live : RecordId → Option Image) (entries : List (RecordId × Image)) (db : Database),
      replay? storage.records (committedChanges s.history) = some live ∧
      s.db.scan txn heap = (db, .finished (.scanned (.ok (entries.map Record.listed)))) ∧
      entries.Pairwise (fun entry other => entry.1.Precedes other.1) ∧
      ∀ id data, (id, data) ∈ entries ↔ id.page.table = table ∧ live id = some data := by
  intro s
  obtain ⟨ok, spares⟩ := (System.consistent_initial reliable capacity capacity_pos).run
    (disciplined_recordWork storage) actions work fun _ _ _ => room
  have quiet : s.db.Quiet txn := ok.quiet (System.unlocked_of_gone ok spares gone) txn
  have named : heap.table = table := reliable.named table (.heap heap) found
  subst named
  have found' : s.db.storage.catalog[heap.table]? = some (.heap heap) := by
    rw [ok.tables.catalog]
    exact found
  have fits : heap.layout.Fits s.db.storage.pageSize.bytes := by
    rw [ok.tables.pageSize]
    exact opened.fits found
  have numbered := room heap.table heap found'
  obtain ⟨db, scanned⟩ := quiet.scan found' fits numbered
  refine ⟨s.db.storage.records, s.db.storage.listing heap, db, ?_, scanned,
    Storage.pairwise_listing .., fun id data => Storage.mem_listing found' numbered⟩
  rw [ok.records_eq opened]
  exact replay?_committedChanges opened (fun reported => reported) ok.admissible

/-- The number of pages in the file of a store. -/
def Store.wholePages (storage : Storage) : Store → Nat
  | .heap file => PageFile.wholePages (storage.disk.bytes file.file) storage.pageSize
  | .memory .. => 0

/-- Whether pages can be numbered is decided by the registered stores. -/
instance : DecidablePred Storage.Countable := fun storage =>
  decidable_of_iff
      (∀ entry ∈ storage.catalog.toList, entry.2.wholePages storage < UInt32.size) <| by
    constructor
    · intro all table heap found
      exact all (table, .heap heap) (Std.ExtTreeMap.mem_toList_iff_getElem?_eq_some.mpr found)
    · rintro countable ⟨table, store⟩ inside
      have found := Std.ExtTreeMap.mem_toList_iff_getElem?_eq_some.mp inside
      cases store with
      | heap heap => exact countable table heap found
      | memory name id => exact Nat.zero_lt_succ _

/-- A file with one page of four bytes, on which one of three records of one byte is live. -/
def oneHeap : Storage :=
  { Storage.empty ⟨4, by decide⟩ with
    disk := Disk.empty.setBytes ["records"] #[1, 9, 0, 0] }.register
      (.heap ⟨⟨1⟩, ⟨1, 3⟩, ["records"]⟩)

lemma catalog_oneHeap {table : TableId} {store : Store}
    (found : oneHeap.catalog[table]? = some store) :
    store = .heap ⟨⟨1⟩, ⟨1, 3⟩, ["records"]⟩ := by
  rw [oneHeap, Storage.register, Std.ExtTreeMap.getElem?_insert] at found
  split at found
  · cases found
    rfl
  · simp [Storage.empty] at found

lemma reliable_oneHeap : oneHeap.Reliable := by
  refine Storage.Reliable.register (Storage.reliable_of_empty rfl) (fun table other found => ?_)
    fun name id same => ?_
  · simp [Storage.empty] at found
  · cases same

lemma opened_oneHeap : oneHeap.Opened := by
  intro table heap found
  cases catalog_oneHeap found
  rfl

/-- With room for a single page: the first transaction deletes a record and puts another one into
its slot, the second one has to wait, inserts a third record next to it, and aborts. -/
theorem record_atomicity_reuse :
    let place : RecordId := ⟨⟨⟨1⟩, 0⟩, 0⟩
    let actions : List Action :=
      ⟨⟨1⟩, .call (.delete ⟨some place, #[9]⟩)⟩ :: List.replicate 6 ⟨⟨1⟩, .move⟩ ++
      ⟨⟨1⟩, .call (.insert ⟨1⟩ (.ofData #[5]))⟩ :: List.replicate 5 ⟨⟨1⟩, .move⟩ ++
      [⟨⟨2⟩, .call (.insert ⟨1⟩ (.ofData #[6]))⟩, ⟨⟨2⟩, .move⟩, ⟨⟨1⟩, .move⟩,
        ⟨⟨1⟩, .complete true⟩] ++
      List.replicate 6 ⟨⟨2⟩, .move⟩ ++ [⟨⟨2⟩, .complete false⟩]
    let s := (System.initial oneHeap 1 (by decide)).run actions
    ∃ (live : RecordId → Option Image) (entries : List (RecordId × Image)) (db : Database),
      replay? oneHeap.records [.deleted place, .inserted place #[5]] = some live ∧
      s.db.scan ⟨3⟩ ⟨⟨1⟩, ⟨1, 3⟩, ["records"]⟩ =
        (db, .finished (.scanned (.ok (entries.map Record.listed)))) ∧
      entries.Pairwise (fun entry other => entry.1.Precedes other.1) ∧
      ∀ id data, (id, data) ∈ entries ↔ id.page.table = ⟨1⟩ ∧ live id = some data := by
  intro place actions s
  have isHeap : ∀ table, oneHeap.IsHeap table := fun table store found =>
    ⟨_, catalog_oneHeap found⟩
  have work : ∀ action ∈ actions, action.act.IsRecordWork oneHeap := by
    simp [actions, Act.IsRecordWork, isHeap]
  have changes : committedChanges s.history = [.deleted place, .inserted place #[5]] := by
    decide +kernel
  have room : ((System.initial oneHeap 1 (by decide)).run actions).db.storage.Countable := by
    decide +kernel
  have gone : ∀ action ∈ actions,
      ((System.initial oneHeap 1 (by decide)).run actions).phase action.txn = .gone := by
    decide +kernel
  -- the run need not be evaluated again
  clear_value actions
  rw [← changes]
  exact record_atomicity reliable_oneHeap opened_oneHeap 1 (by decide) actions work room gone ⟨3⟩
    rfl

end PageTxn
