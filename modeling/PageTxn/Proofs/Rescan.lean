import PageTxn.Proofs.View

/-!
Scanning a heap file twice.

The transactions fetch, look at, overwrite and report pages, insert, delete and scan records of heap
files, and end, in any interleaving of their moves; nobody releases, flushes or discards pages, and
no file runs out of page numbers. Memory stores may refuse pages at any time, and any store a page
of a commit.

* `Sees.of_underway`: what a transaction sees of a heap file, it still sees after a scan of the
  file, whatever the others do meanwhile.
* `Sees.exists_append`: of two lists that are seen at once, the longer one begins with the shorter
  one.
* `rescan_extends`: so the second scan by one transaction returns what the first one has returned,
  and after that only records of pages that were appended since the first one began.
* `phantom_records`: such records there may be, and without the rules of the transactions the lists
  may differ otherwise.
-/

namespace PageTxn

namespace System

open Database

variable {s later : System} {txn : TxnId} {heap : HeapFile} {count more : Nat}
  {list longer : List Record} {progress : Progress}

/-- What a transaction sees of a heap file, it still sees after a scan of the file. -/
theorem Sees.of_underway (sees : s.Sees txn heap count list) (ok : s.Truthful)
    (found : s.db.storage.catalog[heap.table]? = some (.heap heap))
    (underway : s.Underway txn (.scan heap) progress later) (room : later.db.storage.Countable)
    (lasts : ∀ failure, progress ≠ .finished (.scanned (.error failure))) :
    later.Sees txn heap count list := by
  refine underway.rule (P := fun progress now =>
    (∀ failure, progress ≠ .finished (.scanned (.error failure))) →
      now.Sees txn heap count list) ok room ?_ ?_ ?_ lasts
  · rintro moved work (- | -) room -
    refine sees.carried ?_ fun number _ image beholds => ?_
    · rw [db_follow]
      exact (s.db.grows_start txn _).catalog
    · have proceeds : Database.Proceeds (fun _ => none) (.scan heap) s.db
          (s.db.start txn (.scan heap)) := ok.proceeds_call work room
      exact ok.beholds_follow beholds proceeds (by simp)
        (Database.keeps_start ok.guarded.db.sound beholds.keeps.held _)
  · intro progress operation now incident underway going truthful others work room seen lasts
    refine (seen lasts).carried (now.grows_suffer _).catalog ?_
    exact fun number _ image beholds => truthful.beholds_of_others work room others beholds
  · intro progress operation now moved underway going truthful moves room seen lasts
    have busy := underway.busy going
    have views := views_of_underway ok found underway room
    have seen := seen fun failure told => by
      rw [told] at going
      cases going
    rw [views_of_going going] at views
    cases views with
    | @collect number remaining gathered stage whole _ =>
        cases moves with
        | unread cause => exact absurd rfl (lasts _)
        | step comes =>
            rw [comes.eq_of_collect, ← suffer_move busy]
            exact truthful.sees_collect room busy seen

/-- Of two lists that are seen at once, the longer one begins with the shorter one. -/
lemma Sees.exists_append (sees : s.Sees txn heap count list) (seen : s.Sees txn heap more longer)
    (le : count ≤ more) :
    ∃ new, longer = list ++ new ∧ ∀ record ∈ new, ∃ number slot,
      record.id = some ⟨heap.page number, slot⟩ ∧ count ≤ number ∧ number < more := by
  obtain ⟨new, extended, placed⟩ := exists_firstRecords_append s.db.records heap le
  refine ⟨new.map Record.listed, ?_, fun record inside => ?_⟩
  · rw [seen.list, extended, List.map_append, ← sees.list]
  · obtain ⟨entry, listed, rfl⟩ := List.mem_map.mp inside
    obtain ⟨number, slot, here, above, below⟩ := placed entry listed
    exact ⟨number, slot, congrArg some here, above, below⟩

end System

/-- **Scans are repeatable up to appended pages.** Whatever the others do meanwhile, whether they
commit or abort, and also if stores fail: if a transaction scans a heap file twice, and in between
neither changes a page of the file that was there nor ends, then the second list begins with the
first one, and after that has only records on pages that did not exist when the first scan began.
So the lists are the same if no page is appended before the second scan begins. -/
theorem rescan_extends {storage : Storage} (separate : storage.Separate) (capacity : Nat)
    (capacity_pos : 0 < capacity) (before between : List Incident)
    (work : ∀ incident ∈ before ++ between, incident.IsWork storage) {heap : HeapFile}
    (found : storage.catalog[heap.table]? = some (.heap heap)) {txn : TxnId}
    {first second : List Record} {told retold : System} :
    let s := (System.initial storage capacity capacity_pos).endure before
    let again := told.endure between
    let count := s.db.storage.heapPages heap
    let more := again.db.storage.heapPages heap
    s.Underway txn (.scan heap) (.finished (.scanned (.ok first))) told →
    again.Underway txn (.scan heap) (.finished (.scanned (.ok second))) retold →
    retold.db.storage.Countable →
    (∀ number < count, told.KeepsOff txn (heap.page number) between) →
      (∃ new, second = first ++ new ∧ ∀ record ∈ new, ∃ number slot,
        record.id = some ⟨heap.page number, slot⟩ ∧ count ≤ number ∧ number < more) ∧
      (more = count → second = first) := by
  intro s again count more scanned rescanned room off
  have room_again : again.db.storage.Countable := rescanned.grows.countable room
  obtain ⟨truthful, tables, sees⟩ := sees_of_scanned separate capacity capacity_pos before between
    work found scanned room_again off
  have there : again.db.storage.catalog[heap.table]? = some (.heap heap) := by
    rw [tables]
    exact found
  -- both lists are seen when the second scan returns
  have kept : retold.Sees txn heap count first :=
    sees.of_underway truthful there rescanned room fun failure returned => by cases returned
  have seen : retold.Sees txn heap more second :=
    System.views_of_underway truthful there rescanned room
  have grown : again.db.storage.Grows s.db.storage :=
    (told.grows_endure between).trans scanned.grows
  have le : count ≤ more := grown.heapPages_le room_again (by rw [← grown.catalog]; exact there)
  obtain ⟨new, extended, placed⟩ := kept.exists_append seen le
  refine ⟨⟨new, extended, placed⟩, fun same => ?_⟩
  cases new with
  | nil => rw [extended, List.append_nil]
  | cons record rest =>
      obtain ⟨number, -, -, above, below⟩ := placed record List.mem_cons_self
      omega

/-- The third transaction fills the page of a file, and the file refuses its commit. -/
def fillInVain : List Incident :=
  (fillPage.take 18).map .act ++ [.interrupt ⟨3⟩ 0]

/-- The second transaction inserts a record, for which it appends a page. It goes on. -/
def appendMeanwhile : List Incident :=
  .act ⟨⟨2⟩, .call (.insert ⟨1⟩ (.ofData #[7]))⟩ :: movesOf ⟨2⟩ 10

/-- A commit was refused, and the second scan has to wait for the second transaction, which commits.
Only the record on the appended page is new. -/
theorem rescan_extends_append :
    let heap : HeapFile := ⟨⟨1⟩, ⟨1, 3⟩, ["records"]⟩
    let s := (System.initial oneHeap 2 (by decide)).endure fillInVain
    let called := s.suffer (.act ⟨⟨1⟩, .call (.scan heap)⟩)
    let told := (called.endure (movesOf ⟨1⟩ 1)).suffer (.act ⟨⟨1⟩, .move⟩)
    let again := told.endure appendMeanwhile
    let recalled := again.suffer (.act ⟨⟨1⟩, .call (.scan heap)⟩)
    let retold := (recalled.endure scanWaits).suffer (.act ⟨⟨1⟩, .move⟩)
    let first := [onPage 0 0 #[9], onPage 0 1 #[5], onPage 0 2 #[6]]
    let second := first ++ [onPage 1 0 #[7]]
    s.Stuck ⟨3⟩ ∧ s.Underway ⟨1⟩ (.scan heap) (.finished (.scanned (.ok first))) told ∧
      again.Underway ⟨1⟩ (.scan heap) (.finished (.scanned (.ok second))) retold ∧
      ∃ new, second = first ++ new ∧ ∀ record ∈ new, ∃ number slot,
        record.id = some ⟨heap.page number, slot⟩ ∧ 1 ≤ number ∧ number < 2 := by
  intro heap s called told again recalled retold first second
  have isHeap : ∀ table, oneHeap.IsHeap table := fun table store found =>
    ⟨_, catalog_oneHeap found⟩
  have work : ∀ incident ∈ fillInVain ++ appendMeanwhile, incident.IsWork oneHeap := by
    simp [fillInVain, appendMeanwhile, movesOf, fillPage, Incident.IsWork, Act.isPageWork,
      Act.IsRecordWork, isHeap]
  have found : oneHeap.catalog[heap.table]? = some (.heap heap) := rfl
  have stuck : s.Stuck ⟨3⟩ := by
    show _ ∈ s.history
    decide +kernel
  have pages : s.db.storage.heapPages heap = 1 := by decide +kernel
  have more : again.db.storage.heapPages heap = 2 := by decide +kernel
  have room : retold.db.storage.Countable := by decide +kernel
  -- the first scan does not wait
  have free : (s.phase ⟨1⟩).isFree = true := by decide +kernel
  have going : (s.db.start ⟨1⟩ (.scan heap)).2.operation? =
      some (.fetching ⟨1⟩ .store (.collect heap 0 0 []) (.lock false)) := by decide +kernel
  let last : Operation := .fetching ⟨1⟩ .store (.collect heap 0 0 []) (.use 0)
  have busy : (called.endure (movesOf ⟨1⟩ 1)).phase ⟨1⟩ = .busy (.scan heap) last := by
    decide +kernel
  have finished : ((called.endure (movesOf ⟨1⟩ 1)).db.step last).2 =
      .finished (.scanned (.ok first)) := by decide +kernel
  have own : ∀ incident ∈ movesOf ⟨1⟩ 1 ++ scanWaits, incident.actor? = some ⟨1⟩ →
      incident = .act ⟨⟨1⟩, .move⟩ := by
    simp [scanWaits, movesOf, Incident.actor?]
  have goes : ∀ incident ∈ movesOf ⟨1⟩ 1 ++ scanWaits, ∀ storage, incident.IsWork storage := by
    simp [scanWaits, movesOf, Incident.IsWork, Act.isPageWork, Act.IsRecordWork]
  have scanned : s.Underway ⟨1⟩ (.scan heap) (.finished (.scanned (.ok first))) told :=
    .whole called rfl free (Or.inr trivial) (movesOf ⟨1⟩ 1)
      (fun incident listed => own incident (List.mem_append_left _ listed))
      (fun incident listed => goes incident (List.mem_append_left _ listed) _) going busy finished
  -- the second one waits
  have free' : (again.phase ⟨1⟩).isFree = true := by decide +kernel
  have going' : (again.db.start ⟨1⟩ (.scan heap)).2.operation? =
      some (.fetching ⟨1⟩ .store (.collect heap 0 1 []) (.lock false)) := by decide +kernel
  let last' : Operation := .fetching ⟨1⟩ .store (.collect heap 1 0 first) (.use 1)
  have busy' : (recalled.endure scanWaits).phase ⟨1⟩ = .busy (.scan heap) last' := by
    decide +kernel
  have finished' : ((recalled.endure scanWaits).db.step last').2 =
      .finished (.scanned (.ok second)) := by decide +kernel
  have rescanned : again.Underway ⟨1⟩ (.scan heap) (.finished (.scanned (.ok second))) retold :=
    .whole recalled rfl free' (Or.inr trivial) scanWaits
      (fun incident listed => own incident (List.mem_append_right _ listed))
      (fun incident listed => goes incident (List.mem_append_right _ listed) _) going' busy'
      finished'
  have off : ∀ number < s.db.storage.heapPages heap,
      told.KeepsOff ⟨1⟩ (heap.page number) appendMeanwhile := fun _ _ =>
    System.keepsOff_of_others (by simp [appendMeanwhile, movesOf, Incident.actor?])
  obtain ⟨⟨new, extended, placed⟩, -⟩ := rescan_extends reliable_oneHeap.separate 2 (by decide)
    fillInVain appendMeanwhile work found scanned rescanned room off
  refine ⟨stuck, scanned, rescanned, new, extended, fun record inside => ?_⟩
  obtain ⟨number, slot, here, above, below⟩ := placed record inside
  exact ⟨number, slot, here, pages ▸ above, more ▸ below⟩

/-! ### Lists that differ -/

/-- A file with a page of records, and a page in memory. There is room for a single page. -/
def besideMemory : Database where
  storage := (oneHeap.addMemory (.zeroed ⟨2⟩ 4 1 [])).2.register (.memory ⟨2⟩ 0)
  cache := .empty 1 Nat.one_pos
  locks := .empty

/-- What the first transaction is told if it scans the file after these steps, and again after some
more. -/
def rescans (before between : List (Database → Database)) :
    Turn Operation Outcome × Turn Operation Outcome :=
  let go (steps : List (Database → Database)) (db : Database) :=
    steps.foldl (fun db step => step db) db
  let first := (go before besideMemory).scan ⟨1⟩ ⟨⟨1⟩, ⟨1, 3⟩, ["records"]⟩
  (first.2, ((go between first.1).scan ⟨1⟩ ⟨⟨1⟩, ⟨1, 3⟩, ["records"]⟩).2)

/-- A transaction fetches the first page of the file exclusively and overwrites it. -/
def Database.overwrites (txn : TxnId) (image : Image) (db : Database) : Database :=
  match db.fetch txn ⟨⟨1⟩, 0⟩ .exclusive with
  | (db, .finished (.fetched (.ok id))) =>
      match (db.cache.frame id).copyFrom? image with
      | .ok frame => { db with cache := db.cache.setFrame id frame }
      | .error _ => db
  | (db, _) => db

/-- **Phantoms.** Two scans by one transaction return different lists if another transaction has
appended a page in between, although all transactions only insert, scan and end. The records of the
pages that were there may differ, too, if pages are overwritten without a report, or released,
flushed or discarded. -/
theorem phantom_records :
    let page : PageId := ⟨⟨1⟩, 0⟩
    let insert (txn : TxnId) (byte : UInt8) (db : Database) :=
      (db.insertRecord txn ⟨1⟩ (.ofData #[byte])).1
    let ends (txn : TxnId) (commit : Bool) (db : Database) := (db.complete txn commit).1
    let evicts (db : Database) := (db.fetch ⟨1⟩ ⟨⟨2⟩, 0⟩ .shared).1
    let told (list : List Record) : Turn Operation Outcome := .finished (.scanned (.ok list))
    let both := [onPage 0 0 #[9], onPage 0 1 #[5]]
    let full := both ++ [onPage 0 2 #[6]]
    rescans [insert ⟨3⟩ 5, insert ⟨3⟩ 6, ends ⟨3⟩ true] [insert ⟨2⟩ 7, ends ⟨2⟩ true] =
        (told full, told (full ++ [onPage 1 0 #[7]])) ∧
      -- in between the transaction overwrites the page itself, releases it, or discards its change
      rescans [] [fun db => ((db.overwrites ⟨1⟩ #[1, 8, 0, 0]).markDirty ⟨1⟩ 0).1] =
        (told [onPage 0 0 #[9]], told [onPage 0 0 #[8]]) ∧
      rescans [] [fun db => db.release ⟨1⟩ page, insert ⟨2⟩ 5, ends ⟨2⟩ true] =
        (told [onPage 0 0 #[9]], told both) ∧
      rescans [insert ⟨1⟩ 5] [fun db => db.discard page] =
        (told both, told [onPage 0 0 #[9]]) ∧
      -- before the first scan a page was overwritten without a report, or flushed
      rescans [fun db => db.overwrites ⟨1⟩ #[1, 8, 0, 0]] [evicts] =
        (told [onPage 0 0 #[8]], told [onPage 0 0 #[9]]) ∧
      rescans [insert ⟨2⟩ 5, insert ⟨2⟩ 6, fun db => (db.flushPage page).1,
          fun db => (db.deleteRecord ⟨2⟩ (onPage 0 2 #[6])).1, ends ⟨2⟩ false] [evicts] =
        (told [onPage 0 0 #[9]], told full) ∧
      -- another transaction has released a page that it had changed
      rescans [insert ⟨3⟩ 5, fun db => db.release ⟨3⟩ page,
        fun db => (db.scan ⟨3⟩ ⟨⟨1⟩, ⟨1, 3⟩, ["records"]⟩).1] [ends ⟨3⟩ false] =
        (told both, told [onPage 0 0 #[9]]) := by
  decide +kernel

end PageTxn
