import PageTxn.Proofs.Insertion

/-!
How an insert finds a place for its record.

* `Database.keeps_or_breaks`: what holds before a turn holds after it, or one of its moves breaks
  it. `Lands.returns`: an insert that has put its record into a page returns in the same turn.
* `Database.Searching` is an insert that looks for a place and knows something of the page that it
  has come to. What is known is kept from page to page (`Database.Carried`).
* `Searching.of_turn`: if the insert succeeds without having to wait, it has put its record into
  the first free slot of a page of which it knew that (`Database.Settles`). The record is a new
  one (`Settles.records`).
-/

namespace PageTxn

/-- A record is put into the first free slot. -/
lemma SlotLayout.firstFree_of_place {layout : SlotLayout} {page payload image : Image}
    {slot : Nat}
    (placed : layout.place? page payload = .ok (some (slot, image))) :
    layout.firstFree? page = .ok (some slot) ∧ layout.write? page slot payload = .ok image := by
  rw [place?] at placed
  cases free : layout.firstFree? page with
  | error fault => simp [free, bind, Except.bind] at placed
  | ok found =>
      rw [free] at placed
      cases found with
      | none => cases placed
      | some first =>
          cases written : layout.write? page first payload with
          | error fault => simp [written, bind, Except.bind] at placed
          | ok result =>
              simp only [bind, Except.bind, written] at placed
              cases placed
              exact ⟨rfl, written⟩

namespace Storage

variable {storage : Storage} {heap : HeapFile} (room : storage.pages heap < UInt32.size)
include room

/-- A page that is appended comes behind the others. -/
lemma pages_appendPage :
    (storage.appendPage heap).1 = storage.pages heap ∧
      (storage.appendPage heap).2.pages heap = storage.pages heap + 1 := by
  refine ⟨heapPages_eq room, ?_⟩
  show PageFile.wholePages ((storage.setFile heap
    (PageFile.append (storage.disk.bytes heap.file) storage.pageSize).2).disk.bytes heap.file)
      storage.pageSize = _
  rw [setFile, Disk.bytes_setBytes, if_pos rfl, PageFile.wholePages_append room, pages]

end Storage

namespace Database

variable {db later : Database} {size : PageSize} {txn : TxnId} {level : Level}
  {heap : HeapFile} {record : Record} {page : PageId} {progress : Progress}

/-! ### Turns -/

/-- What holds before a turn holds after it, or one of its moves is the first to break it. -/
lemma keeps_or_breaks {Holds : Database → Progress → Prop} (holds : Holds db progress)
    {result : Turn Operation Outcome} (turn : db.proceed progress = (later, result)) :
    Holds later (.ofTurn result) ∨ ∃ (middle : Database) (operation : Operation),
      Holds middle (.running operation) ∧
        ¬ Holds (middle.step operation).1 (middle.step operation).2 ∧
        (middle.step operation).1.proceed (middle.step operation).2 = (later, result) := by
  cases progress with
  | parked operation =>
      cases turn
      exact .inl holds
  | finished outcome =>
      cases turn
      exact .inl holds
  | running operation =>
      induction budget : operation.budget using Nat.strongRecOn generalizing db operation with
      | ind fuel ih =>
          have one : (db.step operation).1.proceed (db.step operation).2 = (later, result) :=
            (db.resume_eq operation).symm.trans turn
          by_cases kept : Holds (db.step operation).1 (db.step operation).2
          · cases moved : db.step operation with
            | mk next progress =>
                rw [moved] at one kept
                cases progress with
                | running following =>
                    have less := budget_of_step moved
                    exact ih following.budget (by omega) following kept one rfl
                | parked following =>
                    cases one
                    exact .inl kept
                | finished outcome =>
                    cases one
                    exact .inl kept
          · exact .inr ⟨db, operation, holds, kept, one⟩

/-- To report a page that its transaction has just changed leaves what is shown. -/
lemma Puts.of_report {middle : Database} {image live : Image} (puts : Puts txn page image middle db)
    (reported : Puts txn page live later middle)
    (shown : middle.shown? page = some live) : Puts txn page image later db where
  storage := reported.storage.trans puts.storage
  locks := reported.locks.trans puts.locks
  resident other := (reported.resident other).trans (puts.resident other)
  shown other := by
    have same := puts.shown page
    rw [if_pos rfl, shown] at same
    rw [reported.shown, puts.shown, same]
    split <;> rfl
  owner other := by
    rw [reported.owner, puts.owner]
    split <;> rfl

/-- A change that a transaction made to a resident page is reported and returned. -/
lemma Puts.returns {middle : Database} {image : Image} {id : FrameId}
    (puts : Puts txn page image middle db) (sized : middle.Sized size)
    (there : middle.cache.residentFrame? page = some id) (change : Change)
    (changed : change.pages = [id]) (level : Level) :
    ∃ later, middle.proceed (change.next txn level) = (later, .finished change.succeeded) ∧
      Puts txn page image later db ∧ later.Sized size := by
  cases level with
  | store => exact ⟨middle, rfl, puts, sized⟩
  | database =>
      have orderly := sized.exact.toOrderly
      obtain ⟨later, marked, reported⟩ := puts_markDirty orderly there txn
      have kept := (sized.markDirty (orderly.made page id there) txn).1
      rw [marked] at kept
      refine ⟨later, ?_, puts.of_report reported (shown?_of_resident there), kept⟩
      rw [Change.next, changed, proceed, resume_eq, step, marked]
      exact resume_eq ..

/-- An insert that has put its record into a page returns in the same turn. -/
lemma Lands.returns {moved : Database × Progress}
    (lands : db.Lands txn level heap record page moved) (sized : moved.1.Sized size) :
    ∃ (later : Database) (before image : Image) (slot : Nat) (id : FrameId),
      moved.1.proceed moved.2 =
          (later, .finished (.inserted (.ok [id]) (record.placed ⟨page, slot⟩))) ∧
        db.locks.table.modeOf? txn page = some .exclusive ∧
        db.cache.residentFrame? page = some id ∧ db.shown? page = some before ∧
        heap.layout.place? before record.data = .ok (some (slot, image)) ∧
        Puts txn page image later db ∧ later.Sized size := by
  cases lands with
  | @intro middle slot before image id held there shown placed puts =>
      have resident := (puts.resident page).trans there
      obtain ⟨later, returned, puts, sized⟩ :=
        puts.returns sized resident (.insertion _ _) rfl level
      exact ⟨later, before, image, slot, id, returned, held, there, shown, placed, puts, sized⟩

/-- The database asks the store of the table. -/
lemma insertRecord_eq (found : db.storage.catalog[heap.table]? = some (.heap heap)) :
    db.insertRecord txn heap.table record =
      (db.startInsert txn .database (.heap heap) record).1.proceed
        (db.startInsert txn .database (.heap heap) record).2 := by
  have started : db.startInsertRecord txn heap.table record =
      db.startInsert txn .database (.heap heap) record := by
    rw [startInsertRecord, Storage.storeOf_eq found]
  rw [← started]
  rfl

/-- If no page is left, an insert appends one behind the others and goes on to it. -/
lemma nextProbe_zero (room : db.storage.pages heap < UInt32.size) (number : Nat) :
    db.nextProbe txn level heap record number 0 =
      ({ db with storage := (db.storage.appendPage heap).2 },
        (Aim.fill heap record (db.storage.pages heap)).start txn level) := by
  rw [← (Storage.pages_appendPage room).1]
  rfl

/-- A slot of a page that the file has, and whether the bitmap marks it as used, as the page is
shown. -/
structure Marked (db : Database) (heap : HeapFile) (used : Bool) (id : RecordId) : Prop where
  table : id.page.table = heap.table
  page : id.page.number < db.storage.pages heap
  slot : id.slot < heap.layout.slots
  bit : db.slotUsed? id = some used

/-! ### Looking for a place -/

section Search

variable (Knows : Database → Aim → Prop) (size : PageSize) (txn : TxnId) (level : Level)
  (heap : HeapFile) (record : Record)

/-- An insert has not waited. It still looks for a place, and knows something of the page that it
has come to; or it has not succeeded. -/
inductive Searching (db : Database) : Progress → Prop
  | running {aim : Aim} {stage : Stage} (inserts : aim.insert? = some (heap, record))
      (knows : Knows db aim) (fit : db.Fit size heap) (known : db.AtStage txn aim stage) :
      Searching db (.running (.fetching txn level aim stage))
  | parked {operation : Operation} : Searching db (.parked operation)
  | failed {outcome : Outcome} (unplaced : db.Unplaced txn level heap record (.finished outcome)) :
      Searching db (.finished outcome)

/-- What an insert knows is kept while it fetches a page, and when it goes on from it, be there a
free slot or not. -/
structure Carried : Prop where
  rests : ∀ {db later : Database} {aim : Aim}, Knows db aim → later.Rests db → Knows later aim
  claim : ∀ {db : Database} {number remaining : Nat} {alreadyHeld : Bool},
    Knows db (.probe heap record number remaining alreadyHeld) →
      Knows db (.claim heap record number remaining)
  next : ∀ {db : Database} {aim : Aim} {number remaining : Nat} {locks : LockManager},
    db.Fit size heap → Knows db aim → aim.left? = some (number, remaining) →
      db.Full heap (heap.page number) → ∀ moved : Database × Progress,
        nextProbe { db with locks } txn level heap record (number + 1) remaining = moved →
          Searching Knows size txn level heap record moved.1 moved.2

/-- The record was put into the first free slot of a page that the transaction holds exclusively,
and the insert knew something of the page. -/
inductive Settles (later : Database) : RecordId → Prop
  | intro {middle : Database} {aim : Aim} {slot : Nat} {before image : Image} {id : FrameId}
      (inserts : aim.insert? = some (heap, record)) (knows : Knows middle aim)
      (fit : middle.Fit size heap)
      (held : middle.locks.table.modeOf? txn aim.page = some .exclusive)
      (there : middle.cache.residentFrame? aim.page = some id)
      (shown : middle.shown? aim.page = some before)
      (placed : heap.layout.place? before record.data = .ok (some (slot, image)))
      (puts : Puts txn aim.page image later middle) (sized : later.Sized size) :
      Settles later ⟨aim.page, slot⟩

variable {Knows size txn level heap record}

/-- An insert that has left no trace goes on to its next page, or it appends one that is zeroed. -/
lemma searching_nextProbe {start : Database} {number remaining : Nat} {locks : LockManager}
    (fit : db.Fit size heap) (rests : db.Rests start)
    (room : start.storage.pages heap < UInt32.size)
    (probes : ∀ (later : Database) (left : Nat) (alreadyHeld : Bool), remaining = left + 1 →
      later.Rests start → Knows later (.probe heap record number left alreadyHeld))
    (fills : remaining = 0 → ∀ later : Database, later.Preserves start →
      later.storage = (start.storage.appendPage heap).2 → later.cache = db.cache →
        Knows later (.fill heap record (start.storage.pages heap)))
    {moved : Database × Progress}
    (goes : nextProbe { db with locks } txn level heap record number remaining = moved) :
    Searching Knows size txn level heap record moved.1 moved.2 := by
  have count : Storage.pages { db with locks }.storage heap < UInt32.size := by
    show db.storage.pages heap < _
    rw [rests.storage]
    exact room
  have roams : Roams size db txn level heap record 1 moved :=
    goes ▸ roams_nextProbe fit count .asModelled
  cases remaining with
  | succ left =>
      cases goes
      have locked : Rests { db with locks } start :=
        (fit.faithful.rests_of_stats locks db.cache.stats).trans rests
      exact .running rfl (probes _ left _ rfl locked) roams.fit trivial
  | zero =>
      have knows : ∀ later : Database, later.Preserves start →
          later.storage = (db.storage.appendPage heap).2 → later.cache = db.cache →
            Knows later (.fill heap record (db.storage.pages heap)) := by
        rw [rests.storage]
        exact fills rfl
      rw [nextProbe_zero count] at goes
      cases goes
      have preserves := roams.preserves.trans rests.preserves
      exact .running rfl (knows _ preserves rfl rfl) roams.fit trivial

/-- One move of an insert that looks for a place: it still does, or it puts its record into the page
that it has come to. -/
theorem Searching.step (carried : Carried Knows size txn level heap record)
    (whole : record.data.size = heap.layout.recordSize) {operation : Operation}
    (searching : Searching Knows size txn level heap record db (.running operation)) :
    Searching Knows size txn level heap record (db.step operation).1 (db.step operation).2 ∨
      db.Fit size heap ∧ (db.step operation).1.Sized size ∧
        ∃ aim, aim.insert? = some (heap, record) ∧ Knows db aim ∧
          db.Lands txn level heap record aim.page (db.step operation) := by
  cases searching with
  | @running aim stage inserts knows fit known =>
  obtain ⟨sized, step⟩ := fit.step whole inserts known level
  generalize db.step (.fetching txn level aim stage) = moved at sized step
  rcases step with fetched | searches
  · -- a page that is fetched leaves no trace
    refine .inl ?_
    cases fetched with
    | next rests known asked =>
        exact .running inserts (carried.rests knows rests)
          ⟨sized, rests.faithful, by rw [rests.storage]; exact fit.registered⟩ known
    | parked rests => exact .parked
    | refused rests refusal => exact .failed (unplaced_failed inserts _)
  · -- the page is at hand
    cases searches with
    | lands lands => exact .inr ⟨fit, sized, aim, inserts, knows, lands⟩
    | overfull full => exact .inl (.failed (unplaced_failedInsert _))
    | free => exact .inl (.running rfl (carried.claim knows) fit trivial)
    | full left full => exact .inl (carried.next fit knows left full _ rfl)

/-- An insert that succeeds without having to wait has settled its record. -/
theorem Searching.of_turn (carried : Carried Knows size txn level heap record)
    (whole : record.data.size = heap.layout.recordSize)
    (searching : Searching Knows size txn level heap record db progress) {ids : List FrameId}
    {kept : Record} (turn : db.proceed progress = (later, .finished (.inserted (.ok ids) kept))) :
    ∃ id, kept = record.placed id ∧ Settles Knows size txn heap record later id := by
  rcases keeps_or_breaks searching turn with failed | ⟨middle, operation, searching, breaks, goes⟩
  · cases failed with
    | failed unplaced => cases unplaced
  · rcases searching.step carried whole with still | ⟨fit, sized, aim, inserts, knows, lands⟩
    · exact absurd still breaks
    · obtain ⟨next, before, image, slot, id, returned, held, there, shown, placed, puts, sized⟩ :=
        lands.returns sized
      cases returned.symm.trans goes
      exact ⟨_, rfl, .intro inserts knows fit held there shown placed puts sized⟩

/-- A record that was settled is a new one. -/
lemma Settles.records {id : RecordId}
    (settles : Settles Knows size txn heap record later id) (opened : db.storage.Opened)
    (preserves : ∀ {middle : Database} {aim : Aim}, Knows middle aim → middle.Preserves db) :
    db.records id = none ∧
      later.records = Function.update db.records id (some record.data) := by
  cases settles with
  | @intro middle aim slot before image _ inserts knows fit held there shown placed puts sized =>
      have found : middle.storage.catalog[aim.page.table]? = some (.heap heap) := by
        rw [table_of_insert inserts]
        exact fit.registered
      have fits : heap.layout.Fits before.size := by
        rw [fit.sized.size_of_shown found shown]
        exact SlotLayout.fits_of_layoutFor fit.opened
      obtain ⟨unused, exchanged⟩ := SlotLayout.place?_eq_some fits placed
      rw [← (preserves knows).records_eq opened]
      refine ⟨?_, puts.records_eq found shown exchanged⟩
      rw [Database.records, shown, Option.bind_some, Storage.payloadIn_heap found]
      exact unused

end Search

end Database

end PageTxn
