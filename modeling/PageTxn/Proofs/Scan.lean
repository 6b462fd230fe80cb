import PageTxn.Proofs.Cache
import PageTxn.Proofs.LockTable
import PageTxn.Proofs.Records

/-!
Scanning a heap file while nobody else works on it.

* `firstRecords` lists the records of the first pages of a heap file by pages and slots.
* `Storage.listing` lists the live records of a heap file in that order; it is ascending
  (`pairwise_listing`) and complete (`mem_listing`).
* `Database.Quiet` says that no other transaction holds a lock and that the resident pages are
  clean and current. `Quiet.fetch`: then every stored page can be fetched in a few moves.
* `Quiet.scan`: a scan of a quiet database returns the listing.
-/

namespace PageTxn

/-! ### Listings -/

/-- The order of the places in a file: by pages, and by slots on a page. -/
def RecordId.Precedes (id other : RecordId) : Prop :=
  id.page.number < other.page.number ∨ id.page.number = other.page.number ∧ id.slot < other.slot

/-- The record at a place. -/
def Record.listed (entry : RecordId × Image) : Record := ⟨some entry.1, entry.2⟩

section Tables

variable {records : RecordId → Option Image} {page : PageId} {heap : HeapFile} {slots count : Nat}

/-- The records of a page by slots, with their places, if these are the records. -/
def pageRecords (records : RecordId → Option Image) (slots : Nat) (page : PageId) :
    List (RecordId × Image) :=
  (List.range slots).filterMap fun slot => (records ⟨page, slot⟩).map (⟨page, slot⟩, ·)

/-- The records of the first pages of a heap file by pages and slots, with their places. -/
def firstRecords (records : RecordId → Option Image) (heap : HeapFile) (count : Nat) :
    List (RecordId × Image) :=
  (List.range count).flatMap fun number =>
    pageRecords records heap.layout.slots (heap.page number)

lemma mem_pageRecords {id : RecordId} {data : Image} :
    (id, data) ∈ pageRecords records slots page ↔
      id.page = page ∧ id.slot < slots ∧ records id = some data := by
  simp only [pageRecords, List.mem_filterMap, List.mem_range, Option.map_eq_some_iff,
    Prod.mk.injEq]
  constructor
  · rintro ⟨slot, inside, payload, there, rfl, rfl⟩
    exact ⟨rfl, inside, there⟩
  · rintro ⟨rfl, inside, there⟩
    exact ⟨id.slot, inside, data, there, rfl, rfl⟩

lemma mem_firstRecords {id : RecordId} {data : Image} :
    (id, data) ∈ firstRecords records heap count ↔ id.page.table = heap.table ∧
      id.page.number < count ∧ id.slot < heap.layout.slots ∧ records id = some data := by
  simp only [firstRecords, List.mem_flatMap, List.mem_range, mem_pageRecords]
  constructor
  · rintro ⟨number, before, here, inside, there⟩
    rw [here]
    exact ⟨rfl, before, inside, there⟩
  · rintro ⟨here, before, inside, there⟩
    exact ⟨id.page.number, before, by rw [HeapFile.page, ← here], inside, there⟩

/-- Whatever the records are, their list is ascending. -/
lemma pairwise_firstRecords (records : RecordId → Option Image) (heap : HeapFile) (count : Nat) :
    (firstRecords records heap count).Pairwise fun entry other => entry.1.Precedes other.1 := by
  rw [firstRecords, List.pairwise_flatMap]
  refine ⟨fun number _ => ?_, List.pairwise_lt_range.imp ?_⟩
  · refine List.pairwise_filterMap.mpr (List.pairwise_lt_range.imp ?_)
    intro slot other less entry there another there'
    obtain ⟨payload, -, rfl⟩ := Option.map_eq_some_iff.mp there
    obtain ⟨payload', -, rfl⟩ := Option.map_eq_some_iff.mp there'
    exact Or.inr ⟨rfl, less⟩
  · rintro number other less ⟨id, data⟩ there ⟨id', data'⟩ there'
    refine Or.inl ?_
    rw [(mem_pageRecords.mp there).1, (mem_pageRecords.mp there').1]
    exact less

/-- A longer list goes on with the records of the pages that follow. -/
lemma exists_firstRecords_append (records : RecordId → Option Image) (heap : HeapFile) {more : Nat}
    (le : count ≤ more) :
    ∃ new, firstRecords records heap more = firstRecords records heap count ++ new ∧
      ∀ entry ∈ new, ∃ number slot, entry.1 = ⟨heap.page number, slot⟩ ∧ count ≤ number ∧
        number < more := by
  obtain ⟨extra, rfl⟩ := Nat.exists_eq_add_of_le le
  refine ⟨((List.range extra).map (count + ·)).flatMap fun number =>
    pageRecords records heap.layout.slots (heap.page number), ?_, fun entry inside => ?_⟩
  · rw [firstRecords, firstRecords, List.range_add, List.flatMap_append]
  · obtain ⟨number, listed, on⟩ := List.mem_flatMap.mp inside
    obtain ⟨offset, before, rfl⟩ := List.mem_map.mp listed
    have less := Nat.add_lt_add_left (List.mem_range.mp before) count
    exact ⟨count + offset, entry.1.slot, by rw [← (mem_pageRecords.mp on).1],
      Nat.le_add_right .., less⟩

end Tables

namespace Storage

variable {storage : Storage} {page : PageId} {heap : HeapFile}

/-- The live records of a heap file by pages and slots, with their places. -/
def listing (storage : Storage) (heap : HeapFile) : List (RecordId × Image) :=
  firstRecords storage.records heap (storage.heapPages heap)

/-- Only places of a heap file have records. -/
lemma inside_of_records (found : storage.catalog[page.table]? = some (.heap heap))
    {slot : Nat} {data : Image} (there : storage.records ⟨page, slot⟩ = some data) :
    page.number < PageFile.wholePages (storage.disk.bytes heap.file) storage.pageSize ∧
      slot < heap.layout.slots := by
  obtain ⟨image, stored, payload⟩ := Option.bind_eq_some_iff.mp there
  rw [payloadIn_heap found] at payload
  refine ⟨(image?_heap_ne_none_iff found).mp (by rw [stored]; simp), ?_⟩
  by_contra absent
  rw [SlotLayout.payload?_eq_none absent] at payload
  cases payload

/-- The listing of a heap file has exactly its live records. -/
theorem mem_listing (found : storage.catalog[heap.table]? = some (.heap heap))
    (room : PageFile.wholePages (storage.disk.bytes heap.file) storage.pageSize < UInt32.size)
    {id : RecordId} {data : Image} :
    (id, data) ∈ storage.listing heap ↔
      id.page.table = heap.table ∧ storage.records id = some data := by
  refine mem_firstRecords.trans ⟨fun ⟨here, _, _, there⟩ => ⟨here, there⟩, fun ⟨here, there⟩ => ?_⟩
  obtain ⟨⟨table, number⟩, slot⟩ := id
  cases here
  obtain ⟨exists_page, exists_slot⟩ := inside_of_records found there
  exact ⟨rfl, by rw [heapPages_eq room]; exact exists_page, exists_slot, there⟩

/-- The listing of a heap file is ascending. -/
theorem pairwise_listing (storage : Storage) (heap : HeapFile) :
    (storage.listing heap).Pairwise fun entry other => entry.1.Precedes other.1 :=
  pairwise_firstRecords storage.records heap _

end Storage

/-! ### Fetching pages -/

namespace Database

/-- No other transaction holds a lock, and the resident pages are clean and show the stored
images. -/
structure Quiet (db : Database) (txn : TxnId) : Prop where
  alone : ∀ (other : TxnId) (page : PageId), other ≠ txn →
    db.locks.table.modeOf? other page = none
  orderly : db.cache.Orderly
  clean : ∀ (page : PageId) (id : FrameId), db.cache.residentFrame? page = some id →
    (db.cache.frame id).owner = none
  current : ∀ (page : PageId) (id : FrameId), db.cache.residentFrame? page = some id →
    db.storage.image? page = some (db.cache.frame id).live

variable {db : Database} {txn : TxnId} {page : PageId} {heap : HeapFile} {image : Image}

namespace Quiet

variable (quiet : db.Quiet txn)
include quiet

/-- Clean pages may leave. -/
lemma of_shrinks {cache : Cache} (shrinks : cache.Shrinks db.cache) :
    Quiet { db with cache } txn where
  alone := quiet.alone
  orderly := shrinks.orderly quiet.orderly
  clean page id there := by
    rw [shrinks.frame]
    exact quiet.clean page id (shrinks.residentFrame? there)
  current page id there := by
    rw [shrinks.frame]
    exact quiet.current page id (shrinks.residentFrame? there)

/-- A stored page that is not resident can be brought in, if there is room. -/
lemma bringIn (stored : db.storage.image? page = some image) :
    Quiet { db with cache :=
      (db.cache.newFrame (.ofImage page image)).2.bringIn db.cache.nextFrame } txn := by
  have fresh : (db.cache.newFrame (.ofImage page image)).2.frame db.cache.nextFrame =
      .ofImage page image := by rw [Cache.frame_newFrame, if_pos rfl]
  have older : ∀ (other : PageId) (id : FrameId), db.cache.residentFrame? other = some id →
      (db.cache.newFrame (.ofImage page image)).2.frame id = db.cache.frame id := by
    intro other id there
    rw [Cache.frame_newFrame, if_neg (Nat.ne_of_gt (quiet.orderly.made other id there))]
  have resident : ∀ other : PageId,
      ((db.cache.newFrame (.ofImage page image)).2.bringIn db.cache.nextFrame).residentFrame?
        other = if page = other then some db.cache.nextFrame
          else db.cache.residentFrame? other := by
    intro other
    rw [Cache.residentFrame?_bringIn, fresh]
    rfl
  refine ⟨quiet.alone, (quiet.orderly.newFrame _).bringIn (Nat.lt_succ_self _),
    fun other id there => ?_, fun other id there => ?_⟩
  · rw [resident] at there
    show ((db.cache.newFrame (.ofImage page image)).2.frame id).owner = none
    split at there
    · cases there
      rw [fresh]
      rfl
    · rw [older other id there]
      exact quiet.clean other id there
  · rw [resident] at there
    show db.storage.image? other =
      some ((db.cache.newFrame (.ofImage page image)).2.frame id).live
    split at there
    · next same =>
      cases there
      rw [fresh, ← same]
      exact stored
    · rw [older other id there]
      exact quiet.current other id there

/-- A shared lock is granted. -/
lemma request (page : PageId) (waited : Bool) :
    ∃ locks, db.locks.request txn page .shared waited = (locks, .granted) ∧
      Quiet { db with locks } txn := by
  have free := LockTable.blockers_eq_empty page fun other => quiet.alone other page
  have requested : db.locks.table.request txn page .shared =
      (db.locks.table.grant txn page .shared, .granted) := by
    rw [LockTable.request, free]
    rfl
  refine ⟨{ db.locks with
      table := db.locks.table.grant txn page .shared
      stats := db.locks.stats.count waited .granted },
    by rw [LockManager.request, requested], fun other q apart => ?_, quiet.orderly, quiet.clean,
    quiet.current⟩
  show (db.locks.table.grant txn page .shared).modeOf? other q = none
  rw [LockTable.modeOf?_grant free, if_neg fun same => apart same.2.symm]
  exact quiet.alone other q apart

/-- A page that was read from its store can be entered. -/
lemma enterPage (stored : db.storage.image? page = some image) :
    ∃ (later : Database) (id : FrameId), db.enterPage page image = (later, .ok id) ∧
      later.Quiet txn ∧ later.storage = db.storage ∧ (later.cache.frame id).live = image := by
  rw [Database.enterPage]
  cases there : db.cache.residentFrame? page with
  | some id =>
      have live := quiet.current page id there
      rw [stored] at live
      exact ⟨db, id, rfl, quiet, rfl, (Option.some.inj live).symm⟩
  | none =>
      obtain ⟨roomy, room⟩ : ∃ roomy, db.cache.makeRoom = (roomy, .ok ()) :=
        ⟨_, Prod.ext rfl (Cache.makeRoom_of_clean quiet.orderly quiet.clean)⟩
      have shrinks := Cache.shrinks_makeRoom db.cache
      rw [room] at shrinks
      simp only [room]
      refine ⟨_, roomy.nextFrame, rfl, (quiet.of_shrinks shrinks).bringIn stored, rfl, ?_⟩
      show ((roomy.newFrame (.ofImage page image)).2.frame roomy.nextFrame).live = image
      rw [Cache.frame_newFrame, if_pos rfl]
      rfl

end Quiet

/-- A stored page of a heap file can be read. -/
lemma loadPage_heap (found : db.storage.catalog[page.table]? = some (.heap heap))
    (stored : db.storage.image? page = some image) :
    db.loadPage page = ({ db with cache := db.cache.countRead }, .ok image) := by
  have read : db.storage.readPage (.heap heap) page = (db.storage, .ok (image, none)) := by
    rw [Storage.image?_heap found] at stored
    rw [Storage.readPage_heap, stored]
  rw [loadPage, Storage.storeOf_eq found]
  simp only [readPage, read]

/-- A stored page of a heap file is fetched in at most three moves, and nothing is written. -/
theorem Quiet.fetch (quiet : db.Quiet txn) {level : Level} {aim : Aim} (waited : Bool)
    (shared : aim.mode = .shared)
    (found : db.storage.catalog[aim.page.table]? = some (.heap heap))
    (stored : db.storage.image? aim.page = some image) :
    ∃ (later : Database) (id : FrameId) (moves : Nat), later.Quiet txn ∧
      later.storage = db.storage ∧ (later.cache.frame id).live = image ∧ moves ≤ 3 ∧
      ∀ fuel, db.advance (fuel + moves) (.fetching txn level aim (.lock waited)) =
        later.advance fuel (.fetching txn level aim (.use id)) := by
  obtain ⟨locks, granted, locked⟩ := quiet.request aim.page waited
  rw [← shared] at granted
  cases there : db.cache.residentFrame? aim.page with
  | some id =>
      -- the page is resident
      have live := quiet.current _ id there
      rw [stored] at live
      refine ⟨{ db with locks, cache := db.cache.countHit }, id, 1,
        locked.of_shrinks (.of_stats ..), rfl, (Option.some.inj live).symm, by omega,
        fun fuel => ?_⟩
      rw [advance, step, lockPage, granted]
      simp only [there]
  | none =>
      -- the page is read and brought in
      have read : loadPage { db with locks, cache := db.cache.countMiss } aim.page =
          ({ db with locks, cache := db.cache.countMiss.countRead }, .ok image) :=
        loadPage_heap found stored
      have counted : db.cache.countMiss.countRead.Shrinks db.cache :=
        (Cache.Shrinks.of_stats ..).trans (.of_stats ..)
      obtain ⟨later, id, entered, calm, storage, live⟩ :=
        (locked.of_shrinks counted).enterPage stored
      refine ⟨later, id, 3, calm, storage, live, Nat.le_refl _, fun fuel => ?_⟩
      rw [advance, step, lockPage, granted]
      simp only [there, advance, step, read, entered]

/-! ### Scanning -/

/-- The records of a page at hand are its listing. -/
lemma contents_eq (found : db.storage.catalog[page.table]? = some (.heap heap))
    (fits : heap.layout.Fits db.storage.pageSize.bytes)
    (stored : db.storage.image? page = some image) :
    ∃ contents, heap.layout.contents? image = .ok contents ∧
      contents.map (fun (slot, data) => (⟨some ⟨page, slot⟩, data⟩ : Record)) =
        (pageRecords db.storage.records heap.layout.slots page).map Record.listed := by
  have whole : image.size = db.storage.pageSize.bytes := by
    rw [Storage.image?_heap found] at stored
    exact PageFile.size_of_read? stored
  refine ⟨_, SlotLayout.contents?_eq (whole ▸ fits), ?_⟩
  rw [pageRecords, List.map_filterMap, List.map_filterMap]
  congr 1
  funext slot
  rw [Storage.records, stored, Option.bind_some, Storage.payloadIn_heap found, Option.map_map,
    Option.map_map]
  rfl

section Pages

variable (found : db.storage.catalog[heap.table]? = some (.heap heap))
  (fits : heap.layout.Fits db.storage.pageSize.bytes)
include found fits

/-- A scan of a quiet database reads a page in at most four moves. -/
lemma Quiet.collectPage (quiet : db.Quiet txn) (level : Level) (number remaining : Nat)
    (inside : number < PageFile.wholePages (db.storage.disk.bytes heap.file) db.storage.pageSize)
    (records : List Record) :
    ∃ (later : Database) (moves : Nat), later.Quiet txn ∧ later.storage = db.storage ∧
      moves ≤ 4 ∧ ∀ fuel, db.advance (fuel + moves)
          (.fetching txn level (.collect heap number remaining records) (.lock false)) =
        let listed := records ++
          (pageRecords db.storage.records heap.layout.slots (heap.page number)).map Record.listed
        match remaining with
        | 0 => (later, .finished (.scanned (.ok listed)))
        | remaining + 1 => later.advance fuel
            (.fetching txn level (.collect heap (number + 1) remaining listed) (.lock false)) := by
  have found' : db.storage.catalog[(heap.page number).table]? = some (.heap heap) := found
  obtain ⟨image, stored⟩ :=
    Option.ne_none_iff_exists'.mp ((Storage.image?_heap_ne_none_iff found').mpr inside)
  obtain ⟨contents, read, listed⟩ := contents_eq found' fits stored
  obtain ⟨later, id, moves, calm, storage, live, few, fetched⟩ :
      ∃ (later : Database) (id : FrameId) (moves : Nat), later.Quiet txn ∧
        later.storage = db.storage ∧ (later.cache.frame id).live = image ∧ moves ≤ 3 ∧
        ∀ fuel, db.advance (fuel + moves)
            (.fetching txn level (.collect heap number remaining records) (.lock false)) =
          later.advance fuel
            (.fetching txn level (.collect heap number remaining records) (.use id)) :=
    quiet.fetch false rfl found' stored
  refine ⟨later, moves + 1, calm, storage, by omega, fun fuel => ?_⟩
  rw [Nat.add_comm moves, ← Nat.add_assoc, fetched, advance, step, usePage]
  cases remaining with
  | zero => simp only [live, read, listed]
  | succ remaining =>
      simp only [live, read, listed]
      rfl

/-- What is left of a scan of a quiet database appends what is left of the listing. -/
lemma Quiet.collect (quiet : db.Quiet txn) {level : Level} {number remaining : Nat}
    (inside : number + remaining <
      PageFile.wholePages (db.storage.disk.bytes heap.file) db.storage.pageSize)
    (records : List Record) {fuel : Nat} (enough : 4 * remaining + 4 ≤ fuel) :
    ∃ later, db.advance fuel
        (.fetching txn level (.collect heap number remaining records) (.lock false)) =
      (later, .finished (.scanned (.ok (records ++
        ((List.range' number (remaining + 1)).flatMap fun number => pageRecords
          db.storage.records heap.layout.slots (heap.page number)).map Record.listed)))) := by
  induction remaining generalizing db number records fuel with
  | zero =>
      obtain ⟨later, moves, -, -, few, page⟩ :=
        quiet.collectPage found fits level number 0 inside records
      refine ⟨later, ?_⟩
      rw [← Nat.sub_add_cancel (show moves ≤ fuel by omega), page]
      simp
  | succ remaining ih =>
      obtain ⟨middle, moves, calm, storage, few, page⟩ :=
        quiet.collectPage found fits level number (remaining + 1) (by omega) records
      rw [← storage] at found fits inside
      obtain ⟨later, rest⟩ := ih found fits calm (show number + 1 + remaining < _ by omega)
        (records ++ (pageRecords db.storage.records heap.layout.slots (heap.page number)).map
          Record.listed) (show 4 * remaining + 4 ≤ fuel - moves by omega)
      have numbers : List.range' number (remaining + 1 + 1) =
          number :: List.range' (number + 1) (remaining + 1) := List.range'_succ ..
      refine ⟨later, ?_⟩
      rw [← Nat.sub_add_cancel (show moves ≤ fuel by omega), page]
      simp only [rest, storage]
      rw [numbers, List.flatMap_cons, List.map_append, List.append_assoc]

/-- A scan of a quiet database returns the listing of the heap file. -/
theorem Quiet.scan (quiet : db.Quiet txn)
    (room : PageFile.wholePages (db.storage.disk.bytes heap.file) db.storage.pageSize <
      UInt32.size) :
    ∃ later, db.scan txn heap =
      (later, .finished (.scanned (.ok ((db.storage.listing heap).map Record.listed)))) := by
  have count := Storage.heapPages_eq room
  rw [Database.scan, startScan, Storage.listing]
  cases pages : db.storage.heapPages heap with
  | zero => exact ⟨db, rfl⟩
  | succ remaining =>
      rw [firstRecords, List.range_eq_range']
      exact quiet.collect found fits (by omega) [] (Nat.le_refl _)

end Pages

end Database

end PageTxn
