import PageTxn.Proofs.Storage
import PageTxn.Proofs.System

/-!
Files never shrink.

* `Storage.Grows` says that the same tables are registered and that no file has become shorter.
* `Database.grows_step`, `Database.grows_start` and `Database.grows_complete` say so for the
  moves, the start and the end of operations and transactions, whatever their outcome, and
  `System.grows_run` for whole runs.
* `Storage.Grows.countable`: pages that can be numbered at the end could be numbered all along.
-/

namespace PageTxn

/-- A replacement that does not leave a gap does not make an image shorter. -/
lemma Image.size_le_splice {image bytes : Image} {start : Nat} (inside : start ≤ image.size) :
    image.size ≤ (image.splice start bytes).size := by
  rw [Image.splice, Array.size_append, Array.size_append, Array.size_extract, Array.size_extract]
  omega

namespace Storage

/-- Page numbers are 32-bit words; no heap file has run out of them. -/
def Countable (storage : Storage) : Prop :=
  ∀ (table : TableId) (heap : HeapFile), storage.catalog[table]? = some (.heap heap) →
    PageFile.wholePages (storage.disk.bytes heap.file) storage.pageSize < UInt32.size

/-- The same tables are registered, and no file is shorter than before. -/
structure Grows (later earlier : Storage) : Prop extends later.SameTables earlier where
  size : ∀ file : Location, (earlier.disk.bytes file).size ≤ (later.disk.bytes file).size

variable {storage later middle earlier : Storage} {heap : HeapFile}

namespace Grows

lemma refl (storage : Storage) : storage.Grows storage := ⟨⟨rfl, rfl⟩, fun _ => Nat.le_refl _⟩

lemma trans (h : later.Grows middle) (h' : middle.Grows earlier) : later.Grows earlier :=
  ⟨h.toSameTables.trans h'.toSameTables, fun file => Nat.le_trans (h'.size file) (h.size file)⟩

/-- Pages that can be numbered at the end could be numbered before. -/
theorem countable (h : later.Grows earlier) (room : later.Countable) : earlier.Countable := by
  intro table heap found
  rw [← h.catalog] at found
  refine Nat.lt_of_le_of_lt ?_ (room table heap found)
  rw [PageFile.wholePages, PageFile.wholePages, h.pageSize]
  exact Nat.div_le_div_right (h.size heap.file)

/-- No heap file has fewer pages than before. -/
lemma heapPages_le (h : later.Grows earlier) (room : later.Countable) {table : TableId}
    (found : earlier.catalog[table]? = some (.heap heap)) :
    earlier.heapPages heap ≤ later.heapPages heap := by
  have found' : later.catalog[table]? = some (.heap heap) := by
    rw [h.catalog]
    exact found
  rw [heapPages_eq (h.countable room table heap found), heapPages_eq (room table heap found'),
    PageFile.wholePages, PageFile.wholePages, h.pageSize]
  exact Nat.div_le_div_right (h.size heap.file)

end Grows

lemma grows_setFile {bytes : Image}
    (longer : (storage.disk.bytes heap.file).size ≤ bytes.size) :
    (storage.setFile heap bytes).Grows storage := by
  refine ⟨⟨rfl, rfl⟩, fun file => ?_⟩
  rw [setFile, Disk.bytes_setBytes]
  split
  · next same =>
    rw [← same]
    exact longer
  · exact Nat.le_refl _

lemma grows_readPage (storage : Storage) (store : Store) (page : PageId) :
    (storage.readPage store page).1.Grows storage := by
  cases store with
  | heap heap => exact .refl storage
  | memory table id => exact ⟨⟨rfl, rfl⟩, fun _ => Nat.le_refl _⟩

lemma grows_writePage (storage : Storage) (store : Store) (page : PageId) (image : Image) :
    (storage.writePage store page image).1.Grows storage := by
  cases store with
  | memory table id => exact ⟨⟨rfl, rfl⟩, fun _ => Nat.le_refl _⟩
  | heap heap =>
      rw [writePage_heap]
      by_cases exists_page : page.number <
          PageFile.wholePages (storage.disk.bytes heap.file) storage.pageSize
      · have fits := PageFile.lt_wholePages_iff.mp exists_page
        rw [if_pos exists_page]
        exact grows_setFile (Image.size_le_splice (by omega))
      · rw [if_neg exists_page]
        exact .refl storage

lemma grows_appendPage (storage : Storage) (heap : HeapFile) :
    (storage.appendPage heap).2.Grows storage := by
  refine grows_setFile (Image.size_le_splice ?_)
  have inside := (PageFile.size_lt_end (storage.disk.bytes heap.file) storage.pageSize).1
  refine Nat.le_trans (Nat.mul_le_mul_right _ ?_) inside
  exact Nat.mod_le _ _

end Storage

namespace Database

open Storage

/-! ### Single pages -/

lemma grows_readPage (db : Database) (store : Store) (page : PageId) :
    (db.readPage store page).1.storage.Grows db.storage := by
  have grown := db.storage.grows_readPage store page
  rw [readPage]
  split
  · next read => rw [read] at grown; exact grown
  · next read => rw [read] at grown; exact grown
  · next read =>
    rw [read] at grown
    dsimp only
    split <;> exact grown

lemma grows_flush (db : Database) (id : FrameId) :
    (db.flush id).1.storage.Grows db.storage := by
  rw [flush]
  split
  · split
    · exact .refl _
    · next store _ =>
      have grown := db.storage.grows_writePage store (db.cache.frame id).page
        (db.cache.frame id).live
      split
      · next written => rw [written] at grown; exact grown
      · next written => rw [written] at grown; exact grown
  · exact .refl _

lemma grows_markDirty (db : Database) (txn : TxnId) (id : FrameId) :
    (db.markDirty txn id).1.storage.Grows db.storage := .refl _

lemma grows_loadPage (db : Database) (page : PageId) :
    (db.loadPage page).1.storage.Grows db.storage := by
  rw [loadPage]
  split
  · exact .refl _
  · next store _ =>
    have grown := db.grows_readPage store page
    split
    · next read => rw [read] at grown; exact grown
    · next read => rw [read] at grown; exact grown

lemma grows_enterPage (db : Database) (page : PageId) (image : Image) :
    (db.enterPage page image).1.storage.Grows db.storage := by
  rw [enterPage]
  split
  · exact .refl _
  · split <;> exact .refl _

/-! ### Operations -/

variable {txn : TxnId} {level : Level}

lemma grows_lockPage (db : Database) (aim : Aim) (waited : Bool) :
    (db.lockPage txn level aim waited).1.storage.Grows db.storage := by
  rw [lockPage]
  split
  · split <;> exact .refl _
  · exact .refl _
  · exact .refl _

lemma grows_nextProbe (db : Database) (heap : HeapFile) (record : Record)
    (number remaining : Nat) :
    (db.nextProbe txn level heap record number remaining).1.storage.Grows db.storage := by
  cases remaining with
  | zero => exact db.storage.grows_appendPage heap
  | succ remaining => exact .refl _

lemma storage_changeFrame {db later : Database} {id : FrameId} {image : Image}
    (changed : db.changeFrame txn id image = .ok later) : later.storage = db.storage := by
  rw [changeFrame] at changed
  split at changed
  · cases changed
    rfl
  · cases changed

lemma storage_tryPlace {db later : Database} {heap : HeapFile} {record placed : Record}
    {id : FrameId} (tried : db.tryPlace txn heap record id = .ok (some (later, placed))) :
    later.storage = db.storage := by
  obtain ⟨slot, image, -, changed, -⟩ := changeFrame_of_tryPlace tried
  exact storage_changeFrame changed

lemma grows_usePage (db : Database) (aim : Aim) (id : FrameId) :
    (db.usePage txn level aim id).1.storage.Grows db.storage := by
  cases aim with
  | hand page mode => exact .refl _
  | probe heap record number remaining alreadyHeld =>
      rw [usePage]
      split
      · exact .refl _
      · exact .refl _
      · cases alreadyHeld <;> exact grows_nextProbe ..
  | claim heap record number remaining =>
      rw [usePage]
      split
      · exact .refl _
      · next tried =>
        rw [storage_tryPlace tried]
        exact .refl _
      · exact grows_nextProbe ..
  | fill heap record number =>
      rw [usePage]
      split
      · exact .refl _
      · next tried =>
        rw [storage_tryPlace tried]
        exact .refl _
      · exact .refl _
  | erase heap record =>
      rw [usePage]
      split
      · exact .refl _
      · exact .refl _
      · split
        · exact .refl _
        · next changed =>
          rw [storage_changeFrame changed]
          exact .refl _
  | collect heap number remaining found =>
      rw [usePage]
      split
      · exact .refl _
      · split <;> exact .refl _

/-- A move of an operation shrinks no file. -/
theorem grows_step (db : Database) (operation : Operation) :
    (db.step operation).1.storage.Grows db.storage := by
  cases operation with
  | fetching txn level aim stage =>
      cases stage with
      | lock waited => exact grows_lockPage ..
      | read =>
          have grown := db.grows_loadPage aim.page
          rw [step]
          split
          · next loaded => rw [loaded] at grown; exact grown
          · next loaded => rw [loaded] at grown; exact grown
      | enter image =>
          have grown := db.grows_enterPage aim.page image
          rw [step]
          split
          · next entered => rw [entered] at grown; exact grown
          · next entered => rw [entered] at grown; exact grown
      | use id => exact grows_usePage ..
  | reporting txn change pages =>
      cases pages with
      | nil => exact .refl _
      | cons id rest =>
          have grown := db.grows_markDirty txn id
          rw [step]
          split
          · next marked => rw [marked] at grown; exact grown
          · next marked => rw [marked] at grown; exact grown

/-! ### Calls -/

lemma grows_changeEach (store : Store) (change : Image → Image) (pages : List PageId)
    (db : Database) : (db.changeEach store change pages).1.storage.Grows db.storage := by
  induction pages generalizing db with
  | nil => exact .refl _
  | cons page rest ih =>
      have grown := db.grows_readPage store page
      rw [changeEach]
      split
      · next read => rw [read] at grown; exact grown
      · next read =>
        rw [read] at grown
        dsimp only
        split
        · next changed =>
          have same := congrArg (fun result => result.1.storage) changed
          exact (same ▸ ih _).trans grown
        · next changed =>
          have same := congrArg (fun result => result.1.storage) changed
          exact (same ▸ ih _).trans grown

lemma grows_startInsertRecord (db : Database) (txn : TxnId) (table : TableId) (record : Record) :
    (db.startInsertRecord txn table record).1.storage.Grows db.storage := by
  rw [startInsertRecord]
  split
  · next store _ =>
    cases store with
    | heap heap =>
        simp only [startInsert]
        split
        · exact grows_nextProbe ..
        · exact .refl _
    | memory table id =>
        simp only [startInsert]
        split
        · next changed =>
          have grown := congrArg (fun result => result.1.storage) changed
          exact grown ▸ grows_changeEach ..
        · next changed =>
          have grown := congrArg (fun result => result.1.storage) changed
          exact grown ▸ grows_changeEach ..
  · exact .refl _

lemma grows_startDeleteRecord (db : Database) (txn : TxnId) (record : Record) :
    (db.startDeleteRecord txn record).1.storage.Grows db.storage := by
  rw [startDeleteRecord]
  split
  · exact .refl _
  · split
    · next store _ =>
      cases store with
      | heap heap =>
          simp only [startDelete]
          split
          · exact .refl _
          · split <;> exact .refl _
      | memory table id =>
          simp only [startDelete]
          split
          · next changed =>
            have grown := congrArg (fun result => result.1.storage) changed
            exact grown ▸ grows_changeEach ..
          · next changed =>
            have grown := congrArg (fun result => result.1.storage) changed
            exact grown ▸ grows_changeEach ..
    · exact .refl _

/-- The start of an operation shrinks no file. -/
theorem grows_start (db : Database) (txn : TxnId) (call : Call) :
    (db.start txn call).1.storage.Grows db.storage := by
  cases call with
  | fetch page mode => exact .refl _
  | insert table record => exact grows_startInsertRecord ..
  | delete record => exact grows_startDeleteRecord ..
  | scan heap =>
      rw [start, startScan]
      split <;> exact .refl _

/-! ### Maintenance and completion -/

lemma grows_flushPage (db : Database) (page : PageId) :
    (db.flushPage page).1.storage.Grows db.storage := by
  rw [flushPage]
  split
  · exact grows_flush ..
  · exact .refl _

lemma grows_flushEach (db : Database) (pages : List PageId) :
    (db.flushEach pages).1.storage.Grows db.storage := by
  induction pages generalizing db with
  | nil => exact .refl _
  | cons page rest ih =>
      have grown := db.grows_flushPage page
      rw [flushEach]
      split
      · next flushed => rw [flushed] at grown; exact (ih _).trans grown
      · next flushed => rw [flushed] at grown; exact grown

lemma grows_commitPages (db : Database) (pages : List PageId) :
    (db.commitPages pages).1.storage.Grows db.storage := by
  induction pages generalizing db with
  | nil => exact .refl _
  | cons page rest ih =>
      rw [commitPages]
      split
      · exact ih db
      · next id _ =>
        have grown := db.grows_flush id
        split
        · next flushed => rw [flushed] at grown; exact grown
        · next flushed => rw [flushed] at grown; exact (ih _).trans grown

/-- The end of a transaction shrinks no file. -/
theorem grows_complete (db : Database) (txn : TxnId) (commit : Bool) :
    (db.complete txn commit).1.storage.Grows db.storage := by
  cases commit with
  | true => exact db.grows_commitPages (db.locks.heldPages txn)
  | false => exact .refl _

end Database

namespace System

open Storage

lemma storage_follow (s : System) (txn : TxnId) (call : Call) (move : Database × Progress) :
    (s.follow txn call move).db.storage = move.1.storage := by
  obtain ⟨db, running | parked | finished⟩ := move
  · rfl
  · rfl
  · rfl

lemma grows_maintain (s : System) (txn : TxnId) {change : Database → Database}
    (grown : ∀ db, (change db).storage.Grows db.storage) :
    (s.maintain txn change).db.storage.Grows s.db.storage := by
  rw [maintain]
  split
  · exact grown s.db
  · exact .refl _

/-- Whatever a transaction does shrinks no file. -/
theorem grows_act (s : System) (action : Action) :
    (s.act action).db.storage.Grows s.db.storage := by
  obtain ⟨txn, act⟩ := action
  cases act with
  | call call =>
      show (s.call txn call).db.storage.Grows s.db.storage
      rw [System.call]
      split
      · rw [storage_follow]
        exact Database.grows_start ..
      · exact .refl _
  | move =>
      show (s.move txn).db.storage.Grows s.db.storage
      rw [move]
      split
      · rw [storage_follow]
        exact Database.grows_step ..
      · exact .refl _
  | look =>
      show (s.look txn).db.storage.Grows s.db.storage
      rw [look]
      split <;> exact .refl _
  | overwrite image =>
      show (s.overwrite txn image).db.storage.Grows s.db.storage
      rw [overwrite]
      split
      · split <;> exact .refl _
      · exact .refl _
  | report =>
      show (s.report txn).db.storage.Grows s.db.storage
      rw [report]
      split
      · next id _ =>
        have grown := s.db.grows_markDirty txn id
        split
        · next marked => rw [marked] at grown; exact grown
        · next marked => rw [marked] at grown; exact grown
      · exact .refl _
  | complete commit =>
      show (s.complete txn commit).db.storage.Grows s.db.storage
      have grown := s.db.grows_complete txn commit
      rw [complete]
      split
      · split
        · next ended => rw [ended] at grown; exact grown
        · next ended => rw [ended] at grown; exact grown
      · exact .refl _
  | release page => exact grows_maintain s txn fun db => .refl _
  | flushPage page => exact grows_maintain s txn fun db => db.grows_flushPage page
  | flushHeld => exact grows_maintain s txn fun db => db.grows_flushEach _
  | flushAll => exact grows_maintain s txn fun db => db.grows_flushEach _
  | discard page => exact grows_maintain s txn fun db => .refl _

/-- A run shrinks no file. -/
theorem grows_run (s : System) (actions : List Action) :
    (s.run actions).db.storage.Grows s.db.storage := by
  induction actions generalizing s with
  | nil => exact .refl _
  | cons action rest ih => exact (ih (s.act action)).trans (s.grows_act action)

end System

end PageTxn
