import PageTxn.Proofs.Records
import PageTxn.Proofs.Workload

/-!
No data make a step a fault.

* `Storage.Sized`, `Cache.Sized` and `Database.Sized` say that every image has the length of a
  page and that the heap files were opened under this page size. What the bytes of the files are,
  and how many there are, does not matter.
* `Database.Fares` says that a move keeps the lengths, and that it does not end in a fault;
  `fares_step` and `fares_start` prove it of every move and every start of an operation.
* `Workload.faults` lists the faults that deeds meet, and `data_never_fault`: there are none.
-/

namespace PageTxn

/-! ### Faults -/

/-- The fault that was met, if it was one. -/
def Failure.fault? : Failure → Option Fault
  | .fault cause => some cause
  | .error _ => none

/-- The fault in which something ended. -/
def faultIn? {α : Type} : Except Failure α → Option Fault
  | .error failure => failure.fault?
  | .ok _ => none

/-- The fault in which an operation ended. -/
def Outcome.fault? : Outcome → Option Fault
  | fetched result => faultIn? result
  | inserted result _ => faultIn? result
  | deleted result => faultIn? result
  | scanned result => faultIn? result

/-- The fault in which an operation ended, if it has ended. -/
def Progress.fault? : Progress → Option Fault
  | finished outcome => outcome.fault?
  | _ => none

lemma Level.fault?_failedInsert (level : Level) (record : Record) (failure : Failure) :
    (level.failedInsert record failure).fault? = failure.fault? := by
  cases level <;> cases failure <;> rfl

lemma Aim.fault?_failed (aim : Aim) (level : Level) (failure : Failure) :
    (aim.failed level failure).fault? = failure.fault? := by
  cases aim <;> first | rfl | exact level.fault?_failedInsert _ failure

lemma Change.fault?_succeeded (change : Change) : change.succeeded.fault? = none := by
  cases change <;> rfl

lemma Change.fault?_failed (change : Change) (failure : Failure) :
    (change.failed failure).fault? = failure.fault? := by
  cases change with
  | insertion record pages => exact Level.database.fault?_failedInsert record failure
  | deletion pages => rfl

/-! ### Lengths -/

/-- The layout of the file was computed for this page size. -/
def HeapFile.OpenedUnder (heap : HeapFile) (size : PageSize) : Prop :=
  layoutFor size heap.layout.recordSize = .ok heap.layout

/-- The store has no layout, or one for this page size. -/
def Store.OpenedUnder (size : PageSize) : Store → Prop
  | heap file => file.OpenedUnder size
  | memory .. => True

/-- The heap files were opened under the page size, and pages in memory have its length. Nothing
is said of the bytes of the files. -/
structure Storage.Sized (size : PageSize) (storage : Storage) : Prop where
  pageSize : storage.pageSize = size
  opened : storage.Opened
  memory : ∀ (id : MemoryId) (number : Nat) (image : Image),
    (storage.memory id).pages[number]? = some image → image.size = size.bytes

/-- All page objects have the length of a page. -/
def Cache.Sized (size : PageSize) (cache : Cache) : Prop :=
  ∀ id < cache.nextFrame, (cache.frame id).live.size = size.bytes

/-- All images have the length of a page. -/
structure Database.Sized (size : PageSize) (db : Database) : Prop where
  storage : db.storage.Sized size
  cache : db.cache.Sized size
  exact : db.cache.Exact

/-- Files were opened under the page size, and what an insert writes has the length of a
record. -/
def Aim.Sized (size : PageSize) : Aim → Prop
  | hand .. => True
  | probe heap record .. | claim heap record .. | fill heap record _ =>
      heap.OpenedUnder size ∧ record.data.size = heap.layout.recordSize
  | erase heap _ | collect heap .. => heap.OpenedUnder size

/-- A page that was read has the length of a page. -/
def Stage.Sized (size : PageSize) : Stage → Prop
  | enter image => image.size = size.bytes
  | _ => True

def Operation.Sized (size : PageSize) : Operation → Prop
  | fetching _ _ aim stage => aim.Sized size ∧ stage.Sized size
  | reporting .. => True

/-- The operation goes on with images of the length of a page, or it has not ended in a fault. -/
def Progress.Sized (size : PageSize) : Progress → Prop
  | running operation | parked operation => operation.Sized size
  | finished outcome => outcome.fault? = none

/-- A file that is scanned was opened under the page size. -/
def Call.Sized (size : PageSize) : Call → Prop
  | scan heap => heap.OpenedUnder size
  | _ => True

/-- Page objects are made of images of the length of a page, and overwritten with such; the stores
that are worked on were opened under the page size. -/
def Deed.Sized (size : PageSize) : Deed → Prop
  | call _ request => request.Sized size
  | insertInto _ store _ | deleteFrom _ store _ => store.OpenedUnder size
  | make _ image | overwrite _ image => image.size = size.bytes
  | outside storage => storage.Sized size
  | _ => True

variable {size : PageSize}

/-! ### Stores -/

namespace Storage.Sized

variable {storage : Storage} (sized : storage.Sized size)
include sized

/-- Whatever store a table has, it was opened under the page size. -/
lemma store {table : TableId} {store : Store} (named : storage.storeOf table = .ok store) :
    store.OpenedUnder size := by
  cases store with
  | memory name id => trivial
  | heap heap =>
      have opened := sized.opened table heap (catalog_of_storeOf named)
      rwa [sized.pageSize] at opened

lemma setMemory {memory : MemoryStore} (id : MemoryId)
    (whole : ∀ (number : Nat) (image : Image), memory.pages[number]? = some image →
      image.size = size.bytes) : (storage.setMemory id memory).Sized size where
  pageSize := sized.pageSize
  opened := sized.opened
  memory other number image found := by
    rw [memory_setMemory] at found
    split at found
    · exact whole number image found
    · exact sized.memory other number image found

/-- Whatever the bytes of a file are, what is read has the length of a page. -/
lemma readPage (store : Store) (page : PageId) :
    (storage.readPage store page).1.Sized size ∧
      ∀ image race, (storage.readPage store page).2 = .ok (image, race) →
        image.size = size.bytes := by
  cases store with
  | heap heap =>
      refine ⟨sized, fun image race read => ?_⟩
      rw [Storage.readPage_heap] at read
      split at read
      · next found =>
        cases read
        rw [PageFile.size_of_read? found, sized.pageSize]
      · cases read
  | memory table id =>
      have pages := sized.memory id
      simp only [Storage.readPage, MemoryStore.readPage]
      split
      · exact ⟨sized.setMemory id pages, fun image race read => by cases read⟩
      · split
        · next found =>
          refine ⟨sized.setMemory id pages, fun image race read => ?_⟩
          cases read
          exact pages _ _ found
        · exact ⟨sized.setMemory id pages, fun image race read => by cases read⟩

lemma writePage (store : Store) (page : PageId) {image : Image}
    (whole : image.size = size.bytes) : (storage.writePage store page image).1.Sized size := by
  cases store with
  | heap heap =>
      rw [Storage.writePage]
      split
      · exact ⟨sized.pageSize, sized.opened, sized.memory⟩
      · exact sized
  | memory table id =>
      have pages := sized.memory id
      simp only [Storage.writePage, MemoryStore.writePage]
      split
      · exact sized.setMemory id pages
      · refine sized.setMemory id fun number other found => ?_
        rw [Std.ExtTreeMap.getElem?_insert] at found
        split at found
        · cases found
          exact whole
        · exact pages number other found

/-- A page is appended wherever the file ends. -/
lemma appendPage (heap : HeapFile) : (storage.appendPage heap).2.Sized size :=
  ⟨sized.pageSize, sized.opened, sized.memory⟩

end Storage.Sized

/-! ### The cache -/

namespace Cache.Sized

variable {cache later : Cache} {txn : TxnId} {id : FrameId} {frame : Frame}

lemma of_shrinks (shrinks : later.Shrinks cache) (sized : cache.Sized size) :
    later.Sized size := by
  intro id made
  rw [shrinks.frame]
  exact sized id (shrinks.nextFrame ▸ made)

lemma setFrame (sized : cache.Sized size) (whole : frame.live.size = size.bytes) :
    (cache.setFrame id frame).Sized size := by
  intro other made
  rw [frame_setFrame]
  split
  · exact whole
  · exact sized other made

/-- A change of a page object that keeps its length. -/
lemma updateFrame (sized : cache.Sized size) {change : Frame → Frame}
    (same : ∀ frame, (change frame).live.size = frame.live.size) :
    (cache.updateFrame id change).Sized size := by
  intro other made
  rw [frame_updateFrame]
  split
  · next here =>
    subst here
    rw [same]
    exact sized id made
  · exact sized other made

lemma newFrame (sized : cache.Sized size) (whole : frame.live.size = size.bytes) :
    (cache.newFrame frame).2.Sized size := by
  intro other made
  rw [frame_newFrame]
  split
  · exact whole
  · next apart => exact sized other (Nat.lt_of_le_of_ne (Nat.le_of_lt_succ made) (Ne.symm apart))

/-- To report a page object is no fault: it has the length of the resident one. -/
lemma markDirty (sized : cache.Sized size) (orderly : cache.Orderly) (made : id < cache.nextFrame)
    (txn : TxnId) :
    (cache.markDirty txn id).1.Sized size ∧ faultIn? (cache.markDirty txn id).2 = none := by
  rw [Cache.markDirty]
  split
  · next resident there =>
    have whole := sized id made
    have same : (cache.frame id).live.size = (cache.frame resident).live.size := by
      rw [whole, sized resident (orderly.made _ _ there)]
    rw [Frame.copyFrom?_of_size same]
    exact ⟨sized.setFrame whole, rfl⟩
  · have shrinks := cache.shrinks_makeRoom
    split
    · next roomy room =>
      rw [room] at shrinks
      have marked : (roomy.updateFrame id fun frame => frame.mark txn).Sized size :=
        (sized.of_shrinks shrinks).updateFrame fun frame => rfl
      exact ⟨marked, rfl⟩
    · next full error room =>
      rw [room] at shrinks
      exact ⟨sized.of_shrinks shrinks, rfl⟩

/-- A before-image has the length of its page. -/
lemma rollbackEach (sized : cache.Sized size) (txn : TxnId) (pages : List PageId) :
    (cache.rollbackEach txn pages).Sized size := by
  induction pages generalizing cache with
  | nil => exact sized
  | cons page rest ih =>
      refine ih ?_
      rw [rollback]
      split
      · split
        · exact sized.updateFrame fun frame => frame.same_size
        · exact sized
      · exact sized

end Cache.Sized

/-! ### The database -/

namespace Database

open Cache

/-- A page was read and has the length of a page, or the store refused. -/
def Yields (size : PageSize) : Except Failure Image → Prop
  | .ok image => image.size = size.bytes
  | .error failure => failure.fault? = none

/-- The lengths are kept, and the operation has not ended in a fault. -/
structure Fares (size : PageSize) (moved : Database × Progress) : Prop where
  sized : moved.1.Sized size
  next : moved.2.Sized size

variable {db : Database} {txn : TxnId} {level : Level} {id : FrameId} {page : PageId}

namespace Sized

variable (sized : db.Sized size)
include sized

/-- The locks have no lengths, and the counters neither. -/
lemma of_stats (locks : LockManager) (stats : CacheStats) :
    { db with locks, cache := { db.cache with stats } }.Sized size :=
  ⟨sized.storage, sized.cache, (Advances.of_stats db.cache stats).exact sized.exact⟩

/-! #### Reporting, reading and entering pages -/

lemma markDirty (made : id < db.cache.nextFrame) (txn : TxnId) :
    (db.markDirty txn id).1.Sized size ∧ faultIn? (db.markDirty txn id).2 = none := by
  obtain ⟨kept, clean⟩ := sized.cache.markDirty sized.exact.toOrderly made txn
  exact ⟨⟨sized.storage, kept, (advances_markDirty made).exact sized.exact⟩, clean⟩

lemma readPage (store : Store) (page : PageId) :
    (db.readPage store page).1.Sized size ∧ Yields size (db.readPage store page).2 := by
  obtain ⟨kept, whole⟩ := sized.storage.readPage store page
  rw [Database.readPage]
  split
  · next storage error read =>
    rw [read] at kept
    exact ⟨⟨kept, sized.cache, sized.exact⟩, rfl⟩
  · next storage image read =>
    rw [read] at kept whole
    exact ⟨⟨kept, sized.cache, sized.exact⟩, whole image none rfl⟩
  · next storage image other read =>
    rw [read] at kept whole
    have length := whole image (some other) rfl
    have fresh : { db with cache := (db.cache.newFrame (.ofImage page image)).2 }.Sized size :=
      ⟨sized.storage, sized.cache.newFrame length, (Advances.newFrame _ _).exact sized.exact⟩
    have marked := fresh.markDirty (Nat.lt_succ_self _) other
    simp only [Cache.newFrame, Database.markDirty] at marked ⊢
    split
    · next cache fault done =>
      rw [done] at marked
      cases marked.2
    · next cache result done =>
      rw [done] at marked
      exact ⟨⟨kept, marked.1.cache, marked.1.exact⟩, length⟩

lemma loadPage (page : PageId) :
    (db.loadPage page).1.Sized size ∧ Yields size (db.loadPage page).2 := by
  rw [Database.loadPage]
  split
  · exact ⟨sized, rfl⟩
  · next store named =>
    obtain ⟨kept, yields⟩ := sized.readPage store page
    split
    · next middle image read =>
      rw [read] at kept yields
      exact ⟨kept.of_stats _ _, yields⟩
    · next middle failure read =>
      rw [read] at kept yields
      exact ⟨kept, yields⟩

lemma enterPage (page : PageId) {image : Image} (whole : image.size = size.bytes) :
    (db.enterPage page image).1.Sized size := by
  have advances := db.advances_enterPage page image
  refine ⟨?_, ?_, advances.exact sized.exact⟩
  · rw [Database.enterPage]
    split
    · exact sized.storage
    · split <;> exact sized.storage
  · have shrinks := db.cache.shrinks_makeRoom
    rw [Database.enterPage]
    split
    · exact sized.cache
    · split
      · next full error room =>
        rw [room] at shrinks
        exact sized.cache.of_shrinks shrinks
      · next roomy room =>
        rw [room] at shrinks
        exact (sized.cache.of_shrinks shrinks).newFrame whole

/-! #### Flushing and ending -/

lemma flush (made : id < db.cache.nextFrame) : (db.flush id).1.Sized size := by
  rw [Database.flush]
  split
  · split
    · exact sized
    · next store named =>
      have kept := sized.storage.writePage store (db.cache.frame id).page (sized.cache id made)
      split
      · next storage error written =>
        rw [written] at kept
        exact ⟨kept, sized.cache, sized.exact⟩
      · next storage written =>
        rw [written] at kept
        have cleaned : (db.cache.updateFrame id Frame.clean).Advances db.cache := .setFrame rfl
        exact ⟨kept, sized.cache.updateFrame fun frame => rfl,
          ((Advances.of_stats _ _).trans cleaned).exact sized.exact⟩
  · exact sized

lemma flushPage (page : PageId) : (db.flushPage page).1.Sized size := by
  rw [Database.flushPage]
  split
  · next id there => exact sized.flush (sized.exact.made _ _ there)
  · exact sized

omit sized in
lemma flushEach (sized : db.Sized size) (pages : List PageId) :
    (db.flushEach pages).1.Sized size := by
  induction pages generalizing db with
  | nil => exact sized
  | cons page rest ih =>
      have first := sized.flushPage page
      rw [Database.flushEach]
      split
      · next flushed =>
        rw [flushed] at first
        exact ih first
      · next flushed =>
        rw [flushed] at first
        exact first

omit sized in
lemma commitPages (sized : db.Sized size) (pages : List PageId) :
    (db.commitPages pages).1.Sized size := by
  induction pages generalizing db with
  | nil => exact sized
  | cons page rest ih =>
      rw [Database.commitPages]
      split
      · exact ih sized
      · next id there =>
        have first := sized.flush (sized.exact.made _ _ there)
        split
        · next flushed =>
          rw [flushed] at first
          exact first
        · next later flushed =>
          rw [flushed] at first
          have refreshed : (later.cache.updateFrame id Frame.refresh).Advances later.cache :=
            .setFrame rfl
          exact ih ⟨first.storage, first.cache.updateFrame fun frame => rfl,
            refreshed.exact first.exact⟩

lemma complete (txn : TxnId) (commit : Bool) : (db.complete txn commit).1.Sized size := by
  have exact_later := (db.advances_complete txn commit).exact sized.exact
  cases commit with
  | true =>
      have kept := sized.commitPages (db.locks.heldPages txn)
      exact ⟨kept.storage, kept.cache, exact_later⟩
  | false => exact ⟨sized.storage, sized.cache.rollbackEach _ _, exact_later⟩

/-! #### Using pages -/

lemma changeFrame (made : id < db.cache.nextFrame) (txn : TxnId) {image : Image}
    (whole : image.size = size.bytes) :
    ∃ later, db.changeFrame txn id image = .ok later ∧ later.Sized size := by
  have same : image.size = (db.cache.frame id).live.size := by rw [whole, sized.cache id made]
  have same_page := Frame.page_of_copyFrom? (Frame.copyFrom?_of_size same)
  rw [Database.changeFrame, Frame.copyFrom?_of_size same]
  refine ⟨_, rfl, sized.storage, sized.cache.setFrame whole, ?_⟩
  exact Advances.exact (.setFrame same_page) sized.exact

/-- A layout for the page size fits every page object. -/
lemma fits (made : id < db.cache.nextFrame) {heap : HeapFile} (opened : heap.OpenedUnder size) :
    heap.layout.Fits (db.cache.frame id).live.size := by
  rw [sized.cache id made]
  exact SlotLayout.fits_of_layoutFor opened

/-- A record of the right size is placed, or the page is full. -/
lemma tryPlace (made : id < db.cache.nextFrame) (txn : TxnId) {heap : HeapFile}
    (opened : heap.OpenedUnder size) {record : Record}
    (whole : record.data.size = heap.layout.recordSize) :
    db.tryPlace txn heap record id = .ok none ∨
      ∃ later placed, db.tryPlace txn heap record id = .ok (some (later, placed)) ∧
        later.Sized size := by
  rcases exists_tryPlace (sized.fits made opened) whole txn with
    ⟨-, full⟩ | ⟨later, image, placed, same, changed, done⟩
  · exact .inl full
  · obtain ⟨kept, changed', sized'⟩ :=
      sized.changeFrame made txn (same.trans (sized.cache id made))
    cases changed.symm.trans changed'
    exact .inr ⟨later, placed, done, sized'⟩

lemma nextProbe {heap : HeapFile} (opened : heap.OpenedUnder size) {record : Record}
    (whole : record.data.size = heap.layout.recordSize) (txn : TxnId) (level : Level)
    (number remaining : Nat) :
    Fares size (db.nextProbe txn level heap record number remaining) := by
  cases remaining with
  | zero =>
      exact ⟨⟨sized.storage.appendPage heap, sized.cache, sized.exact⟩, ⟨opened, whole⟩, trivial⟩
  | succ remaining => exact ⟨sized, ⟨opened, whole⟩, trivial⟩

/-- What was changed is reported, or the operation ends. -/
lemma next (change : Change) (txn : TxnId) (level : Level) :
    Fares size (db, change.next txn level) := by
  cases level with
  | store => exact ⟨sized, change.fault?_succeeded⟩
  | database => exact ⟨sized, trivial⟩

lemma lockPage {aim : Aim} (fitting : aim.Sized size) (txn : TxnId) (level : Level)
    (waited : Bool) : Fares size (db.lockPage txn level aim waited) := by
  have clean : (aim.failed level (Error.deadlock txn)).fault? = none := aim.fault?_failed level _
  rw [Database.lockPage]
  split
  · split <;> exact ⟨sized.of_stats _ _, fitting, trivial⟩
  · exact ⟨sized.of_stats _ _, clean⟩
  · exact ⟨sized.of_stats _ _, fitting, trivial⟩

/-- A page at hand can be used whatever its bytes are. -/
lemma usePage {aim : Aim} (fitting : aim.Sized size) (made : id < db.cache.nextFrame)
    (txn : TxnId) (level : Level) : Fares size (db.usePage txn level aim id) := by
  cases aim with
  | hand page mode => exact ⟨sized, rfl⟩
  | probe heap record number remaining alreadyHeld =>
      obtain ⟨opened, whole⟩ := fitting
      obtain ⟨found, free⟩ := SlotLayout.exists_firstFree (sized.fits made opened)
      simp only [Database.usePage, free]
      cases found with
      | some slot => exact ⟨sized, ⟨opened, whole⟩, trivial⟩
      | none =>
          cases alreadyHeld with
          | true => exact sized.nextProbe opened whole ..
          | false =>
              have released : (db.release txn (heap.page number)).Sized size :=
                ⟨sized.storage, sized.cache, sized.exact⟩
              exact released.nextProbe opened whole ..
  | claim heap record number remaining =>
      obtain ⟨opened, whole⟩ := fitting
      rcases sized.tryPlace made txn opened whole with full | ⟨later, placed, done, kept⟩
      · simp only [Database.usePage, full]
        exact sized.nextProbe opened whole ..
      · simp only [Database.usePage, done]
        exact kept.next _ txn level
  | fill heap record number =>
      obtain ⟨opened, whole⟩ := fitting
      rcases sized.tryPlace made txn opened whole with full | ⟨later, placed, done, kept⟩
      · simp only [Database.usePage, full]
        exact ⟨sized, Aim.fault?_failed _ level _⟩
      · simp only [Database.usePage, done]
        exact kept.next _ txn level
  | erase heap record =>
      obtain ⟨found, cleared⟩ := SlotLayout.exists_clear (sized.fits made fitting) record.slot
      simp only [Database.usePage, cleared]
      cases found with
      | none => exact ⟨sized, rfl⟩
      | some image =>
          have length : image.size = size.bytes := by
            rw [SlotLayout.size_of_clear? cleared, sized.cache id made]
          obtain ⟨later, changed, kept⟩ := sized.changeFrame made txn length
          simp only [changed]
          exact kept.next _ txn level
  | collect heap number remaining found =>
      simp only [Database.usePage, SlotLayout.contents?_eq (sized.fits made fitting)]
      cases remaining with
      | zero => exact ⟨sized, rfl⟩
      | succ remaining => exact ⟨sized, fitting, trivial⟩

end Sized

/-- No move of an operation ends in a fault. -/
theorem fares_step (sized : db.Sized size) {operation : Operation}
    (fitting : operation.Sized size) (made : operation.Made db.cache.nextFrame) :
    Fares size (db.step operation) := by
  cases operation with
  | fetching txn level aim stage =>
      obtain ⟨aims, whole⟩ := fitting
      cases stage with
      | lock waited => exact sized.lockPage aims txn level waited
      | use id => exact sized.usePage aims made txn level
      | read =>
          obtain ⟨kept, yields⟩ := sized.loadPage aim.page
          rw [step]
          split
          · next later image loaded =>
            rw [loaded] at kept yields
            exact ⟨kept, aims, yields⟩
          · next later failure loaded =>
            rw [loaded] at kept yields
            exact ⟨kept, (aim.fault?_failed level failure).trans yields⟩
      | enter image =>
          have kept := sized.enterPage aim.page whole
          rw [step]
          split
          · next entered =>
            rw [entered] at kept
            exact ⟨kept, aims, trivial⟩
          · next later error entered =>
            rw [entered] at kept
            exact ⟨kept, aim.fault?_failed level error⟩
  | reporting txn change pages =>
      cases pages with
      | nil => exact ⟨sized, change.fault?_succeeded⟩
      | cons id rest =>
          obtain ⟨kept, clean⟩ := sized.markDirty (made id List.mem_cons_self) txn
          rw [step]
          split
          · next marked =>
            rw [marked] at kept
            exact ⟨kept, trivial⟩
          · next later failure marked =>
            rw [marked] at kept clean
            exact ⟨kept, (change.fault?_failed failure).trans clean⟩

/-! #### Starts of operations -/

namespace Sized

/-- What a memory store changes keeps the length of its pages. -/
lemma changeEach (sized : db.Sized size) (store : Store) {change : Image → Image}
    (same : ∀ image, (change image).size = image.size) (pages : List PageId) :
    (db.changeEach store change pages).1.Sized size ∧
      faultIn? (db.changeEach store change pages).2 = none := by
  induction pages generalizing db with
  | nil => exact ⟨sized, rfl⟩
  | cons page rest ih =>
      obtain ⟨kept, yields⟩ := sized.readPage store page
      rw [Database.changeEach]
      split
      · next middle failure read =>
        rw [read] at kept yields
        exact ⟨kept, yields⟩
      · next middle image read =>
        rw [read] at kept yields
        have entered : Sized size { middle with
            cache := (middle.cache.newFrame (.ofImage page (change image))).2 } :=
          ⟨kept.storage, kept.cache.newFrame ((same image).trans yields),
            (Advances.newFrame _ _).exact kept.exact⟩
        have fresh := ih entered
        simp only [Cache.newFrame] at fresh ⊢
        split
        · next changed =>
          rw [changed] at fresh
          exact fresh
        · next changed =>
          rw [changed] at fresh
          exact ⟨fresh.1, rfl⟩

variable (sized : db.Sized size)
include sized

lemma changeTargets (table : TableId) (id : MemoryId) {change : Image → Image}
    (same : ∀ image, (change image).size = image.size) :
    (db.changeTargets table id change).1.Sized size ∧
      faultIn? (db.changeTargets table id change).2 = none :=
  sized.changeEach _ same _

lemma startInsert {store : Store} (opened : store.OpenedUnder size) (record : Record)
    (txn : TxnId) (level : Level) : Fares size (db.startInsert txn level store record) := by
  cases store with
  | heap heap =>
      simp only [Database.startInsert]
      split
      · next whole => exact sized.nextProbe opened whole ..
      · exact ⟨sized, level.fault?_failedInsert record _⟩
  | memory table id =>
      have same : ∀ image : Image, (image.splice 0
          ((record.placed (db.storage.memory id).place).data.extract 0 image.size)).size =
            image.size :=
        fun image => Image.size_splice (by rw [Array.size_extract]; omega)
      obtain ⟨kept, clean⟩ := sized.changeTargets table id same
      simp only [Database.startInsert]
      split
      · next changed =>
        rw [changed] at kept
        exact kept.next _ txn level
      · next failure changed =>
        rw [changed] at kept clean
        exact ⟨kept, (level.fault?_failedInsert _ failure).trans clean⟩

lemma startDelete {store : Store} (opened : store.OpenedUnder size) (record : Record)
    (txn : TxnId) (level : Level) : Fares size (db.startDelete txn level store record) := by
  cases store with
  | heap heap =>
      simp only [Database.startDelete]
      split
      · exact ⟨sized, rfl⟩
      · split
        · exact ⟨sized, opened, trivial⟩
        · exact ⟨sized, rfl⟩
  | memory table id =>
      obtain ⟨kept, clean⟩ := sized.changeTargets table id fun image =>
        Image.size_zeros image.size
      simp only [Database.startDelete]
      split
      · next changed =>
        rw [changed] at kept
        exact kept.next _ txn level
      · next changed =>
        rw [changed] at kept clean
        exact ⟨kept, clean⟩

end Sized

/-- No start of an operation ends in a fault. -/
theorem fares_start (sized : db.Sized size) {call : Call} (fitting : call.Sized size)
    (txn : TxnId) : Fares size (db.start txn call) := by
  cases call with
  | fetch page mode => exact ⟨sized, trivial, trivial⟩
  | insert table record =>
      rw [start, startInsertRecord]
      split
      · next store named => exact sized.startInsert (sized.storage.store named) ..
      · exact ⟨sized, rfl⟩
  | delete record =>
      rw [start, startDeleteRecord]
      split
      · exact ⟨sized, rfl⟩
      · split
        · next store named => exact sized.startDelete (sized.storage.store named) ..
        · exact ⟨sized, rfl⟩
  | scan heap =>
      rw [start, startScan]
      split
      · exact ⟨sized, rfl⟩
      · exact ⟨sized, fitting, trivial⟩

end Database

/-! ### Workloads -/

namespace Workload

variable {w : Workload} {capacity place : Nat}

/-- The fault that is met with the next deed. -/
def fault? (w : Workload) : Deed → Option Fault
  | .call txn call => (w.db.start txn call).2.fault?
  | .insertInto txn store record => (w.db.startInsert txn .store store record).2.fault?
  | .deleteFrom txn store record => (w.db.startDelete txn .store store record).2.fault?
  | .move place => w.running[place]?.bind fun operation => (w.db.step operation).2.fault?
  | .overwrite id image =>
      if id < w.db.cache.nextFrame then
        match (w.db.cache.frame id).copyFrom? image with
        | .ok _ => none
        | .error fault => some fault
      else none
  | .markDirty txn id =>
      if id < w.db.cache.nextFrame then faultIn? (w.db.markDirty txn id).2 else none
  | _ => none

/-- The faults that are met while the deeds are done. -/
def faults (w : Workload) : List Deed → List Fault
  | [] => []
  | deed :: rest => (w.fault? deed).toList ++ (w.act deed).faults rest

/-- All images have the length of a page, also those that the operations in progress have read. -/
structure Sized (size : PageSize) (w : Workload) : Prop where
  db : w.db.Sized size
  running : ∀ operation ∈ w.running, operation.Sized size

namespace Sized

variable (sized : w.Sized size)
include sized

lemma begin {moved : Database × Progress} (fares : Database.Fares size moved) :
    (w.begin moved).Sized size := by
  obtain ⟨db, progress⟩ := moved
  have added : ∀ operation : Operation, operation.Sized size →
      { w with db, running := w.running ++ [operation] }.Sized size := by
    intro operation fitting
    refine ⟨fares.sized, fun other inside => ?_⟩
    rcases List.mem_append.mp inside with before | last
    · exact sized.running other before
    · rw [List.mem_singleton.mp last]
      exact fitting
  cases progress with
  | running operation => exact added operation fares.next
  | parked operation => exact added operation fares.next
  | finished outcome => exact ⟨fares.sized, sized.running⟩

lemma proceed {moved : Database × Progress} (fares : Database.Fares size moved) :
    (w.proceed place moved).Sized size := by
  obtain ⟨db, progress⟩ := moved
  have replaced : ∀ operation : Operation, operation.Sized size →
      { w with db, running := w.running.set place operation }.Sized size := by
    intro operation fitting
    refine ⟨fares.sized, fun other inside => ?_⟩
    rcases List.mem_or_eq_of_mem_set inside with before | rfl
    · exact sized.running other before
    · exact fitting
  cases progress with
  | running operation => exact replaced operation fares.next
  | parked operation => exact replaced operation fares.next
  | finished outcome =>
      exact ⟨fares.sized, fun other inside => sized.running other (List.mem_of_mem_eraseIdx inside)⟩

end Sized

/-- A start or a move that fares well meets no fault. -/
lemma fault?_of_fares {moved : Database × Progress} (fares : Database.Fares size moved) :
    moved.2.fault? = none := by
  obtain ⟨db, running | parked | outcome⟩ := moved
  · rfl
  · rfl
  · exact fares.next

/-- Whatever is done, the lengths are kept, and no fault is met. -/
theorem Sized.act (sized : w.Sized size) (sane : w.Sane capacity) {deed : Deed}
    (fitting : deed.Sized size) : (w.act deed).Sized size ∧ w.fault? deed = none := by
  have kept : ∀ {db : Database}, db.Sized size → { w with db }.Sized size :=
    fun later => ⟨later, sized.running⟩
  cases deed with
  | call txn call =>
      have fares := Database.fares_start sized.db fitting txn
      exact ⟨sized.begin fares, fault?_of_fares fares⟩
  | insertInto txn store record =>
      have fares := sized.db.startInsert fitting record txn .store
      exact ⟨sized.begin fares, fault?_of_fares fares⟩
  | deleteFrom txn store record =>
      have fares := sized.db.startDelete fitting record txn .store
      exact ⟨sized.begin fares, fault?_of_fares fares⟩
  | move place =>
      rw [Workload.act, fault?]
      cases there : w.running[place]? with
      | none => exact ⟨sized, rfl⟩
      | some operation =>
          have inside := List.mem_of_getElem? there
          have fares := Database.fares_step sized.db (sized.running operation inside)
            (sane.made operation inside)
          exact ⟨sized.proceed fares, fault?_of_fares fares⟩
  | make page image =>
      exact ⟨kept ⟨sized.db.storage, sized.db.cache.newFrame fitting,
        (Cache.Advances.newFrame _ _).exact sized.db.exact⟩, rfl⟩
  | overwrite id image =>
      rw [Workload.act, fault?]
      cases taken : (w.db.cache.frame id).copyFrom? image with
      | ok frame =>
          have whole : frame.live.size = size.bytes := by
            rw [Frame.copyFrom?] at taken
            split at taken
            · cases taken
              exact fitting
            · cases taken
          have same_page := Frame.page_of_copyFrom? taken
          exact ⟨kept ⟨sized.db.storage, sized.db.cache.setFrame whole,
            (Cache.Advances.setFrame same_page).exact sized.db.exact⟩, ite_self none⟩
      | error fault =>
          refine ⟨sized, if_neg fun made => ?_⟩
          -- an image of the length of a page is taken over
          have same : image.size = (w.db.cache.frame id).live.size := by
            rw [sized.db.cache id made]
            exact fitting
          rw [Frame.copyFrom?_of_size same] at taken
          cases taken
  | markDirty txn id =>
      rw [Workload.act, fault?]
      split
      · next made =>
        obtain ⟨marked, clean⟩ := sized.db.markDirty made txn
        exact ⟨kept marked, clean⟩
      · exact ⟨sized, rfl⟩
  | flushPage page => exact ⟨kept (sized.db.flushPage page), rfl⟩
  | flushHeld txn => exact ⟨kept (sized.db.flushEach _), rfl⟩
  | flushAll => exact ⟨kept (sized.db.flushEach _), rfl⟩
  | discard page =>
      have dropped : (w.db.cache.discard page).Sized size := by
        rw [Cache.discard]
        split <;> exact sized.db.cache
      exact ⟨kept ⟨sized.db.storage, dropped,
        (w.db.cache.advances_discard page).exact sized.db.exact⟩, rfl⟩
  | release txn page => exact ⟨kept ⟨sized.db.storage, sized.db.cache, sized.db.exact⟩, rfl⟩
  | complete txn commit => exact ⟨kept (sized.db.complete txn commit), rfl⟩
  | outside storage => exact ⟨kept ⟨fitting, sized.db.cache, sized.db.exact⟩, rfl⟩

/-- Whatever is done one after the other, the lengths are kept, and no fault is met. -/
theorem Sized.run (sized : w.Sized size) (sane : w.Sane capacity) {deeds : List Deed}
    (fitting : ∀ deed ∈ deeds, deed.Sized size) :
    (w.run deeds).Sized size ∧ w.faults deeds = [] := by
  induction deeds generalizing w with
  | nil => exact ⟨sized, rfl⟩
  | cons deed rest ih =>
      obtain ⟨kept, clean⟩ := sized.act sane (fitting deed List.mem_cons_self)
      obtain ⟨later, none_met⟩ := ih kept (sane.act deed) fun other inside =>
        fitting other (List.mem_cons_of_mem _ inside)
      exact ⟨later, by rw [faults, clean, none_met]; rfl⟩

/-- **No data make a step a fault.** The page size is fixed and the heap files were opened under
it. Whatever bytes the files hold and wherever they end, whatever records are inserted and
whichever are to be deleted: no fetch, insert, delete or scan, at none of its moves, no report of
a page object, no flush, discard, release or end reads or writes outside a page or copies an image
of another length. The stores may be changed from outside as long as that is so, and to append a
page is such a change. -/
theorem data_never_fault {size : PageSize} {storage : Storage} (sized : storage.Sized size)
    (capacity : Nat) (capacity_pos : 0 < capacity) (deeds : List Deed)
    (fitting : ∀ deed ∈ deeds, deed.Sized size) :
    (initial storage capacity capacity_pos).faults deeds = [] ∧
      ∀ heap : HeapFile,
        (((initial storage capacity capacity_pos).run deeds).db.storage.appendPage heap).2.Sized
          size := by
  have begins : (initial storage capacity capacity_pos).Sized size := by
    refine ⟨⟨sized, fun id made => absurd made (Nat.not_lt_zero id),
      Cache.exact_empty capacity capacity_pos⟩, fun operation inside => ?_⟩
    cases inside
  obtain ⟨later, clean⟩ := begins.run (sane_initial storage capacity capacity_pos) fitting
  exact ⟨clean, fun heap => later.db.storage.appendPage heap⟩

/-- A file that ends within a page. On its second page bits are set that belong to no slot. -/
def ragged : Storage :=
  { Storage.empty ⟨2, Nat.zero_lt_two⟩ with
    disk := Disk.empty.setBytes ["records"] #[255, 7, 254, 8, 3] }.register
      (.heap ⟨⟨1⟩, ⟨1, 1⟩, ["records"]⟩)

lemma sized_ragged : ragged.Sized ⟨2, by decide⟩ where
  pageSize := rfl
  opened table heap found := by
    rw [ragged, Storage.register, Std.ExtTreeMap.getElem?_insert] at found
    split at found
    · cases found
      rfl
    · simp [Storage.empty] at found
  memory id number image found := by
    simp [ragged, Storage.register, Storage.memory, Storage.empty, default, MemoryStore.zeroed]
      at found

/-- Records are inserted into a file that ends within a page, one of them of a wrong size, and
others are to be deleted from a page and from a slot that do not exist. The second insert has put
its page over the last byte of the file. -/
theorem data_never_fault_ragged :
    let deeds : List Deed :=
      .call ⟨1⟩ (.insert ⟨1⟩ (.ofData #[5])) :: List.replicate 12 (.move 0) ++
      .call ⟨1⟩ (.insert ⟨1⟩ (.ofData #[5, 5])) ::
      .call ⟨1⟩ (.insert ⟨1⟩ (.ofData #[6])) :: List.replicate 12 (.move 0) ++
      .call ⟨1⟩ (.delete ⟨some ⟨⟨⟨1⟩, 9⟩, 0⟩, #[]⟩) ::
      .call ⟨1⟩ (.delete ⟨some ⟨⟨⟨1⟩, 0⟩, 77⟩, #[]⟩) :: List.replicate 4 (.move 0) ++
      .call ⟨1⟩ (.scan ⟨⟨1⟩, ⟨1, 1⟩, ["records"]⟩) :: List.replicate 12 (.move 0) ++
      [.complete ⟨1⟩ true]
    let w := (initial ragged 2 (by decide)).run deeds
    w.returned.length = 6 ∧ w.db.storage.disk.bytes ["records"] = #[255, 7, 255, 5, 1, 6] ∧
      (initial ragged 2 (by decide)).faults deeds = [] := by
  intro deeds w
  have ended : w.returned.length = 6 := by decide +kernel
  have bytes : w.db.storage.disk.bytes ["records"] = #[255, 7, 255, 5, 1, 6] := by
    decide +kernel
  have fitting : ∀ deed ∈ deeds, deed.Sized ⟨2, by decide⟩ := by
    simp [deeds, Deed.Sized, Call.Sized, HeapFile.OpenedUnder, HeapFile.layoutFor,
      SlotLayout.ofSizes?]
  -- the run need not be evaluated again
  clear_value deeds
  exact ⟨ended, bytes, (data_never_fault sized_ragged 2 (by decide) deeds fitting).1⟩

end Workload

end PageTxn
