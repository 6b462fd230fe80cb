import PageTxn.Proofs.Contents
import PageTxn.Proofs.Flushing

/-!
Commits whose writes may be refused.

* `Database.commitUnless` is the commit of a transaction where any write may be turned away, and it
  also tells which pages the stores were asked to write. If no write is turned away it is
  `Database.complete` (`commitUnless_never`).
* `Storage.writeUnless_cases`: a write that is refused changes nothing, and one that is accepted
  changes the page that is written.
* `forceEach_ends`: pages are forced one after the other up to the first refusal. The pages before
  it are stored, and nothing else has changed.
* `refused_commit_stops_cleanly`: so a commit either forces all pages that its transaction holds, or
  stops at one of them. What is needed to undo this page and those behind it is still there.
-/

namespace PageTxn

/-- Pages are ordered by their tables, and within a table by their numbers. -/
def PageId.Precedes (page other : PageId) : Prop :=
  page.table.number < other.table.number ∨ page.table = other.table ∧ page.number < other.number

lemma PageId.precedes_of_compare {page other : PageId} (less : compare page other = .lt) :
    page.Precedes other := by
  rcases Ordering.then_eq_lt.mp less with tables | ⟨same, numbers⟩
  · exact .inl (Nat.compare_eq_lt.mp tables)
  · exact .inr ⟨Std.LawfulEqOrd.eq_of_compare same, Nat.compare_eq_lt.mp numbers⟩

/-- No page precedes another one that precedes it. -/
lemma PageId.Precedes.asymm {page other : PageId} (first : page.Precedes other) :
    ¬ other.Precedes page := by
  intro second
  rcases first with less | ⟨same, less⟩ <;> rcases second with less' | ⟨same', less'⟩
  · omega
  · rw [same'] at less
    exact absurd less (Nat.lt_irrefl _)
  · rw [same] at less'
    exact absurd less' (Nat.lt_irrefl _)
  · omega

/-- The pages that a transaction holds are listed in order. -/
lemma LockManager.pairwise_heldPages (locks : LockManager) (txn : TxnId) :
    (locks.heldPages txn).Pairwise PageId.Precedes :=
  Std.ExtTreeSet.ordered_toList.imp PageId.precedes_of_compare

/-! ### Writes that may be turned away -/

namespace Storage

/-- A table that is alone has a store of its own. -/
lemma apart_of_tables {storage : Storage} {table : TableId} (alone : storage.tables = [table]) :
    storage.Apart := by
  have only : ∀ (other : TableId) (store : Store),
      storage.catalog[other]? = some store → other = table := by
    intro other store found
    have listed : other ∈ storage.tables := by
      rw [tables, Std.ExtTreeMap.mem_keys, Std.ExtTreeMap.mem_iff_isSome_getElem?, found]
      rfl
    rw [alone] at listed
    exact List.mem_singleton.mp listed
  intro name other store another found found' _
  rw [only name store found, only other another found']

/-- Where the tables are the same, they still have stores of their own. -/
lemma SameTables.apart {later earlier : Storage} (tables : later.SameTables earlier)
    (apart : earlier.Apart) : later.Apart := by
  rw [Apart, tables.catalog]
  exact apart

/-- The image has the length of a page, if the page is one of a file. -/
def Suits (storage : Storage) (page : PageId) (image : Image) : Prop :=
  ∀ heap, storage.catalog[page.table]? = some (.heap heap) → image.size = storage.pageSize.bytes

variable {storage : Storage} {page : PageId} {store : Store} {image : Image}

/-- What suits a page goes by the tables. -/
lemma SameTables.suits {later earlier : Storage} (tables : later.SameTables earlier)
    (suits : earlier.Suits page image) : later.Suits page image := by
  intro heap found
  rw [tables.catalog] at found
  rw [tables.pageSize]
  exact suits heap found

/-- Write a page of a store, unless the write is turned away. -/
def writeUnless (refusal : PageId → Option Error) (storage : Storage) (store : Store)
    (page : PageId) (image : Image) : Storage × Except Error Unit :=
  match refusal page with
  | some error => (storage, .error error)
  | none => storage.writePage store page image

/-- The error with which an image of a page is turned away, if it is: the table has no store, the
write is refused, or the store cannot write the page. -/
def denial? (refusal : PageId → Option Error) (storage : Storage) (page : PageId) (image : Image) :
    Option Error :=
  match storage.storeOf page.table with
  | .error error => some error
  | .ok store =>
      match (storage.writeUnless refusal store page image).2 with
      | .error error => some error
      | .ok () => none

/-- A page is written with an image of its length, or nothing is changed and the store would not
write it afterwards either. -/
lemma writePage_cases (apart : storage.Apart) (found : storage.catalog[page.table]? = some store)
    (suits : storage.Suits page image) :
    (∃ written, storage.writePage store page image = (written, .ok ()) ∧
        written.SameTables storage ∧
        ∀ other, written.image? other = if page = other then some image
          else storage.image? other) ∨
      ∃ same error, storage.writePage store page image = (same, .error error) ∧
        same.SameTables storage ∧ (∀ other, same.image? other = storage.image? other) ∧
        (same.writePage store page image).2 = .error error := by
  cases store with
  | heap heap =>
      have written := storage.writePage_heap heap page image
      by_cases inside : page.number <
          PageFile.wholePages (storage.disk.bytes heap.file) storage.pageSize
      · rw [if_pos inside] at written
        exact .inl ⟨_, written, ⟨rfl, rfl⟩,
          image?_overwrite apart found inside (suits heap found)⟩
      · rw [if_neg inside] at written
        exact .inr ⟨storage, _, written, ⟨rfl, rfl⟩, fun _ => rfl, by rw [written]⟩
  | memory name id =>
      have again : ∀ store : MemoryStore, (storage.setMemory id store).memory id = store :=
        fun store => by rw [memory_setMemory, if_pos rfl]
      simp only [writePage]
      cases done : (storage.memory id).writePage page image with
      | mk after result =>
          rw [MemoryStore.writePage] at done
          split at done
          · next full =>
            cases done
            refine .inr ⟨_, _, rfl, ⟨rfl, rfl⟩,
              fun other => (untouched_setMemory rfl rfl other).image, ?_⟩
            simp only [again]
            simp only [MemoryStore.writePage, full]
          · cases done
            exact .inl ⟨_, rfl, ⟨rfl, rfl⟩, image?_insert apart found rfl⟩

/-- A write that may be turned away does no more than a write. -/
lemma writeUnless_cases (refusal : PageId → Option Error) (apart : storage.Apart)
    (found : storage.catalog[page.table]? = some store) (suits : storage.Suits page image) :
    (∃ written, storage.writeUnless refusal store page image = (written, .ok ()) ∧
        written.SameTables storage ∧
        ∀ other, written.image? other = if page = other then some image
          else storage.image? other) ∨
      ∃ same error, storage.writeUnless refusal store page image = (same, .error error) ∧
        same.SameTables storage ∧ (∀ other, same.image? other = storage.image? other) ∧
        same.denial? refusal page image = some error := by
  have denied : ∀ {same : Storage} {error : Error}, same.SameTables storage →
      (same.writeUnless refusal store page image).2 = .error error →
        same.denial? refusal page image = some error := by
    intro same error tables refused
    have found' : same.catalog[page.table]? = some store := tables.catalog ▸ found
    simp only [denial?, storeOf_eq found', refused]
  cases turned : refusal page with
  | some error =>
      refine .inr ⟨storage, error, ?_, ⟨rfl, rfl⟩, fun _ => rfl, denied ⟨rfl, rfl⟩ ?_⟩
      · simp only [writeUnless, turned]
      · simp only [writeUnless, turned]
  | none =>
      have open_ : ∀ storage : Storage, storage.writeUnless refusal store page image =
          storage.writePage store page image := fun storage => by simp only [writeUnless, turned]
      rw [open_]
      rcases writePage_cases apart found suits with
        written | ⟨same, error, done, tables, images, again⟩
      · exact .inl written
      · exact .inr ⟨same, error, done, tables, images, denied tables (by rw [open_, again])⟩

end Storage

/-! ### Commits whose writes may be turned away -/

/-- What has come of forcing pages: the database, the pages that the stores were asked to write, and
the result. -/
structure Forcing where
  db : Database
  tried : List PageId
  result : Except Error Unit

namespace Database

variable {db middle later : Database} {refusal : PageId → Option Error} {page : PageId}
  {pages : List PageId} {id : FrameId} {txn : TxnId}

/-- Write a frame to the store of its table and mark it clean, if it is dirty and the write is not
turned away. -/
def flushUnless (refusal : PageId → Option Error) (db : Database) (id : FrameId) : Forcing :=
  let frame := db.cache.frame id
  if frame.isDirty then
    match db.storage.storeOf frame.page.table with
    | .error error => ⟨db, [], .error error⟩
    | .ok store =>
        match db.storage.writeUnless refusal store frame.page frame.live with
        | (storage, .error error) => ⟨{ db with storage }, [frame.page], .error error⟩
        | (storage, .ok ()) =>
            ⟨{ db with
                storage
                cache := (db.cache.updateFrame id Frame.clean).countWritten },
              [frame.page], .ok ()⟩
  else ⟨db, [], .ok ()⟩

/-- Force some resident pages to their stores, up to the first refusal, and take new before-images
of them. -/
def forceEach (refusal : PageId → Option Error) (db : Database) : List PageId → Forcing
  | [] => ⟨db, [], .ok ()⟩
  | page :: rest =>
      match db.cache.residentFrame? page with
      | none => db.forceEach refusal rest
      | some id =>
          match db.flushUnless refusal id with
          | ⟨db, tried, .error error⟩ => ⟨db, tried, .error error⟩
          | ⟨db, tried, .ok ()⟩ =>
              let last := forceEach refusal
                { db with cache := db.cache.updateFrame id Frame.refresh } rest
              { last with tried := tried ++ last.tried }

/-- Commit a transaction whose writes may be turned away. Its locks are released whatever
happens. -/
def commitUnless (refusal : PageId → Option Error) (db : Database) (txn : TxnId) : Forcing :=
  let forcing := db.forceEach refusal (db.locks.heldPages txn)
  { forcing with db := { forcing.db with locks := forcing.db.locks.releaseAll txn } }

lemma flushUnless_never (db : Database) (id : FrameId) :
    ((db.flushUnless (fun _ => none) id).db, (db.flushUnless (fun _ => none) id).result) =
      db.flush id := by
  rw [flushUnless, flush]
  by_cases dirty : (db.cache.frame id).isDirty = true
  · simp only [dirty, if_true, Storage.writeUnless]
    cases db.storage.storeOf (db.cache.frame id).page.table with
    | error error => rfl
    | ok store =>
        cases written : db.storage.writePage store (db.cache.frame id).page
            (db.cache.frame id).live with
        | mk storage result =>
            cases result with
            | error error => simp only [written]
            | ok => simp only [written]
  · simp only [dirty, if_false, Bool.false_eq_true]

lemma forceEach_never (db : Database) (pages : List PageId) :
    ((db.forceEach (fun _ => none) pages).db, (db.forceEach (fun _ => none) pages).result) =
      db.commitPages pages := by
  induction pages generalizing db with
  | nil => rfl
  | cons page rest ih =>
      rw [forceEach, commitPages]
      cases db.cache.residentFrame? page with
      | none => exact ih db
      | some id =>
          have first := db.flushUnless_never id
          cases flushed : db.flushUnless (fun _ => none) id with
          | mk middle tried result =>
              rw [flushed] at first
              simp only [flushed, ← first]
              cases result with
              | error error => rfl
              | ok => exact ih _

/-- If no write is turned away, this is the commit of the transaction. -/
theorem commitUnless_never (db : Database) (txn : TxnId) :
    ((db.commitUnless (fun _ => none) txn).db, (db.commitUnless (fun _ => none) txn).result) =
      db.complete txn true := by
  have forced := db.forceEach_never (db.locks.heldPages txn)
  rw [complete, settle, if_pos rfl, ← forced]
  rfl

/-! ### Up to the first refusal -/

/-- A forced page object shows the same image. -/
lemma Settled.live (settled : Settled Frame.force pages db later) (id : FrameId) :
    (later.cache.frame id).live = (db.cache.frame id).live := by
  rw [settled.frame]
  split
  · rfl
  · rfl

/-- Nothing but counters has changed. -/
lemma Stores.of_refused {storage : Storage} (tables : storage.SameTables db.storage)
    (images : ∀ other, storage.image? other = db.storage.image? other) :
    Stores Frame.force [] db { db with storage } :=
  { tables, image := fun other => by simp [images other],
    settled := ⟨rfl, rfl, rfl, fun _ => rfl, fun id => by simp⟩ }

/-- A resident page is written if it is dirty, and its frame is clean then, or the write is turned
away and nothing is changed. -/
lemma flushUnless_cases (refusal : PageId → Option Error) (apart : db.storage.Apart)
    (orderly : db.cache.Orderly) (there : db.cache.residentFrame? page = some id)
    (suits : db.storage.Suits page (db.cache.frame id).live) :
    (∃ flushed tried, db.flushUnless refusal id = ⟨flushed, tried, .ok ()⟩ ∧
        Stores Frame.clean [page] db flushed ∧ ∀ other ∈ tried, other = page) ∨
      ∃ same tried error, db.flushUnless refusal id = ⟨same, tried, .error error⟩ ∧
        (db.cache.frame id).isDirty = true ∧ Stores Frame.force [] db same ∧
        same.storage.denial? refusal page (db.cache.frame id).live = some error ∧
        ∀ other ∈ tried, other = page := by
  have shows := orderly.page page id there
  cases dirty : (db.cache.frame id).isDirty with
  | false =>
      have clean : (db.cache.frame id).owner = none := by simpa [Frame.isDirty] using dirty
      have same : (db.cache.frame id).clean = db.cache.frame id := by rw [Frame.clean, ← clean]
      refine .inl ⟨db, [], by simp [flushUnless, dirty], ⟨⟨rfl, rfl⟩, fun other => ?_,
        .one there shows rfl rfl rfl (fun _ => rfl) fun other => ?_⟩, fun other asked => by
          cases asked⟩
      · split
        · next listed =>
          rw [List.mem_singleton.mp listed, unwritten?_of_resident there, dirty,
            if_neg Bool.false_ne_true, Option.none_or]
        · rfl
      · split
        · next here => rw [← here, same]
        · rfl
  | true =>
      rw [flushUnless]
      simp only [dirty, if_true, shows]
      cases named : db.storage.storeOf page.table with
      | error error =>
          refine .inr ⟨db, [], error, rfl, trivial, .of_refused ⟨rfl, rfl⟩ fun _ => rfl, ?_,
            fun other asked => by cases asked⟩
          simp only [Storage.denial?, named]
      | ok store =>
          have found := Storage.catalog_of_storeOf named
          have single : ∀ other ∈ [page], other = page := fun other => List.mem_singleton.mp
          rcases Storage.writeUnless_cases refusal apart found suits with
            ⟨written, done, tables, images⟩ | ⟨same, error, done, tables, images, denied⟩
          · simp only [done]
            refine .inl ⟨_, _, rfl, ⟨tables, fun other => ?_,
              .one there shows rfl rfl rfl (fun _ => rfl) fun other => ?_⟩, single⟩
            · rw [images]
              by_cases here : page = other
              · subst here
                simp [unwritten?_of_resident there, dirty]
              · simp [here, Ne.symm here]
            · exact Cache.frame_updateFrame ..
          · simp only [done]
            exact .inr ⟨_, _, _, rfl, trivial, .of_refused tables images, denied, single⟩

/-- How forcing pages ends: all of them are forced, or those before a dirty page whose write is
turned away. -/
inductive Ends (refusal : PageId → Option Error) (db : Database) (pages : List PageId) :
    Forcing → Prop
  | through {later : Database} {tried : List PageId} (stores : Stores Frame.force pages db later)
      (asked : ∀ other ∈ tried, other ∈ pages) : Ends refusal db pages ⟨later, tried, .ok ()⟩
  | stopped {later : Database} {tried : List PageId} {error : Error} {front back : List PageId}
      {page : PageId} {id : FrameId} (split : pages = front ++ page :: back)
      (there : db.cache.residentFrame? page = some id)
      (dirty : (db.cache.frame id).isDirty = true) (stores : Stores Frame.force front db later)
      (denied : later.storage.denial? refusal page (db.cache.frame id).live = some error)
      (asked : ∀ other ∈ tried, other ∈ front ∨ other = page) :
      Ends refusal db pages ⟨later, tried, .error error⟩

/-- Pages are forced one after the other, up to the first refusal. -/
theorem forceEach_ends (refusal : PageId → Option Error) (apart : db.storage.Apart)
    (orderly : db.cache.Orderly) (suits : ∀ page id, db.cache.residentFrame? page = some id →
      db.storage.Suits page (db.cache.frame id).live) (pages : List PageId) :
    db.Ends refusal pages (db.forceEach refusal pages) := by
  induction pages generalizing db with
  | nil => exact .through (.nil db) fun other asked => by cases asked
  | cons page rest ih =>
      rw [forceEach]
      cases there : db.cache.residentFrame? page with
      | none =>
          have last := ih apart orderly suits
          simp only
          generalize db.forceEach refusal rest = forcing at last ⊢
          cases last with
          | through stores asked =>
              exact .through (stores.skip there) fun other tried =>
                List.mem_cons_of_mem _ (asked other tried)
          | @stopped later tried error front back stuck target split resident dirty stores denied
              asked =>
              rw [split]
              exact .stopped (List.cons_append ..).symm resident dirty (stores.skip there) denied
                fun other tried => (asked other tried).imp_left (List.mem_cons_of_mem _)
      | some id =>
          rcases flushUnless_cases refusal apart orderly there (suits page id there) with
            ⟨flushed, tried, done, stores, asked⟩ |
              ⟨same, tried, error, done, dirty, stores, denied, asked⟩
          · have first := stores.refresh orderly there
            simp only [done]
            generalize { flushed with cache := flushed.cache.updateFrame id Frame.refresh } = middle
              at first ⊢
            have last := ih (first.tables.apart apart)
              (first.settled.orderly (fun _ => rfl) orderly) fun other target resident => by
                rw [first.settled.live]
                exact first.tables.suits
                  (suits other target (by rw [← first.settled.resident, resident]))
            generalize middle.forceEach refusal rest = forcing at last ⊢
            cases last with
            | @through later tried' rest_stores rest_asked =>
                refine .through (first.cons Frame.isWrite_force orderly rest_stores)
                  fun other both => ?_
                rcases List.mem_append.mp both with here | behind
                · exact List.mem_cons.mpr (.inl (asked other here))
                · exact List.mem_cons_of_mem _ (rest_asked other behind)
            | @stopped later tried' error front back stuck target split resident dirty rest_stores
              denied rest_asked =>
                have resident' : db.cache.residentFrame? stuck = some target := by
                  rw [← first.settled.resident, resident]
                -- the page that was forced is clean
                have same : middle.cache.frame target = db.cache.frame target := by
                  rw [first.settled.frame] at dirty ⊢
                  split at dirty
                  · cases dirty
                  · next other => rw [if_neg other]
                rw [same] at dirty denied
                rw [split]
                refine .stopped (List.cons_append ..).symm resident' dirty
                  (first.cons Frame.isWrite_force orderly rest_stores) denied fun other both => ?_
                rcases List.mem_append.mp both with here | behind
                · exact .inl (List.mem_cons.mpr (.inl (asked other here)))
                · exact (rest_asked other behind).imp_left (List.mem_cons_of_mem _)
          · simp only [done]
            exact .stopped (List.nil_append _).symm there dirty stores denied fun other tried =>
              .inr (asked other tried)

/-- A commit forces some of the pages that it goes through, and nothing else has changed. -/
lemma exists_stores_commitPages (apart : db.storage.Apart) (orderly : db.cache.Orderly)
    (suits : ∀ page id, db.cache.residentFrame? page = some id →
      db.storage.Suits page (db.cache.frame id).live) (pages : List PageId) :
    ∃ front, (∀ page ∈ front, page ∈ pages) ∧
      Stores Frame.force front db (db.commitPages pages).1 := by
  have ends := forceEach_ends (fun _ => none) apart orderly suits pages
  rw [← congrArg Prod.fst (db.forceEach_never pages)]
  generalize db.forceEach (fun _ => none) pages = forcing at ends ⊢
  cases ends with
  | through stores asked => exact ⟨pages, fun _ listed => listed, stores⟩
  | @stopped later tried error front back page id split there dirty stores denied asked =>
      refine ⟨front, fun other listed => ?_, stores⟩
      rw [split]
      exact List.mem_append_left _ listed

/-! ### What a commit leaves behind -/

/-- If the page is resident, it stays so with the same image, is clean, and has this image as its
before-image. If it was dirty, the image is in its store. -/
structure Secured (db later : Database) (page : PageId) (id : FrameId) : Prop where
  resident : later.cache.residentFrame? page = some id
  live : (later.cache.frame id).live = (db.cache.frame id).live
  before : (later.cache.frame id).before = (db.cache.frame id).live
  clean : (later.cache.frame id).isDirty = false
  stored : (db.cache.frame id).isDirty = true →
    later.storage.image? page = some (db.cache.frame id).live

/-- A page is left as it was: its page objects with their live images, their before-images and
their owners, and its stored image. -/
structure Kept (db later : Database) (page : PageId) : Prop where
  resident : later.cache.residentFrame? page = db.cache.residentFrame? page
  frame : ∀ id, (db.cache.frame id).page = page → later.cache.frame id = db.cache.frame id
  image : later.storage.image? page = db.storage.image? page

/-- What is promised of a commit whose writes may be turned away. -/
structure StopsCleanly (refusal : PageId → Option Error) (txn : TxnId) (db : Database)
    (forcing : Forcing) : Prop where
  /-- If it fails, then at a dirty page that the transaction holds, and with the error of this page.
  The pages before it are secured, this page and those behind it are kept, and no store was asked to
  write one of those behind it. -/
  stopped : ∀ error, forcing.result = .error error → ∃ page id,
    page ∈ db.locks.heldPages txn ∧ db.cache.residentFrame? page = some id ∧
      (db.cache.frame id).isDirty = true ∧
      forcing.db.storage.denial? refusal page (db.cache.frame id).live = some error ∧
      (∀ other ∈ db.locks.heldPages txn, other.Precedes page →
        ∀ target, db.cache.residentFrame? other = some target →
          db.Secured forcing.db other target) ∧
      (∀ other ∈ db.locks.heldPages txn, ¬ other.Precedes page → db.Kept forcing.db other) ∧
      ∀ other ∈ forcing.tried, other = page ∨ other.Precedes page
  /-- If it succeeds, all pages that the transaction holds are secured. -/
  through : forcing.result = .ok () → ∀ page ∈ db.locks.heldPages txn, ∀ id,
    db.cache.residentFrame? page = some id → db.Secured forcing.db page id
  /-- Pages that the transaction does not hold are kept, and no store is asked to write them. -/
  others : ∀ page, page ∉ db.locks.heldPages txn → db.Kept forcing.db page ∧ page ∉ forcing.tried

/-- A page that was not among those that were stored is kept. -/
lemma Stores.kept {change : Frame → Frame} (stores : Stores change pages db later)
    (unlisted : page ∉ pages) : db.Kept later page where
  resident := stores.settled.resident page
  frame id shows := by
    rw [stores.settled.frame, if_neg]
    rw [shows]
    exact fun listed => unlisted listed.1
  image := by rw [stores.image, if_neg unlisted]

/-- A resident page that was forced is secured. -/
lemma Stores.secured (stores : Stores Frame.force pages db later) (orderly : db.cache.Orderly)
    (listed : page ∈ pages) (there : db.cache.residentFrame? page = some id) :
    db.Secured later page id := by
  have forced : later.cache.frame id = (db.cache.frame id).force := by
    rw [stores.settled.frame, if_pos]
    rw [orderly.page page id there]
    exact ⟨listed, there⟩
  refine ⟨by rw [stores.settled.resident, there], ?_, ?_, ?_, fun dirty => ?_⟩
  · rw [forced]
    rfl
  · rw [forced]
    rfl
  · rw [forced]
    rfl
  · rw [stores.image, if_pos listed, unwritten?_of_resident there, if_pos dirty, Option.some_or]

/-- However writes are turned away, a commit forces the pages that its transaction holds one after
the other and stops at the first page that cannot be written, with all that is needed to undo this
page and those behind it. If no write is turned away, this is how a transaction is completed. -/
theorem refused_commit_stops_cleanly {size : PageSize} (reached : db.Reachable size)
    (apart : db.storage.Apart) (refusal : PageId → Option Error) (txn : TxnId) :
    db.StopsCleanly refusal txn (db.commitUnless refusal txn) ∧
      ((db.commitUnless (fun _ => none) txn).db, (db.commitUnless (fun _ => none) txn).result) =
        db.complete txn true := by
  refine ⟨?_, db.commitUnless_never txn⟩
  have sized := reached.sized
  have orderly := sized.exact.toOrderly
  have ends := forceEach_ends refusal apart orderly (fun page id there _ _ => by
    rw [sized.cache id (orderly.made page id there), sized.storage.pageSize])
    (db.locks.heldPages txn)
  have ordered := db.locks.pairwise_heldPages txn
  rw [commitUnless]
  generalize db.forceEach refusal (db.locks.heldPages txn) = forcing at ends ⊢
  -- the locks that are released show neither in the page objects nor in the stores
  cases ends with
  | through stores asked =>
      refine ⟨fun error failed => (by cases failed), fun _ page held id there => ?_,
        fun page unheld => ⟨?_, fun tried => unheld (asked page tried)⟩⟩
      · exact { stores.secured orderly held there with }
      · exact { stores.kept unheld with }
  | @stopped later tried error front back page id split there dirty stores denied asked =>
      rw [split] at ordered
      obtain ⟨-, behind, before⟩ := List.pairwise_append.mp ordered
      have ahead : ∀ other ∈ front, other.Precedes page := fun other listed =>
        before other listed page List.mem_cons_self
      have held : page ∈ db.locks.heldPages txn := by
        rw [split]
        exact List.mem_append_right _ List.mem_cons_self
      refine ⟨fun failure failed => ⟨page, id, held, there, dirty, ?_,
        fun other listed earlier target resident => ?_, fun other listed late => ?_,
        fun other tried => ?_⟩, fun failed => (by cases failed),
        fun other unheld => ⟨?_, fun tried => ?_⟩⟩
      · cases failed
        exact denied
      · have inside : other ∈ front := by
          rw [split] at listed
          rcases List.mem_append.mp listed with first | last
          · exact first
          · rcases List.mem_cons.mp last with rfl | last
            · exact absurd earlier earlier.asymm
            · exact absurd earlier ((List.pairwise_cons.mp behind).1 other last).asymm
        exact { stores.secured orderly inside resident with }
      · exact { stores.kept fun inside => late (ahead other inside) with }
      · exact (asked other tried).symm.imp_right (ahead other)
      · have outside : other ∉ front := fun inside => unheld (by
          rw [split]
          exact List.mem_append_left _ inside)
        exact { stores.kept outside with }
      · rcases asked other tried with inside | rfl
        · exact unheld (by
            rw [split]
            exact List.mem_append_left _ inside)
        · exact unheld held

/-- A transaction that has changed both pages of a file. -/
def changedPages : Database :=
  ((Workload.initial Workload.ragged 2 Nat.two_pos).run
    [.call ⟨1⟩ (.fetch ⟨⟨1⟩, 0⟩ .exclusive), .move 0, .move 0, .move 0, .move 0,
      .call ⟨1⟩ (.fetch ⟨⟨1⟩, 1⟩ .exclusive), .move 0, .move 0, .move 0, .move 0,
      .overwrite 0 #[1, 1], .markDirty ⟨1⟩ 0, .overwrite 1 #[2, 2], .markDirty ⟨1⟩ 1]).db

/-- The second page cannot be written. The commit fails with this page, and the first one is
stored. -/
theorem refused_commit_stops_cleanly_second :
    let refusal (page : PageId) : Option Error :=
      if page.number = 1 then some (.io .badSector) else none
    let forcing := changedPages.commitUnless refusal ⟨1⟩
    changedPages.Reachable ⟨2, by decide⟩ ∧ changedPages.storage.Apart ∧
      forcing.result = .error (.io .badSector) ∧
      forcing.tried = [⟨⟨1⟩, 0⟩, ⟨⟨1⟩, 1⟩] ∧
      forcing.db.storage.image? ⟨⟨1⟩, 0⟩ = some #[1, 1] ∧
      forcing.db.storage.image? ⟨⟨1⟩, 1⟩ = some #[254, 8] ∧
      changedPages.StopsCleanly refusal ⟨1⟩ forcing := by
  intro refusal forcing
  have reached : changedPages.Reachable ⟨2, by decide⟩ := by
    refine ⟨Workload.ragged, 2, Nat.two_pos, _, Workload.sized_ragged, ?_, rfl⟩
    simp [Deed.Sized, Call.Sized]
  have alone : changedPages.storage.tables = [⟨1⟩] := by decide +kernel
  have apart := Storage.apart_of_tables alone
  have fails : forcing.result = .error (.io .badSector) := by decide +kernel
  have tried : forcing.tried = [⟨⟨1⟩, 0⟩, ⟨⟨1⟩, 1⟩] := by decide +kernel
  have first : forcing.db.storage.image? ⟨⟨1⟩, 0⟩ = some #[1, 1] := by decide +kernel
  have second : forcing.db.storage.image? ⟨⟨1⟩, 1⟩ = some #[254, 8] := by decide +kernel
  exact ⟨reached, apart, fails, tried, first, second,
    (refused_commit_stops_cleanly reached apart refusal ⟨1⟩).1⟩

end Database

end PageTxn
