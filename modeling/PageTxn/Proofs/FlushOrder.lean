import PageTxn.Proofs.Deposit
import PageTxn.Proofs.Forcing

/-!
Flushes go through the resident pages in any order.

* `Database.flushEachUnless` is a flush of some pages where any write may be turned away, and it
  also tells which pages the stores were asked to write. If no write is turned away it is
  `Database.flushEach` (`flushEachUnless_never`).
* `Cache.cleanPage` is what a write does to the cache, and `Storage.deposit` what it does to the
  stores. `Database.Through` says that this has been done for some pages, one after the other
  (`Through.cons`); the order makes no difference (`Through.agree`).
* `passes_flushEachUnless`: pages are gone through up to the first refusal.
* `flush_in_any_order`: so a flush that succeeds leaves the same behind in every order, and one that
  fails has flushed some pages and left the others as they were, the one that was refused among
  them.
-/

namespace PageTxn

/-! ### The cache -/

namespace Cache

variable {cache : Cache} {page : PageId} {id : FrameId}

/-- The cache after a frame was written, if it was dirty. -/
def cleanFrame (cache : Cache) (id : FrameId) : Cache :=
  if (cache.frame id).isDirty then (cache.updateFrame id Frame.clean).countWritten else cache

/-- The cache after a page was written, if it was resident and dirty. -/
def cleanPage (cache : Cache) (page : PageId) : Cache :=
  match cache.residentFrame? page with
  | some id => cache.cleanFrame id
  | none => cache

lemma cleanPage_of_resident (there : cache.residentFrame? page = some id) :
    cache.cleanPage page = cache.cleanFrame id := by
  rw [cleanPage, there]

lemma cleanPage_of_absent (absent : cache.residentFrame? page = none) :
    cache.cleanPage page = cache := by
  rw [cleanPage, absent]

lemma residentFrame?_cleanFrame (cache : Cache) (id : FrameId) (page : PageId) :
    (cache.cleanFrame id).residentFrame? page = cache.residentFrame? page := by
  rw [cleanFrame]
  split <;> rfl

/-- Two frames can be written in either order. -/
lemma cleanFrame_comm (cache : Cache) (first second : FrameId) :
    (cache.cleanFrame first).cleanFrame second = (cache.cleanFrame second).cleanFrame first := by
  by_cases same : first = second
  · rw [same]
  have frame : ∀ {id other : FrameId}, id ≠ other →
      (cache.updateFrame id Frame.clean).countWritten.frame other = cache.frame other :=
    fun apart => (frame_updateFrame ..).trans (if_neg apart)
  by_cases dirty : (cache.frame first).isDirty = true
  · by_cases dirty' : (cache.frame second).isDirty = true
    · have swap : ((cache.updateFrame first Frame.clean).countWritten.updateFrame second
          Frame.clean).countWritten =
          ((cache.updateFrame second Frame.clean).countWritten.updateFrame first
            Frame.clean).countWritten := by
        rw [updateFrame.eq_def (countWritten _) second, frame same,
          updateFrame.eq_def (countWritten _) first, frame (Ne.symm same)]
        simp only [updateFrame, setFrame, countWritten, insert_comm_of_ne same]
      rw [cleanFrame, cleanFrame, if_pos dirty, frame same, if_pos dirty', cleanFrame, cleanFrame,
        if_pos dirty', frame (Ne.symm same), if_pos dirty, swap]
    · have unmoved : cache.cleanFrame second = cache := if_neg dirty'
      rw [unmoved, cleanFrame, cleanFrame, if_pos dirty, frame same, if_neg dirty']
  · have unmoved : cache.cleanFrame first = cache := if_neg dirty
    have unmoved' : (cache.cleanFrame second).cleanFrame first = cache.cleanFrame second := by
      by_cases dirty' : (cache.frame second).isDirty = true
      · rw [cleanFrame, cleanFrame, if_pos dirty', frame (Ne.symm same), if_neg dirty]
      · rw [cleanFrame, cleanFrame, if_neg dirty', if_neg dirty]
    rw [unmoved, unmoved']

/-- Two pages can be written in either order. -/
lemma cleanPage_comm (cache : Cache) (first second : PageId) :
    (cache.cleanPage first).cleanPage second = (cache.cleanPage second).cleanPage first := by
  cases there : cache.residentFrame? first with
  | none =>
      cases there' : cache.residentFrame? second with
      | none =>
          rw [cleanPage_of_absent there, cleanPage_of_absent there', cleanPage_of_absent there]
      | some id =>
          have kept := (cache.residentFrame?_cleanFrame id first).trans there
          rw [cleanPage_of_absent there, cleanPage_of_resident there', cleanPage_of_absent kept]
  | some id =>
      cases there' : cache.residentFrame? second with
      | none =>
          have kept := (cache.residentFrame?_cleanFrame id second).trans there'
          rw [cleanPage_of_absent there', cleanPage_of_resident there, cleanPage_of_absent kept]
      | some other =>
          have kept := (cache.residentFrame?_cleanFrame id second).trans there'
          have kept' := (cache.residentFrame?_cleanFrame other first).trans there
          rw [cleanPage_of_resident there, cleanPage_of_resident there', cleanPage_of_resident kept,
            cleanPage_of_resident kept', cleanFrame_comm]

/-- Any number of pages can be written in any order. -/
theorem foldl_cleanPage_perm {first second : List PageId} (perm : first.Perm second)
    (cache : Cache) : first.foldl cleanPage cache = second.foldl cleanPage cache :=
  perm.foldl_eq' (fun page _ other _ cache => cache.cleanPage_comm page other) cache

/-- No page is listed twice among the resident ones. -/
lemma nodup_residentPages (cache : Cache) : cache.residentPages.Nodup := by
  refine (Std.ExtTreeMap.distinct_keys (t := cache.resident)).imp ?_
  rintro page _ apart rfl
  exact apart Std.ReflCmp.compare_self

end Cache

/-- Whether a memory store keeps the pages of a table. -/
def Storage.isKeptIn (storage : Storage) (id : MemoryId) (page : PageId) : Bool :=
  match storage.catalog[page.table]? with
  | some store => store.medium = .inr id
  | none => false

/-- A write that is not turned away is one that the store accepts. -/
lemma Storage.writePage_of_writeUnless {refusal : PageId → Option Error} {storage later : Storage}
    {store : Store} {page : PageId} {image : Image}
    (written : storage.writeUnless refusal store page image = (later, .ok ())) :
    storage.writePage store page image = (later, .ok ()) := by
  rw [writeUnless] at written
  split at written
  · cases written
  · exact written

namespace Database

variable {db middle later : Database} {refusal : PageId → Option Error} {page : PageId}
  {pages : List PageId} {id : FrameId}

/-! ### Flushes whose writes may be turned away -/

/-- Whether a page is resident and dirty. -/
def isUnwritten (db : Database) (page : PageId) : Bool := (db.unwritten? page).isSome

/-- The image of a dirty resident page, with its store. -/
def due? (db : Database) (page : PageId) : Option Due :=
  (db.unwritten? page).bind fun image =>
    db.storage.catalog[page.table]?.map fun store => ⟨store, page.number, image⟩

/-- Write the dirty ones of some resident pages, up to the first refusal. -/
def flushEachUnless (refusal : PageId → Option Error) (db : Database) : List PageId → Forcing
  | [] => ⟨db, [], .ok ()⟩
  | page :: rest =>
      match db.cache.residentFrame? page with
      | none => db.flushEachUnless refusal rest
      | some id =>
          match db.flushUnless refusal id with
          | ⟨db, tried, .error error⟩ => ⟨db, tried, .error error⟩
          | ⟨db, tried, .ok ()⟩ =>
              let last := db.flushEachUnless refusal rest
              { last with tried := tried ++ last.tried }

lemma flushEachUnless_of_absent (absent : db.cache.residentFrame? page = none) :
    db.flushEachUnless refusal (page :: pages) = db.flushEachUnless refusal pages := by
  simp only [flushEachUnless, absent]

lemma flushEachUnless_of_refused (there : db.cache.residentFrame? page = some id)
    {tried : List PageId} {error : Error}
    (flushed : db.flushUnless refusal id = ⟨later, tried, .error error⟩) :
    db.flushEachUnless refusal (page :: pages) = ⟨later, tried, .error error⟩ := by
  simp only [flushEachUnless, there, flushed]

lemma flushEachUnless_of_written (there : db.cache.residentFrame? page = some id)
    {tried : List PageId} (flushed : db.flushUnless refusal id = ⟨middle, tried, .ok ()⟩) :
    db.flushEachUnless refusal (page :: pages) =
      { middle.flushEachUnless refusal pages with
        tried := tried ++ (middle.flushEachUnless refusal pages).tried } := by
  simp only [flushEachUnless, there, flushed]

/-- If no write is turned away, this is a flush of the pages. -/
lemma flushEachUnless_never (db : Database) (pages : List PageId) :
    ((db.flushEachUnless (fun _ => none) pages).db,
        (db.flushEachUnless (fun _ => none) pages).result) = db.flushEach pages := by
  induction pages generalizing db with
  | nil => rfl
  | cons page rest ih =>
      rw [flushEachUnless, flushEach, flushPage]
      cases db.cache.residentFrame? page with
      | none => exact ih db
      | some id =>
          have first := db.flushUnless_never id
          cases flushed : db.flushUnless (fun _ => none) id with
          | mk middle tried result =>
              rw [flushed] at first
              simp only [flushed, ← first]
              cases result with
              | error error => rfl
              | ok => exact ih _

/-- Different pages are stored independently: tables have stores of their own, and what a file is to
take over for a page has the length of a page. -/
structure Independent (db : Database) : Prop where
  apart : db.storage.Apart
  suits : ∀ page id, db.cache.residentFrame? page = some id →
    db.storage.Suits page (db.cache.frame id).live

/-- Under one page size it is enough that tables have stores of their own. -/
lemma Sized.independent {size : PageSize} (sized : db.Sized size) (apart : db.storage.Apart) :
    db.Independent := by
  refine ⟨apart, fun page id there heap _ => ?_⟩
  rw [sized.cache id (sized.exact.made page id there), sized.storage.pageSize]

/-- Writing pages leaves the others as independent as they were. -/
lemma Independent.stores (independent : db.Independent)
    (stores : Stores Frame.clean pages db later) : later.Independent where
  apart := stores.tables.apart independent.apart
  suits page id there := by
    have live : (later.cache.frame id).live = (db.cache.frame id).live := by
      rw [stores.settled.frame]
      split <;> rfl
    rw [live]
    exact stores.tables.suits
      (independent.suits page id ((stores.settled.resident page).symm.trans there))

/-! ### Pages that have been gone through -/

/-- Some pages have been gone through, and the dirty ones of them have been written. -/
structure Through (pages : List PageId) (db : Database) (forcing : Forcing) : Prop where
  stores : Stores Frame.clean pages db forcing.db
  cache : forcing.db.cache = pages.foldl Cache.cleanPage db.cache
  silenced : forcing.db.storage.silenced =
    (pages.filterMap db.due?).foldl Storage.deposit db.storage.silenced
  tried : forcing.tried = pages.filter db.isUnwritten
  stats : forcing.db.cache.stats =
    { db.cache.stats with written := db.cache.stats.written + forcing.tried.length }
  log : ∀ id, (forcing.db.storage.memory id).log =
    (db.storage.memory id).log ++ forcing.tried.filter (db.storage.isKeptIn id)

namespace Through

lemma nil (db : Database) : Through [] db ⟨db, [], .ok ()⟩ where
  stores := .nil db
  cache := rfl
  silenced := rfl
  tried := rfl
  stats := rfl
  log _ := (List.append_nil _).symm

/-- There is nothing to write for a page that is not resident. -/
lemma skip {forcing : Forcing} (absent : db.cache.residentFrame? page = none)
    (rest : Through pages db forcing) : Through (page :: pages) db forcing := by
  have nothing := unwritten?_of_absent absent
  refine { rest with stores := rest.stores.skip absent, cache := ?_, silenced := ?_, tried := ?_ }
  · rw [List.foldl_cons, Cache.cleanPage_of_absent absent, rest.cache]
  · rw [List.filterMap_cons_none (by rw [due?, nothing]; rfl), rest.silenced]
  · rw [List.filter_cons_of_neg (by simp [isUnwritten, nothing]), rest.tried]

/-- A page that is not listed again is gone through, and then others are. -/
lemma cons {tried : List PageId} {last : Forcing} (orderly : db.cache.Orderly)
    (unlisted : page ∉ pages) (first : Through [page] db ⟨middle, tried, .ok ()⟩)
    (rest : Through pages middle last) :
    Through (page :: pages) db { last with tried := tried ++ last.tried } := by
  -- what is to be written for the others is the same as before
  have others : ∀ other ∈ pages, middle.unwritten? other = db.unwritten? other := by
    intro other listed
    rw [first.stores.unwritten? Frame.isWrite_clean orderly, if_neg]
    rintro rfl
    exact unlisted listed
  have dues : pages.filterMap middle.due? = pages.filterMap db.due? :=
    List.filterMap_congr fun other listed => by
      rw [due?, due?, others other listed, first.stores.tables.catalog]
  have unwritten : pages.filter middle.isUnwritten = pages.filter db.isUnwritten :=
    List.filter_congr fun other listed => by rw [isUnwritten, isUnwritten, others other listed]
  have keeps : middle.storage.isKeptIn = db.storage.isKeptIn := by
    funext id other
    rw [Storage.isKeptIn, Storage.isKeptIn, first.stores.tables.catalog]
  refine ⟨first.stores.cons Frame.isWrite_clean orderly rest.stores, ?_, ?_, ?_, ?_, fun id => ?_⟩
  · rw [rest.cache, first.cache, List.foldl_cons, List.foldl_cons, List.foldl_nil]
  · rw [rest.silenced, dues, first.silenced, ← List.foldl_append, ← List.filterMap_append,
      List.singleton_append]
  · show tried ++ last.tried = _
    have here : tried = [page].filter db.isUnwritten := first.tried
    rw [rest.tried, unwritten, here, ← List.filter_append, List.singleton_append]
  · rw [rest.stats, first.stats, List.length_append, ← Nat.add_assoc]
  · rw [rest.log, first.log, keeps, List.filter_append, List.append_assoc]

/-- Only dirty pages were to be written. -/
lemma mem_tried {forcing : Forcing} (through : Through pages db forcing)
    (tried : page ∈ forcing.tried) : page ∈ pages ∧ db.isUnwritten page = true := by
  rw [through.tried] at tried
  exact List.mem_filter.mp tried

end Through

/-! ### Up to the first refusal -/

/-- Where nothing was written, nothing was done to the frames. -/
lemma Stores.of_nil {change other : Frame → Frame} (stores : Stores change [] db later) :
    Stores other [] db later := by
  refine ⟨stores.tables, stores.image, ?_⟩
  refine { stores.settled with frame := fun id => ?_ }
  rw [stores.settled.frame, if_neg (fun listed => List.not_mem_nil listed.1),
    if_neg (fun listed => List.not_mem_nil listed.1)]

/-- A page whose write is not turned away has been gone through. -/
lemma through_flushUnless (independent : db.Independent) (orderly : db.cache.Orderly)
    (there : db.cache.residentFrame? page = some id) {tried : List PageId}
    (done : db.flushUnless refusal id = ⟨later, tried, .ok ()⟩) :
    Through [page] db ⟨later, tried, .ok ()⟩ := by
  have suits := independent.suits page id there
  have stores : Stores Frame.clean [page] db later := by
    rcases flushUnless_cases refusal independent.apart orderly there suits with
      ⟨flushed, tried', done', stores, -⟩ | ⟨same, tried', error, done', -⟩
    · rw [done] at done'
      cases done'
      exact stores
    · rw [done] at done'
      cases done'
  have shows := orderly.page page id there
  have cleaned : [page].foldl Cache.cleanPage db.cache = db.cache.cleanFrame id :=
    Cache.cleanPage_of_resident there
  rw [flushUnless] at done
  split at done
  · next dirty =>
    have image : db.unwritten? page = some (db.cache.frame id).live := by
      rw [unwritten?_of_resident there, if_pos dirty]
    have asked : [page].filter db.isUnwritten = [page] := by simp [isUnwritten, image]
    rw [shows] at done
    split at done
    · cases done
    · next store named =>
      have found := Storage.catalog_of_storeOf named
      split at done
      · cases done
      · next storage written =>
        cases done
        have accepted := Storage.writePage_of_writeUnless written
        have due : [page].filterMap db.due? = [⟨store, page.number, (db.cache.frame id).live⟩] := by
          simp [due?, image, found]
        refine ⟨stores, ?_, ?_, asked.symm, rfl, fun memory => ?_⟩
        · rw [cleaned, Cache.cleanFrame, if_pos dirty]
        · rw [due]
          refine Storage.silenced_writePage (fun heap same => suits heap ?_) accepted
          rw [found, same]
        · rw [Storage.log_writePage accepted]
          simp [Storage.isKeptIn, found, List.filter_singleton]
  · next clean =>
    cases done
    have nothing : db.unwritten? page = none := by
      rw [unwritten?_of_resident there, if_neg clean]
    have due : [page].filterMap db.due? = [] := by simp [due?, nothing]
    have asked : [page].filter db.isUnwritten = [] := by simp [isUnwritten, nothing]
    refine ⟨stores, ?_, ?_, asked.symm, rfl, fun memory => (List.append_nil _).symm⟩
    · rw [cleaned, Cache.cleanFrame, if_neg clean]
    · rw [due, List.foldl_nil]

/-- How going through pages ends: with all of them, or with those before a dirty page whose write
is turned away. -/
inductive Passes (refusal : PageId → Option Error) (db : Database) (pages : List PageId)
    (forcing : Forcing) : Prop
  | through (done : forcing.result = .ok ()) (through : Through pages db forcing)
  | stopped {error : Error} {front back : List PageId} {page : PageId} {id : FrameId}
      (failed : forcing.result = .error error) (split : pages = front ++ page :: back)
      (there : db.cache.residentFrame? page = some id)
      (dirty : (db.cache.frame id).isDirty = true)
      (stores : Stores Frame.clean front db forcing.db)
      (denied : forcing.db.storage.denial? refusal page (db.cache.frame id).live = some error)
        (asked : ∀ other ∈ forcing.tried, other ∈ pages ∧ db.isUnwritten other = true)

lemma Passes.skip {forcing : Forcing} (absent : db.cache.residentFrame? page = none)
    (rest : db.Passes refusal pages forcing) : db.Passes refusal (page :: pages) forcing := by
  cases rest with
  | through done through => exact .through done (through.skip absent)
  | @stopped error front back stuck id failed split there dirty stores denied asked =>
      have split' : page :: pages = (page :: front) ++ stuck :: back := by
        rw [split, List.cons_append]
      refine .stopped failed split' there dirty (stores.skip absent) denied fun other tried => ?_
      obtain ⟨listed, unwritten⟩ := asked other tried
      exact ⟨List.mem_cons_of_mem _ listed, unwritten⟩

/-- A page that is not listed again is gone through, and then others are, up to the first
refusal. -/
lemma Passes.cons {tried : List PageId} {last : Forcing} (orderly : db.cache.Orderly)
    (unlisted : page ∉ pages) (first : Through [page] db ⟨middle, tried, .ok ()⟩)
    (rest : middle.Passes refusal pages last) :
    db.Passes refusal (page :: pages) { last with tried := tried ++ last.tried } := by
  cases rest with
  | through done through => exact .through done (first.cons orderly unlisted through)
  | @stopped error front back stuck id failed split there dirty stores denied asked =>
      have split' : page :: pages = (page :: front) ++ stuck :: back := by
        rw [split, List.cons_append]
      have there' : db.cache.residentFrame? stuck = some id := by
        rw [← first.stores.settled.resident]
        exact there
      -- the page that was written is clean, so that it is not the one that is turned away
      have same : middle.cache.frame id = db.cache.frame id := by
        rw [first.stores.settled.frame] at dirty ⊢
        split at dirty
        · cases dirty
        · next other => rw [if_neg other]
      rw [same] at dirty denied
      refine .stopped failed split' there' dirty
        (first.stores.cons Frame.isWrite_clean orderly stores) denied fun other both => ?_
      rcases List.mem_append.mp both with here | behind
      · obtain ⟨listed, unwritten⟩ := first.mem_tried here
        exact ⟨List.mem_cons.mpr (.inl (List.mem_singleton.mp listed)), unwritten⟩
      · obtain ⟨listed, unwritten⟩ := asked other behind
        have apart : other ≠ page := fun here => unlisted (here ▸ listed)
        rw [isUnwritten, first.stores.unwritten? Frame.isWrite_clean orderly,
          if_neg apart] at unwritten
        exact ⟨List.mem_cons_of_mem _ listed, unwritten⟩

/-- Pages are gone through one after the other, up to the first refusal. -/
theorem passes_flushEachUnless (refusal : PageId → Option Error) (independent : db.Independent)
    (orderly : db.cache.Orderly) (distinct : pages.Nodup) :
    db.Passes refusal pages (db.flushEachUnless refusal pages) := by
  induction pages generalizing db with
  | nil => exact .through rfl (.nil db)
  | cons page rest ih =>
      obtain ⟨unlisted, distinct⟩ := List.nodup_cons.mp distinct
      cases there : db.cache.residentFrame? page with
      | none =>
          rw [flushEachUnless_of_absent there]
          exact (ih independent orderly distinct).skip there
      | some id =>
          cases flushed : db.flushUnless refusal id with
          | mk middle tried result =>
              cases result with
              | error error =>
                  rw [flushEachUnless_of_refused there flushed]
                  have suits := independent.suits page id there
                  rcases flushUnless_cases refusal independent.apart orderly there suits with
                    ⟨later, tried', done, -⟩ |
                      ⟨same, tried', error', done, dirty, stores, denied, asked⟩
                  · rw [flushed] at done
                    cases done
                  · rw [flushed] at done
                    cases done
                    refine .stopped rfl (List.nil_append _).symm there dirty stores.of_nil denied
                      fun other tried => ?_
                    rw [asked other tried, isUnwritten, unwritten?_of_resident there, if_pos dirty]
                    exact ⟨List.mem_cons_self, rfl⟩
              | ok =>
                  rw [flushEachUnless_of_written there flushed]
                  have first := through_flushUnless independent orderly there flushed
                  have orderly' := first.stores.settled.orderly (fun _ => rfl) orderly
                  exact .cons orderly unlisted first
                    (ih (independent.stores first.stores) orderly' distinct)

/-! ### Any order -/

/-- Two databases are the same, but that the memory stores were asked to write in different
orders. -/
structure SameButOrder (first second : Database) : Prop where
  cache : first.cache = second.cache
  locks : first.locks = second.locks
  storage : first.storage.silenced = second.storage.silenced
  log : ∀ id, ((first.storage.memory id).log).Perm (second.storage.memory id).log

/-- What is to be written belongs to the table and has the number of its page. -/
lemma due?_eq_some {due : Due} (found : db.due? page = some due) :
    db.storage.catalog[page.table]? = some due.store ∧ due.number = page.number := by
  obtain ⟨image, -, made⟩ := Option.bind_eq_some_iff.mp found
  obtain ⟨store, registered, rfl⟩ := Option.map_eq_some_iff.mp made
  exact ⟨registered, rfl⟩

/-- What is to be written for two pages goes to different places. -/
lemma apart_dues (apart : db.storage.Apart) {pages : List PageId} :
    ∀ x ∈ pages.filterMap db.due?, ∀ y ∈ pages.filterMap db.due?, x = y ∨ x.Apart y := by
  intro x listed y listed'
  obtain ⟨page, -, found⟩ := List.mem_filterMap.mp listed
  obtain ⟨other, -, found'⟩ := List.mem_filterMap.mp listed'
  obtain ⟨registered, number⟩ := due?_eq_some found
  obtain ⟨registered', number'⟩ := due?_eq_some found'
  by_cases same : page = other
  · rw [same, found'] at found
    exact .inl (Option.some.inj found).symm
  · refine .inr fun medium numbers => same ?_
    have tables := apart _ _ _ _ registered registered' medium
    exact (Storage.eq_iff_number tables).mpr (by rw [← number, ← number', numbers])

/-- It makes no difference in which order pages were gone through. -/
theorem Through.agree {first second : Forcing} {others : List PageId} (apart : db.storage.Apart)
    (perm : pages.Perm others) (through : Through pages db first)
    (through' : Through others db second) : SameButOrder first.db second.db where
  cache := by rw [through.cache, through'.cache, Cache.foldl_cleanPage_perm perm]
  locks := through.stores.settled.locks.trans through'.stores.settled.locks.symm
  storage := by
    rw [through.silenced, through'.silenced,
      Storage.foldl_deposit_perm (perm.filterMap db.due?) (apart_dues apart)]
  log id := by
    rw [through.log, through'.log, through.tried, through'.tried]
    exact ((perm.filter _).filter _).append_left _

/-- A resident page has been flushed: its page object is clean, and shows the same image and the
same before-image as before. If it was dirty, the image is in its store now, and if it was clean,
the store holds what it held. -/
structure Flushed (db later : Database) (page : PageId) (id : FrameId) : Prop where
  resident : later.cache.residentFrame? page = some id
  frame : later.cache.frame id = (db.cache.frame id).clean
  others : ∀ other ≠ id, (db.cache.frame other).page = page →
    later.cache.frame other = db.cache.frame other
  image : later.storage.image? page =
    if (db.cache.frame id).isDirty then some (db.cache.frame id).live else db.storage.image? page

/-- The pages have been flushed. -/
structure FlushesAll (db : Database) (pages : List PageId) (forcing : Forcing) : Prop where
  flushed : ∀ page ∈ pages, ∀ id, db.cache.residentFrame? page = some id →
    db.Flushed forcing.db page id
  others : ∀ page ∉ pages, db.Kept forcing.db page
  /-- The stores were asked to write the dirty pages, each of them once, and no clean one. -/
  tried : forcing.tried = pages.filter db.isUnwritten
  /-- The dirty pages were counted, and nothing else was. -/
  stats : forcing.db.cache.stats =
    { db.cache.stats with
      written := db.cache.stats.written + (pages.filter db.isUnwritten).length }

/-- What is promised of a flush of some pages, in whatever order they are listed and however writes
are turned away. -/
structure FlushesInAnyOrder (refusal : PageId → Option Error) (db : Database)
    (pages : List PageId) (forcing : Forcing) : Prop where
  /-- If it succeeds, the pages have been flushed. -/
  through : forcing.result = .ok () → db.FlushesAll pages forcing
  /-- If it also succeeds in another order, nothing differs in the end but the order of the
  writes. -/
  same : forcing.result = .ok () → ∀ others, pages.Perm others →
    (db.flushEachUnless refusal others).result = .ok () →
      SameButOrder forcing.db (db.flushEachUnless refusal others).db
  /-- If it fails, then at a dirty page, which is kept, and with the error of this page. Every page
  is kept or has been flushed. -/
  stopped : ∀ error, forcing.result = .error error → ∃ page ∈ pages, ∃ id,
    db.cache.residentFrame? page = some id ∧ (db.cache.frame id).isDirty = true ∧
      forcing.db.storage.denial? refusal page (db.cache.frame id).live = some error ∧
      db.Kept forcing.db page ∧
      ∀ other, db.Kept forcing.db other ∨ other ∈ pages ∧ ∃ target,
        db.cache.residentFrame? other = some target ∧ db.Flushed forcing.db other target
  /-- No store was asked to write a clean page. -/
  tried : ∀ page ∈ forcing.tried, page ∈ pages ∧ db.isUnwritten page = true
  locks : forcing.db.locks = db.locks
  resident : ∀ page, forcing.db.cache.residentFrame? page = db.cache.residentFrame? page
  queue : forcing.db.cache.queue = db.cache.queue

/-- A resident page that was gone through has been flushed. -/
lemma Stores.flushed (stores : Stores Frame.clean pages db later) (orderly : db.cache.Orderly)
    (listed : page ∈ pages) (there : db.cache.residentFrame? page = some id) :
    db.Flushed later page id where
  resident := by rw [stores.settled.resident, there]
  frame := by
    rw [stores.settled.frame, if_pos]
    rw [orderly.page page id there]
    exact ⟨listed, there⟩
  others other apart shows := by
    rw [stores.settled.frame, if_neg]
    rw [shows, there]
    exact fun same => apart (Option.some.inj same.2).symm
  image := by
    rw [stores.image, if_pos listed, unwritten?_of_resident there]
    split
    · rfl
    · rfl

/-- A page that is not resident is kept. -/
lemma Stores.kept_of_absent (stores : Stores Frame.clean pages db later)
    (absent : db.cache.residentFrame? page = none) : db.Kept later page where
  resident := stores.settled.resident page
  frame id shows := by
    rw [stores.settled.frame, if_neg]
    rw [shows, absent]
    exact fun listed => nomatch listed.2
  image := by
    rw [stores.image, unwritten?_of_absent absent, Option.none_or, ite_self]

/-- Pages that have been gone through have been flushed. -/
lemma Through.flushesAll {forcing : Forcing} (through : Through pages db forcing)
    (orderly : db.cache.Orderly) : db.FlushesAll pages forcing where
  flushed _ listed _ there := through.stores.flushed orderly listed there
  others _ unlisted := through.stores.kept unlisted
  tried := through.tried
  stats := by rw [through.stats, through.tried]

/-- **Flushes do not depend on the order.** Take any reachable database whose tables have stores of
their own, let any writes be turned away, and list any pages in any order, each of them once. A
flush of them that succeeds leaves the same behind in every order; one that fails has flushed some
of them and kept the others, the one that it failed at among them. If no write is turned away and
the resident pages are listed, this is how everything is flushed. -/
theorem flush_in_any_order {size : PageSize} (reached : db.Reachable size)
    (apart : db.storage.Apart) (refusal : PageId → Option Error) (distinct : pages.Nodup) :
    db.FlushesInAnyOrder refusal pages (db.flushEachUnless refusal pages) ∧
      db.cache.residentPages.Nodup ∧
      ((db.flushEachUnless (fun _ => none) db.cache.residentPages).db,
        (db.flushEachUnless (fun _ => none) db.cache.residentPages).result) = db.flushAll := by
  refine ⟨?_, db.cache.nodup_residentPages, db.flushEachUnless_never _⟩
  have orderly := reached.sized.exact.toOrderly
  have independent := reached.sized.independent apart
  have ends : ∀ {others : List PageId}, others.Nodup →
      db.Passes refusal others (db.flushEachUnless refusal others) :=
    fun distinct => passes_flushEachUnless refusal independent orderly distinct
  cases ends distinct with
  | through done through =>
      have settled := through.stores.settled
      refine ⟨fun _ => through.flushesAll orderly, fun _ others perm done' => ?_,
        fun error failed => ?_, fun page => through.mem_tried, settled.locks, settled.resident,
        settled.order⟩
      · cases ends (perm.nodup_iff.mp distinct) with
        | through _ through' => exact through.agree apart perm through'
        | stopped failed =>
            rw [done'] at failed
            cases failed
      · rw [done] at failed
        cases failed
  | @stopped error front back page id failed split there dirty stores denied asked =>
      have settled := stores.settled
      rw [split] at distinct
      have outside : page ∉ front := fun inside =>
        (List.nodup_append.mp distinct).2.2 page inside page List.mem_cons_self rfl
      have listed : page ∈ pages := by
        rw [split]
        exact List.mem_append_right _ List.mem_cons_self
      refine ⟨fun done => ?_, fun done => ?_, fun error' failed' => ⟨page, listed, id, there, dirty,
        ?_, stores.kept outside, fun other => ?_⟩, asked, settled.locks, settled.resident,
        settled.order⟩
      · rw [failed] at done
        cases done
      · rw [failed] at done
        cases done
      · rw [failed] at failed'
        cases failed'
        exact denied
      · by_cases inside : other ∈ front
        · cases resident : db.cache.residentFrame? other with
          | none => exact .inl (stores.kept_of_absent resident)
          | some target =>
              have listed : other ∈ pages := by
                rw [split]
                exact List.mem_append_left _ inside
              exact .inr ⟨listed, target, rfl, stores.flushed orderly inside resident⟩
        · exact .inl (stores.kept inside)

/-- Two dirty pages of a file, in both orders. If no write is turned away, the stores are asked in
different orders and the same is left behind. If the second page cannot be written, the first one is
flushed or not, as it comes before the second one or behind it. -/
theorem flush_in_any_order_reversed :
    let first : PageId := ⟨⟨1⟩, 0⟩
    let second : PageId := ⟨⟨1⟩, 1⟩
    let accept : PageId → Option Error := fun _ => none
    let refusal : PageId → Option Error := fun page =>
      if page.number = 1 then some (.io .badSector) else none
    let there := changedPages.flushEachUnless accept [first, second]
    let back := changedPages.flushEachUnless accept [second, first]
    let stopped := changedPages.flushEachUnless refusal [first, second]
    changedPages.Reachable ⟨2, by decide⟩ ∧ changedPages.storage.Apart ∧
      [first, second].Nodup ∧ there.result = .ok () ∧ back.result = .ok () ∧
      there.tried = [first, second] ∧ back.tried = [second, first] ∧
      SameButOrder there.db back.db ∧
      stopped.result = .error (.io .badSector) ∧
      stopped.db.storage.image? first = some #[1, 1] ∧
      (changedPages.flushEachUnless refusal [second, first]).db.storage.image? first ≠
        some #[1, 1] ∧
      changedPages.FlushesInAnyOrder refusal [first, second] stopped := by
  intro first second accept refusal there back stopped
  have reached : changedPages.Reachable ⟨2, by decide⟩ := by
    refine ⟨Workload.ragged, 2, Nat.two_pos, _, Workload.sized_ragged, ?_, rfl⟩
    simp [Deed.Sized, Call.Sized]
  have alone : changedPages.storage.tables = [⟨1⟩] := by decide +kernel
  have apart := Storage.apart_of_tables alone
  have distinct : [first, second].Nodup := by decide
  have done : there.result = .ok () := by decide +kernel
  have done' : back.result = .ok () := by decide +kernel
  have tried : there.tried = [first, second] := by decide +kernel
  have tried' : back.tried = [second, first] := by decide +kernel
  have fails : stopped.result = .error (.io .badSector) := by decide +kernel
  have stored : stopped.db.storage.image? first = some #[1, 1] := by decide +kernel
  have unstored : (changedPages.flushEachUnless refusal [second, first]).db.storage.image? first ≠
      some #[1, 1] := by decide +kernel
  have same := (flush_in_any_order reached apart accept distinct).1.same done _
    (.swap second first []) done'
  exact ⟨reached, apart, distinct, done, done', tried, tried', same, fails, stored, unstored,
    (flush_in_any_order reached apart refusal distinct).1⟩

end Database

end PageTxn
