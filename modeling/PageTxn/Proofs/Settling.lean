import PageTxn.Database
import PageTxn.Proofs.Cache
import PageTxn.Proofs.Storage

/-!
What a commit and an abort do to the pages of a transaction.

* `Database.Settled` says that the frames of some resident pages have been changed, and no
  others; page by page such changes add up (`Settled.cons`).
* `Database.Stores` says that the dirty ones of some resident pages are stored as they are shown,
  and that the frames of the resident ones have been changed in the same way (`Stores.cons`).
  `Database.Written` says so of stores that do not fail.
* `exists_flush_clean`, `exists_forceEach`: a flush of a page and a commit succeed if no store
  fails. `exists_commitPages`: a commit stores what is shown.
* `settled_rollbackPages`: a rollback returns the frames that the transaction owns to their
  before-images.
-/

namespace PageTxn

/-- A frame whose image was forced to its store. -/
def Frame.force (frame : Frame) : Frame := frame.clean.refresh

/-- A frame after a transaction was undone. -/
def Frame.undo (txn : TxnId) (frame : Frame) : Frame :=
  if frame.owner = some txn then frame.restore else frame

/-- A clean frame that shows its before-image does not change when it is forced. -/
lemma Frame.force_of_clean {frame : Frame} (clean : frame.owner = none)
    (same : frame.live = frame.before) : frame.force = frame := by
  cases frame
  simp_all [Frame.force, Frame.clean, Frame.refresh]

/-- A clean frame does not change when a transaction is undone. -/
lemma Frame.undo_of_clean {frame : Frame} {txn : TxnId} (clean : frame.owner = none) :
    frame.undo txn = frame := by
  rw [Frame.undo, if_neg (by rw [clean]; simp)]

/-- What writing a page may do to its frame: it is clean then and shows the same image, and
writing it again would change nothing. -/
structure Frame.IsWrite (change : Frame → Frame) : Prop where
  page : ∀ frame, (change frame).page = frame.page
  live : ∀ frame, (change frame).live = frame.live
  clean : ∀ frame, (change frame).owner = none
  again : ∀ frame, change (change frame) = change frame

lemma Frame.isWrite_clean : Frame.IsWrite Frame.clean :=
  ⟨fun _ => rfl, fun _ => rfl, fun _ => rfl, fun _ => rfl⟩

lemma Frame.isWrite_force : Frame.IsWrite Frame.force :=
  ⟨fun _ => rfl, fun _ => rfl, fun _ => rfl, fun _ => rfl⟩

namespace Database

variable {db middle later : Database} {change : Frame → Frame} {page : PageId}
  {pages : List PageId} {id : FrameId}

/-- The frames of those pages that are resident have been changed, and nothing else in cache
and locks. -/
structure Settled (change : Frame → Frame) (pages : List PageId) (db later : Database) :
    Prop where
  locks : later.locks = db.locks
  nextFrame : later.cache.nextFrame = db.cache.nextFrame
  order : later.cache.queue = db.cache.queue
  resident : ∀ page : PageId,
    later.cache.residentFrame? page = db.cache.residentFrame? page
  frame : ∀ id : FrameId, later.cache.frame id =
    if (db.cache.frame id).page ∈ pages ∧
        db.cache.residentFrame? (db.cache.frame id).page = some id then
      change (db.cache.frame id)
    else db.cache.frame id

lemma Settled.nil (db : Database) : Settled change [] db db where
  locks := rfl
  nextFrame := rfl
  order := rfl
  resident _ := rfl
  frame id := by simp

/-- A page that is not resident need not be settled. -/
lemma Settled.skip (absent : db.cache.residentFrame? page = none)
    (rest : Settled change pages db later) : Settled change (page :: pages) db later where
  locks := rest.locks
  nextFrame := rest.nextFrame
  order := rest.order
  resident := rest.resident
  frame id := by
    rw [rest.frame]
    by_cases here : (db.cache.frame id).page = page
    · rw [here, absent]
      simp
    · simp [here]

/-- Settling a page and then others settles all of them, if a second change has no effect. -/
lemma Settled.cons (shows : ∀ frame, (change frame).page = frame.page)
    (again : ∀ frame, change (change frame) = change frame)
    (first : Settled change [page] db middle) (rest : Settled change pages middle later) :
    Settled change (page :: pages) db later where
  locks := rest.locks.trans first.locks
  nextFrame := rest.nextFrame.trans first.nextFrame
  order := rest.order.trans first.order
  resident other := (rest.resident other).trans (first.resident other)
  frame id := by
    have same_page : (middle.cache.frame id).page = (db.cache.frame id).page := by
      rw [first.frame]
      split
      · exact shows _
      · rfl
    rw [rest.frame, same_page, first.resident, first.frame]
    by_cases there : db.cache.residentFrame? (db.cache.frame id).page = some id
    · by_cases here : (db.cache.frame id).page = page
      · by_cases listed : page ∈ pages <;> simp [here ▸ there, here, listed, again]
      · simp [there, here]
    · simp [there]

/-- Settling one resident page changes its frame. -/
lemma Settled.one {id : FrameId} (there : db.cache.residentFrame? page = some id)
    (shows : (db.cache.frame id).page = page) (locks : later.locks = db.locks)
    (nextFrame : later.cache.nextFrame = db.cache.nextFrame)
    (order : later.cache.queue = db.cache.queue)
    (resident : ∀ other, later.cache.residentFrame? other = db.cache.residentFrame? other)
    (frame : ∀ other, later.cache.frame other =
      if id = other then change (db.cache.frame id) else db.cache.frame other) :
    Settled change [page] db later where
  locks := locks
  nextFrame := nextFrame
  order := order
  resident := resident
  frame other := by
    rw [frame]
    by_cases same : id = other
    · subst same
      simp [shows, there]
    · rw [if_neg same, if_neg]
      rintro ⟨listed, resident⟩
      rw [List.mem_singleton.mp listed, there] at resident
      exact same (Option.some.inj resident)

/-- A settled cache is orderly. -/
lemma Settled.orderly (settled : Settled change pages db later)
    (shows : ∀ frame, (change frame).page = frame.page) (orderly : db.cache.Orderly) :
    later.cache.Orderly where
  page page id there := by
    rw [settled.resident] at there
    rw [settled.frame]
    split
    · rw [shows]
      exact orderly.page page id there
    · exact orderly.page page id there
  made page id there := by
    rw [settled.resident] at there
    rw [settled.nextFrame]
    exact orderly.made page id there
  listed page id there := by
    rw [settled.resident] at there
    rw [settled.order]
    exact orderly.listed page id there

/-! ### Views of a page -/

/-- The image that the database shows for a page: the one of its resident frame, or else the
stored one. -/
def shown? (db : Database) (page : PageId) : Option Image :=
  match db.cache.residentFrame? page with
  | some id => some (db.cache.frame id).live
  | none => db.storage.image? page

/-- The image of a page that is resident and dirty. -/
def unwritten? (db : Database) (page : PageId) : Option Image :=
  match db.cache.residentFrame? page with
  | some id => if (db.cache.frame id).isDirty then some (db.cache.frame id).live else none
  | none => none

lemma unwritten?_of_absent (absent : db.cache.residentFrame? page = none) :
    db.unwritten? page = none := by
  rw [unwritten?, absent]

lemma unwritten?_of_resident (there : db.cache.residentFrame? page = some id) :
    db.unwritten? page =
      if (db.cache.frame id).isDirty then some (db.cache.frame id).live else none := by
  rw [unwritten?, there]

/-- A page of this length is stored. -/
def Backed (db : Database) (page : PageId) (size : Nat) : Prop :=
  ∃ image, db.storage.image? page = some image ∧ image.size = size

/-- If the page is resident, it is stored, and has its length in the store. -/
def Housed (db : Database) (page : PageId) : Prop :=
  ∀ id, db.cache.residentFrame? page = some id → db.Backed page (db.cache.frame id).live.size

/-! ### Pages that are written -/

/-- The dirty ones of the resident pages are stored as they are shown, and the frames of the
resident ones have been changed. -/
structure Stores (change : Frame → Frame) (pages : List PageId) (db later : Database) : Prop where
  tables : later.storage.SameTables db.storage
  image : ∀ page : PageId, later.storage.image? page =
    if page ∈ pages then (db.unwritten? page).or (db.storage.image? page)
    else db.storage.image? page
  settled : Settled change pages db later

namespace Stores

lemma nil (db : Database) : Stores change [] db db :=
  ⟨⟨rfl, rfl⟩, fun page => by simp, .nil db⟩

/-- A page that is not resident need not be stored. -/
lemma skip (absent : db.cache.residentFrame? page = none)
    (rest : Stores change pages db later) : Stores change (page :: pages) db later := by
  refine ⟨rest.tables, fun other => ?_, rest.settled.skip absent⟩
  rw [rest.image]
  by_cases here : other = page
  · subst here
    by_cases listed : other ∈ pages <;> simp [listed, unwritten?_of_absent absent]
  · simp [here]

/-- A new before-image is taken of a page that was written. -/
lemma refresh (stores : Stores Frame.clean [page] db middle) (orderly : db.cache.Orderly)
    (there : db.cache.residentFrame? page = some id) :
    Stores Frame.force [page] db
      { middle with cache := middle.cache.updateFrame id Frame.refresh } := by
  have shows := orderly.page page id there
  refine ⟨stores.tables, stores.image, .one there shows stores.settled.locks
    stores.settled.nextFrame stores.settled.order stores.settled.resident fun other => ?_⟩
  rw [Cache.frame_updateFrame, stores.settled.frame, stores.settled.frame]
  by_cases here : id = other
  · subst here
    simp [shows, there, Frame.force]
  · rw [if_neg here, if_neg here, if_neg]
    rintro ⟨listed, resident⟩
    rw [List.mem_singleton.mp listed, there] at resident
    exact here (Option.some.inj resident)

section Changes

variable (isWrite : Frame.IsWrite change)
include isWrite

/-- A page that was written is clean, and no other page has changed. -/
lemma unwritten? (first : Stores change [page] db middle) (orderly : db.cache.Orderly)
    (other : PageId) :
    middle.unwritten? other = if other = page then none else db.unwritten? other := by
  have orderly' := first.settled.orderly isWrite.page orderly
  cases there : db.cache.residentFrame? other with
  | none =>
      rw [unwritten?_of_absent ((first.settled.resident other).trans there),
        unwritten?_of_absent there, ite_self]
  | some id =>
      rw [unwritten?_of_resident ((first.settled.resident other).trans there),
        unwritten?_of_resident there, first.settled.frame, orderly.page other id there]
      by_cases here : other = page
      · subst here
        simp [there, Frame.isDirty, isWrite.clean]
      · simp [here]

/-- Storing a page and then others stores all of them, if a second change has no effect. -/
lemma cons (orderly : db.cache.Orderly) (first : Stores change [page] db middle)
    (rest : Stores change pages middle later) : Stores change (page :: pages) db later := by
  refine ⟨rest.tables.trans first.tables, fun other => ?_,
    first.settled.cons isWrite.page isWrite.again rest.settled⟩
  rw [rest.image, first.unwritten? isWrite orderly, first.image]
  by_cases here : other = page
  · subst here
    by_cases listed : other ∈ pages <;> simp [listed]
  · by_cases listed : other ∈ pages <;> simp [listed, here]

end Changes

end Stores

/-- The same, if the stores do not fail. -/
structure Written (change : Frame → Frame) (pages : List PageId) (db later : Database) : Prop
    extends Stores change pages db later where
  reliable : later.storage.Reliable

lemma Written.nil (reliable : db.storage.Reliable) : Written change [] db db :=
  ⟨.nil db, reliable⟩

/-- A page that is not resident need not be written. -/
lemma Written.skip (absent : db.cache.residentFrame? page = none)
    (rest : Written change pages db later) : Written change (page :: pages) db later :=
  ⟨rest.toStores.skip absent, rest.reliable⟩

section Changes

variable (isWrite : Frame.IsWrite change)
include isWrite

/-- Frames keep the length of their stored pages. -/
lemma Stores.housed (stores : Stores change pages db later) (housed : db.Housed page) :
    later.Housed page := by
  intro id there
  rw [stores.settled.resident] at there
  obtain ⟨stored, found, size⟩ := housed id there
  have live : (later.cache.frame id).live = (db.cache.frame id).live := by
    rw [stores.settled.frame]
    split
    · exact isWrite.live _
    · rfl
  rw [Backed, live, stores.image]
  split
  · rw [unwritten?_of_resident there]
    split
    · exact ⟨_, rfl, rfl⟩
    · exact ⟨stored, found, size⟩
  · exact ⟨stored, found, size⟩

/-- Writing a page and then others writes all of them, if a second change has no effect. -/
lemma Written.cons (orderly : db.cache.Orderly) (first : Written change [page] db middle)
    (rest : Written change pages middle later) : Written change (page :: pages) db later :=
  ⟨first.toStores.cons isWrite orderly rest.toStores, rest.reliable⟩

end Changes

/-! ### Flushes and commits -/

/-- A resident page is written if it is dirty, and its frame is clean then. -/
lemma exists_flush_clean (reliable : db.storage.Reliable) (orderly : db.cache.Orderly)
    (housed : db.Housed page) (there : db.cache.residentFrame? page = some id) :
    ∃ flushed, db.flush id = (flushed, .ok ()) ∧ Written Frame.clean [page] db flushed := by
  have shows := orderly.page page id there
  obtain ⟨stored, found, size⟩ := housed id there
  cases dirty : (db.cache.frame id).isDirty with
  | false =>
      have same : (db.cache.frame id).clean = db.cache.frame id := by
        have clean : (db.cache.frame id).owner = none := by simpa [Frame.isDirty] using dirty
        rw [Frame.clean, ← clean]
      refine ⟨db, by simp [flush, dirty], ⟨⟨rfl, rfl⟩, fun other => ?_,
        .one there shows rfl rfl rfl (fun _ => rfl) fun other => ?_⟩, reliable⟩
      · split
        · next listed =>
          rw [List.mem_singleton.mp listed, unwritten?_of_resident there, dirty,
            if_neg Bool.false_ne_true, Option.none_or]
        · rfl
      · split
        · next here => rw [← here, same]
        · rfl
  | true =>
      obtain ⟨store, registered⟩ := Storage.catalog_of_image? found
      have registered' : db.storage.catalog[(db.cache.frame id).page.table]? = some store := by
        rw [shows]
        exact registered
      obtain ⟨storage, done, reliable', tables, images⟩ := Storage.exists_writePage reliable
        registered' (by rw [shows]; exact found) size.symm
      refine ⟨{ db with
          storage
          cache := (db.cache.updateFrame id Frame.clean).countWritten },
        by simp [flush, dirty, Storage.storeOf_eq registered', done], ⟨tables,
        fun other => ?_, .one there shows rfl rfl rfl (fun _ => rfl) fun other => ?_⟩, reliable'⟩
      · rw [images, shows]
        by_cases here : page = other
        · subst here
          simp [unwritten?_of_resident there, dirty]
        · simp [here, Ne.symm here]
      · exact Cache.frame_updateFrame ..

/-- A new before-image is taken of a page that was written. -/
lemma Written.refresh (written : Written Frame.clean [page] db middle)
    (orderly : db.cache.Orderly) (there : db.cache.residentFrame? page = some id) :
    Written Frame.force [page] db
      { middle with cache := middle.cache.updateFrame id Frame.refresh } :=
  ⟨written.toStores.refresh orderly there, written.reliable⟩

/-- A commit succeeds if no store fails, whatever the before-images of the pages. -/
theorem exists_forceEach (reliable : db.storage.Reliable) (orderly : db.cache.Orderly)
    (pages : List PageId) (housed : ∀ page ∈ pages, db.Housed page) :
    ∃ forced, db.commitPages pages = (forced, .ok ()) ∧ Written Frame.force pages db forced := by
  induction pages generalizing db with
  | nil => exact ⟨db, rfl, .nil reliable⟩
  | cons page rest ih =>
      rw [commitPages]
      split
      · next there =>
        obtain ⟨forced, done, written⟩ := ih reliable orderly fun other listed =>
          housed other (List.mem_cons_of_mem _ listed)
        exact ⟨forced, done, written.skip there⟩
      · next id there =>
        obtain ⟨middle, done, cleaned⟩ := exists_flush_clean reliable orderly
          (housed page List.mem_cons_self) there
        have first := cleaned.refresh orderly there
        obtain ⟨forced, done', written⟩ := ih first.reliable
          (first.settled.orderly (fun _ => rfl) orderly) fun other listed =>
            first.housed Frame.isWrite_force (housed other (List.mem_cons_of_mem _ listed))
        refine ⟨forced, ?_, first.cons Frame.isWrite_force orderly written⟩
        rw [done]
        exact done'

/-- What is needed for a commit to store what is shown: a resident frame has the stored image as its
before-image, and shows it unless it is dirty. -/
def Forceable (db : Database) (page : PageId) : Prop :=
  ∀ id, db.cache.residentFrame? page = some id →
    db.storage.image? page = some (db.cache.frame id).before ∧
      ((db.cache.frame id).owner = none → (db.cache.frame id).live = (db.cache.frame id).before)

lemma Forceable.housed (forceable : db.Forceable page) : db.Housed page := fun id there =>
  ⟨_, (forceable id there).1, (db.cache.frame id).same_size⟩

/-- A page that is stored if it is dirty is stored as it is shown. -/
lemma Forceable.shown? (forceable : db.Forceable page) :
    (db.unwritten? page).or (db.storage.image? page) = db.shown? page := by
  cases there : db.cache.residentFrame? page with
  | none => rw [unwritten?_of_absent there, Option.none_or, Database.shown?, there]
  | some id =>
      obtain ⟨before, same⟩ := forceable id there
      rw [unwritten?_of_resident there, Database.shown?, there]
      cases owner : (db.cache.frame id).owner with
      | none => simp [Frame.isDirty, owner, before, same owner]
      | some txn => simp [Frame.isDirty, owner]

/-- Forcing pages succeeds if no store fails; what the database shows for them is stored then. -/
theorem exists_commitPages (reliable : db.storage.Reliable) (orderly : db.cache.Orderly)
    (forceable : ∀ page ∈ pages, db.Forceable page) :
    ∃ later, db.commitPages pages = (later, .ok ()) ∧ later.storage.Reliable ∧
      later.storage.SameTables db.storage ∧
      (∀ page, later.storage.image? page =
        if page ∈ pages then db.shown? page else db.storage.image? page) ∧
      Settled Frame.force pages db later := by
  obtain ⟨later, done, written⟩ := exists_forceEach reliable orderly pages fun page listed =>
    (forceable page listed).housed
  refine ⟨later, done, written.reliable, written.tables, fun page => ?_, written.settled⟩
  rw [written.image]
  split
  · next listed => exact (forceable page listed).shown?
  · rfl

/-! ### Undoing changes -/

/-- A rollback undoes what the transaction has changed on the pages. -/
theorem settled_rollbackPages (orderly : db.cache.Orderly) (txn : TxnId) (pages : List PageId) :
    Settled (Frame.undo txn) pages db (db.rollbackPages txn pages) := by
  have shows : ∀ frame : Frame, (frame.undo txn).page = frame.page := by
    intro frame
    rw [Frame.undo]
    split <;> rfl
  have again : ∀ frame : Frame, (frame.undo txn).undo txn = frame.undo txn := by
    intro frame
    by_cases own : frame.owner = some txn
    · exact Frame.undo_of_clean (by rw [Frame.undo, if_pos own]; rfl)
    · have same : frame.undo txn = frame := by rw [Frame.undo, if_neg own]
      rw [same, same]
  induction pages generalizing db with
  | nil => exact .nil db
  | cons page rest ih =>
      have step : db.rollbackPages txn (page :: rest) =
          { db with cache := db.cache.rollback txn page }.rollbackPages txn rest := rfl
      rw [step]
      cases there : db.cache.residentFrame? page with
      | none =>
          have same : db.cache.rollback txn page = db.cache := by simp [Cache.rollback, there]
          rw [same]
          exact (ih orderly).skip there
      | some id =>
          have first : Settled (Frame.undo txn) [page] db
              { db with cache := db.cache.rollback txn page } := by
            by_cases own : (db.cache.frame id).owner = some txn
            · have undone : db.cache.rollback txn page =
                  db.cache.updateFrame id Frame.restore := by simp [Cache.rollback, there, own]
              rw [undone]
              refine .one there (orderly.page page id there) rfl rfl rfl (fun _ => rfl)
                fun other => ?_
              rw [Cache.frame_updateFrame, Frame.undo, if_pos own]
            · have same : db.cache.rollback txn page = db.cache := by
                simp [Cache.rollback, there, own]
              rw [same]
              refine .one there (orderly.page page id there) rfl rfl rfl (fun _ => rfl)
                fun other => ?_
              rw [Frame.undo, if_neg own]
              split
              · next same => rw [same]
              · rfl
          exact first.cons shows again (ih (first.orderly shows orderly))

end Database

end PageTxn
