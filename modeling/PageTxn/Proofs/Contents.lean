import PageTxn.Proofs.Faultless
import PageTxn.Proofs.Scan
import PageTxn.Proofs.Settling

/-!
What a database shows, and what a fetch leaves of it.

* `Database.shown?` and `Database.owner?` are the two views of a page: the image that readers are
  handed, and the transaction whose unwritten changes it carries. `Database.records` and
  `Database.slotUsed?` read the records and the bitmaps of the images that are shown.
* `Database.Faithful` says that clean resident pages show the stored images. Then pages may be
  evicted and brought in without a trace in the views: `Database.Rests`.
* `Database.Fetched` is what one move of a fetch does, whatever the page is fetched for
  (`fetched_step`).
* `Database.Puts` says that a page at hand was changed (`puts_changeFrame`, `puts_markDirty`), and
  `Puts.records_eq` what this does to the records.
* `Database.Reachable` databases are those that deeds lead to (`Reachable.sized`).
-/

namespace PageTxn

/-- The number of whole pages of a heap file. -/
def Storage.pages (storage : Storage) (heap : HeapFile) : Nat :=
  PageFile.wholePages (storage.disk.bytes heap.file) storage.pageSize

/-- Whether a request was turned away from outside: by the locks, by a cache without room or by
the store. -/
def Error.isRefusal : Error → Bool
  | io _ | deadlock _ | cacheExhausted _ => true
  | _ => false

/-- A page that is resident is listed. -/
lemma Cache.mem_residentPages {cache : Cache} {page : PageId} {id : FrameId}
    (there : cache.residentFrame? page = some id) : page ∈ cache.residentPages := by
  rw [residentPages, Std.ExtTreeMap.mem_keys, Std.ExtTreeMap.mem_iff_isSome_getElem?]
  exact Option.isSome_iff_exists.mpr ⟨id, there⟩

namespace Database

variable {db middle later : Database} {txn : TxnId} {level : Level} {heap : HeapFile}
  {page : PageId} {id : FrameId} {image : Image}

/-! ### Views -/

/-- The transaction whose unwritten changes a page carries, `none` if the page is clean or not
resident. -/
def owner? (db : Database) (page : PageId) : Option TxnId :=
  (db.cache.residentFrame? page).bind fun id => (db.cache.frame id).owner

/-- The live records that the database shows. -/
def records (db : Database) (id : RecordId) : Option Image :=
  (db.shown? id.page).bind fun image => db.storage.payloadIn image id

/-- Whether the bitmap of a page that is shown marks a slot as used. -/
def slotUsed? (db : Database) (id : RecordId) : Option Bool :=
  (db.shown? id.page).bind fun image => (SlotLayout.isUsed? image id.slot).toOption

/-- Clean resident pages show the stored images. -/
def Faithful (db : Database) : Prop :=
  ∀ (page : PageId) (id : FrameId), db.cache.residentFrame? page = some id →
    (db.cache.frame id).owner = none → db.storage.image? page = some (db.cache.frame id).live

/-- It is enough to look at the pages that are resident. -/
lemma faithful_of_residentPages
    (all : ∀ page ∈ db.cache.residentPages, db.owner? page = none →
      db.storage.image? page = db.shown? page) : db.Faithful := by
  intro page id there clean
  have stored := all page (Cache.mem_residentPages there) (by
    rw [owner?, there, Option.bind_some, clean])
  rwa [shown?, there] at stored

/-- Some deeds lead to the database. -/
def Reachable (size : PageSize) (db : Database) : Prop :=
  ∃ (storage : Storage) (capacity : Nat) (capacity_pos : 0 < capacity) (deeds : List Deed),
    storage.Sized size ∧ (∀ deed ∈ deeds, deed.Sized size) ∧
      db = ((Workload.initial storage capacity capacity_pos).run deeds).db

/-- All images of a reachable database have the length of a page, and its cache is exact. -/
lemma Reachable.sized {size : PageSize} (reached : db.Reachable size) : db.Sized size := by
  obtain ⟨storage, capacity, capacity_pos, deeds, sized, fitting, rfl⟩ := reached
  have begins : (Workload.initial storage capacity capacity_pos).Sized size :=
    ⟨⟨sized, fun id made => absurd made (Nat.not_lt_zero id),
      Cache.exact_empty capacity capacity_pos⟩, fun operation inside => by cases inside⟩
  exact (begins.run (Workload.sane_initial storage capacity capacity_pos) fitting).1.db

lemma shown?_of_resident (there : db.cache.residentFrame? page = some id) :
    db.shown? page = some (db.cache.frame id).live := by
  rw [shown?, there]

lemma shown?_of_absent (absent : db.cache.residentFrame? page = none) :
    db.shown? page = db.storage.image? page := by
  rw [shown?, absent]

lemma owner?_of_resident (there : db.cache.residentFrame? page = some id) :
    db.owner? page = (db.cache.frame id).owner := by
  rw [owner?, there, Option.bind_some]

lemma owner?_of_absent (absent : db.cache.residentFrame? page = none) :
    db.owner? page = none := by
  rw [owner?, absent, Option.bind_none]

/-- A page of a heap file that is shown has the length of a page. -/
lemma Sized.size_of_shown {size : PageSize} (sized : db.Sized size)
    (found : db.storage.catalog[page.table]? = some (.heap heap))
    (shown : db.shown? page = some image) : image.size = size.bytes := by
  rw [shown?] at shown
  split at shown
  · next id there =>
    cases shown
    exact sized.cache id (sized.exact.made page id there)
  · rw [Storage.image?_heap found] at shown
    rw [PageFile.size_of_read? shown, sized.storage.pageSize]

/-! ### Pages that come and go -/

/-- The stores are the same, and so is what every page shows and whose changes it carries. Clean
pages may have come or gone. -/
structure Rests (later earlier : Database) : Prop where
  storage : later.storage = earlier.storage
  shown : ∀ page, later.shown? page = earlier.shown? page
  owner : ∀ page, later.owner? page = earlier.owner? page
  faithful : later.Faithful

/-- Locks and counters do not show. -/
lemma Faithful.rests_of_stats (faithful : db.Faithful) (locks : LockManager)
    (stats : CacheStats) : Rests { db with locks, cache := { db.cache with stats } } db :=
  ⟨rfl, fun _ => rfl, fun _ => rfl, faithful⟩

lemma Rests.trans (h : later.Rests middle) (h' : middle.Rests db) : later.Rests db where
  storage := h.storage.trans h'.storage
  shown page := (h.shown page).trans (h'.shown page)
  owner page := (h.owner page).trans (h'.owner page)
  faithful := h.faithful

/-- Clean pages may leave. -/
lemma Faithful.rests_of_shrinks (faithful : db.Faithful) {cache : Cache}
    (shrinks : cache.Shrinks db.cache) : Rests { db with cache } db := by
  -- a page either stays in its frame, or it was clean and is stored as it was shown
  have views : ∀ page, shown? { db with cache } page = db.shown? page ∧
      owner? { db with cache } page = db.owner? page := by
    intro page
    rcases shrinks.resident page with same | ⟨gone, clean⟩
    · simp only [shown?, owner?, same, shrinks.frame, and_self]
    · obtain ⟨id, there, owner⟩ := Cache.isClean_iff.mp clean
      rw [shown?_of_resident there, owner?_of_resident there, owner]
      exact ⟨(shown?_of_absent gone).trans (faithful page id there owner), owner?_of_absent gone⟩
  refine ⟨rfl, fun page => (views page).1, fun page => (views page).2,
    fun page id there clean => ?_⟩
  rw [shrinks.frame] at clean ⊢
  exact faithful page id (shrinks.residentFrame? there) clean

/-- A stored page that is not resident may be brought in. -/
lemma Faithful.rests_bringIn (faithful : db.Faithful) (orderly : db.cache.Orderly)
    (absent : db.cache.residentFrame? page = none)
    (stored : db.storage.image? page = some image) :
    Rests { db with cache :=
      (db.cache.newFrame (.ofImage page image)).2.bringIn db.cache.nextFrame } db := by
  have fresh : (db.cache.newFrame (.ofImage page image)).2.frame db.cache.nextFrame =
      .ofImage page image := by rw [Cache.frame_newFrame, if_pos rfl]
  have older : ∀ (other : PageId) (id : FrameId), db.cache.residentFrame? other = some id →
      (db.cache.newFrame (.ofImage page image)).2.frame id = db.cache.frame id := by
    intro other id there
    rw [Cache.frame_newFrame, if_neg (Nat.ne_of_gt (orderly.made other id there))]
  have resident : ∀ other : PageId,
      ((db.cache.newFrame (.ofImage page image)).2.bringIn db.cache.nextFrame).residentFrame?
        other = if page = other then some db.cache.nextFrame
          else db.cache.residentFrame? other := by
    intro other
    rw [Cache.residentFrame?_bringIn, fresh]
    rfl
  set cache := (db.cache.newFrame (.ofImage page image)).2.bringIn db.cache.nextFrame with entered
  have frame : ∀ id, cache.frame id = (db.cache.newFrame (.ofImage page image)).2.frame id :=
    fun _ => rfl
  have views : ∀ other, shown? { db with cache } other = db.shown? other ∧
      owner? { db with cache } other = db.owner? other := by
    intro other
    by_cases here : page = other
    · subst here
      have there : cache.residentFrame? page = some db.cache.nextFrame := by
        rw [resident, if_pos rfl]
      rw [shown?_of_absent absent, owner?_of_absent absent, stored]
      refine ⟨(shown?_of_resident there).trans ?_, (owner?_of_resident there).trans ?_⟩
      · exact congrArg some (congrArg Frame.live ((frame _).trans fresh))
      · exact congrArg Frame.owner ((frame _).trans fresh)
    · have same : cache.residentFrame? other = db.cache.residentFrame? other := by
        rw [resident, if_neg here]
      cases there : db.cache.residentFrame? other with
      | none =>
          rw [shown?_of_absent there, owner?_of_absent there]
          exact ⟨shown?_of_absent (same.trans there), owner?_of_absent (same.trans there)⟩
      | some id =>
          rw [shown?_of_resident there, owner?_of_resident there, ← older other id there]
          exact ⟨shown?_of_resident (same.trans there), owner?_of_resident (same.trans there)⟩
  refine ⟨rfl, fun page => (views page).1, fun page => (views page).2,
    fun other id there clean => ?_⟩
  rw [resident] at there
  rw [frame] at clean ⊢
  split at there
  · next here =>
    cases there
    subst here
    rw [fresh]
    exact stored
  · rw [older other id there] at clean ⊢
    exact faithful other id there clean

/-- A stored page is entered without a trace, or there is no room. -/
lemma Faithful.enterPage (faithful : db.Faithful) (orderly : db.cache.Orderly)
    (stored : db.storage.image? page = some image) :
    (∃ id, (db.enterPage page image).2 = .ok id ∧
        (db.enterPage page image).1.cache.residentFrame? page = some id ∧
        (db.enterPage page image).1.locks = db.locks ∧ (db.enterPage page image).1.Rests db) ∨
      ∃ capacity, (db.enterPage page image).2 = .error (.cacheExhausted capacity) ∧
        (db.enterPage page image).1.Rests db := by
  have rests : db.Rests db := faithful.rests_of_shrinks (.refl db.cache)
  rw [Database.enterPage]
  cases there : db.cache.residentFrame? page with
  | some id => exact .inl ⟨id, rfl, there, rfl, rests⟩
  | none =>
      cases room : db.cache.makeRoom with
      | mk roomy result =>
          have shrinks := Cache.shrinks_of_makeRoom room
          have smaller : Rests { db with cache := roomy } db := faithful.rests_of_shrinks shrinks
          cases result with
          | error error =>
              obtain ⟨capacity, rfl⟩ := Cache.exists_exhausted room
              exact .inr ⟨capacity, rfl, smaller⟩
          | ok =>
              have absent : roomy.residentFrame? page = none := by
                rcases shrinks.resident page with same | ⟨gone, -⟩
                · exact same.trans there
                · exact gone
              have entered := smaller.faithful.rests_bringIn (shrinks.orderly orderly) absent stored
              refine .inl ⟨roomy.nextFrame, rfl, ?_, rfl, entered.trans smaller⟩
              show ((roomy.newFrame (.ofImage page image)).2.bringIn
                roomy.nextFrame).residentFrame? page = some roomy.nextFrame
              rw [Cache.residentFrame?_bringIn, Cache.frame_newFrame, if_pos rfl]
              exact if_pos rfl

/-! ### Fetching a page -/

/-- Who fetches a page exclusively holds it so. -/
def Locked (db : Database) (txn : TxnId) (aim : Aim) : Prop :=
  aim.mode = .exclusive → db.locks.table.modeOf? txn aim.page = some .exclusive

/-- What is known of the page when a fetch has come to a stage: the lock is held, the image that
was read is stored, and the page at hand is resident. -/
def AtStage (db : Database) (txn : TxnId) (aim : Aim) : Stage → Prop
  | .lock _ => True
  | .read => db.Locked txn aim
  | .enter image => db.Locked txn aim ∧ db.storage.image? aim.page = some image
  | .use id => db.Locked txn aim ∧ db.cache.residentFrame? aim.page = some id

/-- A fetch leaves no trace in the views. It goes on to its next stage, waits for the lock, is
refused, or finds that the page does not exist. -/
inductive Fetched (db : Database) (txn : TxnId) (level : Level) (aim : Aim) :
    Database × Progress → Prop
  | next {later : Database} {stage : Stage} (rests : later.Rests db)
      (known : later.AtStage txn aim stage) (asked : ∀ waited, stage ≠ .lock waited) :
      Fetched db txn level aim (later, .running (.fetching txn level aim stage))
  | parked {later : Database} {waited : Bool} (rests : later.Rests db) :
      Fetched db txn level aim (later, .parked (.fetching txn level aim (.lock waited)))
  | refused {later : Database} {error : Error} (rests : later.Rests db)
      (refusal : error.isRefusal = true ∨ db.storage.image? aim.page = none) :
      Fetched db txn level aim (later, .finished (aim.failed level error))

/-- Whoever was granted an exclusive lock holds it. -/
lemma locked_of_granted {aim : Aim} {waited : Bool} {locks : LockManager}
    (granted : db.locks.request txn aim.page aim.mode waited = (locks, .granted)) :
    locks.table.modeOf? txn aim.page = some .exclusive ∨ aim.mode = .shared := by
  have held := db.locks.table.modeOf?_request txn txn aim.page aim.page aim.mode
  have table := congrArg (fun answer => answer.1.table) granted
  have verdict := congrArg Prod.snd granted
  simp only [LockManager.request] at table verdict
  rw [if_pos ⟨verdict, rfl, rfl⟩, table] at held
  cases mode : aim.mode with
  | shared => exact .inr rfl
  | exclusive =>
      rw [mode, LockMode.joined, ite_self] at held
      exact .inl held

/-- One move of a fetch that does not use its page yet. -/
theorem fetched_step (faithful : db.Faithful) (orderly : db.cache.Orderly) {aim : Aim}
    {stage : Stage} (found : db.storage.catalog[aim.page.table]? = some (.heap heap))
    (known : db.AtStage txn aim stage) (unused : ∀ id, stage ≠ .use id) (level : Level) :
    db.Fetched txn level aim (db.step (.fetching txn level aim stage)) := by
  cases stage with
  | use id => exact absurd rfl (unused id)
  | lock waited =>
      rw [step, lockPage]
      split
      · next locks granted =>
        have held : Locked { db with locks } txn aim := by
          intro exclusive
          rcases locked_of_granted granted with own | shared
          · exact own
          · rw [exclusive] at shared
            cases shared
        split
        · next id there =>
          exact .next (faithful.rests_of_stats locks _) ⟨held, there⟩ fun _ same => by cases same
        · exact .next (faithful.rests_of_stats locks _) held fun _ same => by cases same
      · exact .refused (faithful.rests_of_stats _ _) (.inl rfl)
      · exact .parked (faithful.rests_of_stats _ _)
  | read =>
      rw [step]
      cases stored : db.storage.image? aim.page with
      | some image =>
          rw [loadPage_heap found stored]
          exact .next (faithful.rests_of_stats _ _) ⟨known, stored⟩ fun _ same => by cases same
      | none =>
          have missing : db.loadPage aim.page = (db, .error (Error.pageNotFound aim.page)) := by
            rw [Storage.image?_heap found] at stored
            rw [loadPage, Storage.storeOf_eq found]
            simp only [readPage, Storage.readPage_heap, stored]
          rw [missing]
          exact .refused (faithful.rests_of_stats db.locks db.cache.stats) (.inr stored)
  | enter image =>
      obtain ⟨held, stored⟩ := known
      rw [step]
      cases entered : db.enterPage aim.page image with
      | mk later result =>
          rcases faithful.enterPage orderly stored with
            ⟨id, done, there, locks, rests⟩ | ⟨capacity, done, rests⟩
          · rw [entered] at done there locks rests
            cases done
            refine .next rests ⟨fun exclusive => ?_, there⟩ fun _ same => by cases same
            rw [locks]
            exact held exclusive
          · rw [entered] at done rests
            cases done
            exact .refused rests (.inl rfl)

/-- One move of a fetch keeps the lengths, and so does the use of the page. -/
lemma AtStage.sized_step {size : PageSize} {aim : Aim} {stage : Stage}
    (known : db.AtStage txn aim stage) (sized : db.Sized size)
    (found : db.storage.catalog[aim.page.table]? = some (.heap heap)) (aims : aim.Sized size)
    (level : Level) : (db.step (.fetching txn level aim stage)).1.Sized size := by
  have stages : stage.Sized size ∧
      (Operation.fetching txn level aim stage).Made db.cache.nextFrame := by
    cases stage with
    | lock waited => exact ⟨trivial, trivial⟩
    | read => exact ⟨trivial, trivial⟩
    | use id => exact ⟨trivial, sized.exact.made _ id known.2⟩
    | enter image =>
        have shown := known.2
        rw [Storage.image?_heap found] at shown
        refine ⟨?_, trivial⟩
        rw [Stage.Sized, PageFile.size_of_read? shown, sized.storage.pageSize]
  have fitting : (Operation.fetching txn level aim stage).Sized size := ⟨aims, stages.1⟩
  exact (fares_step sized fitting stages.2).sized

/-! ### Changing a page at hand -/

/-- A resident page has got another image, which a transaction owns. -/
structure Puts (txn : TxnId) (page : PageId) (image : Image) (later earlier : Database) :
    Prop where
  storage : later.storage = earlier.storage
  locks : later.locks = earlier.locks
  resident : ∀ other, later.cache.residentFrame? other = earlier.cache.residentFrame? other
  shown : ∀ other, later.shown? other = if other = page then some image else earlier.shown? other
  owner : ∀ other, later.owner? other = if other = page then some txn else earlier.owner? other

/-- A resident frame is replaced. -/
lemma puts_setFrame (orderly : db.cache.Orderly) (there : db.cache.residentFrame? page = some id)
    {frame : Frame} (live : frame.live = image) (owner : frame.owner = some txn) :
    Puts txn page image { db with cache := db.cache.setFrame id frame } db := by
  have views : ∀ other, shown? { db with cache := db.cache.setFrame id frame } other =
        (if other = page then some image else db.shown? other) ∧
      owner? { db with cache := db.cache.setFrame id frame } other =
        if other = page then some txn else db.owner? other := by
    intro other
    have same : (db.cache.setFrame id frame).residentFrame? other =
        db.cache.residentFrame? other := rfl
    by_cases here : other = page
    · subst here
      simp only [shown?, owner?, same, there, Cache.frame_setFrame, if_pos, live, owner,
        Option.bind_some, and_self]
    · rw [if_neg here, if_neg here]
      cases elsewhere : db.cache.residentFrame? other with
      | none => simp only [shown?, owner?, same, elsewhere, Option.bind_none, and_self]
      | some target =>
          have apart := orderly.id_ne (Ne.symm here) there elsewhere
          simp only [shown?, owner?, same, elsewhere, Cache.frame_setFrame, if_neg apart,
            Option.bind_some, and_self]
  exact ⟨rfl, rfl, fun _ => rfl, fun other => (views other).1, fun other => (views other).2⟩

lemma puts_changeFrame (orderly : db.cache.Orderly)
    (there : db.cache.residentFrame? page = some id)
    (changed : db.changeFrame txn id image = .ok later) : Puts txn page image later db := by
  rw [changeFrame] at changed
  split at changed
  · next frame copied =>
    cases changed
    refine puts_setFrame orderly there ?_ rfl
    rw [Frame.copyFrom?] at copied
    split at copied
    · cases copied
      rfl
    · cases copied
  · cases changed

/-- A resident page that is reported by its own frame is owned by the transaction. -/
lemma puts_markDirty (orderly : db.cache.Orderly) (there : db.cache.residentFrame? page = some id)
    (txn : TxnId) : ∃ later, db.markDirty txn id = (later, .ok ()) ∧
      Puts txn page (db.cache.frame id).live later db := by
  have here := orderly.page page id there
  have marked : db.cache.markDirty txn id =
      (db.cache.setFrame id ((db.cache.frame id).mark txn), .ok ()) :=
    Cache.markDirty_of_resident (by rw [here]; exact there)
  refine ⟨{ db with cache := db.cache.setFrame id ((db.cache.frame id).mark txn) }, ?_,
    puts_setFrame orderly there rfl rfl⟩
  rw [Database.markDirty, marked]

/-- If one slot of a page has got another payload, one live record has changed. -/
lemma Puts.records_eq (puts : Puts txn page image later db)
    (found : db.storage.catalog[page.table]? = some (.heap heap)) {before : Image}
    (shown : db.shown? page = some before) {slot : Nat} {payload : Option Image}
    (exchanged : ∀ other, heap.layout.payload? image other =
      if slot = other then payload else heap.layout.payload? before other) :
    later.records = Function.update db.records ⟨page, slot⟩ payload := by
  have here : ∀ slot, db.records ⟨page, slot⟩ = db.storage.payloadIn before ⟨page, slot⟩ := by
    intro slot
    rw [records, shown, Option.bind_some]
  rw [History.update_records found here exchanged]
  funext id
  rw [records, puts.shown, puts.storage]
  by_cases same : id.page = page
  · rw [if_pos same, if_pos same, Option.bind_some]
  · rw [if_neg same, if_neg same, records]

end Database

end PageTxn
