import PageTxn.Proofs.Departure
import PageTxn.Proofs.Settling

/-!
What an abort undoes.

* `Cache.Upholds` relates a cache to an earlier one: every clean resident page shows its
  before-image, unless its page object was resident before and has been left alone.
* `Database.upholds_step`, `upholds_start` and `upholds_complete`: whatever the database does
  upholds the cache, except a flush.
* `of_markDirty_of_abort`: what a report and the abort of its transaction leave behind.
-/

namespace PageTxn

/-! ### Clean pages and their before-images -/

namespace Cache

variable {cache later middle earlier roomy : Cache} {page : PageId} {id : FrameId} {txn : TxnId}

/-- Page objects stay those of their pages. A clean resident page shows its before-image, unless
its page object was resident before and has been left alone. -/
structure Upholds (later earlier : Cache) : Prop where
  page : ∀ id < earlier.nextFrame, (later.frame id).page = (earlier.frame id).page
  nextFrame : earlier.nextFrame ≤ later.nextFrame
  shown : ∀ (page : PageId) (id : FrameId), later.residentFrame? page = some id →
    (later.frame id).owner = none → (later.frame id).live = (later.frame id).before ∨
      earlier.residentFrame? page = some id ∧ later.frame id = earlier.frame id

namespace Upholds

lemma refl (cache : Cache) : cache.Upholds cache :=
  ⟨fun _ _ => rfl, Nat.le_refl _, fun _ _ there _ => .inr ⟨there, rfl⟩⟩

lemma trans (second : later.Upholds middle) (first : middle.Upholds earlier) :
    later.Upholds earlier where
  page id made := (second.page id (Nat.lt_of_lt_of_le made first.nextFrame)).trans
    (first.page id made)
  nextFrame := Nat.le_trans first.nextFrame second.nextFrame
  shown page id there clean := by
    rcases second.shown page id there clean with same | ⟨before, same⟩
    · exact .inl same
    · rw [same] at clean ⊢
      exact first.shown page id before clean

/-- Pages may leave. -/
lemma of_shrinks (shrinks : later.Shrinks earlier) : later.Upholds earlier where
  page id _ := by rw [shrinks.frame]
  nextFrame := Nat.le_of_eq shrinks.nextFrame.symm
  shown page id there _ := .inr ⟨shrinks.residentFrame? there, shrinks.frame id⟩

/-- A page object may be changed if it is dirty afterwards, or shows its before-image. -/
lemma setFrame {frame : Frame} (same : frame.page = (cache.frame id).page)
    (fine : frame.owner = none → frame.live = frame.before) :
    (cache.setFrame id frame).Upholds cache where
  page other _ := by
    rw [frame_setFrame]
    split
    · next here => rw [← here, same]
    · rfl
  nextFrame := Nat.le_refl _
  shown page other there clean := by
    rw [frame_setFrame] at clean ⊢
    split at clean
    · next here =>
      rw [if_pos here]
      exact .inl (fine clean)
    · next apart =>
      rw [if_neg apart]
      exact .inr ⟨there, rfl⟩

/-- A new page object shows its before-image. -/
lemma newFrame (cache : Cache) (page : PageId) (image : Image) :
    (cache.newFrame (.ofImage page image)).2.Upholds cache where
  page other made := by rw [frame_newFrame, if_neg (Nat.ne_of_gt made)]
  nextFrame := Nat.le_succ _
  shown other target there _ := by
    rw [frame_newFrame]
    split
    · exact .inl rfl
    · exact .inr ⟨there, rfl⟩

/-- A page object may be brought in if it is dirty, or shows its before-image. -/
lemma bringIn (fine : (cache.frame id).owner = none →
      (cache.frame id).live = (cache.frame id).before) : (cache.bringIn id).Upholds cache where
  page _ _ := rfl
  nextFrame := Nat.le_refl _
  shown page other there clean := by
    rw [residentFrame?_bringIn] at there
    split at there
    · cases there
      exact .inl (fine clean)
    · exact .inr ⟨there, rfl⟩

end Upholds

/-- A report leaves a dirty page. -/
lemma upholds_markDirty (cache : Cache) (txn : TxnId) (id : FrameId) :
    (cache.markDirty txn id).1.Upholds cache := by
  rw [markDirty]
  split
  · split
    · next copied taken =>
      have same_page := Frame.page_of_copyFrom? taken
      exact .setFrame same_page fun clean => by cases clean
    · exact .refl cache
  · have shrinks := cache.shrinks_makeRoom
    split
    · next roomy room =>
      rw [room] at shrinks
      have marked : (roomy.updateFrame id fun frame => frame.mark txn).Upholds roomy :=
        .setFrame rfl fun clean => by cases clean
      have owner : ((roomy.updateFrame id fun frame => frame.mark txn).frame id).owner =
          some txn := by
        rw [frame_updateFrame, if_pos rfl]
        rfl
      refine Upholds.trans (.bringIn fun clean => ?_) (marked.trans (.of_shrinks shrinks))
      cases owner.symm.trans clean
    · next full error room =>
      rw [room] at shrinks
      exact .of_shrinks shrinks

/-- The page object that is resident after a successful report: the one that was resident before,
or else the reported one. -/
def target (cache : Cache) (id : FrameId) : FrameId :=
  (cache.residentFrame? (cache.frame id).page).getD id

/-- What a successful report leaves: its page is resident and dirty, shows the reported image, and
the before-image is still the one of the page object that is resident now. -/
lemma of_markDirty (done : cache.markDirty txn id = (later, .ok ())) :
    later.residentFrame? (cache.frame id).page = some (cache.target id) ∧
      (later.frame (cache.target id)).owner = some txn ∧
      (later.frame (cache.target id)).live = (cache.frame id).live ∧
      (later.frame (cache.target id)).before = (cache.frame (cache.target id)).before := by
  rw [markDirty] at done
  split at done
  · next resident there =>
    have target : cache.target id = resident := by
      rw [Cache.target, residentFrame?, there]
      rfl
    split at done
    · next copied taken =>
      cases done
      have live : copied.live = (cache.frame id).live := Frame.live_of_copyFrom? taken
      have before : copied.before = (cache.frame resident).before := Frame.before_of_copyFrom? taken
      rw [target, frame_setFrame, if_pos rfl]
      exact ⟨there, rfl, live, before⟩
    · cases done
  · next absent =>
    have target : cache.target id = id := by
      rw [Cache.target, residentFrame?, absent]
      rfl
    have shrinks := cache.shrinks_makeRoom
    split at done
    · next roomy room =>
      cases done
      rw [room] at shrinks
      have frame : (roomy.updateFrame id fun frame => frame.mark txn).frame id =
          (cache.frame id).mark txn := by
        rw [frame_updateFrame, if_pos rfl, shrinks.frame]
      have brought : ((roomy.updateFrame id fun frame => frame.mark txn).bringIn id).frame id =
          (cache.frame id).mark txn := frame
      rw [target, brought, residentFrame?_bringIn, frame]
      exact ⟨if_pos rfl, rfl, rfl, rfl⟩
    · cases done

/-- A report leaves the reported page object its image. -/
lemma live_markDirty (cache : Cache) (txn : TxnId) (id : FrameId) :
    ((cache.markDirty txn id).1.frame id).live = (cache.frame id).live := by
  rw [markDirty]
  split
  · split
    · next copied taken =>
      have live : copied.live = (cache.frame id).live := Frame.live_of_copyFrom? taken
      rw [frame_setFrame]
      split
      · exact live
      · rfl
    · rfl
  · have shrinks := cache.shrinks_makeRoom
    split
    · next roomy room =>
      rw [room] at shrinks
      show ((roomy.updateFrame id fun frame => frame.mark txn).frame id).live = _
      rw [frame_updateFrame, if_pos rfl, shrinks.frame]
      rfl
    · next full error room =>
      rw [room] at shrinks
      rw [shrinks.frame]

/-- If a report of an image with the length of the page fails, then for want of room, and the page
is not resident. -/
lemma exhausted_of_markDirty {failure : Failure}
    (whole : ∀ other, cache.residentFrame? (cache.frame id).page = some other →
      (cache.frame id).live.size = (cache.frame other).live.size)
    (failed : (cache.markDirty txn id).2 = .error failure) :
    (∃ capacity, failure = Error.cacheExhausted capacity) ∧
      (cache.markDirty txn id).1.residentFrame? (cache.frame id).page = none := by
  cases there : cache.residentFrame? (cache.frame id).page with
  | some other =>
      have found : cache.resident[(cache.frame id).page]? = some other := there
      simp [markDirty, found, Frame.copyFrom?_of_size (whole other there)] at failed
  | none =>
      have shrinks := cache.shrinks_makeRoom
      cases room : cache.makeRoom with
      | mk later result =>
          rw [room] at shrinks
          cases result with
          | ok done =>
              rw [markDirty_of_absent there room] at failed
              cases failed
          | error error =>
              rw [markDirty_of_full there room] at failed ⊢
              obtain ⟨capacity, rfl⟩ := exists_exhausted room
              cases failed
              exact ⟨⟨capacity, rfl⟩,
                (shrinks.resident _).elim (fun same => same.trans there) And.left⟩

/-- After a report its page object is dirty, unless it is not resident. -/
lemma dirty_of_markDirty
    (there : (cache.markDirty txn id).1.residentFrame? (cache.frame id).page = some id) :
    ((cache.markDirty txn id).1.frame id).owner ≠ none := by
  cases done : cache.markDirty txn id with
  | mk later result =>
      rw [done] at there
      cases result with
      | ok =>
          obtain ⟨resident, owner, -⟩ := of_markDirty done
          rw [Option.some.inj (there.symm.trans resident)]
          rw [owner]
          simp
      | error failure =>
          -- a report fails only if another page object is resident, or none
          rw [markDirty] at done
          split at done
          · next resident found =>
            split at done
            · cases done
            · next refused =>
              cases done
              cases found.symm.trans there
              rw [Frame.copyFrom?_of_size rfl] at refused
              cases refused
          · next absent =>
            have shrinks := cache.shrinks_makeRoom
            split at done
            · cases done
            · next full error room =>
              cases done
              rw [room] at shrinks
              cases absent.symm.trans (shrinks.residentFrame? there)

/-- An abort leaves clean pages with their before-images. -/
lemma upholds_rollbackEach (cache : Cache) (txn : TxnId) (pages : List PageId) :
    (cache.rollbackEach txn pages).Upholds cache := by
  induction pages generalizing cache with
  | nil => exact .refl cache
  | cons page rest ih =>
      refine (ih _).trans ?_
      rw [rollback]
      split
      · split
        · exact .setFrame rfl fun _ => rfl
        · exact .refl cache
      · exact .refl cache

lemma upholds_discard (cache : Cache) (page : PageId) : (cache.discard page).Upholds cache := by
  have frames : ∀ id, (cache.discard page).frame id = cache.frame id := by
    intro id
    rw [discard]
    split <;> rfl
  refine ⟨fun id _ => by rw [frames], ?_, fun other id there _ => ?_⟩
  · rw [discard]
    split <;> exact Nat.le_refl _
  · rw [residentFrame?_discard] at there
    split at there
    · cases there
    · exact .inr ⟨there, frames id⟩

end Cache

/-! ### The database upholds its cache -/

namespace Database

open Cache

variable {db later : Database} {txn : TxnId} {level : Level} {id : FrameId} {page : PageId}

lemma upholds_readPage (db : Database) (store : Store) (page : PageId) :
    (db.readPage store page).1.cache.Upholds db.cache := by
  rw [readPage]
  split
  · exact .refl _
  · exact .refl _
  · next storage image other read =>
    have fresh := Upholds.newFrame db.cache page image
    have marked := upholds_markDirty (db.cache.newFrame (.ofImage page image)).2 other
      db.cache.nextFrame
    simp only [newFrame] at fresh marked ⊢
    split
    · next cache fault done =>
      rw [done] at marked
      exact marked.trans fresh
    · next cache result done =>
      rw [done] at marked
      exact marked.trans fresh

lemma upholds_loadPage (db : Database) (page : PageId) :
    (db.loadPage page).1.cache.Upholds db.cache := by
  rw [loadPage]
  split
  · exact .refl _
  · next store named =>
    have read := db.upholds_readPage store page
    split
    · next middle image done =>
      rw [done] at read
      exact Upholds.trans (.of_shrinks (.of_stats middle.cache _)) read
    · next middle failure done =>
      rw [done] at read
      exact read

lemma upholds_enterPage (db : Database) (page : PageId) (image : Image) :
    (db.enterPage page image).1.cache.Upholds db.cache := by
  rw [enterPage]
  split
  · exact .refl _
  · have shrinks := db.cache.shrinks_makeRoom
    split
    · next full error room =>
      rw [room] at shrinks
      exact .of_shrinks shrinks
    · next roomy room =>
      rw [room] at shrinks
      have shows : (roomy.newFrame (.ofImage page image)).2.frame roomy.nextFrame =
          .ofImage page image := by
        rw [frame_newFrame, if_pos rfl]
      have entered : ((roomy.newFrame (.ofImage page image)).2.bringIn roomy.nextFrame).Upholds
          (roomy.newFrame (.ofImage page image)).2 :=
        .bringIn fun _ => by rw [shows]; rfl
      exact entered.trans ((Upholds.newFrame roomy page image).trans (.of_shrinks shrinks))

/-- Whoever changes a page object owns it. -/
lemma upholds_changeFrame {image : Image} (changed : db.changeFrame txn id image = .ok later) :
    later.cache.Upholds db.cache := by
  rw [changeFrame] at changed
  split at changed
  · next frame taken =>
    cases changed
    have same_page := Frame.page_of_copyFrom? taken
    exact .setFrame same_page fun clean => by cases clean
  · cases changed

lemma upholds_tryPlace {heap : HeapFile} {record placed : Record}
    (done : db.tryPlace txn heap record id = .ok (some (later, placed))) :
    later.cache.Upholds db.cache := by
  obtain ⟨slot, image, -, changed, -⟩ := changeFrame_of_tryPlace done
  exact upholds_changeFrame changed

/-! #### Moves and starts of operations -/

lemma upholds_lockPage (db : Database) (txn : TxnId) (level : Level) (aim : Aim) (waited : Bool) :
    (db.lockPage txn level aim waited).1.cache.Upholds db.cache := by
  rw [lockPage]
  split
  · split <;> exact .of_shrinks (.of_stats _ _)
  · exact .refl _
  · exact .refl _

lemma cache_nextProbe (db : Database) (txn : TxnId) (level : Level) (heap : HeapFile)
    (record : Record) (number remaining : Nat) :
    (db.nextProbe txn level heap record number remaining).1.cache = db.cache := by
  cases remaining <;> rfl

lemma upholds_nextProbe (db : Database) (txn : TxnId) (level : Level) (heap : HeapFile)
    (record : Record) (number remaining : Nat) :
    (db.nextProbe txn level heap record number remaining).1.cache.Upholds db.cache := by
  rw [cache_nextProbe]
  exact .refl _

lemma upholds_usePage (db : Database) (txn : TxnId) (level : Level) (aim : Aim) (id : FrameId) :
    (db.usePage txn level aim id).1.cache.Upholds db.cache := by
  cases aim with
  | hand page mode => exact .refl _
  | probe heap record number remaining alreadyHeld =>
      rw [usePage]
      split
      · exact .refl _
      · exact .refl _
      · cases alreadyHeld with
        | true => exact upholds_nextProbe ..
        | false => exact (db.release txn (heap.page number)).upholds_nextProbe ..
  | claim heap record number remaining =>
      rw [usePage]
      split
      · exact .refl _
      · next tried => exact upholds_tryPlace tried
      · exact upholds_nextProbe ..
  | fill heap record number =>
      rw [usePage]
      split
      · exact .refl _
      · next tried => exact upholds_tryPlace tried
      · exact .refl _
  | erase heap record =>
      rw [usePage]
      split
      · exact .refl _
      · exact .refl _
      · split
        · exact .refl _
        · next changed => exact upholds_changeFrame changed
  | collect heap number remaining found =>
      rw [usePage]
      split
      · exact .refl _
      · split <;> exact .refl _

/-- Every move of an operation upholds the cache. -/
theorem upholds_step (db : Database) (operation : Operation) :
    (db.step operation).1.cache.Upholds db.cache := by
  cases operation with
  | fetching txn level aim stage =>
      cases stage with
      | lock waited => exact db.upholds_lockPage txn level aim waited
      | use id => exact db.upholds_usePage txn level aim id
      | read =>
          have upholds := db.upholds_loadPage aim.page
          rw [step]
          split
          · next moved => rw [moved] at upholds; exact upholds
          · next moved => rw [moved] at upholds; exact upholds
      | enter image =>
          have upholds := db.upholds_enterPage aim.page image
          rw [step]
          split
          · next moved => rw [moved] at upholds; exact upholds
          · next moved => rw [moved] at upholds; exact upholds
  | reporting txn change pages =>
      cases pages with
      | nil => exact .refl _
      | cons id rest =>
          have upholds : (db.markDirty txn id).1.cache.Upholds db.cache :=
            upholds_markDirty db.cache txn id
          rw [step]
          split
          · next moved => rw [moved] at upholds; exact upholds
          · next moved => rw [moved] at upholds; exact upholds

lemma upholds_changeEach (db : Database) (store : Store) (change : Image → Image)
    (pages : List PageId) : (db.changeEach store change pages).1.cache.Upholds db.cache := by
  induction pages generalizing db with
  | nil => exact .refl _
  | cons page rest ih =>
      have read := db.upholds_readPage store page
      rw [changeEach]
      split
      · next middle failure moved =>
        rw [moved] at read
        exact read
      · next middle image moved =>
        rw [moved] at read
        have fresh := Upholds.newFrame middle.cache page (change image)
        have others := ih { middle with
          cache := (middle.cache.newFrame (.ofImage page (change image))).2 }
        dsimp only [Cache.newFrame] at fresh others ⊢
        split
        · next last failure moved =>
          rw [moved] at others
          exact others.trans (fresh.trans read)
        · next last ids moved =>
          rw [moved] at others
          exact others.trans (fresh.trans read)

lemma upholds_startInsert (db : Database) (txn : TxnId) (level : Level) (store : Store)
    (record : Record) :
    (db.startInsert txn level store record).1.cache.Upholds db.cache := by
  cases store with
  | heap heap =>
      simp only [startInsert]
      split
      · exact upholds_nextProbe ..
      · exact .refl _
  | memory table id =>
      simp only [startInsert, changeTargets]
      have upholds := fun change pages => db.upholds_changeEach (.memory table id) change pages
      split
      · next moved =>
        have changed := congrArg (fun moved => moved.1.cache) moved
        exact changed ▸ upholds _ _
      · next moved =>
        have changed := congrArg (fun moved => moved.1.cache) moved
        exact changed ▸ upholds _ _

lemma upholds_startDelete (db : Database) (txn : TxnId) (level : Level) (store : Store)
    (record : Record) :
    (db.startDelete txn level store record).1.cache.Upholds db.cache := by
  cases store with
  | heap heap =>
      simp only [startDelete]
      split
      · exact .refl _
      · split <;> exact .refl _
  | memory table id =>
      simp only [startDelete, changeTargets]
      have upholds := fun change pages => db.upholds_changeEach (.memory table id) change pages
      split
      · next moved =>
        have changed := congrArg (fun moved => moved.1.cache) moved
        exact changed ▸ upholds _ _
      · next moved =>
        have changed := congrArg (fun moved => moved.1.cache) moved
        exact changed ▸ upholds _ _

/-- Every start of an operation upholds the cache. -/
theorem upholds_start (db : Database) (txn : TxnId) (call : Call) :
    (db.start txn call).1.cache.Upholds db.cache := by
  cases call with
  | fetch page mode => exact .refl _
  | insert table record =>
      rw [start, startInsertRecord]
      split
      · exact upholds_startInsert ..
      · exact .refl _
  | delete record =>
      rw [start, startDeleteRecord]
      split
      · exact .refl _
      · split
        · exact upholds_startDelete ..
        · exact .refl _
  | scan heap =>
      rw [start, startScan]
      split <;> exact .refl _

/-! #### Ends of transactions -/

/-- If the store refuses a page, its page object stays as it is. -/
lemma cache_of_flush_error {error : Error} (refused : db.flush id = (later, .error error)) :
    later.cache = db.cache := by
  simp only [flush] at refused
  split at refused
  · split at refused
    · cases refused
      rfl
    · split at refused <;> cases refused
      rfl
  · cases refused

/-- A page object that was forced to its store shows the new before-image. -/
lemma upholds_refresh (forced : db.flush id = (later, .ok ())) :
    (later.cache.updateFrame id Frame.refresh).Upholds db.cache := by
  simp only [flush] at forced
  split at forced
  · split at forced
    · cases forced
    · split at forced
      · cases forced
      · cases forced
        have counted : ∀ other, ((db.cache.updateFrame id Frame.clean).countWritten).frame other =
            (db.cache.updateFrame id Frame.clean).frame other := fun _ => rfl
        have frames : ∀ other, (((db.cache.updateFrame id Frame.clean).countWritten).updateFrame id
            Frame.refresh).frame other =
              if id = other then (db.cache.frame id).force else db.cache.frame other := by
          intro other
          rw [frame_updateFrame, counted, counted, frame_updateFrame, frame_updateFrame,
            if_pos rfl, Frame.force]
          split <;> rfl
        refine ⟨fun other _ => ?_, Nat.le_refl _, fun page other there _ => ?_⟩
        · rw [frames]
          split
          · next here => rw [← here]; rfl
          · rfl
        · rw [frames]
          split
          · exact .inl rfl
          · exact .inr ⟨there, rfl⟩
  · cases forced
    exact .setFrame rfl fun _ => rfl

lemma upholds_commitPages (db : Database) (pages : List PageId) :
    (db.commitPages pages).1.cache.Upholds db.cache := by
  induction pages generalizing db with
  | nil => exact .refl _
  | cons page rest ih =>
      rw [commitPages]
      split
      · exact ih db
      · next id _ =>
        split
        · next middle error refused =>
          rw [cache_of_flush_error refused]
          exact .refl _
        · next middle forced => exact (ih _).trans (upholds_refresh forced)

/-- However a transaction ends, its end upholds the cache. -/
theorem upholds_complete (db : Database) (txn : TxnId) (commit : Bool) :
    (db.complete txn commit).1.cache.Upholds db.cache := by
  cases commit with
  | true => exact db.upholds_commitPages _
  | false => exact db.cache.upholds_rollbackEach txn _

/-! ### What an abort returns to -/

/-- After a report and the abort of its transaction the page is resident and clean, and shows
the before-image that it had before the report: the one of the resident page object, or else
the one of the reported page object. -/
theorem of_markDirty_of_abort (done : db.markDirty txn id = (later, .ok ()))
    (exact : db.cache.Exact) (sound : db.locks.table.Sound) (made : id < db.cache.nextFrame)
    (held : db.locks.table.modeOf? txn (db.cache.frame id).page ≠ none) :
    (later.complete txn false).1.cache.residentFrame? (db.cache.frame id).page =
        some (db.cache.target id) ∧
      ((later.complete txn false).1.cache.frame (db.cache.target id)).owner = none ∧
      ((later.complete txn false).1.cache.frame (db.cache.target id)).live =
        (db.cache.frame (db.cache.target id)).before := by
  have advances : (db.cache.markDirty txn id).1.Advances db.cache := advances_markDirty made
  cases marked : db.cache.markDirty txn id with
  | mk cache result =>
      rw [marked] at advances
      rw [markDirty, marked] at done
      cases done
      obtain ⟨there, owner, -, before⟩ := of_markDirty marked
      have orderly : cache.Orderly := (advances.exact exact).toOrderly
      have settled : Settled (Frame.undo txn) (db.locks.heldPages txn) { db with cache }
          ({ db with cache }.rollbackPages txn (db.locks.heldPages txn)) :=
        settled_rollbackPages orderly txn _
      have shows : (cache.frame (db.cache.target id)).page = (db.cache.frame id).page :=
        orderly.page _ _ there
      have undone : (cache.rollbackEach txn (db.locks.heldPages txn)).frame
          (db.cache.target id) = (cache.frame (db.cache.target id)).restore := by
        refine (settled.frame _).trans ?_
        rw [if_pos, Frame.undo, if_pos owner]
        exact ⟨by rw [shows]; exact sound.mem_heldPages.mpr held, by rw [shows]; exact there⟩
      show (cache.rollbackEach txn (db.locks.heldPages txn)).residentFrame? _ = _ ∧
        ((cache.rollbackEach txn (db.locks.heldPages txn)).frame _).owner = _ ∧
        ((cache.rollbackEach txn (db.locks.heldPages txn)).frame _).live = _
      rw [undone]
      exact ⟨(settled.resident _).trans there, rfl, before⟩

end Database

end PageTxn
