import PageTxn.Operation.Start
import PageTxn.Proofs.Cache

/-!
The resident pages are the listed ones.

* `Cache.Exact` strengthens `Cache.Orderly`: a page is listed in the order of admission exactly
  if it is resident, it is listed once, and there are no more resident pages than the capacity
  allows.
* `Cache.Advances` relates a cache to an earlier one from which it has come by exact steps; it is
  a preorder, so that operations put together from steps advance the cache as well.
* `size_lt_of_makeRoom`: if making room succeeds, there is room. So a page that is admitted
  afterwards keeps the bound (`Exact.bringIn`).
* `advances_markDirty`, `advances_enterPage`, `advances_flushEach`, `advances_complete`: what the
  database does to its cache advances it, whether or not a store fails.
-/

namespace PageTxn

/-- A page object that takes over an image stays one of its page. -/
lemma Frame.page_of_copyFrom? {frame copied : Frame} {image : Image}
    (taken : frame.copyFrom? image = .ok copied) : copied.page = frame.page := by
  rw [copyFrom?] at taken
  split at taken
  · cases taken
    rfl
  · cases taken

/-- A page object that takes over an image keeps its before-image. -/
lemma Frame.before_of_copyFrom? {frame copied : Frame} {image : Image}
    (taken : frame.copyFrom? image = .ok copied) : copied.before = frame.before := by
  rw [copyFrom?] at taken
  split at taken
  · cases taken
    rfl
  · cases taken

/-- A page object that takes over an image shows it. -/
lemma Frame.live_of_copyFrom? {frame copied : Frame} {image : Image}
    (taken : frame.copyFrom? image = .ok copied) : copied.live = image := by
  rw [copyFrom?] at taken
  split at taken
  · cases taken
    rfl
  · cases taken

/-- A page object that takes over an image keeps its length. -/
lemma Frame.size_of_copyFrom? {frame copied : Frame} {image : Image}
    (taken : frame.copyFrom? image = .ok copied) : copied.live.size = frame.live.size := by
  rw [copyFrom?] at taken
  split at taken
  · next same =>
    cases taken
    exact same
  · cases taken

namespace Cache

variable {cache later middle earlier roomy : Cache} {page : PageId} {id : FrameId} {txn : TxnId}

/-- The resident pages are the listed ones, each of them is listed once, and they are no more
than the capacity allows. -/
structure Exact (cache : Cache) : Prop extends cache.Orderly where
  bounded : cache.size ≤ cache.capacity
  nodup : cache.queue.order.Nodup
  resident : ∀ page ∈ cache.queue.order, cache.residentFrame? page ≠ none

lemma isResident_iff : cache.isResident page = true ↔ cache.residentFrame? page ≠ none := by
  rw [isResident, residentFrame?, Std.ExtTreeMap.contains_eq_isSome_getElem?,
    ← Option.isSome_iff_ne_none]

lemma exact_empty (capacity : Nat) (capacity_pos : 0 < capacity) :
    (Cache.empty capacity capacity_pos).Exact where
  toOrderly := orderly_empty capacity capacity_pos
  bounded := Nat.zero_le _
  nodup := List.nodup_nil
  resident page listed := by cases listed

/-- A page is listed exactly if it is resident. -/
lemma Exact.mem_order_iff (exact : cache.Exact) :
    page ∈ cache.queue.order ↔ cache.isResident page = true := by
  rw [isResident_iff]
  constructor
  · exact exact.resident page
  · intro there
    obtain ⟨id, resident⟩ := Option.ne_none_iff_exists'.mp there
    exact exact.listed page id resident

/-! ### Caches that advance -/

/-- The cache has come from an earlier one by steps that keep it exact. No frame was given up. -/
structure Advances (later earlier : Cache) : Prop where
  exact : earlier.Exact → later.Exact
  capacity : later.capacity = earlier.capacity
  nextFrame : earlier.nextFrame ≤ later.nextFrame

namespace Advances

lemma refl (cache : Cache) : cache.Advances cache := ⟨id, rfl, Nat.le_refl _⟩

lemma trans (h : later.Advances middle) (h' : middle.Advances earlier) :
    later.Advances earlier :=
  ⟨h.exact ∘ h'.exact, h.capacity.trans h'.capacity, Nat.le_trans h'.nextFrame h.nextFrame⟩

/-- Counting changes no page. -/
lemma of_stats (cache : Cache) (stats : CacheStats) : { cache with stats }.Advances cache :=
  ⟨fun exact => { exact with
    toOrderly := (Shrinks.of_stats cache stats).orderly exact.toOrderly }, rfl, Nat.le_refl _⟩

/-- A frame can be changed as long as it stays the frame of its page. -/
lemma setFrame {frame : Frame} (same : frame.page = (cache.frame id).page) :
    (cache.setFrame id frame).Advances cache :=
  ⟨fun exact => { exact with toOrderly := exact.toOrderly.setFrame same }, rfl, Nat.le_refl _⟩

/-- A new frame does not disturb the resident ones. -/
lemma newFrame (cache : Cache) (frame : Frame) : (cache.newFrame frame).2.Advances cache :=
  ⟨fun exact => { exact with toOrderly := exact.toOrderly.newFrame frame }, rfl,
    Nat.le_succ _⟩

end Advances

/-! ### Pages that leave -/

/-- A page is dropped together with its place in the order. -/
lemma advances_discard (cache : Cache) (page : PageId) : (cache.discard page).Advances cache := by
  have residents := residentFrame?_discard cache page
  rw [discard] at residents ⊢
  split
  · next there =>
    simp only [there, if_true] at residents
    refine ⟨fun exact => ?_, rfl, Nat.le_refl _⟩
    refine ⟨⟨fun other id resident => ?_, fun other id resident => ?_,
      fun other id resident => ?_⟩, ?_, ?_, fun other listed => ?_⟩
    · rw [residents] at resident
      split at resident
      · cases resident
      · exact exact.page other id resident
    · rw [residents] at resident
      split at resident
      · cases resident
      · exact exact.made other id resident
    · rw [residents] at resident
      split at resident
      · cases resident
      · next apart =>
        exact AdmissionQueue.mem_remove.mpr ⟨Ne.symm apart, exact.listed other id resident⟩
    · have bounded : cache.resident.size ≤ cache.capacity := exact.bounded
      refine Nat.le_trans ?_ bounded
      exact Std.ExtTreeMap.size_erase_le
    · exact exact.nodup.filter _
    · obtain ⟨apart, listed⟩ := AdmissionQueue.mem_remove.mp listed
      rw [residents, if_neg (Ne.symm apart)]
      exact exact.resident other listed
  · exact .refl cache

/-- A clean page is resident. -/
lemma isResident_of_isClean (clean : cache.isClean page = true) : cache.isResident page = true := by
  obtain ⟨id, there, -⟩ := isClean_iff.mp clean
  rw [isResident_iff, there]
  exact Option.some_ne_none id

/-- A resident page that is taken out leaves one page less. -/
lemma size_erase_of_isResident (there : cache.isResident page = true) :
    (cache.resident.erase page).size + 1 = cache.size := by
  have inside : cache.resident.contains page = true := there
  have nonempty : 0 < cache.resident.size := by
    rw [Nat.pos_iff_ne_zero]
    intro empty
    rw [Std.ExtTreeMap.eq_empty_iff_size_eq_zero.mpr empty] at inside
    simp at inside
  rw [size, Std.ExtTreeMap.size_erase, if_pos inside]
  omega

/-- A page that has to leave makes room for one more. -/
lemma size_evict? (evicted : earlier.evict? = some later) : later.size < earlier.size := by
  rw [evict?] at evicted
  split at evicted
  · next page queue found =>
    cases evicted
    obtain ⟨clean, -⟩ := AdmissionQueue.evict?_eq_some found
    have left := size_erase_of_isResident (isResident_of_isClean clean)
    show (earlier.resident.erase page).size < earlier.size
    omega
  · cases evicted

lemma advances_evict? (evicted : earlier.evict? = some later) : later.Advances earlier := by
  have shrinks := shrinks_evict? evicted
  have smaller := size_evict? evicted
  rw [evict?] at evicted
  split at evicted
  · next page queue found =>
    cases evicted
    obtain ⟨-, order, -⟩ := AdmissionQueue.evict?_eq_some found
    refine ⟨fun exact => ⟨shrinks.orderly exact.toOrderly, ?_, ?_, fun other listed => ?_⟩, rfl,
      Nat.le_refl _⟩
    · exact Nat.le_trans (Nat.le_of_lt smaller) exact.bounded
    · show queue.order.Nodup
      rw [order]
      exact exact.nodup.erase page
    · have listed : other ∈ queue.order := listed
      rw [order, exact.nodup.mem_erase_iff] at listed
      have kept : (earlier.resident.erase page)[other]? = earlier.resident[other]? := by
        rw [Std.ExtTreeMap.getElem?_erase, if_neg]
        exact fun same => listed.1 (Std.LawfulEqCmp.eq_of_compare same).symm
      show (earlier.resident.erase page)[other]? ≠ none
      rw [kept]
      exact exact.resident other listed.2
  · cases evicted

lemma advances_evictUntilRoom (fuel : Nat) (cache : Cache) :
    (evictUntilRoom fuel cache).1.Advances cache := by
  induction fuel generalizing cache with
  | zero => exact .refl cache
  | succ fuel ih =>
      rw [evictUntilRoom]
      split
      · exact .refl cache
      · split
        · next smaller evicted => exact (ih smaller).trans (advances_evict? evicted)
        · exact .refl cache

/-- Enough fuel is left until there is room, as every eviction lowers the number of resident
pages. -/
lemma size_lt_of_evictUntilRoom {fuel : Nat} (enough : cache.size ≤ fuel)
    (done : evictUntilRoom fuel cache = (roomy, .ok ())) : roomy.size < roomy.capacity := by
  induction fuel generalizing cache with
  | zero =>
      cases done
      exact Nat.lt_of_le_of_lt enough roomy.capacity_pos
  | succ fuel ih =>
      rw [evictUntilRoom] at done
      split at done
      · next room =>
        cases done
        exact room
      · split at done
        · next smaller evicted =>
          have less := size_evict? evicted
          exact ih (by omega) done
        · cases done

lemma advances_makeRoom (cache : Cache) : cache.makeRoom.1.Advances cache :=
  advances_evictUntilRoom cache.size cache

/-- Making room leaves room for one more page, unless it fails. -/
lemma size_lt_of_makeRoom (done : cache.makeRoom = (roomy, .ok ())) :
    roomy.size < roomy.capacity :=
  size_lt_of_evictUntilRoom (Nat.le_refl _) done

/-! ### Pages that are admitted -/

/-- A page that is not resident is admitted if there is room for it. -/
lemma Exact.bringIn (exact : cache.Exact) (made : id < cache.nextFrame)
    (absent : cache.residentFrame? (cache.frame id).page = none)
    (room : cache.size < cache.capacity) : (cache.bringIn id).Exact where
  toOrderly := exact.toOrderly.bringIn made
  bounded := by
    show (cache.resident.insert (cache.frame id).page id).size ≤ cache.capacity
    refine Nat.le_trans Std.ExtTreeMap.size_insert_le ?_
    exact room
  nodup := by
    have unlisted : (cache.frame id).page ∉ cache.queue.order := fun listed =>
      exact.resident _ listed absent
    show (cache.queue.push (cache.frame id).page).order.Nodup
    rw [AdmissionQueue.push, if_neg unlisted]
    refine List.nodup_append.mpr ⟨exact.nodup, List.pairwise_singleton _ _, ?_⟩
    intro other listed last here equal
    rw [List.mem_singleton.mp here] at equal
    exact unlisted (equal ▸ listed)
  resident page listed := by
    rw [residentFrame?_bringIn]
    split
    · simp
    · next apart =>
      rcases AdmissionQueue.mem_push.mp listed with here | before
      · exact absurd here.symm apart
      · exact exact.resident page before

/-- Reporting a changed page advances the cache, if its page object was made. -/
lemma advances_markDirty (made : id < cache.nextFrame) :
    (cache.markDirty txn id).1.Advances cache := by
  rw [markDirty]
  split
  · -- the resident frame of the page takes over the image
    split
    · next copied taken =>
      have same_page := Frame.page_of_copyFrom? taken
      exact .setFrame same_page
    · exact .refl cache
  · -- the frame itself is admitted
    next absent =>
    have shrinks := cache.shrinks_makeRoom
    have advances := cache.advances_makeRoom
    split
    · next roomy room =>
      rw [room] at shrinks advances
      have marked : (roomy.updateFrame id fun frame => frame.mark txn).Advances roomy :=
        .setFrame rfl
      refine ⟨fun exact => ?_, advances.capacity, advances.nextFrame⟩
      have same_page :
          ((roomy.updateFrame id fun frame => frame.mark txn).frame id).page =
            (cache.frame id).page := by
        rw [frame_updateFrame, if_pos rfl, shrinks.frame]
        rfl
      refine (marked.exact (advances.exact exact)).bringIn ?_ ?_ ?_
      · exact Nat.lt_of_lt_of_le made advances.nextFrame
      · rw [same_page]
        rcases shrinks.resident (cache.frame id).page with same | ⟨gone, -⟩
        · exact same.trans absent
        · exact gone
      · have less : roomy.size < roomy.capacity := size_lt_of_makeRoom room
        exact less
    · next full error room =>
      rw [room] at advances
      exact advances

/-- Undoing changes advances the cache. -/
lemma advances_rollbackEach (cache : Cache) (txn : TxnId) (pages : List PageId) :
    (cache.rollbackEach txn pages).Advances cache := by
  induction pages generalizing cache with
  | nil => exact .refl cache
  | cons page rest ih =>
      refine (ih _).trans ?_
      rw [rollback]
      split
      · split
        · exact .setFrame rfl
        · exact .refl cache
      · exact .refl cache

end Cache

/-! ### The cache of the database -/

namespace Database

open Cache

variable {db later : Database} {page : PageId} {id : FrameId} {txn : TxnId}

/-- A page that is read leaves the cache alone, or another transaction that overtakes the read
admits a page object of its own. -/
lemma advances_readPage (db : Database) (store : Store) (page : PageId) :
    (db.readPage store page).1.cache.Advances db.cache := by
  rw [readPage]
  split
  · exact .refl _
  · exact .refl _
  · next storage image other read =>
    have fresh := Advances.newFrame db.cache (.ofImage page image)
    have marked : ((db.cache.newFrame (.ofImage page image)).2.markDirty other
        db.cache.nextFrame).1.Advances (db.cache.newFrame (.ofImage page image)).2 :=
      advances_markDirty (Nat.lt_succ_self _)
    simp only [newFrame] at fresh marked ⊢
    split
    · next cache fault done =>
      rw [done] at marked
      exact marked.trans fresh
    · next cache result done =>
      rw [done] at marked
      exact marked.trans fresh

lemma advances_loadPage (db : Database) (page : PageId) :
    (db.loadPage page).1.cache.Advances db.cache := by
  rw [loadPage]
  split
  · exact .refl _
  · next store named =>
    have read := db.advances_readPage store page
    split
    · next middle image done =>
      rw [done] at read
      exact (Advances.of_stats middle.cache _).trans read
    · next middle failure done =>
      rw [done] at read
      exact read

/-- A page that was read is admitted, unless it is resident already. -/
lemma advances_enterPage (db : Database) (page : PageId) (image : Image) :
    (db.enterPage page image).1.cache.Advances db.cache := by
  rw [enterPage]
  split
  · exact .refl _
  · next absent =>
    have shrinks := db.cache.shrinks_makeRoom
    have advances := db.cache.advances_makeRoom
    split
    · next full error room =>
      rw [room] at advances
      exact advances
    · next roomy room =>
      rw [room] at shrinks advances
      have fresh := Advances.newFrame roomy (.ofImage page image)
      have shows : (roomy.newFrame (.ofImage page image)).2.frame roomy.nextFrame =
          .ofImage page image := by
        rw [frame_newFrame, if_pos rfl]
      refine ⟨fun exact => ?_, advances.capacity,
        Nat.le_trans advances.nextFrame (Nat.le_succ _)⟩
      refine (fresh.exact (advances.exact exact)).bringIn (Nat.lt_succ_self _) ?_ ?_
      · rw [show (roomy.newFrame (.ofImage page image)).1 = roomy.nextFrame from rfl, shows]
        show roomy.residentFrame? page = none
        rcases shrinks.resident page with same | ⟨gone, -⟩
        · exact same.trans absent
        · exact gone
      · have less : roomy.size < roomy.capacity := size_lt_of_makeRoom room
        exact less

/-- The frame that was entered has been made. -/
lemma made_enterPage (orderly : db.cache.Orderly) {image : Image}
    (entered : db.enterPage page image = (later, .ok id)) : id < later.cache.nextFrame := by
  rw [enterPage] at entered
  split at entered
  · next there =>
    cases entered
    exact orderly.made _ _ there
  · split at entered
    · cases entered
    · cases entered
      exact Nat.lt_succ_self _

/-- Replacing the image of a frame advances the cache. -/
lemma advances_changeFrame {image : Image} (changed : db.changeFrame txn id image = .ok later) :
    later.cache.Advances db.cache := by
  rw [changeFrame] at changed
  split at changed
  · next frame taken =>
    cases changed
    have same_page := Frame.page_of_copyFrom? taken
    exact .setFrame same_page
  · cases changed

/-! ### Flushing and ending -/

lemma advances_flush (db : Database) (id : FrameId) :
    (db.flush id).1.cache.Advances db.cache := by
  rw [flush]
  split
  · split
    · exact .refl _
    · split
      · exact .refl _
      · exact (Advances.of_stats _ _).trans (.setFrame rfl)
  · exact .refl _

lemma advances_flushPage (db : Database) (page : PageId) :
    (db.flushPage page).1.cache.Advances db.cache := by
  rw [flushPage]
  split
  · exact db.advances_flush _
  · exact .refl _

lemma advances_flushEach (db : Database) (pages : List PageId) :
    (db.flushEach pages).1.cache.Advances db.cache := by
  induction pages generalizing db with
  | nil => exact .refl _
  | cons page rest ih =>
      have first := db.advances_flushPage page
      rw [flushEach]
      split
      · next middle done =>
        rw [done] at first
        exact (ih middle).trans first
      · next middle error done =>
        rw [done] at first
        exact first

lemma advances_commitPages (db : Database) (pages : List PageId) :
    (db.commitPages pages).1.cache.Advances db.cache := by
  induction pages generalizing db with
  | nil => exact .refl _
  | cons page rest ih =>
      rw [commitPages]
      split
      · exact ih db
      · next id there =>
        have first := db.advances_flush id
        split
        · next middle error done =>
          rw [done] at first
          exact first
        · next middle done =>
          rw [done] at first
          exact (ih _).trans (Advances.trans (.setFrame rfl) first)

/-- The end of a transaction advances the cache, however it ends. -/
lemma advances_complete (db : Database) (txn : TxnId) (commit : Bool) :
    (db.complete txn commit).1.cache.Advances db.cache := by
  cases commit with
  | true => exact db.advances_commitPages _
  | false => exact db.cache.advances_rollbackEach txn _

end Database

end PageTxn
