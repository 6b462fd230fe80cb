import PageTxn.Proofs.Admission

/-!
What the cache counts, and what happens to it.

* A `CacheEvent` is one of the things that can happen to a cache: a fetch is granted its lock or
  does not read its page, a store takes over an image, a page comes in, has to leave or is dropped.
  `Cache.admissionEvents`, `Database.loadEvents`, `Database.flushEachEvents` and the others list
  what happens while something is done to the cache, in order.
* `Cache.Balanced` says that the counters of a cache and the number of its resident pages agree with
  what has happened. Fetches that have missed their pages and not yet read them are set apart, as
  only their misses are counted.
* Every part of a move keeps the counters balanced: making room (`balanced_evictUntilRoom`), reports
  (`balanced_markDirty`), loads, flushes and the ends of transactions (`balanced_complete`).
-/

namespace PageTxn

/-- What can happen to a cache. -/
inductive CacheEvent where
  /-- The lock of a fetch is granted. -/
  | granted
  /-- A fetch finds no store for its table, or the store does not read the page. -/
  | unread
  /-- A store takes over the image of a page. -/
  | wrote
  /-- A page comes in. -/
  | admitted
  /-- A clean page has to leave. -/
  | evicted
  /-- A resident page is dropped. -/
  | dropped
  deriving DecidableEq

namespace Cache

variable {cache later roomy : Cache} {loading : Nat} {events : List CacheEvent} {page : PageId}
  {id : FrameId}

/-! ### Balanced counters -/

/-- The counters and the number of resident pages agree with what has happened, where some fetches
have missed their pages and not yet read them. -/
structure Balanced (loading : Nat) (cache : Cache) (events : List CacheEvent) : Prop where
  /-- Every fetch whose lock was granted is a hit or a miss. -/
  fetches : cache.stats.hits + cache.stats.misses = events.count .granted
  /-- After a miss the page has been read, or not been read, or is still to be read. -/
  loads : cache.stats.misses = cache.stats.read + events.count .unread + loading
  writes : cache.stats.written = events.count .wrote
  evictions : cache.stats.evictions = events.count .evicted
  /-- Every page that has come in is resident, has had to leave or was dropped. -/
  residents : cache.size + events.count .evicted + events.count .dropped = events.count .admitted

lemma balanced_empty (capacity : Nat) (capacity_pos : 0 < capacity) :
    (empty capacity capacity_pos).Balanced 0 [] := ⟨rfl, rfl, rfl, rfl, rfl⟩

namespace Balanced

/-- Frames and queue do not count. -/
lemma of_same (balanced : cache.Balanced loading events) (stats : later.stats = cache.stats)
    (resident : later.resident = cache.resident) : later.Balanced loading events := by
  have size : later.size = cache.size := by rw [Cache.size, resident, Cache.size]
  exact ⟨by rw [stats, balanced.fetches], by rw [stats, balanced.loads],
    by rw [stats, balanced.writes], by rw [stats, balanced.evictions],
    by rw [size, balanced.residents]⟩

/-- Nothing happens. -/
lemma idle (balanced : cache.Balanced loading events) : cache.Balanced loading (events ++ []) := by
  rw [List.append_nil]
  exact balanced

/-- One thing happens. -/
lemma next (balanced : cache.Balanced loading events) {loading' : Nat} {event : CacheEvent}
    (fetches : later.stats.hits + later.stats.misses =
      cache.stats.hits + cache.stats.misses + [event].count .granted)
    (loads : later.stats.misses + cache.stats.read + loading =
      cache.stats.misses + later.stats.read + [event].count .unread + loading')
    (writes : later.stats.written = cache.stats.written + [event].count .wrote)
    (evictions : later.stats.evictions = cache.stats.evictions + [event].count .evicted)
    (residents : later.size + [event].count .evicted + [event].count .dropped =
      cache.size + [event].count .admitted) :
    later.Balanced loading' (events ++ [event]) where
  fetches := by rw [fetches, balanced.fetches, List.count_append]
  loads := by
    have before := balanced.loads
    rw [List.count_append]
    omega
  writes := by rw [writes, balanced.writes, List.count_append]
  evictions := by rw [evictions, balanced.evictions, List.count_append]
  residents := by
    have before := balanced.residents
    simp only [List.count_append]
    omega

/-- A fetch finds its page resident. -/
lemma countHit (balanced : cache.Balanced loading events) :
    cache.countHit.Balanced loading (events ++ [.granted]) :=
  balanced.next (Nat.add_right_comm ..) rfl rfl rfl rfl

/-- A fetch misses its page. -/
lemma countMiss (balanced : cache.Balanced loading events) :
    cache.countMiss.Balanced (loading + 1) (events ++ [.granted]) := by
  refine balanced.next rfl ?_ rfl rfl rfl
  show cache.stats.misses + 1 + cache.stats.read + loading =
    cache.stats.misses + cache.stats.read + 0 + (loading + 1)
  omega

/-- A fetch has read its page. -/
lemma countRead (balanced : cache.Balanced (loading + 1) events) :
    cache.countRead.Balanced loading events := by
  refine ⟨balanced.fetches, ?_, balanced.writes, balanced.evictions, balanced.residents⟩
  have before := balanced.loads
  show cache.stats.misses = cache.stats.read + 1 + _ + loading
  omega

/-- A fetch does not read its page. -/
lemma unread (balanced : cache.Balanced (loading + 1) events) :
    cache.Balanced loading (events ++ [.unread]) := by
  refine balanced.next rfl ?_ rfl rfl rfl
  show cache.stats.misses + cache.stats.read + (loading + 1) =
    cache.stats.misses + cache.stats.read + 1 + loading
  omega

/-- A store takes over an image. -/
lemma countWritten (balanced : cache.Balanced loading events) :
    cache.countWritten.Balanced loading (events ++ [.wrote]) :=
  balanced.next rfl rfl rfl rfl rfl

/-- A resident page leaves. -/
lemma withoutPage (balanced : cache.Balanced loading events)
    (there : cache.isResident page = true) :
    (cache.withoutPage page).Balanced loading (events ++ [.evicted]) := by
  exact balanced.next rfl rfl rfl rfl (size_erase_of_isResident there)

/-- A page comes in. -/
lemma bringIn (balanced : cache.Balanced loading events)
    (absent : cache.residentFrame? (cache.frame id).page = none) :
    (cache.bringIn id).Balanced loading (events ++ [.admitted]) := by
  have outside : ¬ cache.resident.contains (cache.frame id).page = true := by
    rw [Std.ExtTreeMap.contains_eq_isSome_getElem?, ← residentFrame?, absent]
    exact Bool.false_ne_true
  have more : (cache.bringIn id).size = cache.size + 1 := by
    rw [size, Cache.bringIn, Std.ExtTreeMap.size_insert, if_neg outside, size]
  exact balanced.next rfl rfl rfl rfl more

end Balanced

/-! ### What happens to a cache -/

/-- Clean pages leave until there is room for one more; `fuel` bounds their number. -/
def evictions : Nat → Cache → List CacheEvent
  | 0, _ => []
  | fuel + 1, cache =>
      if cache.size < cache.capacity then []
      else
        match cache.evict? with
        | some cache => .evicted :: evictions fuel cache
        | none => []

/-- A page comes in, unless it is resident or there is no room for it. -/
def admissionEvents (cache : Cache) (page : PageId) : List CacheEvent :=
  match cache.residentFrame? page with
  | some _ => []
  | none =>
      evictions cache.size cache ++
        match cache.makeRoom.2 with
        | .ok () => [.admitted]
        | .error _ => []

/-- A page object is reported dirty. -/
def reportEvents (cache : Cache) (id : FrameId) : List CacheEvent :=
  cache.admissionEvents (cache.frame id).page

/-- A page is dropped. -/
def discardEvents (cache : Cache) (page : PageId) : List CacheEvent :=
  if cache.isResident page then [.dropped] else []

lemma balanced_evictUntilRoom (balanced : cache.Balanced loading events) (fuel : Nat) :
    (evictUntilRoom fuel cache).1.Balanced loading (events ++ evictions fuel cache) := by
  induction fuel generalizing cache events with
  | zero => exact balanced.idle
  | succ fuel ih =>
      rw [evictUntilRoom, evictions]
      split
      · exact balanced.idle
      · rw [evict?_eq]
        cases found : cache.queue.order.find? cache.isClean with
        | none => exact balanced.idle
        | some page =>
            have there := isResident_of_isClean (List.find?_some found)
            have rest := ih (balanced.withoutPage there)
            rw [List.append_assoc] at rest
            exact rest

lemma balanced_makeRoom (balanced : cache.Balanced loading events) {result : Except Error Unit}
    (room : cache.makeRoom = (roomy, result)) :
    roomy.Balanced loading (events ++ evictions cache.size cache) := by
  have evicted := balanced_evictUntilRoom balanced cache.size
  rw [← makeRoom, room] at evicted
  exact evicted

/-- A page object of a page that is not resident comes in after room was made. The way in which it
is set is a parameter. -/
lemma balanced_admission (balanced : cache.Balanced loading events)
    (absent : cache.residentFrame? page = none) (id : FrameId) (set : Cache → Cache)
    (resident : ∀ cache, (set cache).resident = cache.resident)
    (stats : ∀ cache, (set cache).stats = cache.stats)
    (shows : ∀ roomy : Cache, roomy.Shrinks cache → ((set roomy).frame id).page = page)
    {result : Except Error Unit} (room : cache.makeRoom = (roomy, result)) :
    (match result with | .ok () => (set roomy).bringIn id | .error _ => roomy).Balanced loading
      (events ++ cache.admissionEvents page) := by
  have shrinks := shrinks_of_makeRoom room
  have evicted := balanced_makeRoom balanced room
  simp only [admissionEvents, absent, room]
  cases result with
  | error error =>
      rw [List.append_nil]
      exact evicted
  | ok =>
      have outside : (set roomy).residentFrame? ((set roomy).frame id).page = none := by
        rw [shows roomy shrinks, residentFrame?, resident, ← residentFrame?]
        cases there : roomy.residentFrame? page with
        | none => rfl
        | some other =>
            rw [shrinks.residentFrame? there] at absent
            cases absent
      rw [← List.append_assoc]
      exact (evicted.of_same (stats roomy) (resident roomy)).bringIn outside

lemma balanced_markDirty (balanced : cache.Balanced loading events) (txn : TxnId) (id : FrameId) :
    (cache.markDirty txn id).1.Balanced loading (events ++ cache.reportEvents id) := by
  cases there : cache.residentFrame? (cache.frame id).page with
  | some resident =>
      have nothing : cache.reportEvents id = [] := by
        simp only [reportEvents, admissionEvents, there]
      have found : cache.resident[(cache.frame id).page]? = some resident := there
      rw [nothing, markDirty]
      simp only [found]
      split
      · exact balanced.idle.of_same rfl rfl
      · exact balanced.idle
  | none =>
      cases room : cache.makeRoom with
      | mk roomy result =>
          have came := balanced_admission balanced there id
            (fun cache => cache.updateFrame id fun frame => frame.mark txn)
            (fun _ => rfl) (fun _ => rfl)
            (fun roomy shrinks => by
              rw [frame_updateFrame, if_pos rfl, shrinks.frame]
              rfl) room
          cases result with
          | ok =>
              rw [markDirty_of_absent there room]
              exact came
          | error error =>
              rw [markDirty_of_full there room]
              exact came

lemma balanced_discard (balanced : cache.Balanced loading events) (page : PageId) :
    (cache.discard page).Balanced loading (events ++ cache.discardEvents page) := by
  rw [discard, discardEvents]
  split
  · next there =>
    exact balanced.next rfl rfl rfl rfl (size_erase_of_isResident there)
  · exact balanced.idle

/-- Returning pages to their before-images is not counted. -/
lemma stats_rollbackEach (cache : Cache) (txn : TxnId) (pages : List PageId) :
    (cache.rollbackEach txn pages).stats = cache.stats := by
  induction pages generalizing cache with
  | nil => rfl
  | cons page rest ih =>
      have first : (cache.rollback txn page).stats = cache.stats := by
        rw [rollback]
        split
        · split
          · rfl
          · rfl
        · rfl
      rw [rollbackEach, ih, first]

end Cache

namespace Database

open Cache

variable {db later : Database} {loading : Nat} {events : List CacheEvent} {txn : TxnId}
  {level : Level} {page : PageId} {id : FrameId}

/-! ### What happens while pages are read -/

/-- A page is read from a store. Who overtakes the read reports the page dirty. -/
def readEvents (db : Database) (store : Store) (page : PageId) : List CacheEvent :=
  match db.storage.readPage store page with
  | (_, .ok (image, some _)) =>
      (db.cache.newFrame (.ofImage page image)).2.reportEvents db.cache.nextFrame
  | _ => []

/-- A fetch that has missed its page reads it from the store of its table. -/
def loadEvents (db : Database) (page : PageId) : List CacheEvent :=
  match db.storage.storeOf page.table with
  | .error _ => [.unread]
  | .ok store =>
      db.readEvents store page ++
        match (db.readPage store page).2 with
        | .ok _ => []
        | .error _ => [.unread]

lemma balanced_readPage (balanced : db.cache.Balanced loading events) (store : Store)
    (page : PageId) :
    (db.readPage store page).1.cache.Balanced loading (events ++ db.readEvents store page) := by
  rw [readPage, readEvents]
  split
  · next read =>
    simp only [read]
    exact balanced.idle
  · next read =>
    simp only [read]
    exact balanced.idle
  · next storage image other read =>
    have fresh : (db.cache.newFrame (.ofImage page image)).2.Balanced loading events :=
      balanced.of_same rfl rfl
    have reported := balanced_markDirty fresh other db.cache.nextFrame
    simp only [read]
    simp only [newFrame] at reported ⊢
    split
    · next done =>
      rw [done] at reported
      exact reported
    · next done =>
      rw [done] at reported
      exact reported

lemma balanced_loadPage (balanced : db.cache.Balanced (loading + 1) events) (page : PageId) :
    (db.loadPage page).1.cache.Balanced loading (events ++ db.loadEvents page) := by
  rw [loadPage, loadEvents]
  cases db.storage.storeOf page.table with
  | error error => exact balanced.unread
  | ok store =>
      have read := balanced_readPage balanced store page
      rw [← List.append_assoc]
      cases done : db.readPage store page with
      | mk middle result =>
          rw [done] at read
          simp only [done]
          cases result with
          | ok image => exact read.countRead.idle
          | error failure => exact read.unread

lemma balanced_enterPage (balanced : db.cache.Balanced loading events) (page : PageId)
    (image : Image) :
    (db.enterPage page image).1.cache.Balanced loading
      (events ++ db.cache.admissionEvents page) := by
  cases there : db.cache.residentFrame? page with
  | some id =>
      simp only [enterPage, admissionEvents, there]
      exact balanced.idle
  | none =>
      cases room : db.cache.makeRoom with
      | mk roomy result =>
          have came := balanced_admission balanced there roomy.nextFrame
            (fun cache => (cache.newFrame (.ofImage page image)).2) (fun _ => rfl) (fun _ => rfl)
            (fun roomy' shrinks => by
              rw [frame_newFrame, shrinks.nextFrame, (shrinks_of_makeRoom room).nextFrame,
                if_pos rfl]
              rfl) room
          cases result with
          | ok =>
              simp only [enterPage, there, room]
              exact came
          | error error =>
              simp only [enterPage, there, room]
              exact came

/-! ### What happens while pages are written -/

/-- A frame is written, if it is dirty. -/
def flushEvents (db : Database) (id : FrameId) : List CacheEvent :=
  let frame := db.cache.frame id
  if frame.isDirty then
    match db.storage.storeOf frame.page.table with
    | .error _ => []
    | .ok store =>
        match (db.storage.writePage store frame.page frame.live).2 with
        | .error _ => []
        | .ok () => [.wrote]
  else []

/-- A page is written, if it is resident and dirty. -/
def flushPageEvents (db : Database) (page : PageId) : List CacheEvent :=
  match db.cache.residentFrame? page with
  | some id => db.flushEvents id
  | none => []

/-- The dirty ones of some resident pages are written, up to the first refusal. -/
def flushEachEvents (db : Database) : List PageId → List CacheEvent
  | [] => []
  | page :: rest =>
      db.flushPageEvents page ++
        match db.flushPage page with
        | (db, .ok ()) => db.flushEachEvents rest
        | (_, .error _) => []

/-- Some resident pages are forced to their stores, up to the first refusal. -/
def commitEvents (db : Database) : List PageId → List CacheEvent
  | [] => []
  | page :: rest =>
      match db.cache.residentFrame? page with
      | none => db.commitEvents rest
      | some id =>
          db.flushEvents id ++
            match db.flush id with
            | (_, .error _) => []
            | (db, .ok ()) =>
                { db with cache := db.cache.updateFrame id Frame.refresh }.commitEvents rest

/-- A transaction ends. -/
def completeEvents (db : Database) (txn : TxnId) (commit : Bool) : List CacheEvent :=
  if commit then db.commitEvents (db.locks.heldPages txn) else []

lemma balanced_flush (balanced : db.cache.Balanced loading events) (id : FrameId) :
    (db.flush id).1.cache.Balanced loading (events ++ db.flushEvents id) := by
  rw [flush, flushEvents]
  split
  · cases db.storage.storeOf (db.cache.frame id).page.table with
    | error error => exact balanced.idle
    | ok store =>
        cases written : db.storage.writePage store (db.cache.frame id).page
            (db.cache.frame id).live with
        | mk storage result =>
            simp only [written]
            cases result with
            | error error => exact balanced.idle
            | ok =>
                have cleaned : (db.cache.updateFrame id Frame.clean).Balanced loading events :=
                  balanced.of_same rfl rfl
                exact cleaned.countWritten
  · exact balanced.idle

lemma balanced_flushPage (balanced : db.cache.Balanced loading events) (page : PageId) :
    (db.flushPage page).1.cache.Balanced loading (events ++ db.flushPageEvents page) := by
  rw [flushPage, flushPageEvents]
  cases db.cache.residentFrame? page with
  | none => exact balanced.idle
  | some id => exact balanced_flush balanced id

theorem balanced_flushEach (balanced : db.cache.Balanced loading events) (pages : List PageId) :
    (db.flushEach pages).1.cache.Balanced loading (events ++ db.flushEachEvents pages) := by
  induction pages generalizing db events with
  | nil => exact balanced.idle
  | cons page rest ih =>
      have first := balanced_flushPage balanced page
      rw [flushEach, flushEachEvents, ← List.append_assoc]
      cases done : db.flushPage page with
      | mk middle result =>
          rw [done] at first
          cases result with
          | ok => exact ih first
          | error error => exact first.idle

theorem balanced_commitPages (balanced : db.cache.Balanced loading events) (pages : List PageId) :
    (db.commitPages pages).1.cache.Balanced loading (events ++ db.commitEvents pages) := by
  induction pages generalizing db events with
  | nil => exact balanced.idle
  | cons page rest ih =>
      rw [commitPages, commitEvents]
      cases db.cache.residentFrame? page with
      | none => exact ih balanced
      | some id =>
          have first := balanced_flush balanced id
          simp only
          rw [← List.append_assoc]
          cases done : db.flush id with
          | mk middle result =>
              rw [done] at first
              cases result with
              | error error => exact first.idle
              | ok => exact ih (first.of_same rfl rfl)

/-- The end of a transaction keeps the counters balanced. -/
theorem balanced_complete (balanced : db.cache.Balanced loading events) (txn : TxnId)
    (commit : Bool) :
    (db.complete txn commit).1.cache.Balanced loading
      (events ++ db.completeEvents txn commit) := by
  cases commit with
  | true => exact balanced_commitPages balanced _
  | false =>
      have same := Steady.rollbackEach db.cache txn (db.locks.heldPages txn)
      exact (balanced.of_same (stats_rollbackEach ..) same.resident).idle

end Database

end PageTxn
