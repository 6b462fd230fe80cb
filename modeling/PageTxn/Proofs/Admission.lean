import PageTxn.Proofs.Workload

/-!
Admissions: how a page comes in, and what has to leave for it.

* `Cache.makeRoom_eq`: in an exact cache at most one page leaves for one more, the clean one that
  was admitted first, and only a cache that is full of dirty pages refuses.
* `Cache.Admits` is what an admission does to the resident pages; `admission_markDirty` and
  `admission_enterPage` say of a reported page and of a fetched one when it comes to that.
* `Cache.Shifts` is what one move can do to the resident pages: they stay as they are, or one more
  is listed (`shifts_step`, `shifts_start`). `Cache.Steady` is the first case alone; flushes, ends
  of transactions and the use of a page keep to it.
-/

namespace PageTxn

namespace Cache

variable {cache later middle earlier roomy : Cache} {page : PageId} {id : FrameId} {txn : TxnId}

/-! ### Room for one more page -/

/-- The cache after a page has left. -/
def withoutPage (cache : Cache) (page : PageId) : Cache :=
  { cache with
    queue := ⟨cache.queue.order.erase page⟩
    resident := cache.resident.erase page
    stats := { cache.stats with evictions := cache.stats.evictions + 1 } }

lemma residentFrame?_withoutPage (cache : Cache) (page other : PageId) :
    (cache.withoutPage page).residentFrame? other =
      if page = other then none else cache.residentFrame? other := by
  simp [withoutPage, residentFrame?, Std.ExtTreeMap.getElem?_erase]

lemma evict?_eq (cache : Cache) :
    cache.evict? = (cache.queue.order.find? cache.isClean).map cache.withoutPage := by
  rw [evict?, AdmissionQueue.evict?]
  cases cache.queue.order.find? cache.isClean with
  | none => rfl
  | some page => rfl

lemma evictUntilRoom_of_room (fuel : Nat) (room : cache.size < cache.capacity) :
    evictUntilRoom fuel cache = (cache, .ok ()) := by
  cases fuel with
  | zero => rfl
  | succ fuel => rw [evictUntilRoom, if_pos room]

/-- At most one page has to leave, the earliest admitted clean one, and without such a page the
cache stays as it is. -/
theorem makeRoom_eq (exact : cache.Exact) :
    cache.makeRoom =
      if cache.size < cache.capacity then (cache, .ok ())
      else
        match cache.queue.order.find? cache.isClean with
        | some victim => (cache.withoutPage victim, .ok ())
        | none => (cache, .error (.cacheExhausted cache.capacity)) := by
  split
  · next room => exact evictUntilRoom_of_room _ room
  · next full =>
    rw [makeRoom]
    cases fuel : cache.size with
    | zero =>
        have room := cache.capacity_pos
        omega
    | succ fuel =>
        rw [evictUntilRoom, if_neg full, evict?_eq]
        cases found : cache.queue.order.find? cache.isClean with
        | none => rfl
        | some victim =>
            have smaller : (cache.withoutPage victim).size < cache.size :=
              size_evict? (by rw [evict?_eq, found, Option.map_some])
            have bounded := exact.bounded
            have room : (cache.withoutPage victim).size < (cache.withoutPage victim).capacity :=
              Nat.lt_of_lt_of_le smaller bounded
            exact evictUntilRoom_of_room _ room

/-! ### Admissions -/

/-- The earlier cache lists and keeps a page for a frame, after a clean page has left if one had
to. -/
structure Lists (leaver : Option PageId) (page : PageId) (id : FrameId) (earlier later : Cache) :
    Prop where
  absent : earlier.residentFrame? page = none
  clean : ∀ victim, leaver = some victim → earlier.isClean victim = true
  resident : ∀ other, later.residentFrame? other =
    if other = page then some id
    else if leaver = some other then none else earlier.residentFrame? other
  order : later.queue.order = earlier.queue.order.filter (leaver ≠ some ·) ++ [page]

/-- A page object is admitted under its page and stands last, after a clean page has left if one
had to. No other page object is touched. -/
structure Admits (leaver : Option PageId) (id : FrameId) (frame : Frame) (earlier later : Cache) :
    Prop extends Lists leaver frame.page id earlier later where
  evictions : later.stats.evictions = earlier.stats.evictions + leaver.toList.length
  shows : later.frame id = frame
  frames : ∀ other, other ≠ id → later.frame other = earlier.frame other

/-- What comes of the attempt to admit a page object: there is room, the earliest admitted clean
page leaves, or the cache is full of dirty pages and stays as it is. -/
inductive Admission (id : FrameId) (frame : Frame) (earlier later : Cache) :
    Except Error Unit → Prop
  | roomy (room : earlier.size < earlier.capacity)
      (admits : Admits none id frame earlier later) : Admission id frame earlier later (.ok ())
  | evicting {victim : PageId} (full : ¬ earlier.size < earlier.capacity)
      (oldest : earlier.queue.order.find? earlier.isClean = some victim)
      (admits : Admits (some victim) id frame earlier later) :
      Admission id frame earlier later (.ok ())
  | exhausted (full : ¬ earlier.size < earlier.capacity)
      (dirty : ∀ other ∈ earlier.queue.order, earlier.isClean other = false)
      (same : later = earlier) :
      Admission id frame earlier later (.error (.cacheExhausted earlier.capacity))

/-- Frames are brought in last. -/
lemma order_bringIn (unlisted : (cache.frame id).page ∉ cache.queue.order) :
    (cache.bringIn id).queue.order = cache.queue.order ++ [(cache.frame id).page] := by
  rw [bringIn]
  simp only [AdmissionQueue.push, if_neg unlisted]

/-- A frame that is set in a cache with room and brought in comes last. -/
lemma admits_bringIn (exact : cache.Exact) {leaver : Option PageId} {roomy placed : Cache}
    (resident : placed.resident = roomy.resident) (queue : placed.queue = roomy.queue)
    (stats : placed.stats = roomy.stats) {id : FrameId} {frame : Frame}
    (frames : ∀ other, placed.frame other = if id = other then frame else cache.frame other)
    (absent : cache.residentFrame? frame.page = none)
    (clean : ∀ victim, leaver = some victim → cache.isClean victim = true)
    (left : ∀ other, roomy.residentFrame? other =
      if leaver = some other then none else cache.residentFrame? other)
    (order : roomy.queue.order = cache.queue.order.filter (leaver ≠ some ·))
    (evictions : roomy.stats.evictions = cache.stats.evictions + leaver.toList.length) :
    Admits leaver id frame cache (placed.bringIn id) := by
  have unlisted : frame.page ∉ cache.queue.order := fun listed => exact.resident _ listed absent
  have shows : placed.frame id = frame := (frames id).trans (if_pos rfl)
  have outside : (placed.frame id).page ∉ placed.queue.order := by
    rw [shows, queue, order]
    exact fun listed => unlisted (List.mem_filter.mp listed).1
  refine ⟨⟨absent, clean, fun other => ?_, ?_⟩, ?_, shows, fun other apart => ?_⟩
  · rw [residentFrame?_bringIn, shows]
    by_cases here : other = frame.page
    · rw [if_pos here.symm, if_pos here]
    · rw [if_neg (Ne.symm here), if_neg here, ← left, residentFrame?, resident]
      rfl
  · rw [order_bringIn outside, shows, queue, order]
  · show placed.stats.evictions = _
    rw [stats, evictions]
  · exact (frames other).trans (if_neg (Ne.symm apart))

/-- A frame that is set and brought in after room was made is admitted. The way in which it is set
is a parameter. -/
lemma admission_bringIn (exact : cache.Exact) (id : FrameId) (frame : Frame)
    (set : Cache → Cache)
    (resident : ∀ cache, (set cache).resident = cache.resident)
    (queue : ∀ cache, (set cache).queue = cache.queue)
    (stats : ∀ cache, (set cache).stats = cache.stats)
    (frames : ∀ roomy : Cache, roomy.Shrinks cache → ∀ other,
      (set roomy).frame other = if id = other then frame else cache.frame other)
    (absent : cache.residentFrame? frame.page = none) {result : Except Error Unit}
    (room : cache.makeRoom = (roomy, result)) :
    Admission id frame cache
      (match result with | .ok () => (set roomy).bringIn id | .error _ => roomy) result := by
  -- whatever has left, the frame comes last
  have admits := fun {leaver : Option PageId} {roomy : Cache} (shrinks : roomy.Shrinks cache) =>
    @admits_bringIn cache exact leaver roomy (set roomy) (resident roomy) (queue roomy)
      (stats roomy) id frame (frames roomy shrinks) absent
  have shrinks := shrinks_of_makeRoom room
  rw [makeRoom_eq exact] at room
  split at room
  · next enough =>
    cases room
    refine .roomy enough (admits shrinks (fun _ same => by cases same) (fun other => ?_) ?_ rfl)
    · simp
    · exact (List.filter_eq_self.mpr fun _ _ => by simp).symm
  · next full =>
    split at room
    · next victim found =>
      cases room
      refine .evicting full found (admits shrinks (fun other same => ?_) (fun other => ?_) ?_ rfl)
      · cases same
        exact List.find?_some found
      · rw [residentFrame?_withoutPage]
        simp
      · show cache.queue.order.erase victim = _
        rw [exact.nodup.erase_eq_filter]
        refine List.filter_congr fun other _ => ?_
        by_cases here : other = victim
        · simp [here]
        · simp [here, Ne.symm here]
    · next none_clean =>
      cases room
      refine .exhausted full (fun other listed => ?_) rfl
      have dirty := List.find?_eq_none.mp none_clean other listed
      simpa using dirty

/-- A page that is reported dirty while it is not resident. -/
theorem admission_markDirty (exact : cache.Exact)
    (absent : cache.residentFrame? (cache.frame id).page = none) (txn : TxnId) :
    ∃ result, (cache.markDirty txn id).2 = result.mapError .error ∧
      Admission id ((cache.frame id).mark txn) cache (cache.markDirty txn id).1 result := by
  cases room : cache.makeRoom with
  | mk roomy result =>
      have admission := admission_bringIn exact id ((cache.frame id).mark txn)
        (fun cache => cache.updateFrame id fun frame => frame.mark txn) (fun _ => rfl)
        (fun _ => rfl) (fun _ => rfl)
        (fun roomy shrinks other => by rw [frame_updateFrame, shrinks.frame, shrinks.frame])
        absent room
      refine ⟨result, ?_⟩
      cases result with
      | ok =>
          rw [markDirty_of_absent absent room]
          exact ⟨rfl, admission⟩
      | error error =>
          rw [markDirty_of_full absent room]
          exact ⟨rfl, admission⟩

/-! ### What moves do to the resident pages -/

/-- The same pages are resident in the same frames, in the same order. -/
structure Steady (later earlier : Cache) : Prop where
  resident : later.resident = earlier.resident
  queue : later.queue = earlier.queue

namespace Steady

lemma refl (cache : Cache) : cache.Steady cache := ⟨rfl, rfl⟩

lemma trans (second : later.Steady middle) (first : middle.Steady earlier) :
    later.Steady earlier :=
  ⟨second.resident.trans first.resident, second.queue.trans first.queue⟩

lemma rollbackEach (cache : Cache) (txn : TxnId) (pages : List PageId) :
    (cache.rollbackEach txn pages).Steady cache := by
  induction pages generalizing cache with
  | nil => exact .refl cache
  | cons page rest ih =>
      refine (ih _).trans ?_
      rw [rollback]
      split
      · split
        · exact ⟨rfl, rfl⟩
        · exact .refl cache
      · exact .refl cache

end Steady

/-- The resident pages stay, or one more is listed. -/
inductive Shifts (later earlier : Cache) : Prop
  | steady (same : later.Steady earlier) : Shifts later earlier
  | lists {leaver : Option PageId} {page : PageId} {id : FrameId}
      (lists : Lists leaver page id earlier later) : Shifts later earlier

/-- Frames may be changed after a shift. -/
lemma Shifts.then_steady (first : middle.Shifts earlier) (second : later.Steady middle) :
    later.Shifts earlier := by
  have resident : ∀ other, later.residentFrame? other = middle.residentFrame? other := fun other =>
    by rw [residentFrame?, residentFrame?, second.resident]
  cases first with
  | steady same => exact .steady (second.trans same)
  | lists lists =>
      exact .lists { lists with
        resident := fun other => (resident other).trans (lists.resident other)
        order := by rw [second.queue, lists.order] }

/-- A page object may be made before a shift, as it is not resident. -/
lemma Shifts.of_newFrame (orderly : cache.Orderly) {frame : Frame}
    (shifts : later.Shifts (cache.newFrame frame).2) : later.Shifts cache := by
  cases shifts with
  | steady same => exact .steady (same.trans ⟨rfl, rfl⟩)
  | lists lists =>
      refine .lists { lists with clean := fun victim left => ?_ }
      obtain ⟨id, there, owner⟩ := isClean_iff.mp (lists.clean victim left)
      have there : cache.residentFrame? victim = some id := there
      rw [frame_newFrame, if_neg (Nat.ne_of_gt (orderly.made victim id there))] at owner
      exact isClean_iff.mpr ⟨id, there, owner⟩

/-- A dirty page stays resident in its frame. -/
lemma Shifts.residentFrame?_of_dirty (shifts : later.Shifts earlier)
    (there : earlier.residentFrame? page = some id) (dirty : (earlier.frame id).isDirty = true) :
    later.residentFrame? page = some id := by
  cases shifts with
  | steady same => rw [residentFrame?, same.resident, ← residentFrame?, there]
  | @lists leaver fresh other lists =>
      have apart : page ≠ fresh := by
        rintro rfl
        rw [lists.absent] at there
        cases there
      have stays : leaver ≠ some page := by
        intro left
        obtain ⟨target, here, owner⟩ := isClean_iff.mp (lists.clean page left)
        rw [there] at here
        cases here
        rw [Frame.isDirty, owner] at dirty
        cases dirty
      rw [lists.resident, if_neg apart, if_neg stays, there]

lemma Admission.shifts {frame : Frame} {result : Except Error Unit}
    (admission : Admission id frame earlier later result) : later.Shifts earlier := by
  cases admission with
  | roomy room admits => exact .lists admits.toLists
  | evicting full oldest admits => exact .lists admits.toLists
  | exhausted full dirty same =>
      rw [same]
      exact .steady (.refl earlier)

/-- A report shifts the resident pages. -/
lemma shifts_markDirty (exact : cache.Exact) (txn : TxnId) (id : FrameId) :
    (cache.markDirty txn id).1.Shifts cache := by
  cases there : cache.residentFrame? (cache.frame id).page with
  | none =>
      obtain ⟨result, -, admission⟩ := admission_markDirty exact there txn
      exact admission.shifts
  | some resident =>
      have found : cache.resident[(cache.frame id).page]? = some resident := there
      rw [markDirty]
      simp only [found]
      split
      · exact .steady ⟨rfl, rfl⟩
      · exact .steady (.refl cache)

end Cache

namespace Database

open Cache

variable {db later : Database} {txn : TxnId} {level : Level} {id : FrameId} {page : PageId}

/-- A page that comes in with an image while it is not resident. -/
theorem admission_enterPage (exact : db.cache.Exact)
    (absent : db.cache.residentFrame? page = none) (image : Image) :
    ∃ result, (db.enterPage page image).2 = result.map (fun _ => db.cache.nextFrame) ∧
      Admission db.cache.nextFrame (.ofImage page image) db.cache
        (db.enterPage page image).1.cache result := by
  cases room : db.cache.makeRoom with
  | mk roomy result =>
      have next : roomy.nextFrame = db.cache.nextFrame := (shrinks_of_makeRoom room).nextFrame
      have admission := admission_bringIn exact db.cache.nextFrame (.ofImage page image)
        (fun cache => (cache.newFrame (.ofImage page image)).2) (fun _ => rfl) (fun _ => rfl)
        (fun _ => rfl)
        (fun roomy shrinks other => by rw [frame_newFrame, shrinks.frame, shrinks.nextFrame])
        absent room
      refine ⟨result, ?_⟩
      cases result with
      | ok =>
          simp only [enterPage, absent, room]
          rw [← next] at admission ⊢
          exact ⟨rfl, admission⟩
      | error error =>
          simp only [enterPage, absent, room]
          exact ⟨rfl, admission⟩

/-! ### Moves -/

/-- Only another transaction that overtakes the read lists a page. -/
lemma shifts_readPage (exact : db.cache.Exact) (store : Store) (page : PageId) :
    (db.readPage store page).1.cache.Shifts db.cache := by
  rw [readPage]
  split
  · exact .steady (.refl _)
  · exact .steady (.refl _)
  · next storage image other read =>
    have fresh := (Advances.newFrame db.cache (.ofImage page image)).exact exact
    have shifts := (shifts_markDirty fresh other db.cache.nextFrame).of_newFrame exact.toOrderly
    simp only [newFrame] at shifts ⊢
    split
    · next cache fault done =>
      rw [done] at shifts
      exact shifts
    · next cache result done =>
      rw [done] at shifts
      exact shifts

lemma shifts_loadPage (exact : db.cache.Exact) (page : PageId) :
    (db.loadPage page).1.cache.Shifts db.cache := by
  rw [loadPage]
  split
  · exact .steady (.refl _)
  · next store named =>
    have read := shifts_readPage exact store page
    split
    · next middle image done =>
      rw [done] at read
      exact read.then_steady ⟨rfl, rfl⟩
    · next middle failure done =>
      rw [done] at read
      exact read

lemma shifts_enterPage (exact : db.cache.Exact) (page : PageId) (image : Image) :
    (db.enterPage page image).1.cache.Shifts db.cache := by
  cases there : db.cache.residentFrame? page with
  | none =>
      obtain ⟨result, -, admission⟩ := admission_enterPage exact there image
      exact admission.shifts
  | some id =>
      simp only [enterPage, there]
      exact .steady (.refl _)

lemma steady_changeFrame {image : Image} (changed : db.changeFrame txn id image = .ok later) :
    later.cache.Steady db.cache := by
  rw [changeFrame] at changed
  split at changed
  · cases changed
    exact ⟨rfl, rfl⟩
  · cases changed

lemma steady_nextProbe (heap : HeapFile) (record : Record) (number remaining : Nat) :
    (db.nextProbe txn level heap record number remaining).1.cache.Steady db.cache := by
  cases remaining with
  | zero => exact .refl _
  | succ remaining => exact .refl _

lemma steady_tryPlace {heap : HeapFile} {record placed : Record}
    (done : db.tryPlace txn heap record id = .ok (some (later, placed))) :
    later.cache.Steady db.cache := by
  obtain ⟨slot, image, -, changed, -⟩ := changeFrame_of_tryPlace done
  exact steady_changeFrame changed

/-- The use of a page lets none come or go. -/
lemma steady_usePage (aim : Aim) :
    (db.usePage txn level aim id).1.cache.Steady db.cache := by
  cases aim with
  | hand page mode => exact .refl _
  | probe heap record number remaining alreadyHeld =>
      simp only [usePage]
      split
      · exact .refl _
      · exact .refl _
      · -- a lock that is given back does not show in the cache
        cases alreadyHeld with
        | true => exact steady_nextProbe ..
        | false =>
            have next : ((db.release txn (heap.page number)).nextProbe txn level heap record
                (number + 1) remaining).1.cache.Steady (db.release txn (heap.page number)).cache :=
              steady_nextProbe ..
            exact next
  | claim heap record number remaining =>
      simp only [usePage]
      split
      · exact .refl _
      · next placed => exact steady_tryPlace placed
      · exact steady_nextProbe ..
  | fill heap record number =>
      simp only [usePage]
      split
      · exact .refl _
      · next placed => exact steady_tryPlace placed
      · exact .refl _
  | erase heap record =>
      simp only [usePage]
      split
      · exact .refl _
      · exact .refl _
      · split
        · exact .refl _
        · next changed => exact steady_changeFrame changed
  | collect heap number remaining found =>
      simp only [usePage]
      split
      · exact .refl _
      · cases remaining with
        | zero => exact .refl _
        | succ remaining => exact .refl _

/-- A move lists one page at most. -/
theorem shifts_step (exact : db.cache.Exact) (operation : Operation) :
    (db.step operation).1.cache.Shifts db.cache := by
  cases operation with
  | fetching txn level aim stage =>
      cases stage with
      | lock waited =>
          rw [step, lockPage]
          split
          · split
            · exact .steady ⟨rfl, rfl⟩
            · exact .steady ⟨rfl, rfl⟩
          · exact .steady ⟨rfl, rfl⟩
          · exact .steady ⟨rfl, rfl⟩
      | use id => exact .steady (steady_usePage aim)
      | read =>
          have loaded := shifts_loadPage exact aim.page
          rw [step]
          split
          · next moved => rwa [moved] at loaded
          · next moved => rwa [moved] at loaded
      | enter image =>
          have entered := shifts_enterPage exact aim.page image
          rw [step]
          split
          · next moved => rwa [moved] at entered
          · next moved => rwa [moved] at entered
  | reporting txn change pages =>
      cases pages with
      | nil => exact .steady (.refl _)
      | cons id rest =>
          have reported : (db.markDirty txn id).1.cache.Shifts db.cache :=
            shifts_markDirty exact txn id
          rw [step]
          split
          · next moved => rwa [moved] at reported
          · next moved => rwa [moved] at reported

/-! ### Starts of operations -/

/-- A successful read of a memory store uses up its race. -/
lemma race_of_readPage {table : TableId} {memory : MemoryId} {storage : Storage} {image : Image}
    {overtaker : Option TxnId}
    (read : db.storage.readPage (.memory table memory) page = (storage, .ok (image, overtaker))) :
    (storage.memory memory).race = none ∧ overtaker = (db.storage.memory memory).race := by
  simp only [Storage.readPage] at read
  cases done : (db.storage.memory memory).readPage page with
  | mk after result =>
      rw [done] at read
      cases read
      rw [Storage.memory_setMemory, if_pos rfl]
      rw [MemoryStore.readPage] at done
      split at done
      · cases done
      · split at done
        · cases done
          exact ⟨rfl, rfl⟩
        · cases done

/-- Without a race a read leaves the cache alone. -/
lemma cache_readPage {memory : MemoryId} (calm : (db.storage.memory memory).race = none)
    (table : TableId) (page : PageId) :
    (db.readPage (.memory table memory) page).1.cache = db.cache := by
  rw [readPage]
  split
  · rfl
  · rfl
  · next read =>
    obtain ⟨-, same⟩ := race_of_readPage read
    rw [calm] at same
    cases same

/-- After a successful read there is no race. -/
lemma calm_of_readPage {table : TableId} {memory : MemoryId} {image : Image}
    (read : db.readPage (.memory table memory) page = (later, .ok image)) :
    (later.storage.memory memory).race = none := by
  rw [readPage] at read
  split at read
  · cases read
  · next done =>
    cases read
    exact (race_of_readPage done).1
  · next done =>
    dsimp only at read
    split at read
    · cases read
    · cases read
      exact (race_of_readPage done).1

/-- Without a race the pages of a memory store are changed on page objects that are not
resident. -/
lemma steady_changeEach (db : Database) {memory : MemoryId}
    (calm : (db.storage.memory memory).race = none) (table : TableId) (change : Image → Image)
    (pages : List PageId) :
    (db.changeEach (.memory table memory) change pages).1.cache.Steady db.cache := by
  induction pages generalizing db with
  | nil => exact .refl _
  | cons page rest ih =>
      have same := cache_readPage calm table page
      rw [changeEach]
      split
      · next middle failure moved =>
        rw [moved] at same
        exact same ▸ .refl _
      · next middle image moved =>
        rw [moved] at same
        have used := calm_of_readPage moved
        have changed := ih { middle with
          cache := (middle.cache.newFrame (.ofImage page (change image))).2 } used
        have before : (middle.cache.newFrame (.ofImage page (change image))).2.Steady db.cache :=
          same ▸ ⟨rfl, rfl⟩
        dsimp only [newFrame] at changed before ⊢
        split
        · next last failure done =>
          rw [done] at changed
          exact changed.trans before
        · next last ids done =>
          rw [done] at changed
          exact changed.trans before

/-- The first page that is read may be listed by a transaction that overtakes the read. -/
lemma shifts_changeEach (exact : db.cache.Exact) (table : TableId) (memory : MemoryId)
    (change : Image → Image) (pages : List PageId) :
    (db.changeEach (.memory table memory) change pages).1.cache.Shifts db.cache := by
  cases pages with
  | nil => exact .steady (.refl _)
  | cons page rest =>
      have read := shifts_readPage exact (.memory table memory) page
      rw [changeEach]
      split
      · next middle failure moved =>
        rw [moved] at read
        exact read
      · next middle image moved =>
        rw [moved] at read
        have used := calm_of_readPage moved
        have changed := steady_changeEach { middle with
          cache := (middle.cache.newFrame (.ofImage page (change image))).2 } used table change rest
        have before : (middle.cache.newFrame (.ofImage page (change image))).2.Shifts db.cache :=
          read.then_steady ⟨rfl, rfl⟩
        dsimp only [newFrame] at changed before ⊢
        split
        · next last failure done =>
          rw [done] at changed
          exact before.then_steady changed
        · next last ids done =>
          rw [done] at changed
          exact before.then_steady changed

lemma shifts_of_changeTargets (exact : db.cache.Exact) {table : TableId} {memory : MemoryId}
    {change : Image → Image} {result : Except Failure (List FrameId)}
    (changed : db.changeTargets table memory change = (later, result)) :
    later.cache.Shifts db.cache := by
  have shifts := shifts_changeEach exact table memory change
    ((db.storage.memory memory).targets.map fun number => ⟨table, number⟩)
  rw [changeTargets] at changed
  rwa [changed] at shifts

lemma shifts_startInsert (exact : db.cache.Exact) (store : Store) (record : Record) :
    (db.startInsert txn level store record).1.cache.Shifts db.cache := by
  cases store with
  | heap heap =>
      simp only [startInsert]
      split
      · exact .steady (steady_nextProbe ..)
      · exact .steady (.refl _)
  | memory table memory =>
      simp only [startInsert]
      split
      · next changed => exact shifts_of_changeTargets exact changed
      · next changed => exact shifts_of_changeTargets exact changed

lemma shifts_startDelete (exact : db.cache.Exact) (store : Store) (record : Record) :
    (db.startDelete txn level store record).1.cache.Shifts db.cache := by
  cases store with
  | heap heap =>
      simp only [startDelete]
      split
      · exact .steady (.refl _)
      · split
        · exact .steady (.refl _)
        · exact .steady (.refl _)
  | memory table memory =>
      simp only [startDelete]
      split
      · next changed => exact shifts_of_changeTargets exact changed
      · next changed => exact shifts_of_changeTargets exact changed

/-- The start of an operation lists one page at most. -/
theorem shifts_start (exact : db.cache.Exact) (call : Call) :
    (db.start txn call).1.cache.Shifts db.cache := by
  cases call with
  | fetch page mode => exact .steady (.refl _)
  | insert table record =>
      rw [start, startInsertRecord]
      split
      · exact shifts_startInsert exact ..
      · exact .steady (.refl _)
  | delete record =>
      rw [start, startDeleteRecord]
      split
      · exact .steady (.refl _)
      · split
        · exact shifts_startDelete exact ..
        · exact .steady (.refl _)
  | scan heap =>
      rw [start, startScan]
      split
      · exact .steady (.refl _)
      · exact .steady (.refl _)

/-! ### Flushing and ending -/

lemma steady_flush (db : Database) (id : FrameId) : (db.flush id).1.cache.Steady db.cache := by
  rw [flush]
  split
  · split
    · exact .refl _
    · split
      · exact .refl _
      · exact ⟨rfl, rfl⟩
  · exact .refl _

lemma steady_flushPage (db : Database) (page : PageId) :
    (db.flushPage page).1.cache.Steady db.cache := by
  rw [flushPage]
  split
  · exact db.steady_flush _
  · exact .refl _

lemma steady_flushEach (db : Database) (pages : List PageId) :
    (db.flushEach pages).1.cache.Steady db.cache := by
  induction pages generalizing db with
  | nil => exact .refl _
  | cons page rest ih =>
      have first := db.steady_flushPage page
      rw [flushEach]
      split
      · next middle done =>
        rw [done] at first
        exact (ih middle).trans first
      · next middle error done =>
        rw [done] at first
        exact first

lemma steady_commitPages (db : Database) (pages : List PageId) :
    (db.commitPages pages).1.cache.Steady db.cache := by
  induction pages generalizing db with
  | nil => exact .refl _
  | cons page rest ih =>
      rw [commitPages]
      split
      · exact ih db
      · next id there =>
        have first := db.steady_flush id
        split
        · next middle error done =>
          rw [done] at first
          exact first
        · next middle done =>
          rw [done] at first
          exact (ih _).trans ⟨first.resident, first.queue⟩

/-- The end of a transaction lets no page come or go. -/
lemma steady_complete (db : Database) (txn : TxnId) (commit : Bool) :
    (db.complete txn commit).1.cache.Steady db.cache := by
  cases commit with
  | true => exact db.steady_commitPages _
  | false => exact .rollbackEach db.cache txn _

end Database

end PageTxn
