import PageTxn.Cache.Frame
import PageTxn.Cache.Queue
import PageTxn.Cache.Stats

/-!
The page cache: which page objects are resident, and which has to leave.

* `Cache` keeps all frames that were ever made, the frame that is resident under
  each page, the order of admission and the counters. Frames that are no longer
  resident stay, because transactions may still hold them.
* `Cache.makeRoom` lets the earliest admitted clean page leave when the cache is
  full, and fails if every resident page is dirty; dirty pages never leave.
* `Cache.markDirty` records that a transaction changed a page, `Cache.discard`
  drops a page.
* The view of the frames is `Cache.frame`; `frame_setFrame` and
  `frame_updateFrame` say what an update does to it.
-/

namespace PageTxn

/-- The identity of a frame. -/
abbrev FrameId := Nat

/-- The resident pages and all frames. -/
structure Cache where
  /-- The largest number of resident pages. -/
  capacity : Nat
  capacity_pos : 0 < capacity
  /-- All frames that were made. -/
  frames : Std.ExtTreeMap FrameId Frame
  /-- The identity of the next frame. -/
  nextFrame : FrameId
  /-- The frames of the resident pages. -/
  resident : Std.ExtTreeMap PageId FrameId
  /-- The resident pages in the order of their admission. -/
  queue : AdmissionQueue
  stats : CacheStats

namespace Cache

/-- An empty cache. -/
def empty (capacity : Nat) (capacity_pos : 0 < capacity) : Cache :=
  ⟨capacity, capacity_pos, ∅, 0, ∅, .empty, .zero⟩

/-- An empty cache of a requested capacity, refused if that is 0. -/
def ofCapacity? (capacity : Nat) : Except Fault Cache :=
  if h : 0 < capacity then .ok (empty capacity h) else .error .zeroCapacity

/-- The number of resident pages. -/
def size (cache : Cache) : Nat := cache.resident.size

/-! ### Frames -/

/-- A frame by its identity. -/
def frame (cache : Cache) (id : FrameId) : Frame := cache.frames.getD id default

/-- Replace a frame. -/
def setFrame (cache : Cache) (id : FrameId) (frame : Frame) : Cache :=
  { cache with frames := cache.frames.insert id frame }

/-- Change a frame. -/
def updateFrame (cache : Cache) (id : FrameId) (change : Frame → Frame) : Cache :=
  cache.setFrame id (change (cache.frame id))

/-- Make a frame that is not resident yet. -/
def newFrame (cache : Cache) (frame : Frame) : FrameId × Cache :=
  (cache.nextFrame,
    { cache.setFrame cache.nextFrame frame with nextFrame := cache.nextFrame + 1 })

/-- Replacing a frame changes that frame and no other. -/
theorem frame_setFrame (cache : Cache) (id other : FrameId) (frame : Frame) :
    (cache.setFrame id frame).frame other =
      if id = other then frame else cache.frame other := by
  simp [setFrame, Cache.frame, Std.ExtTreeMap.getD_insert]

/-- Changing a frame changes that frame and no other. -/
theorem frame_updateFrame (cache : Cache) (id other : FrameId) (change : Frame → Frame) :
    (cache.updateFrame id change).frame other =
      if id = other then change (cache.frame id) else cache.frame other :=
  frame_setFrame ..

/-- Making a frame changes the new frame and no other. -/
theorem frame_newFrame (cache : Cache) (frame : Frame) (other : FrameId) :
    (cache.newFrame frame).2.frame other =
      if cache.nextFrame = other then frame else cache.frame other :=
  frame_setFrame ..

/-! ### Residency -/

/-- The frame that is resident under a page. -/
def residentFrame? (cache : Cache) (page : PageId) : Option FrameId :=
  cache.resident[page]?

/-- Whether a page is resident. -/
def isResident (cache : Cache) (page : PageId) : Bool := cache.resident.contains page

/-- The resident pages in ascending order. -/
def residentPages (cache : Cache) : List PageId := cache.resident.keys

/-- Whether a page is resident and clean. -/
def isClean (cache : Cache) (page : PageId) : Bool :=
  match cache.resident[page]? with
  | some id => !(cache.frame id).isDirty
  | none => false

/-- Let a frame be the resident one of its page, admitted last. -/
def bringIn (cache : Cache) (id : FrameId) : Cache :=
  let page := (cache.frame id).page
  { cache with
    queue := cache.queue.push page
    resident := cache.resident.insert page id }

/-- Drop a page without writing it. -/
def discard (cache : Cache) (page : PageId) : Cache :=
  if cache.isResident page then
    { cache with
      resident := cache.resident.erase page
      queue := cache.queue.remove page }
  else cache

/-- The frame that is brought in is the resident one of its page, and other pages keep
theirs. -/
theorem residentFrame?_bringIn (cache : Cache) (id : FrameId) (page : PageId) :
    (cache.bringIn id).residentFrame? page =
      if (cache.frame id).page = page then some id else cache.residentFrame? page := by
  simp [bringIn, residentFrame?, Std.ExtTreeMap.getElem?_insert]

/-- The page that is discarded is no longer resident, and other pages keep their
frames. -/
theorem residentFrame?_discard (cache : Cache) (page other : PageId) :
    (cache.discard page).residentFrame? other =
      if page = other then none else cache.residentFrame? other := by
  unfold discard
  split
  · simp [residentFrame?, Std.ExtTreeMap.getElem?_erase]
  · next absent =>
    by_cases h : page = other
    · subst h
      have outside : page ∉ cache.resident := by simpa [isResident] using absent
      simp [residentFrame?, outside]
    · simp [h]

/-! ### Room for one more page -/

/-- Let the earliest admitted clean page leave. -/
def evict? (cache : Cache) : Option Cache :=
  match cache.queue.evict? cache.isClean with
  | some (page, queue) =>
      some { cache with
        queue
        resident := cache.resident.erase page
        stats := { cache.stats with evictions := cache.stats.evictions + 1 } }
  | none => none

/-- Let clean pages leave until there is room for one more; `fuel` bounds their
number. -/
def evictUntilRoom : Nat → Cache → Cache × Except Error Unit
  | 0, cache => (cache, .ok ())
  | fuel + 1, cache =>
      if cache.size < cache.capacity then (cache, .ok ())
      else
        match cache.evict? with
        | some cache => evictUntilRoom fuel cache
        | none => (cache, .error (.cacheExhausted cache.capacity))

/-- Make room for one more page. No more pages can leave than are resident. -/
def makeRoom (cache : Cache) : Cache × Except Error Unit :=
  evictUntilRoom cache.size cache

/-! ### Dirty pages -/

/-- Record that a transaction changed the page of a frame. If the page is
resident, its resident frame takes over the image that the given frame shows;
otherwise the given frame is admitted. -/
def markDirty (cache : Cache) (txn : TxnId) (id : FrameId) :
    Cache × Except Failure Unit :=
  let frame := cache.frame id
  match cache.resident[frame.page]? with
  | some resident =>
      match (cache.frame resident).copyFrom? frame.live with
      | .ok copied => (cache.setFrame resident (copied.mark txn), .ok ())
      | .error fault => (cache, .error fault)
  | none =>
      match cache.makeRoom with
      | (cache, .ok ()) => ((cache.updateFrame id fun frame => frame.mark txn).bringIn id, .ok ())
      | (cache, .error error) => (cache, .error error)

/-- Return a page to its before-image if it is resident and the transaction owns
its changes. -/
def rollback (cache : Cache) (txn : TxnId) (page : PageId) : Cache :=
  match cache.residentFrame? page with
  | some id =>
      if (cache.frame id).owner = some txn then cache.updateFrame id Frame.restore
      else cache
  | none => cache

/-- Return some pages to their before-images, where the transaction owns their
changes. -/
def rollbackEach (cache : Cache) (txn : TxnId) : List PageId → Cache
  | [] => cache
  | page :: rest => (cache.rollback txn page).rollbackEach txn rest

/-! ### Counters -/

/-- Count a fetch that found its page resident. -/
def countHit (cache : Cache) : Cache :=
  { cache with stats := { cache.stats with hits := cache.stats.hits + 1 } }

/-- Count a fetch that did not. -/
def countMiss (cache : Cache) : Cache :=
  { cache with stats := { cache.stats with misses := cache.stats.misses + 1 } }

/-- Count a page read from its store. -/
def countRead (cache : Cache) : Cache :=
  { cache with stats := { cache.stats with read := cache.stats.read + 1 } }

/-- Count a page written to its store. -/
def countWritten (cache : Cache) : Cache :=
  { cache with stats := { cache.stats with written := cache.stats.written + 1 } }

end Cache

end PageTxn
