import Mathlib.Tactic.Common
import PageTxn.Cache.Basic

/-!
What the operations of the cache do to the resident pages.

* `Cache.Orderly` is the invariant of the representation: a resident page has a frame of its
  own that was made before, and is listed in the order of admission.
* `Cache.Shrinks` relates a cache to one from which some clean pages may have left; making
  room only shrinks the cache (`shrinks_makeRoom`), and it succeeds if no resident page is
  dirty (`makeRoom_of_clean`).
* `Cache.Touches` relates a cache to one in which one frame has been changed or brought in.
* `markDirty_of_resident`, `markDirty_of_absent` and `markDirty_of_full` say what reporting a
  changed page does; `exists_markDirty` sums them up.
-/

namespace PageTxn.Cache

/-- A resident page has a frame of its own that was made before, and is listed in the order
of admission. -/
structure Orderly (cache : Cache) : Prop where
  page : ∀ (page : PageId) (id : FrameId),
    cache.residentFrame? page = some id → (cache.frame id).page = page
  made : ∀ (page : PageId) (id : FrameId),
    cache.residentFrame? page = some id → id < cache.nextFrame
  listed : ∀ (page : PageId) (id : FrameId),
    cache.residentFrame? page = some id → page ∈ cache.queue.order

lemma orderly_empty (capacity : Nat) (capacity_pos : 0 < capacity) :
    (Cache.empty capacity capacity_pos).Orderly :=
  ⟨fun page id h => by simp [empty, residentFrame?] at h,
    fun page id h => by simp [empty, residentFrame?] at h,
    fun page id h => by simp [empty, residentFrame?] at h⟩

/-- Different resident pages have different frames. -/
lemma Orderly.id_ne {cache : Cache} (orderly : cache.Orderly) {page other : PageId}
    {id target : FrameId} (apart : page ≠ other) (there : cache.residentFrame? page = some id)
    (resident : cache.residentFrame? other = some target) : id ≠ target := by
  rintro rfl
  exact apart ((orderly.page page id there).symm.trans (orderly.page other id resident))

/-- A resident page is clean if its frame has no owner. -/
lemma isClean_iff {cache : Cache} {page : PageId} :
    cache.isClean page = true ↔
      ∃ id, cache.residentFrame? page = some id ∧ (cache.frame id).owner = none := by
  rw [isClean, residentFrame?]
  cases cache.resident[page]? with
  | none => simp
  | some id => simp [Frame.isDirty]

/-! ### Caches that shrink -/

/-- Some clean pages may have left the earlier cache, and counters may have moved. -/
structure Shrinks (later earlier : Cache) : Prop where
  frames : later.frames = earlier.frames
  nextFrame : later.nextFrame = earlier.nextFrame
  resident : ∀ page, later.residentFrame? page = earlier.residentFrame? page ∨
    later.residentFrame? page = none ∧ earlier.isClean page = true
  order : ∀ page ∈ earlier.queue.order,
    later.residentFrame? page ≠ none → page ∈ later.queue.order

namespace Shrinks

variable {later middle earlier : Cache}

lemma refl (cache : Cache) : cache.Shrinks cache :=
  ⟨rfl, rfl, fun _ => Or.inl rfl, fun _ h _ => h⟩

/-- Counting changes no page. -/
lemma of_stats (cache : Cache) (stats : CacheStats) :
    { cache with stats }.Shrinks cache :=
  ⟨rfl, rfl, fun _ => Or.inl rfl, fun _ h _ => h⟩

lemma frame (h : later.Shrinks earlier) (id : FrameId) : later.frame id = earlier.frame id := by
  rw [Cache.frame, Cache.frame, h.frames]

/-- What is still resident was resident in the same frame. -/
lemma residentFrame? (h : later.Shrinks earlier) {page : PageId} {id : FrameId}
    (there : later.residentFrame? page = some id) : earlier.residentFrame? page = some id := by
  rcases h.resident page with same | ⟨gone, -⟩
  · rw [← same, there]
  · rw [gone] at there
    cases there

/-- A dirty page stays resident. -/
lemma residentFrame?_of_dirty (h : later.Shrinks earlier) {page : PageId} {id : FrameId}
    {txn : TxnId} (there : earlier.residentFrame? page = some id)
    (dirty : (earlier.frame id).owner = some txn) : later.residentFrame? page = some id := by
  rcases h.resident page with same | ⟨-, clean⟩
  · rw [same, there]
  · obtain ⟨other, here, owner⟩ := isClean_iff.mp clean
    rw [there] at here
    cases here
    rw [dirty] at owner
    cases owner

/-- What is clean now was clean before. -/
lemma isClean (h : later.Shrinks earlier) {page : PageId} (clean : later.isClean page = true) :
    earlier.isClean page = true := by
  obtain ⟨id, there, owner⟩ := isClean_iff.mp clean
  exact isClean_iff.mpr ⟨id, h.residentFrame? there, by rw [← h.frame]; exact owner⟩

lemma trans (h : later.Shrinks middle) (h' : middle.Shrinks earlier) :
    later.Shrinks earlier where
  frames := h.frames.trans h'.frames
  nextFrame := h.nextFrame.trans h'.nextFrame
  resident page := by
    rcases h.resident page with same | ⟨gone, clean⟩
    · rw [same]
      exact h'.resident page
    · exact Or.inr ⟨gone, h'.isClean clean⟩
  order page listed there := by
    refine h.order page (h'.order page listed ?_) there
    rcases h.resident page with same | ⟨gone, -⟩
    · rw [← same]
      exact there
    · exact absurd gone there

/-- A cache that shrinks stays orderly. -/
lemma orderly (h : later.Shrinks earlier) (orderly : earlier.Orderly) : later.Orderly where
  page page id there := by
    rw [h.frame]
    exact orderly.page page id (h.residentFrame? there)
  made page id there := by
    rw [h.nextFrame]
    exact orderly.made page id (h.residentFrame? there)
  listed page id there :=
    h.order page (orderly.listed page id (h.residentFrame? there)) (by simp [there])

end Shrinks

/-! ### Making room -/

/-- An eviction takes one clean page out. -/
lemma shrinks_evict? {later earlier : Cache} (h : earlier.evict? = some later) :
    later.Shrinks earlier := by
  rw [evict?] at h
  split at h
  · next page queue evicted =>
    cases h
    obtain ⟨clean, order, -⟩ := AdmissionQueue.evict?_eq_some evicted
    have resident : ∀ other, (earlier.resident.erase page)[other]? =
        if page = other then none else earlier.resident[other]? := by
      intro other
      simp [Std.ExtTreeMap.getElem?_erase]
    refine ⟨rfl, rfl, fun other => ?_, fun other listed there => ?_⟩
    · by_cases here : page = other
      · subst here
        exact Or.inr ⟨by simp [residentFrame?], clean⟩
      · exact Or.inl (by simp [residentFrame?, resident, here])
    · have apart : other ≠ page := by
        rintro rfl
        simp [residentFrame?] at there
      rw [order]
      exact (List.mem_erase_of_ne apart).mpr listed
  · cases h

lemma shrinks_evictUntilRoom (fuel : Nat) (cache : Cache) :
    (evictUntilRoom fuel cache).1.Shrinks cache := by
  induction fuel generalizing cache with
  | zero => exact .refl cache
  | succ fuel ih =>
      rw [evictUntilRoom]
      split
      · exact .refl cache
      · split
        · next smaller evicted => exact (ih smaller).trans (shrinks_evict? evicted)
        · exact .refl cache

/-- Making room only shrinks the cache. -/
lemma shrinks_makeRoom (cache : Cache) : cache.makeRoom.1.Shrinks cache :=
  shrinks_evictUntilRoom cache.size cache

lemma shrinks_of_makeRoom {cache roomy : Cache} {result : Except Error Unit}
    (room : cache.makeRoom = (roomy, result)) : roomy.Shrinks cache := by
  have shrinks := cache.shrinks_makeRoom
  rw [room] at shrinks
  exact shrinks

/-- A full cache has a resident page. -/
lemma exists_resident {cache : Cache} (full : ¬ cache.size < cache.capacity) :
    ∃ page id, cache.residentFrame? page = some id := by
  by_contra nothing
  push Not at nothing
  have empty : cache.resident = ∅ := by
    refine Std.ExtTreeMap.ext_getElem? fun page => ?_
    rw [Std.ExtTreeMap.getElem?_empty]
    exact Option.eq_none_iff_forall_ne_some.mpr (nothing page)
  have none_left : cache.size = 0 := by
    rw [size, empty]
    rfl
  have capacity_pos := cache.capacity_pos
  omega

lemma evictUntilRoom_of_clean (fuel : Nat) {cache : Cache} (orderly : cache.Orderly)
    (clean : ∀ page id, cache.residentFrame? page = some id → (cache.frame id).owner = none) :
    (evictUntilRoom fuel cache).2 = .ok () := by
  induction fuel generalizing cache with
  | zero => rfl
  | succ fuel ih =>
      rw [evictUntilRoom]
      split
      · rfl
      · next full =>
        split
        · next smaller evicted =>
          have shrinks := shrinks_evict? evicted
          refine ih (shrinks.orderly orderly) fun page id there => ?_
          rw [shrinks.frame]
          exact clean page id (shrinks.residentFrame? there)
        · next stuck =>
          -- a resident page is clean and listed, so that it could leave
          obtain ⟨page, id, there⟩ := exists_resident full
          have evictable : cache.isClean page = true :=
            isClean_iff.mpr ⟨id, there, clean page id there⟩
          rw [evict?] at stuck
          split at stuck
          · cases stuck
          · next nobody =>
            have dirty := AdmissionQueue.evict?_eq_none.mp nobody page
              (orderly.listed page id there)
            rw [evictable] at dirty
            cases dirty

/-- Room can be made if no resident page is dirty. -/
lemma makeRoom_of_clean {cache : Cache} (orderly : cache.Orderly)
    (clean : ∀ page id, cache.residentFrame? page = some id → (cache.frame id).owner = none) :
    cache.makeRoom.2 = .ok () :=
  evictUntilRoom_of_clean cache.size orderly clean

lemma evictUntilRoom_error {fuel : Nat} {cache : Cache} {error : Error}
    (stuck : (evictUntilRoom fuel cache).2 = .error error) :
    ∃ capacity, error = .cacheExhausted capacity := by
  induction fuel generalizing cache with
  | zero => cases stuck
  | succ fuel ih =>
      rw [evictUntilRoom] at stuck
      split at stuck
      · cases stuck
      · split at stuck
        · exact ih stuck
        · cases stuck
          exact ⟨_, rfl⟩

/-- Making room fails in no other way than with an exhausted cache. -/
lemma exists_exhausted {cache full : Cache} {error : Error}
    (stuck : cache.makeRoom = (full, .error error)) :
    ∃ capacity, error = .cacheExhausted capacity :=
  evictUntilRoom_error (congrArg Prod.snd stuck)

/-! ### Bringing in and reporting -/

/-- A frame that was made before can be brought in for its page. -/
lemma Orderly.bringIn {cache : Cache} (orderly : cache.Orderly) {id : FrameId}
    (made : id < cache.nextFrame) : (cache.bringIn id).Orderly where
  page page other there := by
    rw [residentFrame?_bringIn] at there
    split at there
    · next here =>
      cases there
      exact here
    · exact orderly.page page other there
  made page other there := by
    rw [residentFrame?_bringIn] at there
    split at there
    · cases there
      exact made
    · exact orderly.made page other there
  listed page other there := by
    rw [residentFrame?_bringIn] at there
    show page ∈ (cache.queue.push (cache.frame id).page).order
    rw [AdmissionQueue.mem_push]
    split at there
    · next here => exact Or.inl here.symm
    · exact Or.inr (orderly.listed page other there)

/-- A frame can be changed as long as it stays the frame of its page. -/
lemma Orderly.setFrame {cache : Cache} (orderly : cache.Orderly) {id : FrameId} {frame : Frame}
    (same : frame.page = (cache.frame id).page) : (cache.setFrame id frame).Orderly where
  page page other there := by
    have before := orderly.page page other there
    rw [frame_setFrame]
    split
    · next here =>
      subst here
      exact same.trans before
    · exact before
  made := orderly.made
  listed := orderly.listed

/-- A new frame does not disturb the resident ones. -/
lemma Orderly.newFrame {cache : Cache} (orderly : cache.Orderly) (frame : Frame) :
    (cache.newFrame frame).2.Orderly where
  page page id there := by
    have apart : cache.nextFrame ≠ id :=
      Nat.ne_of_gt (orderly.made page id there)
    rw [frame_newFrame, if_neg apart]
    exact orderly.page page id there
  made page id there := Nat.lt_succ_of_lt (orderly.made page id there)
  listed := orderly.listed

/-- A resident page that is reported by its own frame is marked in place. -/
lemma markDirty_of_resident {cache : Cache} {txn : TxnId} {id : FrameId}
    (there : cache.residentFrame? (cache.frame id).page = some id) :
    cache.markDirty txn id = (cache.setFrame id ((cache.frame id).mark txn), .ok ()) := by
  have found : cache.resident[(cache.frame id).page]? = some id := there
  simp [markDirty, found, Frame.copyFrom?_of_size]

/-- A page that is not resident is marked and admitted, if there is room. -/
lemma markDirty_of_absent {cache roomy : Cache} {txn : TxnId} {id : FrameId}
    (absent : cache.residentFrame? (cache.frame id).page = none)
    (room : cache.makeRoom = (roomy, .ok ())) :
    cache.markDirty txn id =
      ((roomy.updateFrame id fun frame => frame.mark txn).bringIn id, .ok ()) := by
  have found : cache.resident[(cache.frame id).page]? = none := absent
  simp [markDirty, found, room]

/-- A page that is not resident is not admitted if there is no room. -/
lemma markDirty_of_full {cache full : Cache} {txn : TxnId} {id : FrameId} {error : Error}
    (absent : cache.residentFrame? (cache.frame id).page = none)
    (room : cache.makeRoom = (full, .error error)) :
    cache.markDirty txn id = (full, .error error) := by
  have found : cache.resident[(cache.frame id).page]? = none := absent
  simp [markDirty, found, room]

/-! ### Changes of one frame -/

section Touches

variable {cache earlier later roomy : Cache} {page : PageId} {id : FrameId}

/-- At most one frame is changed, which keeps its before-image, and no other frame is brought
in. -/
structure Touches (page : PageId) (id : FrameId) (earlier later : Cache) : Prop where
  made : earlier.nextFrame ≤ later.nextFrame
  showed : id < earlier.nextFrame → (earlier.frame id).page = page
  before : id < earlier.nextFrame → (later.frame id).before = (earlier.frame id).before
  shows : (later.frame id).page = page
  frame : ∀ other, other ≠ id → later.frame other = earlier.frame other
  resident : ∀ (other : PageId) (target : FrameId), later.residentFrame? other = some target →
    other = page ∧ target = id ∨ other ≠ page ∧ earlier.residentFrame? other = some target

/-- A frame is changed in place. -/
lemma touches_setFrame {frame : Frame}
    (alone : ∀ other, cache.residentFrame? (cache.frame id).page = some other → other = id)
    (shows : frame.page = (cache.frame id).page) (before : frame.before = (cache.frame id).before) :
    Touches (cache.frame id).page id cache (cache.setFrame id frame) where
  made := Nat.le_refl _
  showed _ := rfl
  before _ := by rw [frame_setFrame, if_pos rfl, before]
  shows := by rw [frame_setFrame, if_pos rfl, shows]
  frame other apart := by rw [frame_setFrame, if_neg apart.symm]
  resident other target there := by
    by_cases here : other = (cache.frame id).page
    · rw [here] at there
      exact Or.inl ⟨here, alone target there⟩
    · exact Or.inr ⟨here, there⟩

/-- A changed frame is brought in, after other pages have left. -/
lemma touches_bringIn {set : Cache} {frame : Frame} (shrinks : roomy.Shrinks cache)
    (made : cache.nextFrame ≤ set.nextFrame) (resident : set.resident = roomy.resident)
    (frames : ∀ other, set.frame other = if id = other then frame else cache.frame other)
    (showed : id < cache.nextFrame → (cache.frame id).page = frame.page)
    (before : id < cache.nextFrame → frame.before = (cache.frame id).before) :
    Touches frame.page id cache (set.bringIn id) where
  made := made
  showed := showed
  before old := by
    show (set.frame id).before = _
    rw [frames, if_pos rfl, before old]
  shows := by
    show (set.frame id).page = _
    rw [frames, if_pos rfl]
  frame other apart := by
    show set.frame other = _
    rw [frames, if_neg apart.symm]
  resident other target there := by
    rw [residentFrame?_bringIn, frames, if_pos rfl] at there
    split at there
    · next here => exact Or.inl ⟨here.symm, (Option.some.inj there).symm⟩
    · next elsewhere =>
      rw [residentFrame?, resident] at there
      exact Or.inr ⟨Ne.symm elsewhere, shrinks.residentFrame? there⟩

/-- No other frame of its page is resident then. -/
lemma Touches.alone (touches : Touches page id earlier later) (other : FrameId)
    (there : later.residentFrame? (later.frame id).page = some other) : other = id := by
  rw [touches.shows] at there
  rcases touches.resident page other there with ⟨-, same⟩ | ⟨elsewhere, -⟩
  · exact same
  · exact absurd rfl elsewhere

/-- A page that is not resident is brought in with an image of its own, if there is room. -/
lemma touches_enter (shrinks : roomy.Shrinks cache) (page : PageId) (image : Image) :
    Touches page cache.nextFrame cache
        ((roomy.newFrame (.ofImage page image)).2.bringIn roomy.nextFrame) ∧
      ((roomy.newFrame (.ofImage page image)).2.bringIn roomy.nextFrame).frame cache.nextFrame =
        .ofImage page image := by
  have young : ¬ cache.nextFrame < cache.nextFrame := Nat.lt_irrefl _
  have frames : ∀ other, (roomy.newFrame (.ofImage page image)).2.frame other =
      if cache.nextFrame = other then .ofImage page image else cache.frame other := by
    intro other
    rw [frame_newFrame, shrinks.frame, shrinks.nextFrame]
  have made : cache.nextFrame ≤ (roomy.newFrame (.ofImage page image)).2.nextFrame := by
    show cache.nextFrame ≤ roomy.nextFrame + 1
    rw [shrinks.nextFrame]
    exact Nat.le_succ _
  rw [shrinks.nextFrame]
  exact ⟨touches_bringIn shrinks made rfl frames (fun old => absurd old young)
    fun old => absurd old young, (frames _).trans (if_pos rfl)⟩

/-- If no other frame is the resident one of its page, a frame is reported with its image and its
before-image, or the cache is exhausted and the page is not resident. -/
lemma exists_markDirty (txn : TxnId)
    (alone : ∀ other, cache.residentFrame? (cache.frame id).page = some other → other = id) :
    (∃ marked, cache.markDirty txn id = (marked, .ok ()) ∧
        marked.frame id = (cache.frame id).mark txn ∧
        Touches (cache.frame id).page id cache marked) ∨
      ∃ full capacity, cache.markDirty txn id = (full, .error (Error.cacheExhausted capacity)) ∧
        full.Shrinks cache ∧ cache.residentFrame? (cache.frame id).page = none := by
  cases there : cache.residentFrame? (cache.frame id).page with
  | some other =>
      cases alone other there
      refine Or.inl ⟨_, markDirty_of_resident there, ?_, touches_setFrame alone rfl rfl⟩
      rw [frame_setFrame, if_pos rfl]
  | none =>
      cases room : cache.makeRoom with
      | mk roomy result =>
          have shrinks := shrinks_of_makeRoom room
          cases result with
          | error error =>
              obtain ⟨capacity, rfl⟩ := exists_exhausted room
              exact Or.inr ⟨roomy, capacity, markDirty_of_full there room, shrinks, rfl⟩
          | ok =>
              have frames : ∀ other,
                  (roomy.updateFrame id fun frame => frame.mark txn).frame other =
                    if id = other then (cache.frame id).mark txn else cache.frame other := by
                intro other
                rw [frame_updateFrame, shrinks.frame, shrinks.frame]
              have touches : Touches ((cache.frame id).mark txn).page id cache
                  ((roomy.updateFrame id fun frame => frame.mark txn).bringIn id) :=
                touches_bringIn shrinks (Nat.le_of_eq shrinks.nextFrame.symm) rfl frames
                  (fun _ => rfl) fun _ => rfl
              exact Or.inl ⟨_, markDirty_of_absent there room, (frames id).trans (if_pos rfl),
                touches⟩

end Touches

end PageTxn.Cache
