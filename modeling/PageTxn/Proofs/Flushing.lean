import PageTxn.Proofs.Eviction
import PageTxn.Proofs.Guard

/-!
What flushes and commits write if no store fails.

* `exists_flushEach`: a flush writes the dirty pages and makes their frames clean, whoever owns
  them, and leaves the before-images as they are.
* `Written.frame_of_idle`, `Written.frame_of_not_idle`: what it makes of the frames.
-/

namespace PageTxn

namespace Database

variable {db middle later : Database} {change : Frame → Frame} {page other : PageId}
  {pages : List PageId} {id : FrameId}

lemma Guarded.housed {stuck : TxnId → Prop} (guarded : db.Guarded stuck) (page : PageId) :
    db.Housed page := by
  intro id there
  have backed := guarded.backed id (guarded.orderly.made page id there)
  rw [guarded.orderly.page page id there] at backed
  exact backed

/-- A page is not written if none of its frames is dirty. -/
lemma Written.image_of_clean (written : Written change pages db later)
    (clean : page ∈ pages → ∀ id, db.cache.residentFrame? page = some id →
      (db.cache.frame id).owner = none) :
    later.storage.image? page = db.storage.image? page := by
  rw [written.image]
  split
  · next listed =>
    cases there : db.cache.residentFrame? page with
    | none => rw [unwritten?_of_absent there, Option.none_or]
    | some id =>
        rw [unwritten?_of_resident there, Frame.isDirty, clean listed id there]
        rfl
  · rfl

/-- A dirty page is written. -/
lemma Written.image_of_dirty (written : Written change pages db later) (listed : page ∈ pages)
    (there : db.cache.residentFrame? page = some id) (dirty : (db.cache.frame id).owner ≠ none) :
    later.storage.image? page = some (db.cache.frame id).live := by
  have isDirty : (db.cache.frame id).isDirty = true := Option.isSome_iff_ne_none.mpr dirty
  rw [written.image, if_pos listed, unwritten?_of_resident there, if_pos isDirty, Option.some_or]

/-! ### Flushes -/

/-- A flush of pages succeeds if no store fails. -/
theorem exists_flushEach (reliable : db.storage.Reliable) (orderly : db.cache.Orderly)
    (housed : ∀ page, db.Housed page) (pages : List PageId) :
    ∃ flushed, db.flushEach pages = (flushed, .ok ()) ∧ Written Frame.clean pages db flushed := by
  induction pages generalizing db with
  | nil => exact ⟨db, rfl, .nil reliable⟩
  | cons page rest ih =>
      rw [flushEach, flushPage]
      cases there : db.cache.residentFrame? page with
      | none =>
          obtain ⟨flushed, done, written⟩ := ih reliable orderly housed
          exact ⟨flushed, done, written.skip there⟩
      | some id =>
          obtain ⟨middle, done, first⟩ := exists_flush_clean reliable orderly (housed page) there
          obtain ⟨flushed, done', written⟩ := ih first.reliable
            (first.settled.orderly (fun _ => rfl) orderly) fun other =>
              first.housed Frame.isWrite_clean (housed other)
          refine ⟨flushed, ?_, first.cons Frame.isWrite_clean orderly written⟩
          simp only [done, done']

/-- A flush of the pages has nothing to write for a frame. -/
def Idle (db : Database) (pages : List PageId) (id : FrameId) : Prop :=
  (db.cache.frame id).page ∈ pages →
    db.cache.residentFrame? (db.cache.frame id).page = some id → (db.cache.frame id).owner = none

/-- A frame for which there is nothing to write stays as it is. -/
lemma Written.frame_of_idle (written : Written Frame.clean pages db later)
    (idle : db.Idle pages id) : later.cache.frame id = db.cache.frame id := by
  rw [written.settled.frame]
  split
  · next listed => rw [Frame.clean, ← idle listed.1 listed.2]
  · rfl

/-- A frame that was written is clean. -/
lemma Written.frame_of_not_idle (written : Written Frame.clean pages db later)
    (busy : ¬ db.Idle pages id) : later.cache.frame id = (db.cache.frame id).clean := by
  rw [Idle] at busy
  push Not at busy
  rw [written.settled.frame, if_pos ⟨busy.1, busy.2.1⟩]

/-- Flushing a single page. -/
lemma flushEach_singleton (db : Database) (page : PageId) :
    db.flushEach [page] = db.flushPage page := by
  rw [flushEach]
  split
  · next flushed => rw [flushed, flushEach]
  · next flushed => rw [flushed]

end Database

end PageTxn
