import PageTxn.Proofs.Compliance
import PageTxn.Proofs.Currency
import PageTxn.Proofs.Forcing

/-!
What a step of one transaction leaves to the others, also if stores fail.

* `Database.Grounded` says that resident pages have the stored images as their before-images, and
  `Database.Closed` that a page has not been overwritten without a report.
* `Database.LeavesAlone` says that a step leaves a page alone: a clean one may leave the cache and
  come back from its store, and nothing else happens to it.
* `Database.Defers` is the frame condition of a step: a page that its transaction has not locked
  exclusively shows the same image after the step, whether it has left the cache, come back from
  its store or been written there, and pages that it has not locked are left alone. Elementary steps
  have one lemma each, and can be put together (`Defers.trans`).
* `defers_markDirty`: a report of a page defers to the locks if the before-image of the page object
  is the stored image.
* `defers_commitPages`, `defers_rollbackPages`: so does a transaction that ends, whether or not a
  store refuses a page.
-/

namespace PageTxn.Database

variable {db middle later : Database} {own : PageId → Option LockMode} {txn : TxnId}
  {page : PageId} {pages : List PageId} {id : FrameId} {image : Image}

/-! ### Images that belong together -/

/-- The before-image of a page object is the stored image of its page. -/
def Rooted (db : Database) (id : FrameId) : Prop :=
  db.storage.image? (db.cache.frame id).page = some (db.cache.frame id).before

/-- Resident pages have the stored images as their before-images. -/
def Grounded (db : Database) : Prop :=
  ∀ (page : PageId) (id : FrameId), db.cache.residentFrame? page = some id → db.Rooted id

/-- A resident page that is clean shows its before-image. -/
def Closed (db : Database) (page : PageId) : Prop :=
  ∀ id, db.cache.residentFrame? page = some id → (db.cache.frame id).owner = none →
    (db.cache.frame id).live = (db.cache.frame id).before

/-- A clean page shows the stored image. -/
lemma Grounded.stored_eq_shown (grounded : db.Grounded) (orderly : db.cache.Orderly)
    (closed : db.Closed page) (calm : db.Calm page) :
    db.storage.image? page = db.shown? page := by
  cases there : db.cache.residentFrame? page with
  | none => rw [shown?_of_absent there]
  | some id =>
      have rooted := grounded page id there
      rw [Rooted, orderly.page page id there] at rooted
      rw [shown?_of_resident there, rooted, closed id there (calm id there)]

/-- A page shows the same image as long as it is resident in the same frame or stored with the same
image. -/
lemma shown?_congr (resident : later.cache.residentFrame? page = db.cache.residentFrame? page)
    (live : ∀ id, db.cache.residentFrame? page = some id →
      (later.cache.frame id).live = (db.cache.frame id).live)
    (stored : db.cache.residentFrame? page = none →
      later.storage.image? page = db.storage.image? page) : later.shown? page = db.shown? page := by
  cases there : db.cache.residentFrame? page with
  | none =>
      rw [shown?_of_absent there, shown?_of_absent (resident.trans there)]
      exact stored there
  | some id =>
      rw [shown?_of_resident there, shown?_of_resident (resident.trans there), live id there]

/-! ### Pages that are left alone -/

/-- The page is stored as before, and its page objects are as they were. The resident one is one of
them, or shows what it was read with, and as long as it is dirty it stays resident. -/
structure LeavesAlone (page : PageId) (db later : Database) : Prop where
  stored : ∀ image, db.storage.image? page = some image →
    later.storage.image? page = some image
  made : db.cache.nextFrame ≤ later.cache.nextFrame
  frame : ∀ id < db.cache.nextFrame, (db.cache.frame id).page = page →
    later.cache.frame id = db.cache.frame id
  resident : ∀ id, later.cache.residentFrame? page = some id →
    db.cache.residentFrame? page = some id ∧ later.cache.frame id = db.cache.frame id ∨
      (later.cache.frame id).owner = none ∧
        (later.cache.frame id).live = (later.cache.frame id).before
  dirty : ∀ id, db.cache.residentFrame? page = some id → (db.cache.frame id).owner ≠ none →
    later.cache.residentFrame? page = some id ∧ later.cache.frame id = db.cache.frame id

namespace LeavesAlone

/-- Nothing happens to a page that stays resident in the same frame or out of the cache. -/
lemma of_same (orderly : db.cache.Orderly) (stored : ∀ image, db.storage.image? page = some image →
      later.storage.image? page = some image)
    (made : db.cache.nextFrame ≤ later.cache.nextFrame)
    (frame : ∀ id < db.cache.nextFrame, (db.cache.frame id).page = page →
      later.cache.frame id = db.cache.frame id)
    (resident : later.cache.residentFrame? page = db.cache.residentFrame? page) :
    LeavesAlone page db later where
  stored := stored
  made := made
  frame := frame
  resident id there := by
    rw [resident] at there
    exact .inl ⟨there, frame id (orderly.made page id there) (orderly.page page id there)⟩
  dirty id there _ :=
    ⟨resident.trans there, frame id (orderly.made page id there) (orderly.page page id there)⟩

/-- Nor if no page object changes. -/
lemma of_frames (stored : ∀ image, db.storage.image? page = some image →
      later.storage.image? page = some image)
    (frames : ∀ id, later.cache.frame id = db.cache.frame id)
    (made : db.cache.nextFrame ≤ later.cache.nextFrame)
    (resident : later.cache.residentFrame? page = db.cache.residentFrame? page) :
    LeavesAlone page db later where
  stored := stored
  made := made
  frame id _ _ := frames id
  resident id there := .inl ⟨resident ▸ there, frames id⟩
  dirty id there _ := ⟨resident.trans there, frames id⟩

lemma refl (page : PageId) (db : Database) : LeavesAlone page db db :=
  .of_frames (fun _ => id) (fun _ => rfl) (Nat.le_refl _) rfl

lemma trans (first : LeavesAlone page db middle) (second : LeavesAlone page middle later) :
    LeavesAlone page db later where
  stored image there := second.stored image (first.stored image there)
  made := Nat.le_trans first.made second.made
  frame id made shows := by
    have same := first.frame id made shows
    rw [second.frame id (Nat.lt_of_lt_of_le made first.made) (by rw [same]; exact shows), same]
  resident id there := by
    rcases second.resident id there with ⟨before, same⟩ | fresh
    · rw [same]
      exact first.resident id before
    · exact .inr fresh
  dirty id there owner := by
    obtain ⟨stays, same⟩ := first.dirty id there owner
    rw [← same] at owner ⊢
    exact second.dirty id stays owner

end LeavesAlone

/-! ### Steps that defer to the locks -/

/-- What a step of one transaction, which has these locks, leaves to the others. -/
structure Defers (own : PageId → Option LockMode) (db later : Database) : Prop where
  made : db.cache.nextFrame ≤ later.cache.nextFrame
  page : ∀ id < db.cache.nextFrame, (later.cache.frame id).page = (db.cache.frame id).page
  live : ∀ id < db.cache.nextFrame, own (db.cache.frame id).page ≠ some .exclusive →
    (later.cache.frame id).live = (db.cache.frame id).live
  rooted : ∀ id < db.cache.nextFrame, own (db.cache.frame id).page = none →
    db.Rooted id → later.Rooted id
  closed : ∀ page, own page ≠ some .exclusive → db.Closed page → later.Closed page
  calm : ∀ page, own page ≠ some .exclusive → db.Calm page → later.Calm page
  stored : ∀ page image, own page ≠ some .exclusive → db.Calm page →
    db.storage.image? page = some image → later.storage.image? page = some image
  shown : ∀ page image, own page ≠ some .exclusive → db.Grounded → db.Closed page →
    db.shown? page = some image → later.shown? page = some image
  grounded : db.Grounded → later.Grounded
  leaves : ∀ page, own page = none → LeavesAlone page db later

namespace Defers

lemma refl (own : PageId → Option LockMode) (db : Database) : Defers own db db where
  made := Nat.le_refl _
  page _ _ := rfl
  live _ _ _ := rfl
  rooted _ _ _ rooted := rooted
  closed _ _ closed := closed
  calm _ _ calm := calm
  stored _ _ _ _ stored := stored
  shown _ _ _ _ _ shown := shown
  grounded grounded := grounded
  leaves page _ := .refl page db

lemma trans (first : Defers own db middle) (second : Defers own middle later) :
    Defers own db later where
  made := Nat.le_trans first.made second.made
  page id made := (second.page id (Nat.lt_of_lt_of_le made first.made)).trans
    (first.page id made)
  live id made weak := by
    have made' := Nat.lt_of_lt_of_le made first.made
    rw [second.live id made' (by rw [first.page id made]; exact weak), first.live id made weak]
  rooted id made free rooted :=
    second.rooted id (Nat.lt_of_lt_of_le made first.made) (by rw [first.page id made]; exact free)
      (first.rooted id made free rooted)
  closed page weak closed := second.closed page weak (first.closed page weak closed)
  calm page weak calm := second.calm page weak (first.calm page weak calm)
  stored page image weak calm stored :=
    second.stored page image weak (first.calm page weak calm)
      (first.stored page image weak calm stored)
  shown page image weak grounded closed shown :=
    second.shown page image weak (first.grounded grounded) (first.closed page weak closed)
      (first.shown page image weak grounded closed shown)
  grounded grounded := second.grounded (first.grounded grounded)
  leaves page free := (first.leaves page free).trans (second.leaves page free)

end Defers

/-- Locks and counters show nowhere. -/
lemma defers_of_stats (db : Database) (locks : LockManager) (stats : CacheStats) :
    Defers own db { db with locks, cache := { db.cache with stats } } :=
  { Defers.refl own db with
    leaves := fun _ _ => .of_frames (fun _ => id) (fun _ => rfl) (Nat.le_refl _) rfl }

/-- Stores may change as long as they write no page that exists. -/
lemma defers_of_writes {stored : Storage} (writes : stored.Writes [] db.storage) :
    Defers own db { db with storage := stored } := by
  have kept : ∀ page image, db.storage.image? page = some image →
      stored.image? page = some image := fun page image there =>
    (writes.untouched page List.not_mem_nil (by simp [there])).image.trans there
  refine { Defers.refl own db with
    rooted := fun id _ _ rooted => kept _ _ rooted
    stored := fun page image _ _ there => kept page image there
    shown := fun page image _ _ _ there => ?_
    grounded := fun grounded page id resident => kept _ _ (grounded page id resident)
    leaves := fun page _ => .of_frames (kept page) (fun _ => rfl) (Nat.le_refl _) rfl }
  cases resident : db.cache.residentFrame? page with
  | none =>
      rw [shown?_of_absent resident] at there
      refine Eq.trans (shown?_of_absent ?_) (kept page image there)
      exact resident
  | some id =>
      rw [← there]
      exact shown?_congr rfl (fun _ _ => rfl) fun absent => by cases resident.symm.trans absent

/-- Clean pages may leave. -/
lemma defers_of_shrinks (orderly : db.cache.Orderly) {cache : Cache}
    (shrinks : cache.Shrinks db.cache) : Defers own db { db with cache } := by
  have rooted : ∀ id, db.Rooted id → Rooted { db with cache } id := by
    intro id rooted
    rw [Rooted, shrinks.frame]
    exact rooted
  refine ⟨Nat.le_of_eq shrinks.nextFrame.symm, fun id _ => by rw [shrinks.frame],
    fun id _ _ => by rw [shrinks.frame], fun id _ _ => rooted id,
    fun page _ closed id there clean => ?_, fun page _ calm id there => ?_,
    fun _ _ _ _ there => there, fun page image _ grounded closed shown => ?_,
    fun grounded page id there => rooted id (grounded page id (shrinks.residentFrame? there)),
    fun page _ => ⟨fun _ => id, Nat.le_of_eq shrinks.nextFrame.symm,
      fun id _ _ => shrinks.frame id, fun id there =>
        .inl ⟨shrinks.residentFrame? there, shrinks.frame id⟩, fun id there owner => ?_⟩⟩
  · rw [shrinks.frame] at clean ⊢
    exact closed id (shrinks.residentFrame? there) clean
  · rw [shrinks.frame]
    exact calm id (shrinks.residentFrame? there)
  · rcases shrinks.resident page with same | ⟨gone, left⟩
    · rw [← shown]
      simp only [shown?, same, shrinks.frame]
    · -- the page that has left is stored as it was shown
      have calm : db.Calm page := fun id there => by
        obtain ⟨other, there', clean⟩ := Cache.isClean_iff.mp left
        cases there.symm.trans there'
        exact clean
      rw [← shown, ← grounded.stored_eq_shown orderly closed calm]
      exact shown?_of_absent gone
  · refine ⟨(shrinks.resident page).elim (fun same => same.trans there) fun gone => ?_,
      shrinks.frame id⟩
    obtain ⟨other, there', clean⟩ := Cache.isClean_iff.mp gone.2
    cases there.symm.trans there'
    exact absurd clean owner

/-- A frame may be replaced by one of its page and with its before-image. -/
lemma Rooted.setFrame (rooted : db.Rooted id) {cache : Cache} {target : FrameId} {frame : Frame}
    (same : ∀ id, cache.frame id = db.cache.frame id)
    (shows : frame.page = (db.cache.frame target).page)
    (before : frame.before = (db.cache.frame target).before) :
    Rooted { db with cache := cache.setFrame target frame } id := by
  rw [Rooted, Cache.frame_setFrame, same]
  split
  · next here =>
    subst here
    rw [shows, before]
    exact rooted
  · exact rooted

/-- The frame of a page that is locked exclusively may be replaced, if its before-image stays. -/
lemma defers_setFrame {frame : Frame} (shows : frame.page = (db.cache.frame id).page)
    (before : frame.before = (db.cache.frame id).before)
    (locked : own (db.cache.frame id).page = some .exclusive) (orderly : db.cache.Orderly) :
    Defers own db { db with cache := db.cache.setFrame id frame } := by
  have frames := fun other => Cache.frame_setFrame db.cache id other frame
  have same : ∀ other, own (db.cache.frame other).page ≠ some .exclusive →
      (db.cache.setFrame id frame).frame other = db.cache.frame other := by
    intro other weak
    rw [frames, if_neg]
    rintro rfl
    exact weak locked
  have resident : ∀ page other, own page ≠ some .exclusive →
      db.cache.residentFrame? page = some other →
        (db.cache.setFrame id frame).frame other = db.cache.frame other :=
    fun page other weak there => same other (by rw [orderly.page page other there]; exact weak)
  have rooted : ∀ other, db.Rooted other →
      Rooted { db with cache := db.cache.setFrame id frame } other :=
    fun _ rooted => rooted.setFrame (fun _ => rfl) shows before
  refine ⟨Nat.le_refl _, fun other _ => ?_, fun other _ weak => by rw [same other weak],
    fun other _ _ => rooted other, fun page weak closed other there clean => ?_,
    fun page weak calm other there => ?_, fun _ _ _ _ there => there,
    fun page image weak _ _ shown => ?_,
    fun grounded page other there => rooted other (grounded page other there),
    fun page free => .of_same orderly (fun _ there => there) (Nat.le_refl _)
      (fun other _ shows => same other (by simp [shows, free])) rfl⟩
  · rw [frames]
    split
    · next here => rw [← here, shows]
    · rfl
  · rw [resident page other weak there] at clean ⊢
    exact closed other there clean
  · rw [resident page other weak there]
    exact calm other there
  · rw [← shown]
    exact shown?_congr rfl (fun other there => congrArg Frame.live (resident page other weak there))
      fun _ => rfl

/-- A frame may become the resident one of its page: one of a page that is locked exclusively, or
a clean one of a page that is not resident. -/
lemma defers_bringIn (rooted : db.Rooted id)
    (may : own (db.cache.frame id).page = some .exclusive ∨
      db.cache.residentFrame? (db.cache.frame id).page = none ∧ (db.cache.frame id).owner = none ∧
        (db.cache.frame id).live = (db.cache.frame id).before) :
    Defers own db { db with cache := db.cache.bringIn id } := by
  have resident := Cache.residentFrame?_bringIn db.cache id
  have clean : ∀ page, own page ≠ some .exclusive → (db.cache.frame id).page = page →
      db.cache.residentFrame? page = none ∧ (db.cache.frame id).owner = none ∧
        (db.cache.frame id).live = (db.cache.frame id).before := by
    rintro page weak rfl
    exact may.resolve_left weak
  refine { Defers.refl own db with
    closed := fun page weak closed other there unowned => ?_
    calm := fun page weak calm other there => ?_
    shown := fun page image weak grounded closed shown => ?_
    grounded := fun grounded page other there => ?_
    leaves := fun page free => ⟨fun _ there => there, Nat.le_refl _, fun _ _ _ => rfl,
      fun other there => ?_, fun other there owner => ⟨?_, rfl⟩⟩ }
  · rw [resident] at there
    split at there
    · next here =>
      cases there
      exact (clean page weak here).2.2
    · exact closed other there unowned
  · rw [resident] at there
    split at there
    · next here =>
      cases there
      exact (clean page weak here).2.1
    · exact calm other there
  · by_cases here : (db.cache.frame id).page = page
    · -- the page was shown from its store
      obtain ⟨absent, -, same⟩ := clean page weak here
      rw [shown?_of_absent absent, ← here] at shown
      have now : (db.cache.bringIn id).residentFrame? page = some id := by
        rw [resident, if_pos here]
      rw [shown?_of_resident now, ← rooted.symm.trans shown, ← same]
      rfl
    · rw [← shown, shown?, shown?, resident, if_neg here]
      rfl
  · rw [resident] at there
    split at there
    · cases there
      exact rooted
    · exact grounded page other there
  · rw [resident] at there
    split at there
    · next here =>
      cases there
      exact .inr (clean page (by simp [free]) here).2
    · exact .inl ⟨there, rfl⟩
  · rw [resident, if_neg]
    · exact there
    · intro here
      cases (clean page (by simp [free]) here).1.symm.trans there

/-- A page that was read may be brought in. -/
lemma defers_enter (absent : db.cache.residentFrame? page = none)
    (stored : db.storage.image? page = some image) (orderly : db.cache.Orderly) :
    Defers own db { db with cache :=
      (db.cache.newFrame (.ofImage page image)).2.bringIn db.cache.nextFrame } := by
  have frames := Cache.frame_newFrame db.cache (.ofImage page image)
  have fresh : (db.cache.newFrame (.ofImage page image)).2.frame db.cache.nextFrame =
      .ofImage page image := (frames _).trans (if_pos rfl)
  have old : ∀ id < db.cache.nextFrame,
      (db.cache.newFrame (.ofImage page image)).2.frame id = db.cache.frame id :=
    fun id made => (frames id).trans (if_neg (Nat.ne_of_gt made))
  have resident : ∀ other id, db.cache.residentFrame? other = some id →
      (db.cache.newFrame (.ofImage page image)).2.frame id = db.cache.frame id :=
    fun other id there => old id (orderly.made other id there)
  have rooted : ∀ id < db.cache.nextFrame, db.Rooted id →
      Rooted { db with cache := (db.cache.newFrame (.ofImage page image)).2 } id := by
    intro id made rooted
    rw [Rooted, old id made]
    exact rooted
  have making : Defers own db { db with cache := (db.cache.newFrame (.ofImage page image)).2 } := by
    refine ⟨Nat.le_succ _, fun id made => by rw [old id made], fun id made _ => by rw [old id made],
      fun id made _ => rooted id made, fun other _ closed id there clean => ?_,
      fun other _ calm id there => ?_, fun _ _ _ _ there => there,
      fun other shows _ _ _ shown => ?_,
      fun grounded other id there => rooted id (orderly.made other id there)
        (grounded other id there),
      fun other _ => .of_same orderly (fun _ => id) (Nat.le_succ _) (fun id made _ => old id made)
        rfl⟩
    · rw [resident other id there] at clean ⊢
      exact closed id there clean
    · rw [resident other id there]
      exact calm id there
    · rw [← shown]
      exact shown?_congr rfl (fun id there => congrArg Frame.live (resident other id there))
        fun _ => rfl
  refine making.trans (defers_bringIn ?_ (Or.inr ?_))
  · rw [Rooted, fresh]
    exact stored
  · rw [fresh]
    exact ⟨absent, rfl, rfl⟩

/-- The image of a page that is locked exclusively is replaced. -/
lemma defers_changeFrame (orderly : db.cache.Orderly)
    (locked : own (db.cache.frame id).page = some .exclusive)
    (changed : db.changeFrame txn id image = .ok later) :
    Defers own db later ∧ (db.Rooted id → later.Rooted id) := by
  rw [changeFrame] at changed
  split at changed
  · next copied taken =>
    cases changed
    have same_page := Frame.page_of_copyFrom? taken
    have same_before := Frame.before_of_copyFrom? taken
    exact ⟨defers_setFrame same_page same_before locked orderly,
      fun rooted => rooted.setFrame (fun _ => rfl) same_page same_before⟩
  · cases changed

/-- A page that is locked exclusively is reported dirty, unless there is no room for it. -/
lemma defers_markDirty (txn : TxnId) (orderly : db.cache.Orderly) (rooted : db.Rooted id)
    (locked : own (db.cache.frame id).page = some .exclusive) :
    Defers own db (db.markDirty txn id).1 := by
  rw [markDirty, Cache.markDirty.eq_def]
  dsimp only
  split
  · next resident there =>
    split
    · next copied taken =>
      have same_page := Frame.page_of_copyFrom? taken
      have same_before := Frame.before_of_copyFrom? taken
      refine defers_setFrame same_page same_before ?_ orderly
      rw [orderly.page _ _ there]
      exact locked
    · exact .refl own db
  · have shrinks := db.cache.shrinks_makeRoom
    split
    · next roomy room =>
      rw [room] at shrinks
      have same := shrinks.frame id
      have marked : Defers own { db with cache := roomy }
          { db with cache := roomy.updateFrame id fun frame => frame.mark txn } :=
        defers_setFrame rfl rfl (by rw [same]; exact locked) (shrinks.orderly orderly)
      have now : (roomy.updateFrame id fun frame => frame.mark txn).frame id =
          (db.cache.frame id).mark txn := by rw [Cache.frame_updateFrame, if_pos rfl, same]
      refine (defers_of_shrinks orderly shrinks).trans (marked.trans (defers_bringIn ?_ (.inl ?_)))
      · rw [Rooted, now]
        exact rooted
      · rw [now]
        exact locked
    · next full error room =>
      rw [room] at shrinks
      exact defers_of_shrinks orderly shrinks

/-- A report changes no before-image. -/
lemma Rooted.markDirty (rooted : db.Rooted id) (txn : TxnId) (other : FrameId) :
    (db.markDirty txn other).1.Rooted id := by
  rw [Database.markDirty, Cache.markDirty.eq_def]
  dsimp only
  split
  · next resident there =>
    split
    · next copied taken =>
      have same_page := Frame.page_of_copyFrom? taken
      have same_before := Frame.before_of_copyFrom? taken
      exact rooted.setFrame (fun _ => rfl) same_page same_before
    · exact rooted
  · have shrinks := db.cache.shrinks_makeRoom
    split
    · next roomy room =>
      rw [room] at shrinks
      have same_page := congrArg Frame.page (shrinks.frame other)
      have same_before := congrArg Frame.before (shrinks.frame other)
      exact rooted.setFrame shrinks.frame same_page same_before
    · next full error room =>
      rw [room] at shrinks
      rw [Rooted, shrinks.frame]
      exact rooted

/-! ### Ends that defer to the locks -/

/-- Pages that the transaction has locked may be forced. -/
lemma Stores.defers (stores : Stores Frame.force pages db later) (orderly : db.cache.Orderly)
    (held : ∀ page ∈ pages, own page ≠ none ∧ db.Closed page) : Defers own db later := by
  have frames := stores.settled.frame
  have untouched : ∀ page, db.Calm page → later.storage.image? page = db.storage.image? page := by
    intro page calm
    rw [stores.image]
    split
    · cases there : db.cache.residentFrame? page with
      | none => rw [unwritten?_of_absent there, Option.none_or]
      | some id =>
          rw [unwritten?_of_resident there, Frame.isDirty, calm id there, Option.isSome_none,
            if_neg Bool.false_ne_true, Option.none_or]
    · rfl
  have shows : ∀ id, (later.cache.frame id).page = (db.cache.frame id).page := by
    intro id
    rw [frames]
    split <;> rfl
  refine ⟨Nat.le_of_eq stores.settled.nextFrame.symm, fun id _ => shows id,
    fun id _ _ => stores.settled.live id, fun id _ free rooted => ?_,
    fun page _ closed id there clean => ?_, fun page _ calm id there => ?_,
    fun page image _ calm there => (untouched page calm).trans there,
    fun page image _ _ _ shown => ?_, fun grounded page id there => ?_,
    fun page free => ?_⟩
  · have unlisted : (db.cache.frame id).page ∉ pages := fun listed => (held _ listed).1 free
    rw [Rooted, frames, if_neg fun listed => unlisted listed.1, stores.image, if_neg unlisted]
    exact rooted
  · rw [stores.settled.resident] at there
    rw [frames] at clean ⊢
    split
    · rfl
    · next other =>
      rw [if_neg other] at clean
      exact closed id there clean
  · rw [stores.settled.resident] at there
    rw [frames]
    split
    · rfl
    · exact calm id there
  · rw [← shown]
    exact shown?_congr (stores.settled.resident page) (fun id _ => stores.settled.live id)
      fun absent => untouched page fun id there => by cases absent.symm.trans there
  · rw [stores.settled.resident] at there
    have rooted := grounded page id there
    have here := orderly.page page id there
    rw [Rooted, here] at rooted
    rw [Rooted, shows, here, frames, here]
    split
    · next listed =>
      -- the before-image is the image that was written, or was stored before
      rw [stores.image, if_pos listed.1, unwritten?_of_resident there]
      cases owner : (db.cache.frame id).owner with
      | some other => simp [Frame.isDirty, owner, Frame.force, Frame.refresh, Frame.clean]
      | none =>
          have same := (held page listed.1).2 id there owner
          simp [Frame.isDirty, owner, Frame.force, Frame.refresh, Frame.clean, rooted, same]
    · next other =>
      rw [stores.image, if_neg fun listed => other ⟨listed, there⟩]
      exact rooted
  · have kept := stores.kept fun listed => (held page listed).1 free
    exact .of_same orderly (fun _ => kept.image.trans) (Nat.le_of_eq stores.settled.nextFrame.symm)
      (fun id _ => kept.frame id) kept.resident

/-- A commit forces some of the pages that it goes through, and nothing else has changed. -/
lemma Guarded.stores_commitPages {stuck : TxnId → Prop} (guarded : db.Guarded stuck)
    (pages : List PageId) :
    ∃ front, (∀ page ∈ front, page ∈ pages) ∧
      Stores Frame.force front db (db.commitPages pages).1 := by
  refine exists_stores_commitPages guarded.separate.apart guarded.orderly
    (fun page id there heap found => ?_) pages
  obtain ⟨image, stored, same⟩ := guarded.backed id (guarded.orderly.made page id there)
  rw [guarded.orderly.page page id there, Storage.image?_heap found] at stored
  rw [← same, PageFile.size_of_read? stored]

/-- A commit defers to the locks, whether or not a store refuses a page. -/
lemma defers_commitPages {stuck : TxnId → Prop} (guarded : db.Guarded stuck)
    (held : ∀ page ∈ pages, own page ≠ none ∧ db.Closed page) :
    Defers own db (db.commitPages pages).1 := by
  obtain ⟨front, inside, stores⟩ := guarded.stores_commitPages pages
  exact stores.defers guarded.orderly fun page listed => held page (inside page listed)

/-- A transaction undoes its changes of pages that it has locked exclusively. -/
lemma defers_rollbackPages (orderly : db.cache.Orderly) (txn : TxnId)
    (owned : ∀ page id, db.cache.residentFrame? page = some id →
      (db.cache.frame id).owner = some txn → own page = some .exclusive) (pages : List PageId) :
    Defers own db (db.rollbackPages txn pages) := by
  have settled := settled_rollbackPages orderly txn pages
  have images : ∀ frame : Frame, (frame.undo txn).page = frame.page ∧
      (frame.undo txn).before = frame.before := by
    intro frame
    rw [Frame.undo]
    split <;> exact ⟨rfl, rfl⟩
  have same : ∀ id, ((db.rollbackPages txn pages).cache.frame id).page =
        (db.cache.frame id).page ∧
      ((db.rollbackPages txn pages).cache.frame id).before = (db.cache.frame id).before := by
    intro id
    rw [settled.frame]
    split
    · exact images _
    · exact ⟨rfl, rfl⟩
  have rooted : ∀ id, db.Rooted id → (db.rollbackPages txn pages).Rooted id := by
    intro id rooted
    rw [Rooted, (same id).1, (same id).2]
    exact rooted
  have kept : ∀ id, own (db.cache.frame id).page ≠ some .exclusive →
      (db.rollbackPages txn pages).cache.frame id = db.cache.frame id := by
    intro id weak
    rw [settled.frame]
    split
    · next listed =>
      rw [Frame.undo, if_neg fun owner => weak (owned _ id listed.2 owner)]
    · rfl
  have resident : ∀ page id, own page ≠ some .exclusive →
      db.cache.residentFrame? page = some id →
        (db.rollbackPages txn pages).cache.frame id = db.cache.frame id :=
    fun page id weak there => kept id (by rw [orderly.page page id there]; exact weak)
  refine ⟨Nat.le_of_eq settled.nextFrame.symm, fun id _ => (same id).1,
    fun id _ weak => by rw [kept id weak], fun id _ _ => rooted id,
    fun page weak closed id there clean => ?_, fun page weak calm id there => ?_,
    fun _ _ _ _ there => there, fun page image weak _ _ shown => ?_,
    fun grounded page id there => rooted id (grounded page id ?_),
    fun page free => .of_same orderly (fun _ => id) (Nat.le_of_eq settled.nextFrame.symm)
      (fun id _ shows => kept id (by simp [shows, free])) (settled.resident page)⟩
  · rw [settled.resident] at there
    rw [resident page id weak there] at clean ⊢
    exact closed id there clean
  · rw [settled.resident] at there
    rw [resident page id weak there]
    exact calm id there
  · rw [← shown]
    exact shown?_congr (settled.resident page)
      (fun id there => congrArg Frame.live (resident page id weak there)) fun _ => rfl
  · rw [← settled.resident]
    exact there

end PageTxn.Database
