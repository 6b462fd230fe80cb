import PageTxn.Proofs.Flushing
import PageTxn.Proofs.Steals

/-!
Which image a clean page shows, if pages may be flushed at any time.

A flush writes a dirty page and makes it clean, but takes no new before-image. So a later abort
may return to an image that is no longer the stored one.

* `Currency` is what is known of a page object: it is current, or was written by a flush, or was
  returned to a before-image after that. `System.currencies` follows it through a run.
* `System.Accurate` is the invariant that ties the currencies to frames and stores.
* `Database.Leaves` says what a step of one transaction leaves to the others, and
  `Relies.left` that this is enough.
* `Accurate.step_of_shrinks` and `Accurate.step_of_touches` are the two kinds of steps that write
  nothing: clean pages may leave, or one frame of a locked page is changed or brought in.
-/

namespace PageTxn

/-- What is known of the images of a page object. -/
inductive Currency where
  /-- The before-image is the stored image. -/
  | current
  /-- A flush has written the page; the before-image may be older. -/
  | flushed
  /-- An abort has returned the page to a before-image that may have been older. -/
  | reverted
  deriving DecidableEq

namespace Currency

/-- What holds of the before-image of a resident page. -/
def Based (currency : Currency) (frame : Frame) (stored : Option Image) : Prop :=
  currency = current → stored = some frame.before

/-- What holds of the live image of a clean page that nobody is about to report. -/
def Shown : Currency → Frame → Option Image → Prop
  | flushed, frame, stored => stored = some frame.live
  | current, frame, _ | reverted, frame, _ => frame.live = frame.before

end Currency

/-- Whether an act flushes pages. -/
def Act.isFlush : Act → Bool
  | flushPage _ | flushHeld | flushAll => true
  | _ => false

namespace System

/-- What is known of a page object after an action. A flush leaves the before-image of a page that
it writes. A commit takes a new one of all resident pages that the transaction holds; it writes
the dirty ones, but not those that were returned to an older image. -/
def reassess (s : System) (action : Action) (currency : FrameId → Currency) (id : FrameId) :
    Currency :=
  let cleaned := (s.frame id).isDirty && !((s.act action).frame id).isDirty
  match action.act with
  | .flushPage _ | .flushHeld | .flushAll => if cleaned then .flushed else currency id
  | .complete true =>
      if (s.phase action.txn).isFree ∧ s.mode action.txn (s.frame id).page ≠ none ∧
          s.resident? (s.frame id).page = some id ∧ (cleaned ∨ currency id = .flushed) then
        .current
      else currency id
  | .complete false => if cleaned ∧ currency id = .flushed then .reverted else currency id
  | _ => currency id

/-- What is known of the page objects after a run. -/
def currencies (s : System) (currency : FrameId → Currency) : List Action → FrameId → Currency
  | [] => currency
  | action :: rest => (s.act action).currencies (s.reassess action currency) rest

end System

/-! ### What transactions rely on -/

namespace Database

variable {db later : Database} {currency currency' : FrameId → Currency} {txn : TxnId}
  {page : PageId} {id : FrameId} {phase : Phase}

/-- No other frame of the page can be resident, and if the frame is current, its before-image is
the stored image. -/
structure Grips (db : Database) (currency : FrameId → Currency) (id : FrameId) : Prop where
  alone : ∀ other, db.cache.residentFrame? (db.cache.frame id).page = some other → other = id
  based : (currency id).Based (db.cache.frame id) (db.storage.image? (db.cache.frame id).page)

/-- The page has no unwritten changes. -/
def Calm (db : Database) (page : PageId) : Prop :=
  ∀ id, db.cache.residentFrame? page = some id → (db.cache.frame id).owner = none

/-- What a transaction that only fetches pages relies on at a stage of a fetch. -/
def Attains (db : Database) (currency : FrameId → Currency) (page : PageId) (mode : LockMode) :
    Stage → Prop
  | .lock _ => True
  | .read => db.Calm page
  | .enter image => db.Calm page ∧ db.storage.image? page = some image
  | .use id => mode = .exclusive → db.Grips currency id

/-- What a transaction that only fetches pages relies on in its phase, besides its locks. -/
def Relies (db : Database) (currency : FrameId → Currency) : Phase → Prop
  | .ready | .gone => True
  | .holding _ mode id => mode = .exclusive → db.Grips currency id
  | .changing id => db.Grips currency id
  | .busy _ (.fetching _ _ (.hand page mode) stage) => db.Attains currency page mode stage
  | .busy _ _ => False

/-- What a step of others leaves to a transaction: on pages that it has locked there are no new
changes; and if it has locked a page exclusively, then no frame of it is brought in, and a
current frame was current before and has the same before-image. -/
structure Leaves (txn : TxnId) (currency currency' : FrameId → Currency) (db later : Database) :
    Prop where
  resident : ∀ (page : PageId) (id : FrameId),
    db.locks.table.modeOf? txn page = some .exclusive →
      later.cache.residentFrame? page = some id → db.cache.residentFrame? page = some id
  based : ∀ id < db.cache.nextFrame,
    db.locks.table.modeOf? txn (db.cache.frame id).page = some .exclusive →
      db.Grips currency id → (currency' id).Based (later.cache.frame id)
        (later.storage.image? (db.cache.frame id).page)
  calm : ∀ page : PageId, db.locks.table.modeOf? txn page ≠ none → db.Calm page →
    later.Calm page ∧ later.storage.image? page = db.storage.image? page

lemma Grips.left (leaves : Leaves txn currency currency' db later)
    (shows : ∀ id < db.cache.nextFrame, (later.cache.frame id).page = (db.cache.frame id).page)
    (claims : db.Claims txn id) (grips : db.Grips currency id) : later.Grips currency' id := by
  refine ⟨fun other there => ?_, ?_⟩
  · rw [shows id claims.made] at there
    exact grips.alone other (leaves.resident _ _ claims.lock there)
  · rw [shows id claims.made]
    exact leaves.based id claims.made claims.lock grips

/-- After a step of others a transaction can go on relying on what it relied on. -/
lemma Relies.left (leaves : Leaves txn currency currency' db later)
    (shows : ∀ id < db.cache.nextFrame, (later.cache.frame id).page = (db.cache.frame id).page)
    (respects : db.Respects txn phase) (relies : db.Relies currency phase) :
    later.Relies currency' phase := by
  cases phase with
  | ready => trivial
  | gone => trivial
  | changing id => exact Grips.left leaves shows respects relies
  | holding page mode id =>
      rintro rfl
      exact (relies rfl).left leaves shows (Holds.claims respects)
  | busy call operation =>
      cases operation with
      | reporting own change pages => exact relies
      | fetching own level aim stage =>
          cases aim with
          | probe heap record number remaining alreadyHeld => exact relies
          | claim heap record number remaining => exact relies
          | fill heap record number => exact relies
          | erase heap id => exact relies
          | collect heap number remaining found => exact relies
          | hand page mode =>
              obtain ⟨-, -, reaches⟩ := respects
              cases stage with
              | lock waited => trivial
              | read => exact (leaves.calm page reaches.1 relies).1
              | enter image =>
                  obtain ⟨calm, same⟩ := leaves.calm page reaches.1.1 relies.1
                  exact ⟨calm, same.trans relies.2⟩
              | use id =>
                  rintro rfl
                  exact (relies rfl).left leaves shows (Holds.claims reaches)

/-- A step that at most lets clean pages leave leaves everything to everyone. -/
lemma leaves_of_shrinks (shrinks : later.cache.Shrinks db.cache)
    (images : ∀ page, later.storage.image? page = db.storage.image? page) (txn : TxnId) :
    Leaves txn currency currency db later where
  resident page id _ there := shrinks.residentFrame? there
  based id _ _ grips := by
    rw [shrinks.frame, images]
    exact grips.based
  calm page _ calm := by
    refine ⟨fun id there => ?_, images page⟩
    rw [shrinks.frame]
    exact calm id (shrinks.residentFrame? there)

end Database

/-! ### The invariant -/

namespace System

open Database

variable {s later : System} {currency currency' : FrameId → Currency} {txn : TxnId}
  {page : PageId} {id : FrameId} {phase : Phase}

/-- What holds of a resident page. -/
structure Fits (currency : FrameId → Currency) (s : System) (page : PageId) (id : FrameId) :
    Prop where
  based : (currency id).Based (s.frame id) (s.stored? page)
  shown : (s.frame id).owner = none → (∀ txn, s.phase txn ≠ .changing id) →
    (currency id).Shown (s.frame id) (s.stored? page)

/-- A current page fits if all three images are the same. -/
lemma Fits.of_current (known : currency id = .current)
    (stored : s.stored? page = some (s.frame id).before)
    (same : (s.frame id).live = (s.frame id).before) : Fits currency s page id := by
  refine ⟨fun _ => stored, fun _ _ => ?_⟩
  rw [known]
  exact same

/-- A page that was returned to an older image fits if it shows its before-image. -/
lemma Fits.of_reverted (known : currency id = .reverted)
    (same : (s.frame id).live = (s.frame id).before) : Fits currency s page id := by
  refine ⟨?_, fun _ _ => ?_⟩
  · rw [known]
    rintro ⟨⟩
  · rw [known]
    exact same

/-- Locks guard the dirty pages, no store fails, and currencies agree with frames and stores. -/
structure Accurate (currency : FrameId → Currency) (s : System) : Prop where
  guarded : s.Guarded
  reliable : s.db.storage.Reliable
  going : ∀ txn : TxnId, ¬ s.Stuck txn
  fresh : ∀ id, s.db.cache.nextFrame ≤ id → currency id = .current
  fits : ∀ (page : PageId) (id : FrameId), s.resident? page = some id → Fits currency s page id
  relies : ∀ txn : TxnId, s.db.Relies currency (s.phase txn)

lemma accurate_initial {storage : Storage} (reliable : storage.Reliable) (capacity : Nat)
    (capacity_pos : 0 < capacity) :
    Accurate (fun _ => .current) (initial storage capacity capacity_pos) where
  guarded := guarded_initial reliable.separate capacity capacity_pos
  reliable := reliable
  going txn stuck := by cases stuck
  fresh _ _ := rfl
  fits page id there := by
    have nothing : (Cache.empty capacity capacity_pos).residentFrame? page = none := by
      simp [Cache.residentFrame?, Cache.empty]
    cases nothing.symm.trans there
  relies _ := trivial

/-- A frame that is as before fits as before. -/
lemma Fits.kept (fits : Fits currency s page id) (frame : later.frame id = s.frame id)
    (stored : later.stored? page = s.stored? page) (same : currency' id = currency id)
    (opened : ∀ txn, s.phase txn = .changing id → later.phase txn = .changing id) :
    Fits currency' later page id := by
  refine ⟨?_, fun clean closed => ?_⟩
  · rw [same, frame, stored]
    exact fits.based
  · rw [same, frame, stored]
    rw [frame] at clean
    exact fits.shown clean fun txn changing => closed txn (opened txn changing)

/-- The owner of a dirty page has locked it exclusively. -/
lemma Accurate.lock_of_owner (ok : Accurate currency s) (there : s.resident? page = some id)
    (dirty : (s.frame id).owner = some txn) : s.mode txn page = some .exclusive :=
  (ok.guarded.db.owned page id txn there dirty).resolve_right (ok.going txn)

/-- Whoever has locked a page is not kept from it by a window of another transaction. -/
lemma Accurate.closed_of_held (ok : Accurate currency s) (held : s.mode txn page ≠ none)
    (there : s.resident? page = some id) (closed : s.phase txn ≠ .changing id) (other : TxnId) :
    s.phase other ≠ .changing id := by
  intro changing
  have respects := ok.guarded.phase other
  rw [changing] at respects
  have lock : s.mode other (s.frame id).page = some .exclusive := Claims.lock respects
  rw [ok.guarded.db.orderly.page page id there] at lock
  rw [eq_of_exclusive lock held] at closed
  exact closed changing

/-- A step keeps the invariant if its own transaction can rely on what it needs, and the others on
what they relied on. -/
lemma Accurate.step (ok : Accurate currency s) (guarded : later.Guarded)
    (reliable : later.db.storage.Reliable) (going : ∀ txn : TxnId, ¬ later.Stuck txn)
    (fresh : ∀ id, later.db.cache.nextFrame ≤ id → currency' id = .current)
    (fits : ∀ page id, later.resident? page = some id → Fits currency' later page id)
    (shows : ∀ id < s.db.cache.nextFrame, (later.frame id).page = (s.frame id).page)
    (phases : later.phase = Function.update s.phase txn phase)
    (relies : later.db.Relies currency' phase)
    (others : ∀ other, other ≠ txn → Leaves other currency currency' s.db later.db) :
    Accurate currency' later := by
  refine ⟨guarded, reliable, going, fresh, fits, fun other => ?_⟩
  by_cases mine : other = txn
  · rw [mine, phases, Function.update_self]
    exact relies
  · rw [phases, Function.update_of_ne mine]
    exact Relies.left (others other mine) shows (ok.guarded.phase other) (ok.relies other)

/-- The invariant holds after a step, and page objects keep their before-images. -/
structure Passes (currency currency' : FrameId → Currency) (s later : System) : Prop where
  accurate : Accurate currency' later
  before : ∀ id < s.db.cache.nextFrame, (later.frame id).before = (s.frame id).before

lemma Accurate.refl (ok : Accurate currency s) : Passes currency currency s s :=
  ⟨ok, fun _ _ => rfl⟩

/-- Nobody is stuck after an event that does not say so. -/
lemma Accurate.going_cons (ok : Accurate currency s) {event : Event}
    (fine : ∀ txn, event ≠ .ended txn .stuck) (history : later.history = event :: s.history)
    (txn : TxnId) : ¬ later.Stuck txn := by
  rw [Stuck, history, List.mem_cons, not_or]
  exact ⟨(fine txn).symm, ok.going txn⟩

/-- A step that at most lets clean pages leave keeps the invariant. -/
lemma Accurate.step_of_shrinks (ok : Accurate currency s) (guarded : later.Guarded)
    (reliable : later.db.storage.Reliable) (going : ∀ txn : TxnId, ¬ later.Stuck txn)
    (shrinks : later.db.cache.Shrinks s.db.cache)
    (images : ∀ page, later.stored? page = s.stored? page)
    (phases : later.phase = Function.update s.phase txn phase)
    (closes : ∀ id, s.phase txn = .changing id → ∀ page, later.resident? page ≠ some id)
    (relies : later.db.Relies currency phase) : Passes currency currency s later := by
  refine ⟨ok.step guarded reliable going (fun id made => ?_) (fun page id there => ?_)
    (fun id _ => by rw [System.frame, shrinks.frame]) phases relies
    (fun other _ => leaves_of_shrinks shrinks images other),
    fun id _ => by rw [System.frame, shrinks.frame]⟩
  · rw [shrinks.nextFrame] at made
    exact ok.fresh id made
  · refine (ok.fits page id (shrinks.residentFrame? there)).kept (shrinks.frame id) (images page)
      rfl fun other changing => ?_
    by_cases mine : other = txn
    · rw [mine] at changing
      exact absurd there (closes id changing page)
    · rw [phases, Function.update_of_ne mine]
      exact changing

/-- A step that changes or brings in a frame of a page that its transaction has locked keeps the
invariant, if the frame fits. -/
lemma Accurate.step_of_touches (ok : Accurate currency s) (guarded : later.Guarded)
    (reliable : later.db.storage.Reliable) (going : ∀ txn : TxnId, ¬ later.Stuck txn)
    (touches : Cache.Touches page id s.db.cache later.db.cache) (held : s.mode txn page ≠ none)
    (quiet : (later.frame id).owner = none ∨ s.mode txn page = some .exclusive)
    (images : ∀ page, later.stored? page = s.stored? page)
    (phases : later.phase = Function.update s.phase txn phase)
    (closes : ∀ other, s.phase txn = .changing other → other = id)
    (fits : later.resident? page = some id → Fits currency later page id)
    (relies : later.db.Relies currency phase) : Passes currency currency s later := by
  -- frames of other pages are other frames
  have orderly := ok.guarded.db.orderly
  have apart : ∀ {other : PageId} {target : FrameId}, other ≠ page →
      s.resident? other = some target → target ≠ id := by
    rintro other target elsewhere there rfl
    exact elsewhere ((orderly.page other target there).symm.trans
      (touches.showed (orderly.made other target there)))
  refine ⟨ok.step guarded reliable going (fun target made => ok.fresh target
    (Nat.le_trans touches.made made)) (fun other target there => ?_) (fun target made => ?_) phases
    relies fun other mine => ⟨fun elsewhere target lock there => ?_,
      fun target made lock grips => ?_,
      fun elsewhere locked calm => ⟨fun target there => ?_, images elsewhere⟩⟩,
    fun target made => ?_⟩
  · rcases touches.resident other target there with ⟨rfl, rfl⟩ | ⟨elsewhere, resident⟩
    · exact fits there
    · have distinct := apart elsewhere resident
      refine (ok.fits other target resident).kept (touches.frame target distinct) (images other) rfl
        fun changer changing => ?_
      by_cases mine : changer = txn
      · rw [mine] at changing
        exact absurd (closes target changing) distinct
      · rw [phases, Function.update_of_ne mine]
        exact changing
  · by_cases here : target = id
    · rw [here, System.frame, touches.shows, System.frame, touches.showed (here ▸ made)]
    · rw [System.frame, touches.frame target here]
  · rcases touches.resident elsewhere target there with ⟨rfl, -⟩ | ⟨-, resident⟩
    · exact absurd (eq_of_exclusive lock held).symm mine
    · exact resident
  · by_cases here : target = id
    · rw [here, touches.showed (here ▸ made)] at lock
      exact absurd (eq_of_exclusive lock held).symm mine
    · rw [touches.frame target here]
      exact (congrArg _ (images _)).mpr grips.based
  · rcases touches.resident elsewhere target there with ⟨rfl, rfl⟩ | ⟨further, resident⟩
    · exact quiet.resolve_right fun lock => mine (eq_of_exclusive lock locked)
    · rw [touches.frame target (apart further resident)]
      exact calm target resident
  · by_cases here : target = id
    · rw [here]
      exact touches.before (here ▸ made)
    · rw [System.frame, touches.frame target here]

end System

end PageTxn
