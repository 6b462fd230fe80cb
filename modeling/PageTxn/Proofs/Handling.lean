import PageTxn.Proofs.Currency
import PageTxn.Proofs.Steals

/-!
Fetching, overwriting and reporting pages, while pages may be flushed at any time.

* `Database.Prepares` says that a move of a fetch writes nothing and brings no page in, and that its
  transaction may rely on what it needs next.
* `Accurate.move`, `Accurate.fetch`, `Accurate.look`, `Accurate.overwrite` and `Accurate.report`:
  all these acts keep the invariant `System.Accurate`, what is known of the pages, and the
  before-images.
-/

namespace PageTxn

namespace Database

variable {db : Database} {currency : FrameId → Currency} {page : PageId} {mode : LockMode}
  {call : Call} {txn : TxnId} {id : FrameId}

lemma Claims.held (claims : db.Claims txn id) :
    db.locks.table.modeOf? txn (db.cache.frame id).page ≠ none := by
  rw [claims.lock]
  simp

/-- A move of a fetch that brings no page in. It writes nothing, and its transaction may rely on
what it needs next. -/
structure Prepares (currency : FrameId → Currency) (call : Call) (db : Database)
    (moved : Database × Progress) : Prop where
  shrinks : moved.1.cache.Shrinks db.cache
  alike : moved.1.storage.Alike db.storage
  relies : moved.1.Relies currency (moved.2.phase call)

/-- A fetch asks for its lock. -/
lemma prepares_lockPage
    (grips : ∀ id, db.cache.residentFrame? page = some id → db.Grips currency id) (txn : TxnId)
    (level : Level) (waited : Bool) :
    Prepares currency (.fetch page mode) db (db.lockPage txn level (.hand page mode) waited) := by
  rw [lockPage]
  split
  · split
    · next id there =>
      exact ⟨.of_stats _ _, .refl _, fun _ => ⟨(grips id there).alone, (grips id there).based⟩⟩
    · next absent =>
      refine ⟨.of_stats _ _, .refl _, ?_⟩
      intro id there
      cases absent.symm.trans there
  · exact ⟨.refl _, .refl _, trivial⟩
  · exact ⟨.refl _, .refl _, trivial⟩

/-- A fetch reads its page, if it exists. -/
lemma prepares_loadPage (reliable : db.storage.Reliable) (calm : db.Calm page) (txn : TxnId)
    (level : Level) :
    Prepares currency (.fetch page mode) db
      (db.step (.fetching txn level (.hand page mode) .read)) := by
  rw [step, loadPage]
  cases named : db.storage.storeOf (Aim.hand page mode).page.table with
  | error error => exact ⟨.refl _, .refl _, trivial⟩
  | ok store =>
      obtain ⟨later, alike, read⟩ :=
        Storage.readPage_eq reliable (Storage.catalog_of_storeOf named)
      simp only [readPage, read]
      cases stored : db.storage.image? (Aim.hand page mode).page with
      | none => exact ⟨.refl _, alike, trivial⟩
      | some image => exact ⟨.of_stats _ _, alike, calm, (alike.image page).trans stored⟩

/-- A fetch brings its page in, unless it is resident or there is no room. -/
lemma prepares_enterPage_or
    (grips : ∀ id, db.cache.residentFrame? page = some id → db.Grips currency id) (txn : TxnId)
    (level : Level) (image : Image) :
    Prepares currency (.fetch page mode) db
        (db.step (.fetching txn level (.hand page mode) (.enter image))) ∨
      ∃ cache, db.step (.fetching txn level (.hand page mode) (.enter image)) =
          ({ db with cache },
            .running (.fetching txn level (.hand page mode) (.use db.cache.nextFrame))) ∧
        Cache.Touches page db.cache.nextFrame db.cache cache ∧
          cache.frame db.cache.nextFrame = .ofImage page image := by
  cases there : db.cache.residentFrame? page with
  | some id =>
      have moved : db.step (.fetching txn level (.hand page mode) (.enter image)) =
          (db, .running (.fetching txn level (.hand page mode) (.use id))) := by
        simp [step, enterPage, Aim.page, there]
      rw [moved]
      exact Or.inl ⟨.refl _, .refl _, fun _ => grips id there⟩
  | none =>
      cases room : db.cache.makeRoom with
      | mk roomy result =>
          have shrinks := Cache.shrinks_of_makeRoom room
          cases result with
          | error error =>
              have moved : db.step (.fetching txn level (.hand page mode) (.enter image)) =
                  ({ db with cache := roomy }, .finished (.fetched (.error error))) := by
                simp [step, enterPage, Aim.page, there, room, Aim.failed]
              rw [moved]
              exact Or.inl ⟨shrinks, .refl _, trivial⟩
          | ok =>
              refine Or.inr ⟨(roomy.newFrame (.ofImage page image)).2.bringIn roomy.nextFrame, ?_,
                Cache.touches_enter shrinks page image⟩
              simp [step, enterPage, Aim.page, there, room, Cache.newFrame, shrinks.nextFrame]

end Database

namespace System

open Database

variable {s : System} {currency : FrameId → Currency} {txn : TxnId} {page : PageId}
  {mode : LockMode} {id : FrameId} {call : Call}

/-- A transaction that may call an operation or end is not changing a page. -/
lemma ne_changing_of_free {phase : Phase} (free : phase.isFree = true) (id : FrameId) :
    phase ≠ .changing id := by
  rintro rfl
  cases free

section Acts

variable (ok : Accurate currency s)
include ok

/-- The frame of a resident page is the only one, and fits. -/
lemma Accurate.grips (there : s.resident? page = some id) : s.db.Grips currency id := by
  have shows : (s.db.cache.frame id).page = page := ok.guarded.db.orderly.page page id there
  refine ⟨fun other resident => ?_, ?_⟩
  · rw [shows] at resident
    exact Option.some.inj (resident.symm.trans there)
  · rw [shows]
    exact (ok.fits page id there).based

lemma Accurate.going_follow (txn : TxnId) (call : Call) (moved : Database × Progress)
    (other : TxnId) : ¬ (s.follow txn call moved).Stuck other := by
  obtain ⟨db, running | parked | finished⟩ := moved
  · exact ok.going other
  · exact ok.going other
  · exact ok.going_cons (fun _ => by simp) rfl other

/-! ### Fetching a page -/

/-- A move that brings no page in. -/
lemma Accurate.follow {moved : Database × Progress}
    (complies : ∀ {stuck : TxnId → Prop}, s.db.Guarded stuck →
      Complies stuck txn call s.db moved)
    (closed : ∀ id, s.phase txn ≠ .changing id) (prepares : Prepares currency call s.db moved) :
    Passes currency currency s (s.follow txn call moved) := by
  have db := s.db_follow txn call moved
  refine ok.step_of_shrinks (suffers_follow ok.guarded complies).guarded ?_
    (ok.going_follow txn call moved) ?_ (fun page => ?_) (s.phase_follow_eq txn call moved)
    (fun id changing => absurd changing (closed id)) ?_
  · rw [db]
    exact prepares.alike.reliable ok.reliable
  · rw [db]
    exact prepares.shrinks
  · rw [stored?, db]
    exact prepares.alike.image page
  · rw [db]
    exact prepares.relies

/-- The page that was read is brought in, with its stored image as its before-image. -/
lemma Accurate.entered {level : Level} {image : Image}
    (busy : s.phase txn =
      .busy (.fetch page mode) (.fetching txn level (.hand page mode) (.enter image)))
    (covers : s.db.locks.table.Covers txn page mode) (backed : s.db.Backed page image.size)
    (stored : s.stored? page = some image) :
    Passes currency currency s (s.follow txn (.fetch page mode)
      (s.db.step (.fetching txn level (.hand page mode) (.enter image)))) := by
  have complies : ∀ {stuck : TxnId → Prop}, s.db.Guarded stuck →
      Complies stuck txn (.fetch page mode) s.db
        (s.db.step (.fetching txn level (.hand page mode) (.enter image))) :=
    fun guarded => complies_enterPage guarded rfl covers backed
  have closed : ∀ id, s.phase txn ≠ .changing id := by
    intro id
    rw [busy]
    simp
  rcases prepares_enterPage_or (fun id there => ok.grips there) txn level image with
    prepares | ⟨cache, moved, touches, new⟩
  · exact ok.follow complies closed prepares
  · have guarded := (suffers_follow ok.guarded complies).guarded
    have going := ok.going_follow txn (.fetch page mode)
      (s.db.step (.fetching txn level (.hand page mode) (.enter image)))
    rw [moved] at guarded going ⊢
    have current : currency s.db.cache.nextFrame = .current := ok.fresh _ (Nat.le_refl _)
    have based : s.stored? page = some (cache.frame s.db.cache.nextFrame).before := by
      rw [new, stored]
      rfl
    refine ok.step_of_touches guarded ok.reliable going touches covers.1
      (Or.inl (congrArg Frame.owner new)) (fun _ => rfl) rfl
      (fun other changing => absurd changing (closed other))
      (fun _ => .of_current current based ?_) fun _ => ⟨touches.alone, fun _ => ?_⟩
    · exact (congrArg Frame.live new).trans (congrArg Frame.before new).symm
    · show s.stored? (cache.frame s.db.cache.nextFrame).page = _
      rw [touches.shows]
      exact based

/-- An operation in progress is a fetch. -/
lemma Accurate.exists_fetching {operation : Operation} (busy : s.phase txn = .busy call operation) :
    ∃ page mode level stage, call = .fetch page mode ∧
      operation = .fetching txn level (.hand page mode) stage ∧
      s.db.Reaches txn (.hand page mode) stage ∧ s.db.Attains currency page mode stage := by
  have respects := ok.guarded.phase txn
  have relies := ok.relies txn
  rw [busy] at respects relies
  cases operation with
  | reporting own change pages => cases relies
  | fetching own level aim stage =>
      cases aim with
      | probe heap record number remaining alreadyHeld => cases relies
      | claim heap record number remaining => cases relies
      | fill heap record number => cases relies
      | erase heap record => cases relies
      | collect heap number remaining found => cases relies
      | hand page mode =>
          obtain ⟨rfl, pursues, reaches⟩ := respects
          exact ⟨page, mode, level, stage, pursues, rfl, reaches, relies⟩

/-- A fetch makes a move. -/
lemma Accurate.move (txn : TxnId) : Passes currency currency s (s.move txn) := by
  cases busy : s.phase txn with
  | ready => simpa only [System.move, busy] using ok.refl
  | gone => simpa only [System.move, busy] using ok.refl
  | holding page mode id => simpa only [System.move, busy] using ok.refl
  | changing id => simpa only [System.move, busy] using ok.refl
  | busy call operation =>
      have moved : s.move txn = s.follow txn call (s.db.step operation) := by
        simp only [System.move, busy]
      obtain ⟨page, mode, level, stage, rfl, rfl, reaches, attains⟩ := ok.exists_fetching busy
      have closed : ∀ id, s.phase txn ≠ .changing id := by
        intro id
        rw [busy]
        simp
      rw [moved]
      cases stage with
      | lock waited =>
          have asks : s.db.Pursues txn (.fetch page mode) (.hand page mode) := rfl
          exact ok.follow (fun guarded => complies_lockPage guarded asks waited) closed
            (prepares_lockPage (fun id there => ok.grips there) txn level waited)
      | read =>
          exact ok.follow (fun guarded => complies_loadPage guarded rfl reaches) closed
            (prepares_loadPage ok.reliable attains txn level)
      | enter image => exact ok.entered busy reaches.1 reaches.2 attains.2
      | use id =>
          exact ok.follow (fun guarded => ⟨.refl guarded, reaches⟩) closed
            ⟨.refl _, .refl _, attains⟩

/-- A fetch is called. -/
lemma Accurate.fetch (txn : TxnId) (page : PageId) (mode : LockMode) :
    Passes currency currency s (s.call txn (.fetch page mode)) := by
  rw [System.call]
  split
  · next free =>
    exact ok.follow (fun guarded => complies_aim (.refl guarded) rfl) (ne_changing_of_free free)
      ⟨.refl _, .refl _, trivial⟩
  · exact ok.refl

/-! ### Work on a page at hand -/

/-- A transaction looks at a page. -/
lemma Accurate.look (txn : TxnId) : Passes currency currency s (s.look txn) := by
  rw [System.look]
  split
  · next page mode id holding =>
    have guarded : (s.log (.looked txn page (s.db.cache.frame id).live)).Guarded :=
      ⟨ok.guarded.db_mono fun _ => List.mem_cons_of_mem _, ok.guarded.phase⟩
    refine ⟨⟨guarded, ok.reliable, ok.going_cons (fun _ => by simp) rfl, ok.fresh,
      fun page id there => ?_, ok.relies⟩, fun _ _ => rfl⟩
    exact (ok.fits page id there).kept rfl rfl rfl fun _ changing => changing
  · exact ok.refl

/-- A transaction that may overwrite an image grips the page. -/
lemma Accurate.grips_of_writable (writable : (s.phase txn).writable? = some id) :
    s.db.Grips currency id := by
  have relies := ok.relies txn
  rcases Phase.cases_of_writable writable with changing | ⟨page, holding⟩
  · rw [changing] at relies
    exact relies
  · rw [holding] at relies
    exact relies rfl

/-- A transaction overwrites a page. -/
lemma Accurate.overwrite (txn : TxnId) (image : Image) :
    Passes currency currency s (s.overwrite txn image) := by
  have guarded := (suffers_overwrite ok.guarded txn image).guarded
  rw [System.overwrite] at guarded ⊢
  split
  · next id writable =>
    rw [writable] at guarded
    have claims := ok.guarded.claims_of_writable writable
    have grips := ok.grips_of_writable writable
    split
    · next copied taken =>
      simp only [taken] at guarded
      have before : copied.before = (s.db.cache.frame id).before := by
        rw [Frame.copyFrom?] at taken
        split at taken
        · cases taken
          rfl
        · cases taken
      have shows := Frame.page_of_copyFrom? taken
      have touches := Cache.touches_setFrame grips.alone shows before
      have new : (s.db.cache.setFrame id copied).frame id = copied :=
        (Cache.frame_setFrame ..).trans (if_pos rfl)
      have based : (currency id).Based copied (s.stored? (s.db.cache.frame id).page) := by
        rw [Currency.Based, before]
        exact grips.based
      refine ok.step_of_touches guarded ok.reliable ok.going touches
        claims.held (Or.inr claims.lock) (fun _ => rfl) rfl
        (fun other changing => ?_) (fun _ => ⟨?_, fun _ closed => ?_⟩) ⟨touches.alone, ?_⟩
      · rw [changing] at writable
        exact Option.some.inj writable
      · show (currency id).Based ((s.db.cache.setFrame id copied).frame id) _
        rw [new]
        exact based
      · exact absurd (Function.update_self ..) (closed txn)
      · show (currency id).Based ((s.db.cache.setFrame id copied).frame id)
          (s.stored? ((s.db.cache.setFrame id copied).frame id).page)
        rw [new, shows]
        exact based
    · exact ok.refl
  · exact ok.refl

/-- A transaction reports a page. -/
lemma Accurate.report (txn : TxnId) : Passes currency currency s (s.report txn) := by
  have guarded := (suffers_report ok.guarded txn).guarded
  rw [System.report] at guarded ⊢
  split
  · next id changing =>
    have claims : s.db.Claims txn id :=
      ok.guarded.claims_of_writable (by rw [changing]; rfl)
    have grips : s.db.Grips currency id := ok.grips_of_writable (by rw [changing]; rfl)
    simp only [changing] at guarded
    rcases Cache.exists_markDirty txn grips.alone with
      ⟨marked, done, new, touches⟩ | ⟨full, capacity, refused, shrinks, absent⟩
    · simp only [Database.markDirty, done] at guarded ⊢
      refine ok.step_of_touches guarded ok.reliable (ok.going_cons (fun _ => by simp) rfl) touches
        claims.held (Or.inr claims.lock) (fun _ => rfl) rfl
        (fun other again => ?_) (fun _ => ⟨?_, fun clean => ?_⟩) trivial
      · rw [changing] at again
        cases again
        rfl
      · show (currency id).Based (marked.frame id) _
        rw [new]
        exact grips.based
      · have owner : (marked.frame id).owner = some txn := by
          rw [new]
          rfl
        cases owner.symm.trans clean
    · simp only [Database.markDirty, refused] at guarded ⊢
      refine ok.step_of_shrinks guarded ok.reliable ok.going shrinks (fun _ => rfl) rfl
        (fun other again page there => ?_) trivial
      rw [changing] at again
      cases again
      -- the frame was not resident before
      have resident := shrinks.residentFrame? there
      rw [ok.guarded.db.orderly.page page id resident, resident] at absent
      cases absent
  · exact ok.refl

end Acts

end System

end PageTxn
