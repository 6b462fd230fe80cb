import PageTxn.Proofs.BeforeImages
import PageTxn.Proofs.Eviction
import PageTxn.Proofs.Undo

/-!
An abort undoes what was reported, unless a page object was made for the report of a page that is
not resident.

* `Database.Grasps` says which locks a transaction has that fetches a page and overwrites it;
  `grasps_step` and `grasps_start` keep it up.
* `System.Restorable` is the invariant: a clean resident page shows its before-image, unless a
  transaction has overwritten it and not reported it yet. It survives everything but flushes,
  also if stores fail.
* `Database.reportOver` and `Database.reportNew` report a page by a page object that was fetched,
  or by a new one.
* `abort_undoes_report`: what the page shows after the abort.
-/

namespace PageTxn

/-! ### Whose operation goes on -/

/-- The operation that goes on is one of the transaction. -/
def Progress.IsBy (txn : TxnId) : Progress → Prop
  | .running operation | .parked operation => operation.txn = txn
  | .finished _ => True

namespace Database

variable {db later : Database} {txn : TxnId} {page : PageId} {id : FrameId} {call : Call}
  {level : Level}

lemma isBy_next (change : Change) (txn : TxnId) (level : Level) :
    (change.next txn level).IsBy txn := by
  cases level with
  | store => trivial
  | database => rfl

lemma isBy_nextProbe (db : Database) (txn : TxnId) (level : Level) (heap : HeapFile)
    (record : Record) (number remaining : Nat) :
    (db.nextProbe txn level heap record number remaining).2.IsBy txn := by
  cases remaining <;> rfl

lemma isBy_usePage (db : Database) (txn : TxnId) (level : Level) (aim : Aim) (id : FrameId) :
    (db.usePage txn level aim id).2.IsBy txn := by
  cases aim with
  | hand page mode => trivial
  | probe heap record number remaining alreadyHeld =>
      rw [usePage]
      split
      · trivial
      · rfl
      · exact isBy_nextProbe ..
  | claim heap record number remaining =>
      rw [usePage]
      split
      · trivial
      · exact isBy_next ..
      · exact isBy_nextProbe ..
  | fill heap record number =>
      rw [usePage]
      split
      · trivial
      · exact isBy_next ..
      · trivial
  | erase heap record =>
      rw [usePage]
      split
      · trivial
      · trivial
      · split
        · trivial
        · exact isBy_next ..
  | collect heap number remaining found =>
      rw [usePage]
      split
      · trivial
      · split
        · trivial
        · rfl

/-- An operation stays the one of its transaction. -/
lemma isBy_step (db : Database) (operation : Operation) :
    (db.step operation).2.IsBy operation.txn := by
  cases operation with
  | fetching txn level aim stage =>
      cases stage with
      | use id => exact db.isBy_usePage txn level aim id
      | lock waited =>
          rw [step, lockPage]
          split
          · split <;> rfl
          · trivial
          · rfl
      | read =>
          rw [step]
          split
          · rfl
          · trivial
      | enter image =>
          rw [step]
          split
          · rfl
          · trivial
  | reporting txn change pages =>
      cases pages with
      | nil => trivial
      | cons id rest =>
          rw [step]
          split
          · rfl
          · trivial

/-- What a transaction calls is an operation of its own. -/
lemma isBy_start (db : Database) (txn : TxnId) (call : Call) : (db.start txn call).2.IsBy txn := by
  cases call with
  | fetch page mode => rfl
  | insert table record =>
      rw [start, startInsertRecord]
      split
      · next store _ =>
        cases store with
        | heap heap =>
            rw [startInsert]
            split
            · exact isBy_nextProbe ..
            · trivial
        | memory table id =>
            rw [startInsert]
            split
            · rfl
            · trivial
      · trivial
  | delete record =>
      rw [start, startDeleteRecord]
      split
      · trivial
      · split
        · next store _ =>
          cases store with
          | heap heap =>
              rw [startDelete]
              split
              · trivial
              · split
                · rfl
                · trivial
          | memory table id =>
              rw [startDelete]
              split
              · rfl
              · trivial
        · trivial
  | scan heap =>
      rw [start, startScan]
      split
      · trivial
      · rfl

/-! ### Transactions that overwrite pages -/

/-- How far a transaction has come that fetches a page exclusively. -/
def Secures (db : Database) (txn : TxnId) (page : PageId) : Stage → Prop
  | .lock _ => True
  | .read | .enter _ => db.locks.table.modeOf? txn page = some .exclusive
  | .use id => db.Claims txn id

/-- The operation hands out a page under an exclusive lock. -/
def Seeks (db : Database) (txn : TxnId) (page : PageId) : Operation → Prop
  | .fetching _ _ aim stage => aim = .hand page .exclusive ∧ db.Secures txn page stage
  | .reporting .. => False

/-- After a move the operation still hands out the page, or has done so. -/
def Sought (db : Database) (txn : TxnId) (page : PageId) : Progress → Prop
  | .running operation | .parked operation => db.Seeks txn page operation
  | .finished outcome => ∀ id, outcome = .fetched (.ok id) → db.Claims txn id

/-- The locks of a transaction that overwrites pages, and the page objects that its operation goes
on with. -/
def Grasps (db : Database) (txn : TxnId) : Phase → Prop
  | .ready | .gone => True
  | .holding _ mode id => mode = .exclusive → db.Claims txn id
  | .changing id => db.Claims txn id
  | .busy call operation => operation.txn = txn ∧ operation.Made db.cache.nextFrame ∧
      ∀ page, call = .fetch page .exclusive → db.Seeks txn page operation

section Moved

variable (mode : ∀ page : PageId,
    later.locks.table.modeOf? txn page = db.locks.table.modeOf? txn page)
  (made : db.cache.nextFrame ≤ later.cache.nextFrame)
  (shows : ∀ id < db.cache.nextFrame, (later.cache.frame id).page = (db.cache.frame id).page)
include mode made shows

lemma Claims.moved (claims : db.Claims txn id) : later.Claims txn id :=
  ⟨Nat.lt_of_lt_of_le claims.made made, by rw [shows id claims.made, mode]; exact claims.lock⟩

/-- Steps that leave its locks to a transaction leave it what it grasps. -/
lemma Grasps.moved {phase : Phase} (grasps : db.Grasps txn phase) : later.Grasps txn phase := by
  cases phase with
  | ready => trivial
  | gone => trivial
  | holding page held id => exact fun exclusive => (grasps exclusive).moved mode made shows
  | changing id => exact Claims.moved mode made shows grasps
  | busy call operation =>
      obtain ⟨own, objects, seeks⟩ := grasps
      refine ⟨own, objects.mono made, fun page fetches => ?_⟩
      cases operation with
      | reporting other change pages => exact seeks page fetches
      | fetching other level aim stage =>
          obtain ⟨hands, secures⟩ := seeks page fetches
          refine ⟨hands, ?_⟩
          cases stage with
          | lock waited => trivial
          | read => exact (mode page).trans secures
          | enter image => exact (mode page).trans secures
          | use id => exact Claims.moved mode made shows secures

end Moved

/-- What is grasped in the phase after a move. -/
lemma grasps_phase {moved : Database × Progress} (own : moved.2.IsBy txn)
    (made : moved.2.Made moved.1.cache.nextFrame)
    (sought : ∀ page, call = .fetch page .exclusive → moved.1.Sought txn page moved.2) :
    moved.1.Grasps txn (moved.2.phase call) := by
  obtain ⟨later, progress⟩ := moved
  cases progress with
  | running operation => exact ⟨own, made, sought⟩
  | parked operation => exact ⟨own, made, sought⟩
  | finished outcome =>
      show later.Grasps txn (.after call outcome)
      unfold Phase.after
      split
      · rintro rfl
        exact sought _ rfl _ rfl
      · trivial

/-- The page object that is used is one of the page that was entered. -/
lemma page_enterPage (orderly : db.cache.Orderly) {image : Image}
    (entered : db.enterPage page image = (later, .ok id)) : (later.cache.frame id).page = page := by
  rw [enterPage] at entered
  split at entered
  · next there =>
    cases entered
    exact orderly.page _ _ there
  · split at entered
    · cases entered
    · next roomy room =>
      cases entered
      show ((roomy.newFrame (.ofImage page image)).2.frame roomy.nextFrame).page = page
      rw [Cache.frame_newFrame, if_pos rfl]
      rfl

/-- A page that is fetched exclusively is locked when it is at hand. -/
lemma sought_step (orderly : db.cache.Orderly) {operation : Operation}
    (own : operation.txn = txn) (seeks : db.Seeks txn page operation) :
    (db.step operation).1.Sought txn page (db.step operation).2 := by
  cases operation with
  | reporting other change pages => cases seeks
  | fetching other level aim stage =>
      obtain ⟨rfl, secures⟩ := seeks
      obtain rfl : other = txn := own
      cases stage with
      | lock waited =>
          have modes := LockTable.modeOf?_request db.locks.table other other page page .exclusive
          rw [step, lockPage]
          split
          · next locks granted =>
            have table : locks.table = (db.locks.table.request other page .exclusive).1 :=
              congrArg (fun answer => answer.1.table) granted.symm
            have verdict : (db.locks.table.request other page .exclusive).2 = .granted :=
              congrArg (fun answer => answer.2) granted
            have lock : locks.table.modeOf? other page = some .exclusive := by
              rw [table, modes, if_pos ⟨verdict, rfl, rfl⟩, LockMode.joined, ite_self]
            split
            · next id there =>
              refine ⟨rfl, orderly.made _ _ there, ?_⟩
              have shows : (db.cache.frame id).page = page := orderly.page _ _ there
              show locks.table.modeOf? other (db.cache.frame id).page = _
              rw [shows]
              exact lock
            · exact ⟨rfl, lock⟩
          · exact fun id fetched => by cases fetched
          · exact ⟨rfl, trivial⟩
      | read =>
          have lock : db.locks.table.modeOf? other page = some .exclusive := secures
          rw [← db.locks_loadPage page] at lock
          rw [step]
          split
          · next moved =>
            rw [show db.loadPage page = _ from moved] at lock
            exact ⟨rfl, lock⟩
          · exact fun id fetched => by cases fetched
      | enter image =>
          have lock : db.locks.table.modeOf? other page = some .exclusive := secures
          rw [← db.locks_enterPage page image] at lock
          rw [step]
          split
          · next later id moved =>
            have entered : db.enterPage page image = (later, .ok id) := moved
            rw [entered] at lock
            refine ⟨rfl, made_enterPage orderly entered, ?_⟩
            show later.locks.table.modeOf? other (later.cache.frame id).page = _
            rw [page_enterPage orderly entered]
            exact lock
          · exact fun id fetched => by cases fetched
      | use id =>
          rintro target returned
          cases returned
          exact secures

/-- What a transaction grasps in the phase after a move of its operation. -/
lemma grasps_step (exact : db.cache.Exact) {operation : Operation}
    (grasps : db.Grasps txn (.busy call operation)) :
    (db.step operation).1.Grasps txn ((db.step operation).2.phase call) := by
  obtain ⟨own, made, seeks⟩ := grasps
  refine grasps_phase ?_ (works_step exact.toOrderly made).made fun page fetches =>
    sought_step exact.toOrderly own (seeks page fetches)
  rw [← own]
  exact isBy_step db operation

/-- What a transaction grasps that has called an operation. -/
lemma grasps_start (db : Database) (txn : TxnId) (call : Call) :
    (db.start txn call).1.Grasps txn ((db.start txn call).2.phase call) := by
  refine grasps_phase (isBy_start db txn call) (works_start db call).made fun page fetches => ?_
  rw [fetches]
  exact ⟨rfl, trivial⟩

/-! ### Reports -/

/-- Overwrite a page object by an image of the same length, and report it. -/
def reportOver (db : Database) (txn : TxnId) (id : FrameId) (image : Image) :
    Database × Except Failure Unit :=
  match (db.cache.frame id).copyFrom? image with
  | .ok frame => { db with cache := db.cache.setFrame id frame }.markDirty txn id
  | .error fault => (db, .error fault)

/-- Report a page by a page object that was made for the report. -/
def reportNew (db : Database) (txn : TxnId) (page : PageId) (image : Image) :
    Database × Except Failure Unit :=
  { db with cache := (db.cache.newFrame (.ofImage page image)).2 }.markDirty txn
    db.cache.nextFrame

/-- The page shows an image, and has no unwritten changes. -/
structure Shows (db : Database) (page : PageId) (image : Option Image) : Prop where
  shown : db.shown? page = image
  calm : db.Calm page

/-- The before-image of the resident page object of a page, or else a given image. -/
def beforeOr (db : Database) (page : PageId) (image : Image) : Image :=
  match db.cache.residentFrame? page with
  | some id => (db.cache.frame id).before
  | none => image

lemma beforeOr_of_resident (there : db.cache.residentFrame? page = some id) (image : Image) :
    db.beforeOr page image = (db.cache.frame id).before := by rw [beforeOr, there]

lemma beforeOr_of_absent (absent : db.cache.residentFrame? page = none) (image : Image) :
    db.beforeOr page image = image := by rw [beforeOr, absent]

/-- A transaction reports an image of a page with success, through a page object whose before-image
is `before`. -/
inductive Reports (db : Database) (txn : TxnId) (page : PageId) (image : Image) :
    Image → Database → Prop where
  /-- The page object was fetched, and is overwritten. -/
  | same {id : FrameId} {later : Database} (made : id < db.cache.nextFrame)
      (shows : (db.cache.frame id).page = page)
      (done : db.reportOver txn id image = (later, .ok ())) :
      Reports db txn page image (db.cache.frame id).before later
  /-- The page object was made for the report. -/
  | new {later : Database} (done : db.reportNew txn page image = (later, .ok ())) :
      Reports db txn page image image later

/-- A resident page that is clean shows its image. -/
lemma shows_of_clean {image : Image} (there : db.cache.residentFrame? page = some id)
    (clean : (db.cache.frame id).owner = none) (live : (db.cache.frame id).live = image) :
    db.Shows page (some image) := by
  refine ⟨by rw [shown?, there, ← live], fun other resident => ?_⟩
  cases there.symm.trans resident
  exact clean

section Reported

variable (exact : db.cache.Exact) (sound : db.locks.table.Sound)
  (held : db.locks.table.modeOf? txn page ≠ none) {image before : Image}
include exact sound held

/-- A page object that was overwritten keeps its before-image, and so does the resident one. -/
lemma shows_of_reportOver (made : id < db.cache.nextFrame)
    (shows : (db.cache.frame id).page = page)
    (done : db.reportOver txn id image = (later, .ok ())) :
    (later.complete txn false).1.Shows page
      (some (db.cache.frame (db.cache.target id)).before) := by
  rw [reportOver] at done
  split at done
  · next frame copied =>
    have same_page := Frame.page_of_copyFrom? copied
    have same_before : frame.before = (db.cache.frame id).before := by
      rw [Frame.copyFrom?] at copied
      split at copied <;> cases copied
      rfl
    have frames := fun other => Cache.frame_setFrame db.cache id other frame
    have shows' : ((db.cache.setFrame id frame).frame id).page = page := by
      rw [frames, if_pos rfl, same_page, shows]
    have target : (db.cache.setFrame id frame).target id = db.cache.target id := by
      rw [Cache.target, Cache.target, shows', shows]
      rfl
    obtain ⟨there, clean, live⟩ := of_markDirty_of_abort done
      ((Cache.Advances.setFrame same_page).exact exact) sound made (by rw [shows']; exact held)
    rw [shows', target] at there
    rw [target] at clean live
    refine shows_of_clean there clean (live.trans ?_)
    rw [frames]
    split
    · next here => rw [← here, same_before]
    · rfl
  · cases done

/-- A page object that was made for a report shows its own image as before-image. -/
lemma shows_of_reportNew (done : db.reportNew txn page image = (later, .ok ())) :
    (later.complete txn false).1.Shows page (some (db.beforeOr page image)) := by
  have frames := Cache.frame_newFrame db.cache (.ofImage page image)
  have shows : ((db.cache.newFrame (.ofImage page image)).2.frame db.cache.nextFrame).page =
      page := by
    rw [frames, if_pos rfl]
    rfl
  rw [reportNew] at done
  obtain ⟨there, clean, live⟩ := of_markDirty_of_abort done
    ((Cache.Advances.newFrame db.cache (.ofImage page image)).exact exact) sound
    (Nat.lt_succ_self _) (by rw [shows]; exact held)
  rw [shows] at there
  refine shows_of_clean there clean (live.trans ?_)
  have target : (db.cache.newFrame (.ofImage page image)).2.target db.cache.nextFrame =
      (db.cache.residentFrame? page).getD db.cache.nextFrame := by
    rw [Cache.target, shows]
    rfl
  rw [target, frames]
  cases resident : db.cache.residentFrame? page with
  | none =>
      rw [Option.getD_none, if_pos rfl, beforeOr_of_absent resident]
      rfl
  | some id =>
      rw [Option.getD_some, if_neg (Nat.ne_of_gt (exact.made page id resident)),
        beforeOr_of_resident resident]

/-- After the abort the resident page shows its before-image; if it was not resident, the
before-image of the reported page object. -/
theorem shows_of_reports (reports : db.Reports txn page image before later) :
    (later.complete txn false).1.Shows page (some (db.beforeOr page before)) := by
  cases reports with
  | new done => exact shows_of_reportNew exact sound held done
  | @same id _ made shows done =>
      have shown := shows_of_reportOver exact sound held made shows done
      rw [Cache.target, shows] at shown
      cases resident : db.cache.residentFrame? page with
      | none =>
          rw [beforeOr_of_absent resident]
          rwa [resident, Option.getD_none] at shown
      | some other =>
          rw [beforeOr_of_resident resident]
          rwa [resident, Option.getD_some] at shown

end Reported

end Database

namespace System

open Database

variable {s later : System} {txn : TxnId} {page : PageId} {id : FrameId} {asker : Option TxnId}
  {phase : Phase}

/-! ### The invariant -/

/-- A clean resident page shows its before-image, unless a transaction has overwritten it and not
reported it yet. -/
structure Restorable (s : System) : Prop where
  tidy : s.db.locks.table.Tidy
  exact : s.db.cache.Exact
  grasps : ∀ txn : TxnId, s.db.Grasps txn (s.phase txn)
  shown : ∀ (page : PageId) (id : FrameId), s.resident? page = some id →
    (s.frame id).owner = none →
      (s.frame id).live = (s.frame id).before ∨ ∃ txn : TxnId, s.phase txn = .changing id

lemma restorable_initial (storage : Storage) (capacity : Nat) (capacity_pos : 0 < capacity) :
    (initial storage capacity capacity_pos).Restorable where
  tidy := LockTable.tidy_empty
  exact := Cache.exact_empty capacity capacity_pos
  grasps _ := trivial
  shown page id there := by
    have nothing : (Cache.empty capacity capacity_pos).residentFrame? page = none := by
      simp [Cache.residentFrame?, Cache.empty]
    cases nothing.symm.trans there

/-- Under an exclusive lock nobody else has overwritten the page. -/
lemma Restorable.live_eq_before (ok : s.Restorable) (lock : s.mode txn page = some .exclusive)
    (there : s.resident? page = some id) (clean : (s.frame id).owner = none)
    (reported : s.phase txn ≠ .changing id) : (s.frame id).live = (s.frame id).before := by
  refine (ok.shown page id there clean).resolve_right ?_
  rintro ⟨other, changing⟩
  have claims := ok.grasps other
  rw [changing] at claims
  have held : s.mode other (s.frame id).page = some .exclusive := Claims.lock claims
  rw [ok.exact.page page id there] at held
  have same : other = txn := eq_of_exclusive lock (by rw [held]; simp)
  rw [same] at changing
  exact reported changing

/-- A step of one transaction that leaves the others their locks. -/
lemma Restorable.step (ok : s.Restorable)
    (goes : s.db.locks.table.Goes txn asker later.db.locks.table) (exact : later.db.cache.Exact)
    (made : s.db.cache.nextFrame ≤ later.db.cache.nextFrame)
    (shows : ∀ id < s.db.cache.nextFrame, (later.frame id).page = (s.frame id).page)
    (phases : later.phase = Function.update s.phase txn phase) (grasps : later.db.Grasps txn phase)
    (shown : ∀ (page : PageId) (id : FrameId), later.resident? page = some id →
      (later.frame id).owner = none →
        (later.frame id).live = (later.frame id).before ∨ ∃ txn, later.phase txn = .changing id) :
    later.Restorable := by
  refine ⟨goes.tidy ok.tidy, exact, fun other => ?_, shown⟩
  by_cases mine : other = txn
  · rw [mine, phases, Function.update_self]
    exact grasps
  · rw [phases, Function.update_of_ne mine]
    exact (ok.grasps other).moved (goes.modeOf?_of_ne mine) made shows

/-- A step that upholds the cache, and with which no overwritten page object goes unreported. -/
lemma Restorable.step_of_upholds (ok : s.Restorable)
    (goes : s.db.locks.table.Goes txn asker later.db.locks.table) (exact : later.db.cache.Exact)
    (upholds : later.db.cache.Upholds s.db.cache)
    (phases : later.phase = Function.update s.phase txn phase) (grasps : later.db.Grasps txn phase)
    (closes : ∀ id, s.phase txn = .changing id → ∀ page, later.resident? page = some id →
      (later.frame id).owner ≠ none) : later.Restorable := by
  refine ok.step goes exact upholds.nextFrame upholds.page phases grasps
    fun page id there clean => ?_
  rcases upholds.shown page id there clean with same | ⟨before, same⟩
  · exact .inl same
  · have clean' : (s.frame id).owner = none := (congrArg Frame.owner same).symm.trans clean
    refine (ok.shown page id before clean').imp (fun shown => ?_) ?_
    · rw [System.frame, same]
      exact shown
    · rintro ⟨other, changing⟩
      refine ⟨other, ?_⟩
      by_cases mine : other = txn
      · rw [mine] at changing
        exact absurd clean (closes id changing page there)
      · rw [phases, Function.update_of_ne mine]
        exact changing

/-! ### Everything but flushes keeps the invariant -/

section Acts

variable (ok : s.Restorable)
include ok

lemma Restorable.call (txn : TxnId) (call : Call) : (s.call txn call).Restorable := by
  rw [System.call]
  split
  · next free =>
    have goes : s.db.locks.table.Goes txn none
        (s.follow txn call (s.db.start txn call)).db.locks.table := by
      rw [db_follow]
      exact goes_of_locks_eq (s.db.locks_start txn call)
    refine ok.step_of_upholds goes ?_ ?_ (phase_follow_eq ..) ?_ fun id changing =>
      absurd changing (ne_changing_of_free free id)
    all_goals rw [db_follow]
    · exact (works_start s.db call).advances.exact ok.exact
    · exact s.db.upholds_start txn call
    · exact s.db.grasps_start txn call
  · exact ok

lemma Restorable.move (txn : TxnId) : (s.move txn).Restorable := by
  rw [System.move]
  split
  · next call operation busy =>
    have grasps := ok.grasps txn
    rw [busy] at grasps
    have goes : s.db.locks.table.Goes txn operation.asker?
        (s.follow txn call (s.db.step operation)).db.locks.table := by
      rw [db_follow, ← grasps.1]
      exact s.db.goes_step operation
    refine ok.step_of_upholds goes ?_ ?_ (phase_follow_eq ..) ?_ fun id changing => ?_
    · rw [db_follow]
      exact (works_step ok.exact.toOrderly grasps.2.1).advances.exact ok.exact
    · rw [db_follow]
      exact s.db.upholds_step operation
    · rw [db_follow]
      exact grasps_step ok.exact grasps
    · cases busy.symm.trans changing
  · exact ok

lemma Restorable.look (txn : TxnId) : (s.look txn).Restorable := by
  rw [System.look]
  split
  · exact ⟨ok.tidy, ok.exact, ok.grasps, ok.shown⟩
  · exact ok

/-- A page object may be overwritten by a transaction that has its page locked exclusively. -/
lemma Restorable.claims_of_writable (writable : (s.phase txn).writable? = some id) :
    s.db.Claims txn id := by
  have grasps := ok.grasps txn
  rcases Phase.cases_of_writable writable with changing | ⟨page, holding⟩
  · rw [changing] at grasps
    exact grasps
  · rw [holding] at grasps
    exact grasps rfl

lemma Restorable.overwrite (txn : TxnId) (image : Image) : (s.overwrite txn image).Restorable := by
  rw [System.overwrite]
  split
  · next id writable =>
    have claims := ok.claims_of_writable writable
    split
    · next frame copied =>
      have same_page := Frame.page_of_copyFrom? copied
      have frames := fun other => Cache.frame_setFrame s.db.cache id other frame
      have shows : ∀ other < s.db.cache.nextFrame,
          ((s.db.cache.setFrame id frame).frame other).page = (s.frame other).page := by
        intro other _
        rw [frames]
        split
        · next here => rw [← here, same_page]
        · rfl
      have claims' : Database.Claims { s.db with cache := s.db.cache.setFrame id frame } txn id :=
        ⟨claims.made, (congrArg _ (shows id claims.made)).trans claims.lock⟩
      refine ok.step .stays ((Cache.Advances.setFrame same_page).exact ok.exact)
        (Nat.le_refl _) shows rfl claims' fun page other there clean => ?_
      -- the page object that was overwritten is not reported yet
      by_cases here : id = other
      · exact .inr ⟨txn, here ▸ Function.update_self ..⟩
      · have same : (s.db.cache.setFrame id frame).frame other = s.frame other :=
          (frames other).trans (if_neg here)
        have clean' : (s.frame other).owner = none := same ▸ clean
        refine (ok.shown page other there clean').imp (fun shown => ?_) ?_
        · show ((s.db.cache.setFrame id frame).frame other).live =
            ((s.db.cache.setFrame id frame).frame other).before
          rw [same]
          exact shown
        · rintro ⟨changer, changing⟩
          refine ⟨changer, ?_⟩
          by_cases mine : changer = txn
          · rw [mine] at changing
            rw [changing] at writable
            exact absurd (Option.some.inj writable).symm here
          · exact (Function.update_of_ne mine ..).trans changing
    · exact ok
  · exact ok

/-- After a report the overwritten page object is dirty, unless it is not resident. -/
lemma Restorable.report (txn : TxnId) : (s.report txn).Restorable := by
  rw [System.report]
  split
  · next id changing =>
    have claims : s.db.Claims txn id := ok.claims_of_writable (by rw [changing]; rfl)
    have exact : (s.db.markDirty txn id).1.cache.Exact :=
      (Cache.advances_markDirty claims.made).exact ok.exact
    have upholds : (s.db.markDirty txn id).1.cache.Upholds s.db.cache :=
      Cache.upholds_markDirty s.db.cache txn id
    have reported :
        ({ s with db := (s.db.markDirty txn id).1 }.setPhase txn .ready).Restorable := by
      refine ok.step_of_upholds .stays exact upholds rfl trivial
        fun other opened page there => ?_
      cases changing.symm.trans opened
      have shows : ((s.db.markDirty txn id).1.cache.frame id).page = page :=
        exact.page page id there
      rw [upholds.page id claims.made] at shows
      subst shows
      exact Cache.dirty_of_markDirty there
    split
    · next marked =>
      rw [marked] at reported
      exact ⟨reported.tidy, reported.exact, reported.grasps, reported.shown⟩
    · next marked =>
      rw [marked] at reported
      exact reported
  · exact ok

lemma Restorable.complete (txn : TxnId) (commit : Bool) : (s.complete txn commit).Restorable := by
  rw [System.complete]
  split
  · next free =>
    have locks := s.db.locks_complete txn commit
    have goes : s.db.locks.table.Goes txn none (s.db.complete txn commit).1.locks.table := by
      rw [locks]
      exact .releasesAll
    have ended : ({ s with db := (s.db.complete txn commit).1 }.setPhase txn .gone).Restorable :=
      ok.step_of_upholds goes ((s.db.advances_complete txn commit).exact ok.exact)
        (s.db.upholds_complete txn commit) rfl trivial
        fun id changing => absurd changing (ne_changing_of_free free id)
    split
    · next done =>
      rw [done] at ended
      exact ⟨ended.tidy, ended.exact, ended.grasps, ended.shown⟩
    · next done =>
      rw [done] at ended
      exact ⟨ended.tidy, ended.exact, ended.grasps, ended.shown⟩
  · exact ok

lemma Restorable.release (txn : TxnId) (page : PageId) :
    (s.maintain txn fun db => db.release txn page).Restorable := by
  rw [maintain]
  split
  · next free =>
    exact ok.step_of_upholds (.releases page) ok.exact (.refl _) rfl trivial
      fun id changing => absurd changing (ne_changing_of_free free id)
  · exact ok

lemma Restorable.discard (txn : TxnId) (page : PageId) :
    (s.maintain txn fun db => db.discard page).Restorable := by
  rw [maintain]
  split
  · next free =>
    exact ok.step_of_upholds .stays
      ((s.db.cache.advances_discard page).exact ok.exact) (s.db.cache.upholds_discard page) rfl
      trivial fun id changing => absurd changing (ne_changing_of_free free id)
  · exact ok

/-- Whatever happens except a flush keeps the invariant. -/
theorem Restorable.act {action : Action} (unflushed : action.act.isFlush = false) :
    (s.act action).Restorable := by
  obtain ⟨txn, act⟩ := action
  cases act with
  | call call => exact ok.call txn call
  | move => exact ok.move txn
  | look => exact ok.look txn
  | overwrite image => exact ok.overwrite txn image
  | report => exact ok.report txn
  | complete commit => exact ok.complete txn commit
  | release page => exact ok.release txn page
  | discard page => exact ok.discard txn page
  | flushPage page => cases unflushed
  | flushHeld => cases unflushed
  | flushAll => cases unflushed

end Acts

/-- The invariant holds after every run without flushes. -/
theorem Restorable.run (ok : s.Restorable) (actions : List Action)
    (unflushed : ∀ action ∈ actions, action.act.isFlush = false) : (s.run actions).Restorable := by
  induction actions generalizing s with
  | nil => exact ok
  | cons action rest ih =>
      exact ih (ok.act (unflushed action List.mem_cons_self))
        fun other listed => unflushed other (List.mem_cons_of_mem _ listed)

end System

/-- **An abort undoes what was reported,** in every run without flushes, with stores that may fail.
Let a transaction hold a page exclusively that has no unwritten changes, and let it report any
image of it and abort. Then the page has no unwritten changes. If it was resident before the
report, it shows what it showed; if it was not, it shows the before-image of the reported page
object. If the transaction has just fetched that object, and no store fails and nobody maintains
the cache, this is the stored image; but if the object was made for the report, it is the reported
image itself. -/
theorem abort_undoes_report (storage : Storage) {capacity : Nat} (capacity_pos : 0 < capacity)
    (actions : List Action) (unflushed : ∀ action ∈ actions, action.act.isFlush = false)
    (txn : TxnId) (page : PageId) :
    let s := (System.initial storage capacity capacity_pos).run actions
    s.mode txn page = some .exclusive → s.db.Calm page →
      (∀ id, s.phase txn = .changing id → (s.frame id).page ≠ page) →
      (∀ (image before : Image) (dirty : Database), s.db.Reports txn page image before dirty →
        let later := (dirty.complete txn false).1
        (s.resident? page ≠ none → later.Shows page (s.db.shown? page)) ∧
          (s.resident? page = none → later.Shows page (some before))) ∧
      (storage.Reliable →
        (∀ action ∈ actions, action.act.isPageWork = true ∨ action.act.IsRecordWork storage) →
        s.db.storage.Countable → ∀ id, s.phase txn = .holding page .exclusive id →
          s.stored? page = some (s.frame id).before) := by
  intro s lock calm reported
  have ok : s.Restorable :=
    (System.restorable_initial storage capacity capacity_pos).run actions unflushed
  have held : s.db.locks.table.modeOf? txn page ≠ none := by
    rw [show s.db.locks.table.modeOf? txn page = some .exclusive from lock]
    simp
  refine ⟨fun image before dirty reports => ?_, fun reliable work room id holding => ?_⟩
  · have shows := Database.shows_of_reports ok.exact ok.tidy.sound held reports
    refine ⟨fun resident => ?_, fun absent => ?_⟩
    · obtain ⟨id, there⟩ := Option.ne_none_iff_exists'.mp resident
      have shown : (s.frame id).live = (s.frame id).before :=
        ok.live_eq_before lock there (calm id there) fun changing =>
          reported id changing (ok.exact.page page id there)
      have image : s.db.shown? page = some (s.frame id).live := by
        rw [Database.shown?, show s.db.cache.residentFrame? page = some id from there]
      rwa [Database.beforeOr_of_resident there, ← shown, ← image] at shows
    · rwa [Database.beforeOr_of_absent absent] at shows
  · have consistent := ((System.consistent_initial reliable capacity capacity_pos).run
      (disciplined_work storage) actions work fun _ _ _ => room).1
    have hand : System.AtHand storage s txn page .exclusive id := consistent.phaseOk holding
    exact hand.before

/-- With room for a single page: a transaction has just fetched a page exclusively, and the page
has to leave for the one that another transaction fetches. -/
def fetchAndLeave : List Action :=
  [⟨⟨1⟩, .call (.fetch ⟨⟨1⟩, 0⟩ .exclusive)⟩, ⟨⟨1⟩, .move⟩, ⟨⟨1⟩, .move⟩, ⟨⟨1⟩, .move⟩,
    ⟨⟨1⟩, .move⟩, ⟨⟨2⟩, .call (.fetch ⟨⟨1⟩, 1⟩ .shared)⟩, ⟨⟨2⟩, .move⟩, ⟨⟨2⟩, .move⟩, ⟨⟨2⟩, .move⟩,
    ⟨⟨2⟩, .move⟩]

/-- The fetched page object comes back with its report, and the abort returns the page to its
stored image. -/
theorem abort_undoes_report_evicted :
    let s := (System.initial twoPages 1 (by decide)).run fetchAndLeave
    let page : PageId := ⟨⟨1⟩, 0⟩
    let dirty := (s.db.reportOver ⟨1⟩ 0 #[7, 9]).1
    s.resident? page = none ∧ s.stored? page = some #[0, 0] ∧
      dirty.shown? page = some #[7, 9] ∧
      (dirty.complete ⟨1⟩ false).1.Shows page (s.stored? page) := by
  intro s page dirty
  have unflushed : ∀ action ∈ fetchAndLeave, action.act.isFlush = false := by decide
  have work : ∀ action ∈ fetchAndLeave,
      action.act.isPageWork = true ∨ action.act.IsRecordWork twoPages :=
    fun action listed => .inl ((by decide : ∀ action ∈ fetchAndLeave,
      action.act.isPageWork = true) action listed)
  have absent : s.resident? page = none := by decide +kernel
  have lock : s.mode ⟨1⟩ page = some .exclusive := by decide +kernel
  have holding : s.phase ⟨1⟩ = .holding page .exclusive 0 := rfl
  have stored : s.stored? page = some #[0, 0] := by decide +kernel
  have made : 0 < s.db.cache.nextFrame := by decide +kernel
  have shows : (s.frame 0).page = page := by decide +kernel
  have room : s.db.storage.Countable := by decide +kernel
  have written : dirty.shown? page = some #[7, 9] := by decide +kernel
  have done : s.db.reportOver ⟨1⟩ 0 #[7, 9] = (dirty, .ok ()) :=
    Prod.ext rfl (by decide +kernel : (s.db.reportOver ⟨1⟩ 0 #[7, 9]).2 = .ok ())
  obtain ⟨undone, before⟩ := abort_undoes_report twoPages (by decide) fetchAndLeave unflushed ⟨1⟩
    page lock (fun id there => by cases absent.symm.trans there)
    (fun id changing => by cases holding.symm.trans changing)
  have restored := (undone _ _ dirty (.same made shows done)).2 absent
  rw [← before reliable_twoPages work room 0 holding] at restored
  exact ⟨absent, stored, written, restored⟩

/-- A page that is not resident is reported through a new page object: after the abort it shows the
reported image, although its transaction has held it exclusively all the time and the store still
has the image that the page showed before. -/
theorem abort_keeps_new_page :
    let s := (System.initial twoPages 1 (by decide)).run fetchAndLeave
    let page : PageId := ⟨⟨1⟩, 0⟩
    let dirty := (s.db.reportNew ⟨1⟩ page #[7, 9]).1
    let later := (dirty.complete ⟨1⟩ false).1
    s.mode ⟨1⟩ page = some .exclusive ∧ s.resident? page = none ∧
      s.phase ⟨1⟩ = .holding page .exclusive 0 ∧ s.db.shown? page = some #[0, 0] ∧
      s.db.Reports ⟨1⟩ page #[7, 9] #[7, 9] dirty ∧
      later.shown? page = some #[7, 9] ∧ later.storage.image? page = some #[0, 0] := by
  intro s page dirty later
  have done : s.db.reportNew ⟨1⟩ page #[7, 9] = (dirty, .ok ()) :=
    Prod.ext rfl (by decide +kernel : (s.db.reportNew ⟨1⟩ page #[7, 9]).2 = .ok ())
  refine ⟨?_, ?_, rfl, ?_, .new done, ?_, ?_⟩ <;> decide +kernel

end PageTxn
