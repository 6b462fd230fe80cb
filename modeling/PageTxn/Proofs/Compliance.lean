import PageTxn.Proofs.Guard
import PageTxn.Proofs.Settling

/-!
Operations and commits obey the locks.

* `Database.Complies` says that a move of an operation obeys the locks, writes no page that
  exists, and leaves its transaction in a phase in which it may go on so. There is one lemma for
  each kind of move; `complies_step` and `complies_start` put them together.
* `Database.Cleans` says what becomes of the owners of dirty pages when pages are forced, and
  `obeys_commitPages` that a commit forces the pages that it goes through, up to the first
  refusal.
* `obeys_commit`, `obeys_abort`: so a transaction that ends writes at most pages that it has locked,
  and owns a page afterwards only if it is stuck.
-/

namespace PageTxn.Database

variable {stuck : TxnId → Prop} {db later : Database} {txn : TxnId} {page : PageId}
  {pages : List PageId} {id : FrameId} {call : Call} {level : Level} {aim : Aim}

/-- A move obeys the locks, writes no page that exists, and leaves the transaction in a phase in
which it may go on so. -/
structure Complies (stuck : TxnId → Prop) (txn : TxnId) (call : Call) (db : Database)
    (moved : Database × Progress) : Prop where
  obeys : Obeys stuck txn [] db moved.1
  respects : moved.1.Respects txn (moved.2.phase call)

/-! ### Ends of moves -/

/-- An operation may return, unless it hands out a page. -/
lemma complies_finished {outcome : Outcome} (obeys : Obeys stuck txn [] db later)
    (nothing : ∀ id, outcome ≠ .fetched (.ok id)) :
    Complies stuck txn call db (later, .finished outcome) := by
  refine ⟨obeys, ?_⟩
  rw [Progress.phase, Phase.after_eq_ready call nothing]
  trivial

/-- An operation may fail. -/
lemma complies_failed (aim : Aim) (failure : Failure) (obeys : Obeys stuck txn [] db later) :
    Complies stuck txn call db (later, .finished (aim.failed level failure)) :=
  complies_finished obeys (aim.failed_ne_fetched level failure)

/-- An operation may ask for its next page. -/
lemma complies_aim (obeys : Obeys stuck txn [] db later) (pursues : later.Pursues txn call aim) :
    Complies stuck txn call db (later, aim.start txn level) :=
  ⟨obeys, rfl, pursues, trivial⟩

/-- A page that was changed under an exclusive lock may be reported. -/
lemma complies_next {change : Change} (obeys : Obeys stuck txn [] db later)
    (locks : later.locks = db.locks) (claims : db.Claims txn id) (single : change.pages = [id]) :
    Complies stuck txn call db (later, change.next txn level) := by
  cases level with
  | store => exact complies_finished obeys fun id => by cases change <;> simp [Change.succeeded]
  | database =>
      refine ⟨obeys, rfl, fun other listed => ?_⟩
      rw [single] at listed
      cases List.mem_singleton.mp listed
      exact claims.carried (obeys.carries_self fun page => by rw [locks])

/-- A purpose is pursued on after the lock was asked for. -/
lemma Pursues.request (pursues : db.Pursues txn call aim) (waited : Bool) :
    Pursues { db with locks := (db.locks.request txn aim.page aim.mode waited).1 } txn call
      aim := by
  cases aim with
  | hand page mode => exact pursues
  | claim heap record number remaining => exact pursues
  | fill heap record number => trivial
  | erase heap id => trivial
  | collect heap number remaining found => trivial
  | probe heap record number remaining alreadyHeld =>
      refine ⟨pursues.1, fun fresh => ?_⟩
      have weak := pursues.2 fresh
      show (db.locks.table.request txn (heap.page number) .shared).1.modeOf? txn _ ≠ _
      rw [LockTable.modeOf?_request]
      split
      · rw [LockMode.joined, if_neg weak]
        simp
      · exact weak

section Moves

variable (guarded : db.Guarded stuck)
include guarded

/-! ### Fetching a page -/

/-- An operation asks for a lock. -/
lemma complies_lockPage (pursues : db.Pursues txn call aim) (waited : Bool) :
    Complies stuck txn call db (db.lockPage txn level aim waited) := by
  have requested : Obeys stuck txn [] db
      { db with locks := (db.locks.request txn aim.page aim.mode waited).1 } :=
    obeys_request guarded ..
  have pursues' := pursues.request waited
  have modes := LockTable.modeOf?_request db.locks.table txn txn aim.page aim.page aim.mode
  have verdict : (db.locks.request txn aim.page aim.mode waited).2 =
      (db.locks.table.request txn aim.page aim.mode).2 := rfl
  rw [lockPage]
  cases answer : db.locks.request txn aim.page aim.mode waited with
  | mk locks decision =>
      have table : locks.table = (db.locks.table.request txn aim.page aim.mode).1 := by
        rw [show locks = (db.locks.request txn aim.page aim.mode waited).1 by rw [answer]]
        rfl
      rw [answer] at requested pursues' verdict
      cases decision with
      | refused => exact complies_failed aim _ requested
      | wait => exact ⟨requested, rfl, pursues', trivial⟩
      | granted =>
          have covers : locks.table.Covers txn aim.page aim.mode := by
            rw [← verdict, if_pos ⟨rfl, rfl, rfl⟩, ← table] at modes
            rw [LockTable.Covers, modes]
            refine ⟨by simp, fun exclusive => ?_⟩
            rw [exclusive, LockMode.joined, ite_self]
          simp only
          cases there : db.cache.residentFrame? aim.page with
          | some id =>
              have counts : Obeys stuck txn [] { db with locks }
                  { db with locks, cache := db.cache.countHit } :=
                obeys_of_shrinks requested.guarded (.of_stats _ _)
              have carries := counts.carries_self fun _ => rfl
              exact ⟨requested.trans counts, rfl, pursues'.carried carries, covers,
                guarded.orderly.made _ _ there, guarded.orderly.page _ _ there⟩
          | none =>
              have counts : Obeys stuck txn [] { db with locks }
                  { db with locks, cache := db.cache.countMiss } :=
                obeys_of_shrinks requested.guarded (.of_stats _ _)
              have carries := counts.carries_self fun _ => rfl
              exact ⟨requested.trans counts, rfl, pursues'.carried carries, covers⟩

/-- The page is read from its store, unless the store refuses. -/
lemma complies_loadPage (pursues : db.Pursues txn call aim)
    (covers : db.locks.table.Covers txn aim.page aim.mode) :
    Complies stuck txn call db (db.step (.fetching txn level aim .read)) := by
  rw [step, loadPage]
  cases named : db.storage.storeOf aim.page.table with
  | error error => exact complies_failed aim _ (.refl guarded)
  | ok store =>
      obtain ⟨writes, loaded⟩ :
          Storage.Writes [] (db.storage.readPage store aim.page).1 db.storage ∧ _ :=
        Storage.writes_readPage guarded.separate (Storage.catalog_of_storeOf named)
      simp only [readPage]
      cases read : db.storage.readPage store aim.page with
      | mk stored result =>
          rw [read] at writes loaded
          have done : Obeys stuck txn [] db { db with storage := stored } :=
            obeys_of_writes guarded writes
          cases result with
          | error error => exact complies_failed aim _ done
          | ok answer =>
              obtain ⟨image, other⟩ := answer
              obtain ⟨rfl, there⟩ := loaded image other rfl
              have counted : Obeys stuck txn [] db
                  { db with storage := stored, cache := db.cache.countRead } :=
                done.trans (obeys_of_shrinks done.guarded (.of_stats _ _))
              have carries := counted.carries_self fun _ => rfl
              exact ⟨counted, rfl, pursues.carried carries, carries.covers covers,
                carries.backed _ _ ⟨image, there, rfl⟩⟩

/-- The page that was read is brought in, unless it has become resident meanwhile or there is no
room. -/
lemma complies_enterPage {image : Image} (pursues : db.Pursues txn call aim)
    (covers : db.locks.table.Covers txn aim.page aim.mode)
    (backed : db.Backed aim.page image.size) :
    Complies stuck txn call db (db.step (.fetching txn level aim (.enter image))) := by
  rw [step, enterPage]
  cases there : db.cache.residentFrame? aim.page with
  | some id =>
      exact ⟨.refl guarded, rfl, pursues, covers, guarded.orderly.made _ _ there,
        guarded.orderly.page _ _ there⟩
  | none =>
      have shrinks := db.cache.shrinks_makeRoom
      cases room : db.cache.makeRoom with
      | mk roomy result =>
          rw [room] at shrinks
          have roomed : Obeys stuck txn [] db { db with cache := roomy } :=
            obeys_of_shrinks guarded shrinks
          cases result with
          | error error => exact complies_failed aim _ roomed
          | ok =>
              have entered := roomed.trans
                (obeys_enter roomed.guarded
                  (roomed.carries_self (fun _ => rfl) |>.backed _ _ backed))
              have carries := entered.carries_self fun _ => rfl
              refine ⟨entered, rfl, pursues.carried carries, carries.covers covers,
                Nat.lt_succ_self _, ?_⟩
              show ((roomy.newFrame (.ofImage aim.page image)).2.frame roomy.nextFrame).page = _
              rw [Cache.frame_newFrame, if_pos rfl]
              rfl

/-! ### Inserts on their way -/

/-- An insert goes on with the next page, or with a new one. -/
lemma complies_nextProbe {heap : HeapFile} {record : Record} (number remaining : Nat)
    (registered : db.Registered heap) (room : db.storage.Countable) (level : Level)
    (call : Call) :
    Complies stuck txn call db (db.nextProbe txn level heap record number remaining) := by
  cases remaining with
  | zero =>
      obtain ⟨table, found⟩ := registered
      exact complies_aim (obeys_of_writes guarded
        (Storage.writes_appendPage guarded.separate found (room table heap found))) trivial
  | succ remaining =>
      refine complies_aim (.refl guarded) ⟨registered, fun fresh => ?_⟩
      -- the transaction does not hold the page at all
      rw [LockManager.holds, LockTable.holds, ← Bool.not_eq_true,
        Std.ExtTreeSet.contains_iff_mem, guarded.sound.mem_pagesOf, not_not] at fresh
      rw [fresh]
      simp

/-- A record is put into a page under an exclusive lock. -/
lemma obeys_tryPlace (claims : db.Claims txn id) {heap : HeapFile} {record placed : Record}
    (done : db.tryPlace txn heap record id = .ok (some (later, placed))) :
    Obeys stuck txn [] db later ∧ later.locks = db.locks := by
  obtain ⟨slot, image, -, changed, -⟩ := changeFrame_of_tryPlace done
  exact obeys_changeFrame guarded claims changed

/-! ### Using and reporting a page -/

/-- The operation uses the page that it has at hand. -/
lemma complies_usePage (pursues : db.Pursues txn call aim)
    (hand : db.Holds txn aim.page aim.mode id) (room : db.storage.Countable) :
    Complies stuck txn call db (db.usePage txn level aim id) := by
  have same : Obeys stuck txn [] db db := .refl guarded
  cases aim with
  | hand page mode =>
      rw [show call = .fetch page mode from pursues]
      exact ⟨same, hand⟩
  | probe heap record number remaining alreadyHeld =>
      simp only [usePage]
      split
      · exact complies_failed _ _ same
      · exact complies_aim same pursues.1
      · cases alreadyHeld with
        | true => exact complies_nextProbe guarded (number + 1) remaining pursues.1 room level call
        | false =>
            have released : Obeys stuck txn [] db (db.release txn (heap.page number)) :=
              obeys_release guarded (pursues.2 rfl)
            have next : Complies stuck txn call (db.release txn (heap.page number))
                ((db.release txn (heap.page number)).nextProbe txn level heap record (number + 1)
                  remaining) :=
              complies_nextProbe released.guarded (number + 1) remaining pursues.1 room level call
            exact ⟨released.trans next.obeys, next.respects⟩
  | claim heap record number remaining =>
      simp only [usePage]
      split
      · exact complies_failed _ _ same
      · next placed =>
        obtain ⟨obeys, locks⟩ := obeys_tryPlace guarded hand.claims placed
        exact complies_next obeys locks hand.claims rfl
      · exact complies_nextProbe guarded (number + 1) remaining pursues room level call
  | fill heap record number =>
      simp only [usePage]
      split
      · exact complies_failed _ _ same
      · next placed =>
        obtain ⟨obeys, locks⟩ := obeys_tryPlace guarded hand.claims placed
        exact complies_next obeys locks hand.claims rfl
      · exact complies_failed _ _ same
  | erase heap record =>
      simp only [usePage]
      split
      · exact complies_failed _ _ same
      · exact complies_failed _ _ same
      · split
        · exact complies_failed _ _ same
        · next changed =>
          obtain ⟨obeys, locks⟩ := obeys_changeFrame guarded hand.claims changed
          exact complies_next obeys locks hand.claims rfl
  | collect heap number remaining found =>
      simp only [usePage]
      split
      · exact complies_failed _ _ same
      · cases remaining with
        | zero => exact complies_finished same fun _ => by simp
        | succ remaining => exact complies_aim same trivial

/-- The changed pages are reported. -/
lemma complies_reporting {change : Change} {ids : List FrameId}
    (claims : ∀ id ∈ ids, db.Claims txn id) :
    Complies stuck txn call db (db.step (.reporting txn change ids)) := by
  cases ids with
  | nil =>
      exact complies_finished (.refl guarded) fun id => by cases change <;> simp [Change.succeeded]
  | cons id rest =>
      have reported := obeys_markDirty guarded (claims id List.mem_cons_self)
      have kept := reported.carries_self fun _ => rfl
      rw [step]
      split
      · next moved =>
        rw [moved] at reported kept
        exact ⟨reported, rfl, fun other listed =>
          (claims other (List.mem_cons_of_mem _ listed)).carried kept⟩
      · next failure moved =>
        rw [moved] at reported
        refine complies_finished reported fun target => ?_
        cases change <;> cases failure <;> simp [Change.failed, Level.failedInsert]

/-- Every move of an operation obeys the locks. -/
theorem complies_step {operation : Operation} (allows : db.Allows txn call operation)
    (room : db.storage.Countable) : Complies stuck txn call db (db.step operation) := by
  cases operation with
  | fetching own level aim stage =>
      obtain ⟨rfl, pursues, reaches⟩ := allows
      cases stage with
      | lock waited => exact complies_lockPage guarded pursues waited
      | read => exact complies_loadPage guarded pursues reaches
      | enter image => exact complies_enterPage guarded pursues reaches.1 reaches.2
      | use id => exact complies_usePage guarded pursues reaches room
  | reporting own change ids =>
      obtain ⟨rfl, claims⟩ := allows
      exact complies_reporting guarded claims

/-- Operations that work on pages and heap files obey the locks from their start on. -/
theorem complies_start
    (inserts : ∀ table record, call = .insert table record → ∀ store : Store,
      db.storage.catalog[table]? = some store → ∃ heap, store = .heap heap)
    (deletes : ∀ record id, call = .delete record → record.id = some id → ∀ store : Store,
      db.storage.catalog[id.page.table]? = some store → ∃ heap, store = .heap heap)
    (room : db.storage.Countable) : Complies stuck txn call db (db.start txn call) := by
  have same : Obeys stuck txn [] db db := .refl guarded
  cases call with
  | fetch page mode => exact complies_aim same rfl
  | insert table record =>
      rw [start, startInsertRecord]
      split
      · next store named =>
        have found := Storage.catalog_of_storeOf named
        obtain ⟨heap, rfl⟩ := inserts table record rfl store found
        simp only [startInsert]
        split
        · exact complies_nextProbe guarded 0 _ ⟨table, found⟩ room .database _
        · exact complies_finished same fun _ => by simp [Level.failedInsert]
      · exact complies_finished same fun _ => by simp
  | delete record =>
      rw [start, startDeleteRecord]
      split
      · exact complies_finished same fun _ => by simp
      · next id located =>
        split
        · next store named =>
          obtain ⟨heap, rfl⟩ :=
            deletes record id rfl located store (Storage.catalog_of_storeOf named)
          simp only [startDelete, located]
          split
          · exact complies_aim same trivial
          · exact complies_finished same fun _ => by simp
        · exact complies_finished same fun _ => by simp
  | scan heap =>
      rw [start, startScan]
      split
      · exact complies_finished same fun _ => by simp
      · exact complies_aim same trivial

/-! ### Forcing pages -/

/-- Pages stay resident in their frames when pages are forced, frames stay dirty or become
clean, and locks stay. -/
structure Cleans (db later : Database) : Prop where
  locks : later.locks = db.locks
  resident : ∀ page : PageId,
    later.cache.residentFrame? page = db.cache.residentFrame? page
  owner : ∀ id : FrameId, (later.cache.frame id).owner = (db.cache.frame id).owner ∨
    (later.cache.frame id).owner = none

omit guarded in
lemma Cleans.refl (db : Database) : Cleans db db := ⟨rfl, fun _ => rfl, fun _ => Or.inl rfl⟩

omit guarded in
lemma Cleans.trans {middle : Database} (first : Cleans db middle) (second : Cleans middle later) :
    Cleans db later where
  locks := second.locks.trans first.locks
  resident page := (second.resident page).trans (first.resident page)
  owner id := by
    rcases second.owner id with same | clean
    · rw [same]
      exact first.owner id
    · exact Or.inr clean

/-- A resident page is written and clean then, unless its store refuses it. -/
lemma obeys_flush (txn : TxnId) (there : db.cache.residentFrame? page = some id) :
    Obeys stuck txn [page] db (db.flush id).1 ∧ Cleans db (db.flush id).1 ∧
      ((db.flush id).2 = .ok () → ((db.flush id).1.cache.frame id).owner = none) := by
  have shows := guarded.orderly.page page id there
  rw [flush]
  split
  · split
    · exact ⟨.refl guarded, .refl db, fun done => by cases done⟩
    · next store named =>
      obtain ⟨stored, found, same⟩ := guarded.backed id (guarded.orderly.made page id there)
      have writes := Storage.writes_writePage guarded.separate
        (Storage.catalog_of_storeOf named) found same.symm
      rw [shows] at writes
      rw [shows]
      split
      · next refused =>
        rw [refused] at writes
        exact ⟨obeys_of_writes guarded writes, ⟨rfl, fun _ => rfl, fun _ => Or.inl rfl⟩,
          fun done => by cases done⟩
      · next storage written =>
        rw [written] at writes
        have stored : Obeys stuck txn [page] db { db with storage } :=
          obeys_of_writes guarded writes
        have cleaned : Obeys stuck txn [page] { db with storage } { db with
            storage, cache := db.cache.updateFrame id Frame.clean } :=
          obeys_setFrame stored.guarded rfl rfl (Or.inr (Or.inl rfl))
        have counted : Obeys stuck txn [page] db { db with
            storage, cache := (db.cache.updateFrame id Frame.clean).countWritten } :=
          stored.trans (cleaned.trans (obeys_of_shrinks cleaned.guarded (.of_stats _ _)))
        have frames : ∀ other, ((db.cache.updateFrame id Frame.clean).countWritten).frame other =
            if id = other then (db.cache.frame id).clean else db.cache.frame other :=
          fun other => Cache.frame_updateFrame ..
        refine ⟨counted, ⟨rfl, fun _ => rfl, fun other => ?_⟩, fun _ => ?_⟩
        · rw [frames]
          split
          · exact Or.inr rfl
          · exact Or.inl rfl
        · rw [frames, if_pos rfl]
          rfl
  · next clean =>
    refine ⟨.refl guarded, .refl db, fun _ => ?_⟩
    simpa [Frame.isDirty] using clean

/-- A flush writes at most the pages that it goes through. -/
lemma obeys_flushEach (txn : TxnId) (pages : List PageId) :
    Obeys stuck txn pages db (db.flushEach pages).1 := by
  induction pages generalizing db with
  | nil => exact .refl guarded
  | cons page rest ih =>
      rw [flushEach, flushPage]
      cases there : db.cache.residentFrame? page with
      | none => exact (ih guarded).widen fun _ => List.mem_cons_of_mem _
      | some id =>
          obtain ⟨flushed, -, -⟩ := obeys_flush guarded txn there
          dsimp only
          split
          · next middle moved =>
            rw [moved] at flushed
            exact (flushed.widen (by simp)).trans
              ((ih flushed.guarded).widen fun _ => List.mem_cons_of_mem _)
          · next middle error moved =>
            rw [moved] at flushed
            exact flushed.widen (by simp)

/-- A commit writes at most the pages that it goes through. They are clean then, unless a store
refuses one. -/
theorem obeys_commitPages (txn : TxnId) (pages : List PageId) :
    Obeys stuck txn pages db (db.commitPages pages).1 ∧ Cleans db (db.commitPages pages).1 ∧
      ((db.commitPages pages).2 = .ok () → ∀ page ∈ pages, ∀ id,
        db.cache.residentFrame? page = some id →
          ((db.commitPages pages).1.cache.frame id).owner = none) := by
  induction pages generalizing db with
  | nil => exact ⟨.refl guarded, .refl db, fun _ page listed => by cases listed⟩
  | cons page rest ih =>
      rw [commitPages]
      split
      · next absent =>
        obtain ⟨obeys, cleans, clean⟩ := ih guarded
        refine ⟨obeys.widen fun _ => List.mem_cons_of_mem _, cleans,
          fun done other listed id resident => ?_⟩
        rcases List.mem_cons.mp listed with rfl | later
        · rw [absent] at resident
          cases resident
        · exact clean done other later id resident
      · next id there =>
        obtain ⟨flushed, cleans, clean⟩ := obeys_flush guarded txn there
        split
        · next middle error moved =>
          rw [moved] at flushed cleans
          exact ⟨flushed.widen (by simp), cleans, fun done => by cases done⟩
        · next middle moved =>
          rw [moved] at flushed cleans clean
          have owner := clean rfl
          have refreshed : Obeys stuck txn (page :: rest) middle
              { middle with cache := middle.cache.updateFrame id Frame.refresh } :=
            obeys_setFrame flushed.guarded rfl rfl (Or.inl rfl)
          have refreshes : Cleans middle
              { middle with cache := middle.cache.updateFrame id Frame.refresh } := by
            refine ⟨rfl, fun _ => rfl, fun other => Or.inl ?_⟩
            rw [Cache.frame_updateFrame]
            split
            · next here =>
              subst here
              rfl
            · rfl
          obtain ⟨obeys, cleans', clean'⟩ := ih refreshed.guarded
          refine ⟨(flushed.widen (by simp)).trans (refreshed.trans
              (obeys.widen fun _ => List.mem_cons_of_mem _)),
            cleans.trans (refreshes.trans cleans'), fun done other listed target resident => ?_⟩
          rcases List.mem_cons.mp listed with rfl | inside
          · -- the page is clean by now, and stays so
            rw [there] at resident
            cases resident
            rcases (refreshes.trans cleans').owner id with same | clean
            · exact same.trans owner
            · exact clean
          · exact clean' done other inside target
              (((cleans.trans refreshes).resident other).trans resident)

/-! ### Ending -/

/-- A transaction that owns no resident page, or is stuck, can give its locks back. -/
lemma obeys_releaseAll (settled : stuck txn ∨ ∀ page id,
      db.cache.residentFrame? page = some id → (db.cache.frame id).owner ≠ some txn) :
    Obeys stuck txn pages db { db with locks := db.locks.releaseAll txn } := by
  have modes := guarded.sound.modeOf?_releaseAll txn
  refine ⟨{ guarded with
    sound := guarded.sound.releaseAll txn
    owned := fun page id owner there dirty => ?_ }, fun other apart page => ?_, Nat.le_refl _,
    fun _ _ => rfl, .refl _⟩
  · show (db.locks.table.releaseAll txn).modeOf? owner page = _ ∨ _
    rw [modes]
    split
    · next own =>
      subst own
      rcases settled with gone | clean
      · exact Or.inr gone
      · exact absurd dirty (clean page id there)
    · exact guarded.owned page id owner there dirty
  · show (db.locks.table.releaseAll txn).modeOf? other page = _
    rw [modes, if_neg apart.symm]

/-- An abort writes nothing. The transaction owns none of the pages that it goes through then. -/
lemma obeys_rollbackPages (txn : TxnId) (pages : List PageId) :
    Obeys stuck txn [] db (db.rollbackPages txn pages) ∧ Cleans db (db.rollbackPages txn pages) ∧
      ∀ page ∈ pages, ∀ id, db.cache.residentFrame? page = some id →
        ((db.rollbackPages txn pages).cache.frame id).owner ≠ some txn := by
  have settled := settled_rollbackPages guarded.orderly txn pages
  have shows : ∀ frame : Frame, (frame.undo txn).page = frame.page := by
    intro frame
    rw [Frame.undo]
    split <;> rfl
  have size : ∀ frame : Frame, (frame.undo txn).live.size = frame.live.size := by
    intro frame
    rw [Frame.undo]
    split
    · exact frame.same_size
    · rfl
  have owner : ∀ frame : Frame, (frame.undo txn).owner = frame.owner ∨
      (frame.undo txn).owner = none := by
    intro frame
    rw [Frame.undo]
    split
    · exact Or.inr rfl
    · exact Or.inl rfl
  have cleans : Cleans db (db.rollbackPages txn pages) := by
    refine ⟨rfl, settled.resident, fun id => ?_⟩
    rw [settled.frame]
    split
    · exact owner _
    · exact Or.inl rfl
  refine ⟨obeys_of_cache guarded (settled.orderly shows guarded.orderly)
    (Nat.le_of_eq settled.nextFrame.symm) (fun id _ => ?_) (fun id _ => ?_)
    (fun id old new => ?_) fun page id other there dirty => ?_, cleans,
    fun page listed id there => ?_⟩
  · refine (congrArg Frame.page (settled.frame id)).trans ?_
    split
    · exact shows _
    · rfl
  · refine (congrArg (fun frame => frame.live.size) (settled.frame id)).trans ?_
    split
    · exact size _
    · rfl
  · exact absurd old (Nat.not_le_of_lt (Nat.lt_of_lt_of_eq new settled.nextFrame))
  · have resident := (settled.resident page).symm.trans there
    rcases cleans.owner id with same | clean
    · exact guarded.owned page id other resident (same.symm.trans dirty)
    · cases clean.symm.trans dirty
  · rw [settled.frame, guarded.orderly.page page id there, if_pos ⟨listed, there⟩, Frame.undo]
    split
    · simp [Frame.restore]
    · next foreign => exact foreign

/-- A transaction that owns none of the pages that it has locked owns no resident page. -/
lemma not_owner_of_cleans (going : ¬ stuck txn) (cleans : Cleans db later)
    (disowned : ∀ page ∈ db.locks.heldPages txn, ∀ id,
      db.cache.residentFrame? page = some id → (later.cache.frame id).owner ≠ some txn)
    (page : PageId) (id : FrameId) (there : later.cache.residentFrame? page = some id) :
    (later.cache.frame id).owner ≠ some txn := by
  intro dirty
  rw [cleans.resident] at there
  rcases cleans.owner id with same | clean
  · rcases guarded.owned page id txn there (same.symm.trans dirty) with lock | gone
    · exact disowned page (guarded.sound.mem_heldPages.mpr (by rw [lock]; simp)) id there dirty
    · exact going gone
  · rw [clean] at dirty
    cases dirty

/-- A commit that goes through some pages only, because a store refuses the next one, writes at
most those pages. The transaction is stuck then. -/
lemma obeys_stuck (gone : stuck txn) (pages : List PageId) :
    Obeys stuck txn pages db { (db.commitPages pages).1 with
      locks := (db.commitPages pages).1.locks.releaseAll txn } := by
  obtain ⟨obeys, -, -⟩ := obeys_commitPages guarded txn pages
  exact obeys.trans (obeys_releaseAll obeys.guarded (Or.inl gone))

/-- A transaction that commits writes at most pages that it has locked. If it is not stuck, it
has written all that it owned. -/
lemma obeys_commit (txn : TxnId)
    (done : (db.complete txn true).2 = .ok () ∨ stuck txn) :
    Obeys stuck txn (db.locks.heldPages txn) db (db.complete txn true).1 := by
  obtain ⟨obeys, cleans, clean⟩ := obeys_commitPages guarded txn (db.locks.heldPages txn)
  refine obeys.trans (obeys_releaseAll obeys.guarded ?_)
  by_cases gone : stuck txn
  · exact Or.inl gone
  · refine Or.inr (not_owner_of_cleans guarded gone cleans fun page listed id there dirty => ?_)
    rw [clean (done.resolve_right gone) page listed id there] at dirty
    cases dirty

/-- A transaction that aborts writes nothing and owns nothing any more. -/
lemma obeys_abort (txn : TxnId) : Obeys stuck txn [] db (db.complete txn false).1 := by
  obtain ⟨obeys, cleans, disowned⟩ := obeys_rollbackPages guarded txn (db.locks.heldPages txn)
  refine obeys.trans (obeys_releaseAll obeys.guarded ?_)
  by_cases gone : stuck txn
  · exact Or.inl gone
  · exact Or.inr (not_owner_of_cleans guarded gone cleans disowned)

end Moves

end PageTxn.Database
