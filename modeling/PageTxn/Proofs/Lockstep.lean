import PageTxn.Proofs.Mirror

/-!
Operations in two systems that differ in their caches alone.

* Most moves do not look at the cache, or only at the image that they have at hand:
  `Database.agree_start`, `agree_lockPage`, `agree_missing` and `agree_usePage` say that such moves
  agree.
* `Consistent.exists_use`: an operation that was granted its lock on a stored page has the page
  at hand after some moves, or there was no room for it. These moves may be others in the two
  systems.
* `Mirror.resume`: so an operation that goes on until it is parked or finished does the same in
  both systems, if there was room.
-/

namespace PageTxn

open History

/-! ### Outcomes that do not name frames -/

namespace Database

variable {db : Database} {cache : Cache} {txn : TxnId} {level : Level} {aim : Aim}
  {id target : FrameId}

/-- An outcome that names no frames tells the same in every database. -/
lemma sameOutcome_of_idle (db other : Database) {outcome : Outcome}
    (idle : outcome.isChange = false) (nothing : ∀ id, outcome ≠ .fetched (.ok id)) :
    SameOutcome txn db other outcome outcome := by
  refine ⟨rfl, by rw [changed_of_idle _ idle, changed_of_idle _ idle], ?_⟩
  cases outcome with
  | fetched result =>
      cases result with
      | error failure => rfl
      | ok id => exact absurd rfl (nothing id)
  | inserted result record =>
      cases result with
      | error failure => cases failure <;> rfl
      | ok ids => cases idle
  | deleted result =>
      cases result with
      | error failure => rfl
      | ok ids => cases idle
  | scanned result => cases result <;> rfl

/-- Two changes of a page that has the same image in both databases tell the same. -/
lemma sameOutcome_succeeded {other : Database} {change change' : Change}
    (record : change.record? = change'.record?) (single : change.pages = [id])
    (single' : change'.pages = [target]) (same : SameImage db.cache other.cache id target) :
    SameOutcome txn db other change.succeeded change'.succeeded := by
  cases change with
  | insertion placed pages =>
      cases change' with
      | insertion placed' pages' =>
          cases record
          cases single
          cases single'
          exact ⟨rfl, by simp [Change.succeeded, changed, same.page, same.live], rfl⟩
      | deletion pages' => cases record
  | deletion pages =>
      cases change' with
      | insertion placed' pages' => cases record
      | deletion pages' =>
          cases single
          cases single'
          exact ⟨rfl, by simp [Change.succeeded, changed, same.page, same.live], rfl⟩

/-- The transaction is told that there was no room for a page. -/
lemma isExhausted_failed (db : Database) (txn : TxnId) (level : Level) (aim : Aim)
    (capacity : Nat) :
    (db.reply txn (aim.failed level (Error.cacheExhausted capacity))).isExhausted = true := by
  cases aim <;> cases level <;> rfl

/-- The transaction is told that there was no room for the page that it has changed. -/
lemma isExhausted_unreported (db : Database) (txn : TxnId) (change : Change) (capacity : Nat) :
    (db.reply txn (change.failed (Error.cacheExhausted capacity))).isExhausted = true := by
  cases change <;> rfl

/-! ### Moves that do not look at the cache -/

/-- Operations that begin with asking for the same lock agree. -/
lemma agree_begin (db : Database) (cache : Cache) (aim : Aim) (level : Level) :
    Agree txn (db, aim.start txn level) ({ db with cache }, aim.start txn level) :=
  ⟨rfl, rfl, .running .asking⟩

/-- Operations that are finished without naming frames agree. -/
lemma agree_refuse (db : Database) (cache : Cache) {outcome : Outcome}
    (idle : outcome.isChange = false) (nothing : ∀ id, outcome ≠ .fetched (.ok id)) :
    Agree txn (db, .finished outcome) ({ db with cache }, .finished outcome) :=
  ⟨rfl, rfl, .finished (sameOutcome_of_idle _ _ idle nothing)⟩

lemma agree_failed (db : Database) (cache : Cache) (aim : Aim) (level : Level)
    (failure : Failure) :
    Agree txn (db, .finished (aim.failed level failure))
      ({ db with cache }, .finished (aim.failed level failure)) :=
  agree_refuse db cache (aim.isChange_failed level failure) (aim.failed_ne_fetched level failure)

/-- An insert goes on with the same page. -/
lemma agree_nextProbe (db : Database) (cache : Cache) (heap : HeapFile) (record : Record)
    (number remaining : Nat) :
    Agree txn (db.nextProbe txn level heap record number remaining)
      ({ db with cache }.nextProbe txn level heap record number remaining) := by
  cases remaining with
  | zero => exact agree_begin { db with storage := (db.storage.appendPage heap).2 } cache _ level
  | succ remaining => exact agree_begin db cache _ level

/-- Inserts into a heap file are started alike. -/
lemma agree_startInsertRecord (db : Database) (cache : Cache) {table : TableId} (record : Record)
    (heaps : ∀ store, db.storage.catalog[table]? = some store → ∃ heap, store = .heap heap) :
    Agree txn (db.startInsertRecord txn table record)
      ({ db with cache }.startInsertRecord txn table record) := by
  rw [startInsertRecord, startInsertRecord]
  cases named : db.storage.storeOf table with
  | error error => exact agree_refuse db cache rfl fun _ => by simp
  | ok store =>
      obtain ⟨heap, rfl⟩ := heaps store (Storage.catalog_of_storeOf named)
      simp only [startInsert]
      by_cases fits : record.data.size = heap.layout.recordSize
      · rw [if_pos fits, if_pos fits]
        exact agree_nextProbe db cache heap record 0 _
      · rw [if_neg fits, if_neg fits]
        exact agree_refuse db cache (Level.isChange_failedInsert ..)
          fun _ => by simp [Level.failedInsert]

/-- Deletes from a heap file are started alike. -/
lemma agree_startDeleteRecord (db : Database) (cache : Cache) (record : Record)
    (heaps : ∀ id, record.id = some id → ∀ store,
      db.storage.catalog[id.page.table]? = some store → ∃ heap, store = .heap heap) :
    Agree txn (db.startDeleteRecord txn record)
      ({ db with cache }.startDeleteRecord txn record) := by
  rw [startDeleteRecord, startDeleteRecord]
  cases located : record.id with
  | none => exact agree_refuse db cache rfl fun _ => by simp
  | some rid =>
      simp only
      cases named : db.storage.storeOf rid.page.table with
      | error error => exact agree_refuse db cache rfl fun _ => by simp
      | ok store =>
          obtain ⟨heap, rfl⟩ := heaps rid located store (Storage.catalog_of_storeOf named)
          simp only [startDelete, located]
          by_cases inside : rid.page.table = heap.table ∧
              rid.page.number < db.storage.heapPages heap
          · rw [if_pos inside, if_pos inside]
            exact agree_begin db cache _ _
          · rw [if_neg inside, if_neg inside]
            exact agree_refuse db cache rfl fun _ => by simp

/-- Scans are started alike. -/
lemma agree_startScan (db : Database) (cache : Cache) (heap : HeapFile) :
    Agree txn (db.startScan txn heap) ({ db with cache }.startScan txn heap) := by
  rw [startScan, startScan]
  cases db.storage.heapPages heap with
  | zero => exact agree_refuse db cache rfl fun _ => by simp
  | succ remaining => exact agree_begin db cache _ _

/-- Operations are started alike, if records are kept in heap files. -/
lemma agree_start (db : Database) (cache : Cache) (call : Call)
    (inserts : ∀ table record, call = .insert table record → ∀ store,
      db.storage.catalog[table]? = some store → ∃ heap, store = .heap heap)
    (deletes : ∀ record, call = .delete record → ∀ id, record.id = some id → ∀ store,
      db.storage.catalog[id.page.table]? = some store → ∃ heap, store = .heap heap) :
    Agree txn (db.start txn call) ({ db with cache }.start txn call) := by
  cases call with
  | fetch page mode => exact agree_begin db cache _ _
  | insert table record => exact agree_startInsertRecord db cache record (inserts table record rfl)
  | delete record => exact agree_startDeleteRecord db cache record (deletes record rfl)
  | scan heap => exact agree_startScan db cache heap

/-- Operations ask for their locks alike. -/
lemma agree_lockPage (db : Database) (cache : Cache) (aim : Aim) (waited : Bool) :
    Agree txn (db.lockPage txn level aim waited)
      ({ db with cache }.lockPage txn level aim waited) := by
  rw [lockPage, lockPage]
  cases db.locks.request txn aim.page aim.mode waited with
  | mk locks verdict =>
      cases verdict with
      | refused => exact agree_failed { db with locks } cache aim level _
      | wait => exact ⟨rfl, rfl, .parked⟩
      | granted =>
          simp only
          cases db.cache.residentFrame? aim.page <;> cases cache.residentFrame? aim.page <;>
            exact ⟨rfl, rfl, .running (.granted rfl rfl)⟩

/-- A page that is not stored is missed alike. -/
lemma agree_missing (cache : Cache) (reliable : db.storage.Reliable)
    (missing : db.storage.image? aim.page = none) :
    Agree txn (db.step (.fetching txn level aim .read))
      ({ db with cache }.step (.fetching txn level aim .read)) := by
  cases named : db.storage.storeOf aim.page.table with
  | error error =>
      have moved : ∀ cache, { db with cache }.step (.fetching txn level aim .read) =
          ({ db with cache }, .finished (aim.failed level error)) := by
        intro cache
        simp [step, loadPage, named]
      rw [moved cache, show db.step _ = _ from moved db.cache]
      exact agree_failed db cache aim level error
  | ok store =>
      obtain ⟨stored, -, read⟩ := Storage.readPage_eq reliable (Storage.catalog_of_storeOf named)
      have moved : ∀ cache, { db with cache }.step (.fetching txn level aim .read) =
          ({ db with storage := stored, cache },
            .finished (aim.failed level (Error.pageNotFound aim.page))) := by
        intro cache
        simp [step, loadPage, readPage, named, read, missing]
      rw [moved cache, show db.step _ = _ from moved db.cache]
      exact agree_failed { db with storage := stored } cache aim level _

/-! ### Moves that look at the page at hand -/

/-- Frames that show the same image are changed alike. -/
lemma mirrored_changeFrame (txn : TxnId) (same : SameImage db.cache cache id target)
    (image : Image) :
    (∃ fault, db.changeFrame txn id image = .error fault ∧
        { db with cache }.changeFrame txn target image = .error fault) ∨
      ∃ first second, db.changeFrame txn id image = .ok { db with cache := first } ∧
        { db with cache }.changeFrame txn target image = .ok { db with cache := second } ∧
        SameImage first second id target := by
  by_cases whole : image.size = (db.cache.frame id).live.size
  · have whole' : image.size = (cache.frame target).live.size := by
      rw [← same.live]
      exact whole
    refine Or.inr ⟨_, _, by rw [changeFrame, Frame.copyFrom?_of_size whole],
      by rw [changeFrame, Frame.copyFrom?_of_size whole'], ?_⟩
    exact sameImage_setFrame db.cache cache same.page rfl
  · have whole' : image.size ≠ (cache.frame target).live.size := by
      rw [← same.live]
      exact whole
    exact Or.inl ⟨.lengthMismatch, by simp [changeFrame, Frame.copyFrom?, whole],
      by simp [changeFrame, Frame.copyFrom?, whole']⟩

/-- Records are put alike into frames that show the same image. -/
lemma mirrored_tryPlace (txn : TxnId) (same : SameImage db.cache cache id target)
    (heap : HeapFile) (record : Record) :
    (∃ fault, db.tryPlace txn heap record id = .error fault ∧
        { db with cache }.tryPlace txn heap record target = .error fault) ∨
      (db.tryPlace txn heap record id = .ok none ∧
        { db with cache }.tryPlace txn heap record target = .ok none) ∨
      ∃ first second placed,
        db.tryPlace txn heap record id = .ok (some ({ db with cache := first }, placed)) ∧
        { db with cache }.tryPlace txn heap record target =
          .ok (some ({ db with cache := second }, placed)) ∧
        SameImage first second id target := by
  cases answer : heap.layout.place? (db.cache.frame id).live record.data with
  | error fault =>
      refine Or.inl ⟨fault, by simp [tryPlace, answer, bind, Except.bind], ?_⟩
      simp [tryPlace, ← same.live, answer, bind, Except.bind]
  | ok found =>
      cases found with
      | none =>
          refine Or.inr (Or.inl ⟨by simp [tryPlace, answer, bind, Except.bind, pure, Except.pure],
            ?_⟩)
          simp [tryPlace, ← same.live, answer, bind, Except.bind, pure, Except.pure]
      | some pair =>
          obtain ⟨slot, image⟩ := pair
          rcases mirrored_changeFrame txn same image with
            ⟨fault, failed, failed'⟩ | ⟨first, second, done, done', changed⟩
          · refine Or.inl ⟨fault, by simp [tryPlace, answer, failed, bind, Except.bind], ?_⟩
            simp [tryPlace, ← same.live, answer, failed', bind, Except.bind]
          · refine Or.inr (Or.inr ⟨first, second, record.placed ⟨(db.cache.frame id).page, slot⟩,
              by simp [tryPlace, answer, done, bind, Except.bind, pure, Except.pure], ?_, changed⟩)
            simp [tryPlace, ← same.live, same.page, answer, done', bind, Except.bind, pure,
              Except.pure]

/-- What a store has changed alike is reported alike. -/
lemma agree_next {first second : Cache} {change change' : Change}
    (record : change.record? = change'.record?) (single : change.pages = [id])
    (single' : change'.pages = [target]) (same : SameImage first second id target) :
    Agree txn ({ db with cache := first }, change.next txn level)
      ({ db with cache := second }, change'.next txn level) := by
  cases level with
  | store => exact ⟨rfl, rfl, .finished (sameOutcome_succeeded record single single' same)⟩
  | database =>
      refine ⟨rfl, rfl, .running (.reporting record (by rw [single, single']; rfl) ?_)⟩
      intro other listed another listed'
      rw [single, List.mem_singleton] at listed
      rw [single', List.mem_singleton] at listed'
      rw [listed, listed']
      exact same

/-- Frames that show the same image are used alike. -/
lemma agree_usePage (level : Level) (aim : Aim) (same : SameImage db.cache cache id target) :
    Agree txn (db.usePage txn level aim id) ({ db with cache }.usePage txn level aim target) := by
  cases aim with
  | hand page mode =>
      refine ⟨rfl, rfl, .finished ⟨rfl, rfl, ?_⟩⟩
      show Reply.image (some (db.cache.frame id).live) = .image (some (cache.frame target).live)
      rw [same.live]
  | probe heap record number remaining alreadyHeld =>
      simp only [usePage, ← same.live]
      cases heap.layout.firstFree? (db.cache.frame id).live with
      | error fault => exact agree_failed db cache _ level fault
      | ok free =>
          cases free with
          | some slot => exact agree_begin db cache _ level
          | none =>
              cases alreadyHeld with
              | true => exact agree_nextProbe db cache heap record _ remaining
              | false => exact agree_nextProbe (db.release txn _) cache heap record _ remaining
  | claim heap record number remaining =>
      rcases mirrored_tryPlace txn same heap record with
        ⟨fault, failed, failed'⟩ | ⟨full, full'⟩ | ⟨first, second, placed, done, done', changed⟩
      · simp only [usePage, failed, failed']
        exact agree_failed db cache _ level fault
      · simp only [usePage, full, full']
        exact agree_nextProbe db cache heap record _ remaining
      · simp only [usePage, done, done']
        exact agree_next rfl rfl rfl changed
  | fill heap record number =>
      rcases mirrored_tryPlace txn same heap record with
        ⟨fault, failed, failed'⟩ | ⟨full, full'⟩ | ⟨first, second, placed, done, done', changed⟩
      · simp only [usePage, failed, failed']
        exact agree_failed db cache _ level fault
      · simp only [usePage, full, full']
        exact agree_failed db cache _ level _
      · simp only [usePage, done, done']
        exact agree_next rfl rfl rfl changed
  | erase heap record =>
      simp only [usePage, ← same.live]
      cases heap.layout.clear? (db.cache.frame id).live record.slot with
      | error fault => exact agree_failed db cache _ level fault
      | ok cleared =>
          cases cleared with
          | none => exact agree_failed db cache _ level _
          | some image =>
              rcases mirrored_changeFrame txn same image with
                ⟨fault, failed, failed'⟩ | ⟨first, second, done, done', changed⟩
              · simp only [failed, failed']
                exact agree_failed db cache _ level fault
              · simp only [done, done']
                exact agree_next rfl rfl rfl changed
  | collect heap number remaining found =>
      simp only [usePage, ← same.live]
      cases heap.layout.contents? (db.cache.frame id).live with
      | error fault => exact agree_failed db cache _ level fault
      | ok contents =>
          cases remaining with
          | zero => exact agree_refuse db cache rfl fun _ => by simp
          | succ remaining => exact agree_begin db cache _ level

end Database

/-- A page that is fetched is still to be used. -/
lemma Stage.one_le_budget (stage : Stage) : 1 ≤ stage.budget := by
  cases stage <;> simp [budget]

namespace System

variable {storage : Storage} {allowed : Act → Prop} {s t : System} {txn : TxnId} {call : Call}
  {operation operation' : Operation} {level : Level} {aim : Aim} {stage : Stage}

/-! ### Up to the use of a page -/

/-- An operation in progress is the one that its transaction is busy with. -/
lemma phase_follow (s : System) (txn : TxnId) (call : Call) (db : Database)
    (operation : Operation) :
    (s.follow txn call (db, .running operation)).phase txn = .busy call operation :=
  Function.update_self ..

/-- What comes after a move does not depend on the phase before. -/
lemma settle_follow (s : System) (txn : TxnId) (call : Call) (db : Database)
    (operation : Operation) (turn : Database × Turn Operation Outcome) :
    (s.follow txn call (db, .running operation)).settle txn call turn =
      s.settle txn call turn :=
  settle_setPhase s db txn _ call turn

namespace Consistent

variable (ok : Consistent storage allowed s)
include ok

/-- An operation that has read its page has it at hand after one more move, or there was no
room for it. -/
lemma exists_use_of_enter {image : Image}
    (busy : s.phase txn = .busy call (.fetching txn level aim (.enter image))) :
    (Database.tell txn (s.db.resume (.fetching txn level aim (.enter image)))).isExhausted = true ∨
      ∃ cache id,
        s.db.resume (.fetching txn level aim (.enter image)) =
          { s.db with cache }.resume (.fetching txn level aim (.use id)) ∧
        Leads storage allowed txn s
          (s.follow txn call
            ({ s.db with cache }, .running (.fetching txn level aim (.use id)))) := by
  have lead := ok.enterPage busy
  rw [Database.resume_eq]
  cases there : s.db.cache.residentFrame? aim.page with
  | some id =>
      have moved : s.db.step (.fetching txn level aim (.enter image)) =
          (s.db, .running (.fetching txn level aim (.use id))) := by
        simp [Database.step, Database.enterPage, there]
      rw [moved] at lead ⊢
      exact Or.inr ⟨s.db.cache, id, rfl, lead⟩
  | none =>
      cases room : s.db.cache.makeRoom with
      | mk roomy result =>
          cases result with
          | error error =>
              obtain ⟨capacity, rfl⟩ := Cache.exists_exhausted room
              have moved : s.db.step (.fetching txn level aim (.enter image)) =
                  ({ s.db with cache := roomy },
                    .finished (aim.failed level (Error.cacheExhausted capacity))) := by
                simp [Database.step, Database.enterPage, there, room]
              rw [moved]
              exact Or.inl (Database.isExhausted_failed _ txn level aim capacity)
          | ok =>
              have moved : s.db.step (.fetching txn level aim (.enter image)) =
                  ({ s.db with cache :=
                      (roomy.newFrame (.ofImage aim.page image)).2.bringIn roomy.nextFrame },
                    .running (.fetching txn level aim (.use roomy.nextFrame))) := by
                simp [Database.step, Database.enterPage, there, room, Cache.newFrame]
              rw [moved] at lead ⊢
              exact Or.inr ⟨_, _, rfl, lead⟩

/-- An operation that was granted its lock on a stored page has it at hand after some moves, or
there was no room for it. -/
lemma exists_use (busy : s.phase txn = .busy call (.fetching txn level aim stage))
    (granted : stage.isGranted = true) (stored : s.stored? aim.page ≠ none) :
    (Database.tell txn (s.db.resume (.fetching txn level aim stage))).isExhausted = true ∨
      ∃ cache id,
        s.db.resume (.fetching txn level aim stage) =
          { s.db with cache }.resume (.fetching txn level aim (.use id)) ∧
        Leads storage allowed txn s
          (s.follow txn call
            ({ s.db with cache }, .running (.fetching txn level aim (.use id)))) := by
  cases stage with
  | lock waited => cases granted
  | use id =>
      refine Or.inr ⟨s.db.cache, id, rfl, ?_⟩
      have same : Function.update s.phase txn (.busy call (.fetching txn level aim (.use id))) =
          s.phase := by
        rw [← busy, Function.update_eq_self]
      rw [follow, System.setPhase, same]
      exact ok.leads_refl txn
  | enter image => exact ok.exists_use_of_enter busy
  | read =>
      obtain ⟨image, loaded⟩ := Option.ne_none_iff_exists'.mp stored
      obtain ⟨store, found⟩ := Storage.catalog_of_image? loaded
      -- the stores stay exactly as they are, so that the other system need not read the page
      have read := Storage.readPage_of_stored ok.reliable found loaded
      have moved : s.db.step (.fetching txn level aim .read) =
          ({ s.db with cache := s.db.cache.countRead },
            .running (.fetching txn level aim (.enter image))) := by
        simp [Database.step, Database.loadPage, Database.readPage, Storage.storeOf_eq found, read]
      have first := ok.loadPage busy
      rw [moved] at first
      rw [Database.resume_eq, moved]
      rcases first.consistent.exists_use_of_enter (phase_follow ..) with
        exhausted | ⟨cache, id, done, second⟩
      · exact Or.inl exhausted
      · refine Or.inr ⟨cache, id, done, first.trans ?_⟩
        have same := follow_setPhase s { s.db with cache := s.db.cache.countRead } txn
          (.busy call (.fetching txn level aim (.enter image))) call
          ({ s.db with cache }, .running (.fetching txn level aim (.use id)))
        rw [← same]
        exact second

/-- A transaction fetches pages for itself. -/
lemma fetches_itself {other : TxnId}
    (busy : s.phase txn = .busy call (.fetching other level aim stage)) : other = txn := by
  obtain ⟨-, serves⟩ := ok.serves busy
  cases serves with
  | lock pursues => rfl
  | read pursues covers => rfl
  | enter pursues covers loaded => rfl
  | use pursues hand => rfl

/-- An operation that was granted its lock on a page that is not stored is about to read it. -/
lemma stage_of_missing (busy : s.phase txn = .busy call (.fetching txn level aim stage))
    (granted : stage.isGranted = true) (missing : s.stored? aim.page = none) : stage = .read := by
  obtain ⟨-, serves⟩ := ok.serves busy
  cases serves with
  | lock pursues => cases granted
  | read pursues covers => rfl
  | enter pursues covers loaded =>
      rw [missing] at loaded
      cases loaded
  | use pursues hand =>
      have before := hand.before
      rw [missing] at before
      cases before

/-- Frames that two transactions have at hand show the same image. -/
lemma sameImage (ok' : Consistent storage allowed t) (mirror : Mirror s t) {id target : FrameId}
    (busy : s.phase txn = .busy call (.fetching txn level aim (.use id)))
    (busy' : t.phase txn = .busy call (.fetching txn level aim (.use target))) :
    SameImage s.db.cache t.db.cache id target := by
  obtain ⟨-, serves⟩ := ok.serves busy
  obtain ⟨-, serves'⟩ := ok'.serves busy'
  cases serves with
  | use pursues hand =>
      cases serves' with
      | use pursues' hand' => exact hand.sameImage hand' mirror

end Consistent

/-! ### Whole turns -/

/-- Two turns of an operation tell the same and leave systems that differ in their caches alone,
unless one of them found no room in its cache. -/
def SameTurn (s t : System) (txn : TxnId) (call : Call)
    (turn turn' : Database × Turn Operation Outcome) : Prop :=
  (Database.tell txn turn).isExhausted = true ∨ (Database.tell txn turn').isExhausted = true ∨
    Database.tell txn turn = Database.tell txn turn' ∧
      Mirror (s.settle txn call turn) (t.settle txn call turn')

/-- A turn that goes on after moves that were the same is the same. -/
lemma SameTurn.of_follow {db db' : Database} {next next' : Operation}
    {turn turn' : Database × Turn Operation Outcome}
    (rest : SameTurn (s.follow txn call (db, .running next))
      (t.follow txn call (db', .running next')) txn call turn turn') :
    SameTurn s t txn call turn turn' := by
  rw [SameTurn, settle_follow, settle_follow] at rest
  exact rest

/-- The databases of two systems that differ in their caches alone do so. -/
lemma Mirror.db_eq (mirror : Mirror s t) : t.db = { s.db with cache := t.db.cache } := by
  show t.db = ⟨s.db.storage, t.db.cache, s.db.locks⟩
  rw [mirror.storage, mirror.locks]

/-- What two transactions are busy with is the same. -/
lemma Mirror.doing (mirror : Mirror s t) (busy : s.phase txn = .busy call operation)
    (busy' : t.phase txn = .busy call operation') :
    operation.Mirrors s.db.cache t.db.cache operation' := by
  have phase := mirror.phase txn
  rw [busy, busy'] at phase
  cases phase with
  | busy mirrors => exact mirrors

/-- After moves that agree, operations do the same if they do so from then on. -/
lemma Mirror.proceed (mirror : Mirror s t) (ok : Consistent storage allowed s)
    (ok' : Consistent storage allowed t) {move move' : Database × Progress}
    (lead : Leads storage allowed txn s (s.follow txn call move))
    (lead' : Leads storage allowed txn t (t.follow txn call move'))
    (agree : Database.Agree txn move move')
    (go_on : ∀ db db' next next', move = (db, .running next) → move' = (db', .running next') →
      Mirror (s.follow txn call move) (t.follow txn call move') →
        SameTurn (s.follow txn call move) (t.follow txn call move') txn call (db.resume next)
          (db'.resume next')) :
    SameTurn s t txn call (move.1.proceed move.2) (move'.1.proceed move'.2) := by
  have together := mirror.follow ok ok' lead lead' agree
  obtain ⟨db, progress⟩ := move
  obtain ⟨db', progress'⟩ := move'
  cases agree.progress with
  | parked => exact Or.inr (Or.inr ⟨rfl, together⟩)
  | finished same => exact Or.inr (Or.inr ⟨congrArg Turn.finished same.reply, together⟩)
  | running mirrors =>
      exact (go_on _ _ _ _ rfl rfl together).of_follow

/-- Operations with a budget below the bound do the same. -/
def SameBelow (storage : Storage) (allowed : Act → Prop) (txn : TxnId) (call : Call)
    (bound : Nat) : Prop :=
  ∀ (s t : System) (operation operation' : Operation), operation.budget < bound →
    Mirror s t → Consistent storage allowed s → Consistent storage allowed t →
    s.phase txn = .busy call operation → t.phase txn = .busy call operation' →
    (s.db.resume operation).1.storage.Countable →
      SameTurn s t txn call (s.db.resume operation) (t.db.resume operation')

/-- Operations do the same if their next moves agree. -/
lemma Mirror.resume_of_agree (mirror : Mirror s t) (ok : Consistent storage allowed s)
    (ok' : Consistent storage allowed t) (busy : s.phase txn = .busy call operation)
    (busy' : t.phase txn = .busy call operation')
    (room : (s.db.resume operation).1.storage.Countable)
    (below : SameBelow storage allowed txn call operation.budget)
    (agree : Database.Agree txn (s.db.step operation) (t.db.step operation')) :
    SameTurn s t txn call (s.db.resume operation) (t.db.resume operation') := by
  have room_now : s.db.storage.Countable := (Database.grows_resume ..).countable room
  have lead := ok.step busy fun _ _ _ => room_now
  have lead' := ok'.step busy' fun _ _ _ => by
    rw [← mirror.storage]
    exact room_now
  rw [Database.resume_eq] at room
  rw [Database.resume_eq, Database.resume_eq]
  refine mirror.proceed ok ok' lead lead' agree fun db db' next next' moved moved' together => ?_
  have less := Database.budget_of_step moved
  rw [moved] at room lead together ⊢
  rw [moved'] at lead' together ⊢
  exact below _ _ next next' less together lead.consistent lead'.consistent (phase_follow ..)
    (phase_follow ..) room

/-- Operations that were granted the lock on the same page do the same, whichever page is resident
where, unless there is no room for it. -/
lemma Mirror.resume_granted (mirror : Mirror s t) (ok : Consistent storage allowed s)
    (ok' : Consistent storage allowed t) {stage' : Stage}
    (busy : s.phase txn = .busy call (.fetching txn level aim stage))
    (busy' : t.phase txn = .busy call (.fetching txn level aim stage'))
    (here : stage.isGranted = true) (there : stage'.isGranted = true)
    (room : (s.db.resume (.fetching txn level aim stage)).1.storage.Countable)
    (below : SameBelow storage allowed txn call (Operation.fetching txn level aim stage).budget) :
    SameTurn s t txn call (s.db.resume (.fetching txn level aim stage))
      (t.db.resume (.fetching txn level aim stage')) := by
  have stored_eq : t.stored? aim.page = s.stored? aim.page := by
    show t.db.storage.image? aim.page = s.db.storage.image? aim.page
    rw [mirror.storage]
  by_cases missing : s.stored? aim.page = none
  · cases ok.stage_of_missing busy here missing
    cases ok'.stage_of_missing busy' there (stored_eq.trans missing)
    refine mirror.resume_of_agree ok ok' busy busy' room below ?_
    rw [mirror.db_eq]
    exact Database.agree_missing t.db.cache ok.reliable missing
  · rcases ok.exists_use busy here missing with exhausted | ⟨cache, id, done, lead⟩
    · exact Or.inl exhausted
    rcases ok'.exists_use busy' there (by rw [stored_eq]; exact missing) with
      exhausted | ⟨cache', target, done', lead'⟩
    · exact Or.inr (Or.inl exhausted)
    -- both have the page at hand now, with the same image, so that their next moves agree
    have together := mirror.step_to ok ok' lead lead' mirror.locks mirror.storage mirror.history
      rfl rfl (.busy (.granted rfl rfl))
    have same := lead.consistent.sameImage lead'.consistent together (phase_follow ..)
      (phase_follow ..)
    rw [done] at room ⊢
    rw [done']
    have left : (Operation.fetching txn level aim (.use id)).budget ≤
        (Operation.fetching txn level aim stage).budget :=
      Nat.add_le_add_left stage.one_le_budget aim.budget
    refine (together.resume_of_agree lead.consistent lead'.consistent (phase_follow ..)
      (phase_follow ..) room (fun s t next next' less =>
        below s t next next' (Nat.lt_of_lt_of_le less left)) ?_).of_follow
    rw [together.db_eq]
    exact Database.agree_usePage level aim same

/-- An operation that reports its change has changed a single page, which it has to itself. -/
lemma Consistent.exists_window (ok : Consistent storage allowed s) {other : TxnId}
    {change : Change} {pages : List FrameId}
    (busy : s.phase txn = .busy call (.reporting other change pages)) :
    ∃ id, other = txn ∧ change.pages = [id] ∧ (pages = [id] ∨ pages = []) ∧ Window s txn id := by
  obtain ⟨-, serves⟩ := ok.serves busy
  cases serves with
  | report window single effect => exact ⟨_, rfl, single, Or.inl rfl, window⟩
  | reported window single effect there owner => exact ⟨_, rfl, single, Or.inr rfl, window⟩

/-- Operations that report the same change do the same, unless there is no room for the page. -/
lemma Mirror.resume_reporting (mirror : Mirror s t) (ok : Consistent storage allowed s)
    (ok' : Consistent storage allowed t) {change change' : Change} {pages pages' : List FrameId}
    {other : TxnId} (busy : s.phase txn = .busy call (.reporting other change pages))
    (busy' : t.phase txn = .busy call (.reporting other change' pages'))
    (record : change.record? = change'.record?) (length : pages.length = pages'.length)
    (same : ∀ id ∈ change.pages, ∀ target ∈ change'.pages,
      SameImage s.db.cache t.db.cache id target)
    (room : (s.db.resume (.reporting other change pages)).1.storage.Countable)
    (below : SameBelow storage allowed txn call (Operation.reporting other change pages).budget) :
    SameTurn s t txn call (s.db.resume (.reporting other change pages))
      (t.db.resume (.reporting other change' pages')) := by
  obtain ⟨id, rfl, single, stage, window⟩ := ok.exists_window busy
  obtain ⟨target, -, single', stage', window'⟩ := ok'.exists_window busy'
  have here : SameImage s.db.cache t.db.cache id target :=
    same id (by rw [single]; exact List.mem_singleton_self id) target
      (by rw [single']; exact List.mem_singleton_self target)
  rcases stage with rfl | rfl <;> rcases stage' with rfl | rfl
  · rcases Cache.exists_markDirty other window.alone with
      ⟨marked, done, frame, -⟩ | ⟨smaller, capacity, failed, -⟩
    · rcases Cache.exists_markDirty other window'.alone with
        ⟨marked', done', frame', -⟩ | ⟨smaller, capacity, failed', -⟩
      · refine mirror.resume_of_agree ok ok' busy busy' room below ?_
        simp only [Database.step, Database.markDirty, done, done']
        refine ⟨mirror.locks, mirror.storage, .running (.reporting record rfl ?_)⟩
        intro first listed second listed'
        rw [single, List.mem_singleton] at listed
        rw [single', List.mem_singleton] at listed'
        subst listed
        subst listed'
        constructor
        · rw [frame, frame']
          exact here.page
        · rw [frame, frame']
          exact here.live
      · refine Or.inr (Or.inl ?_)
        rw [Database.resume_eq]
        simp only [Database.step, Database.markDirty, failed']
        exact Database.isExhausted_unreported _ other change' capacity
    · refine Or.inl ?_
      rw [Database.resume_eq]
      simp only [Database.step, Database.markDirty, failed]
      exact Database.isExhausted_unreported _ other change capacity
  · cases length
  · cases length
  · exact mirror.resume_of_agree ok ok' busy busy' room below ⟨mirror.locks, mirror.storage,
      .finished (Database.sameOutcome_succeeded record single single' here)⟩

/-- An operation that goes on until it is parked or finished does the same in two systems that
differ in their caches alone, unless there is no room in one of them. -/
theorem Mirror.resume (mirror : Mirror s t) (ok : Consistent storage allowed s)
    (ok' : Consistent storage allowed t) (busy : s.phase txn = .busy call operation)
    (busy' : t.phase txn = .busy call operation')
    (room : (s.db.resume operation).1.storage.Countable) :
    SameTurn s t txn call (s.db.resume operation) (t.db.resume operation') := by
  -- the induction bounds the budget of the first operation only: the second one may make more
  -- moves up to the use of a page, or fewer
  have all : ∀ bound, SameBelow storage allowed txn call bound := by
    intro bound
    induction bound with
    | zero => exact fun _ _ _ _ less => absurd less (Nat.not_lt_zero _)
    | succ bound ih =>
        intro s t operation operation' less mirror ok ok' busy busy' room
        have below : SameBelow storage allowed txn call operation.budget :=
          fun s t next next' less' => ih s t next next' (by omega)
        have mirrors := mirror.doing busy busy'
        cases mirrors with
        | asking =>
            cases ok.fetches_itself busy
            refine mirror.resume_of_agree ok ok' busy busy' room below ?_
            rw [mirror.db_eq]
            exact Database.agree_lockPage ..
        | granted here there =>
            cases ok.fetches_itself busy
            exact mirror.resume_granted ok ok' busy busy' here there room below
        | reporting record length same =>
            exact mirror.resume_reporting ok ok' busy busy' record length same room below
  exact all (operation.budget + 1) s t operation operation' (Nat.lt_succ_self _) mirror ok ok' busy
    busy' room

end System

end PageTxn
