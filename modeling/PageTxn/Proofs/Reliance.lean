import PageTxn.Proofs.Deference

/-!
On which images the transactions may rely, also if stores fail.

* `Database.Finds`, `Trusts` and `Assumes` say on which images a transaction relies at a stage of a
  fetch, in an operation and in a phase: a page that was read has no unwritten changes and is still
  stored so, a page at hand is what the database shows, and under an exclusive lock its before-image
  is stored.
* `proceeds_step`, `proceeds_start`: an operation that relies on that defers to the locks of the
  others at every move and at its start, and may rely on it then.
-/

namespace PageTxn

/-- The page object that the next move of an operation may change. -/
def Operation.changed? : Operation → Option FrameId
  | fetching _ _ (.claim ..) (.use id) => some id
  | fetching _ _ (.fill ..) (.use id) => some id
  | fetching _ _ (.erase ..) (.use id) => some id
  | reporting _ _ (id :: _) => some id
  | _ => none

namespace Database

variable {stuck : TxnId → Prop} {db later : Database} {own : PageId → Option LockMode}
  {txn actor : TxnId} {page : PageId} {id : FrameId} {image : Image} {call : Call} {level : Level}
  {aim : Aim}

/-! ### What a transaction relies on -/

/-- What a fetch has found out so far. -/
def Finds (db : Database) (aim : Aim) : Stage → Prop
  | .lock _ => True
  | .read => db.Calm aim.page
  | .enter image => db.Calm aim.page ∧ db.storage.image? aim.page = some image
  | .use id => db.shown? aim.page = some (db.cache.frame id).live ∧
      (aim.mode = .exclusive → db.Rooted id)

/-- What an operation in progress relies on. -/
def Trusts (db : Database) : Operation → Prop
  | .fetching _ _ aim stage => db.Finds aim stage
  | .reporting _ _ ids => ∀ id ∈ ids, db.Rooted id

/-- What a transaction relies on in its phase. -/
def Assumes (db : Database) : Phase → Prop
  | .ready | .gone => True
  | .holding _ mode id => mode = .exclusive → db.Rooted id
  | .changing id => db.Rooted id
  | .busy _ operation => db.Trusts operation

section Deferred

variable (defers : Defers own db later)
  (apart : ∀ page, own page = some .exclusive → db.locks.table.modeOf? txn page = none)
  (alone : ∀ page, db.locks.table.modeOf? txn page = some .exclusive → own page = none)
include defers alone

lemma Rooted.deferred (claims : db.Claims txn id) (rooted : db.Rooted id) : later.Rooted id :=
  defers.rooted id claims.made (alone _ claims.lock) rooted

include apart

/-- A step that defers to the locks leaves to another transaction what a fetch has found out. -/
lemma Finds.deferred {stage : Stage} (grounded : db.Grounded)
    (closed : ∀ page, db.locks.table.modeOf? txn page ≠ none → db.Closed page)
    (reaches : db.Reaches txn aim stage) (finds : db.Finds aim stage) : later.Finds aim stage := by
  have weak : db.locks.table.modeOf? txn aim.page ≠ none → own aim.page ≠ some .exclusive :=
    fun held exclusive => held (apart _ exclusive)
  cases stage with
  | lock waited => trivial
  | read => exact defers.calm _ (weak reaches.1) finds
  | enter image =>
      obtain ⟨calm, stored⟩ := finds
      exact ⟨defers.calm _ (weak reaches.1.1) calm,
        defers.stored _ _ (weak reaches.1.1) calm stored⟩
  | use id =>
      obtain ⟨shown, rooted⟩ := finds
      have held : db.locks.table.modeOf? txn aim.page ≠ none := reaches.covers.1
      have same := defers.live id reaches.made (by rw [reaches.shows]; exact weak held)
      refine ⟨?_, fun exclusive => ?_⟩
      · rw [same]
        exact defers.shown _ _ (weak held) grounded (closed _ held) shown
      · refine defers.rooted id reaches.made (alone _ ?_) (rooted exclusive)
        rw [reaches.shows]
        exact reaches.covers.2 exclusive

/-- A step that defers to the locks leaves to another transaction what it assumes. -/
lemma Assumes.deferred {phase : Phase} (grounded : db.Grounded)
    (closed : ∀ call operation, phase = .busy call operation →
      ∀ page, db.locks.table.modeOf? txn page ≠ none → db.Closed page)
    (respects : db.Respects txn phase) (assumes : db.Assumes phase) : later.Assumes phase := by
  cases phase with
  | ready => trivial
  | gone => trivial
  | changing id => exact Rooted.deferred defers alone respects assumes
  | holding page mode id =>
      rintro rfl
      exact Rooted.deferred defers alone (Holds.claims respects) (assumes rfl)
  | busy call operation =>
      cases operation with
      | reporting other change ids =>
          exact fun id listed => (assumes id listed).deferred defers alone (respects.2 id listed)
      | fetching other level aim stage =>
          exact Finds.deferred defers apart alone grounded (closed _ _ rfl) respects.2.2 assumes

end Deferred

/-! ### Operations -/

/-- A move defers to the locks, and leaves the transaction in a phase in which it may rely on what
it assumes. -/
structure Proceeds (own : PageId → Option LockMode) (call : Call) (db : Database)
    (moved : Database × Progress) : Prop where
  defers : Defers own db moved.1
  assumes : moved.1.Assumes (moved.2.phase call)

lemma proceeds_finished {outcome : Outcome} (defers : Defers own db later)
    (nothing : ∀ id, outcome ≠ .fetched (.ok id)) :
    Proceeds own call db (later, .finished outcome) := by
  refine ⟨defers, ?_⟩
  rw [Progress.phase, Phase.after_eq_ready call nothing]
  trivial

lemma proceeds_failed (aim : Aim) (failure : Failure) (defers : Defers own db later) :
    Proceeds own call db (later, .finished (aim.failed level failure)) :=
  proceeds_finished defers (aim.failed_ne_fetched level failure)

lemma proceeds_aim (defers : Defers own db later) :
    Proceeds own call db (later, aim.start txn level) :=
  ⟨defers, trivial⟩

lemma proceeds_next {change : Change} (defers : Defers own db later) (rooted : later.Rooted id)
    (single : change.pages = [id]) : Proceeds own call db (later, change.next txn level) := by
  cases level with
  | store => exact proceeds_finished defers fun id => by cases change <;> simp [Change.succeeded]
  | database =>
      refine ⟨defers, fun other listed => ?_⟩
      rw [single] at listed
      cases List.mem_singleton.mp listed
      exact rooted

section Moves

variable (guarded : db.Guarded stuck) (grounded : db.Grounded)

include grounded in
/-- Once the lock is granted, a page that is resident is shown, and any other page has no unwritten
changes. -/
lemma proceeds_lockPage (waited : Bool) :
    Proceeds own call db (db.lockPage txn level aim waited) := by
  rw [lockPage]
  split
  · next locks granted =>
    split
    · next id there =>
      refine ⟨defers_of_stats db locks _, ?_, fun _ => grounded _ id there⟩
      exact shown?_of_resident there
    · next absent =>
      refine ⟨defers_of_stats db locks _, fun id there => ?_⟩
      cases absent.symm.trans there
  · exact proceeds_failed aim _ (defers_of_stats db _ db.cache.stats)
  · exact ⟨defers_of_stats db _ db.cache.stats, trivial⟩

include guarded

/-- What is read is the stored image. -/
lemma proceeds_loadPage (calm : db.Calm aim.page) :
    Proceeds own call db (db.step (.fetching txn level aim .read)) := by
  rw [step, loadPage]
  cases named : db.storage.storeOf aim.page.table with
  | error error => exact proceeds_failed aim _ (.refl own db)
  | ok store =>
      obtain ⟨writes, loaded⟩ :
          Storage.Writes [] (db.storage.readPage store aim.page).1 db.storage ∧ _ :=
        Storage.writes_readPage guarded.separate (Storage.catalog_of_storeOf named)
      simp only [readPage]
      cases read : db.storage.readPage store aim.page with
      | mk stored result =>
          rw [read] at writes loaded
          have done : Defers own db { db with storage := stored } := defers_of_writes writes
          cases result with
          | error error => exact proceeds_failed aim _ done
          | ok answer =>
              obtain ⟨image, other⟩ := answer
              obtain ⟨rfl, there⟩ := loaded image other rfl
              have counted : Defers own db
                  { db with storage := stored, cache := db.cache.countRead } :=
                done.trans (defers_of_stats _ db.locks _)
              refine ⟨counted, calm, ?_⟩
              exact (writes.untouched _ List.not_mem_nil (by simp [there])).image.trans there

include grounded

/-- A page that was read is brought in as it is stored. -/
lemma proceeds_enterPage (stored : db.storage.image? aim.page = some image) :
    Proceeds own call db (db.step (.fetching txn level aim (.enter image))) := by
  rw [step, enterPage]
  cases there : db.cache.residentFrame? aim.page with
  | some id =>
      exact ⟨.refl own db, shown?_of_resident there, fun _ => grounded _ id there⟩
  | none =>
      have shrinks := db.cache.shrinks_makeRoom
      cases room : db.cache.makeRoom with
      | mk roomy result =>
          rw [room] at shrinks
          have roomed : Defers own db { db with cache := roomy } :=
            defers_of_shrinks guarded.orderly shrinks
          cases result with
          | error error => exact proceeds_failed aim _ roomed
          | ok =>
              have absent : roomy.residentFrame? aim.page = none := by
                rcases shrinks.resident aim.page with same | ⟨gone, -⟩
                · exact same.trans there
                · exact gone
              have frame : ((roomy.newFrame (.ofImage aim.page image)).2.bringIn
                  roomy.nextFrame).frame roomy.nextFrame = .ofImage aim.page image :=
                (Cache.frame_newFrame ..).trans (if_pos rfl)
              have now : ((roomy.newFrame (.ofImage aim.page image)).2.bringIn
                  roomy.nextFrame).residentFrame? aim.page = some roomy.nextFrame := by
                rw [Cache.residentFrame?_bringIn, if_pos]
                exact congrArg Frame.page frame
              refine ⟨roomed.trans (defers_enter absent stored
                (shrinks.orderly guarded.orderly)), shown?_of_resident now, fun _ => ?_⟩
              rw [Rooted]
              simp only [Cache.newFrame] at frame ⊢
              rw [frame]
              exact stored

omit grounded

/-- An insert goes on with the next page, or with a new one. -/
lemma proceeds_nextProbe {heap : HeapFile} {record : Record} (number remaining : Nat)
    (registered : db.Registered heap) (room : db.storage.Countable) :
    Proceeds own call db (db.nextProbe txn level heap record number remaining) := by
  cases remaining with
  | zero =>
      obtain ⟨table, found⟩ := registered
      exact proceeds_aim (defers_of_writes
        (Storage.writes_appendPage guarded.separate found (room table heap found)))
  | succ remaining => exact proceeds_aim (.refl own db)

/-- A record is put into a page that is locked exclusively. -/
lemma defers_tryPlace {heap : HeapFile} {record placed : Record}
    (locked : own (db.cache.frame id).page = some .exclusive) (rooted : db.Rooted id)
    (done : db.tryPlace txn heap record id = .ok (some (later, placed))) :
    Defers own db later ∧ later.Rooted id := by
  obtain ⟨slot, image, -, changed, -⟩ := changeFrame_of_tryPlace done
  have changes := defers_changeFrame guarded.orderly locked changed
  exact ⟨changes.1, changes.2 rooted⟩

/-- The operation uses the page that it has at hand. -/
lemma proceeds_usePage (pursues : db.Pursues actor call aim)
    (rooted : aim.mode = .exclusive → db.Rooted id)
    (locked : (Operation.fetching txn level aim (.use id)).changed? = some id →
      own (db.cache.frame id).page = some .exclusive)
    (room : db.storage.Countable) : Proceeds own call db (db.usePage txn level aim id) := by
  have same : Defers own db db := .refl own db
  cases aim with
  | hand page mode =>
      rw [show call = .fetch page mode from pursues]
      exact ⟨same, rooted⟩
  | probe heap record number remaining alreadyHeld =>
      simp only [usePage]
      split
      · exact proceeds_failed _ _ same
      · exact proceeds_aim same
      · cases alreadyHeld with
        | true => exact proceeds_nextProbe guarded (number + 1) remaining pursues.1 room
        | false =>
            obtain ⟨released, next⟩ : Defers own db (db.release txn (heap.page number)) ∧
                Proceeds own call db (db.nextProbe txn level heap record (number + 1) remaining) :=
              ⟨defers_of_stats db _ db.cache.stats,
                proceeds_nextProbe guarded (number + 1) remaining pursues.1 room⟩
            cases remaining with
            | zero => exact ⟨released.trans (defers_of_writes
                (Storage.writes_appendPage guarded.separate pursues.1.choose_spec
                  (room _ heap pursues.1.choose_spec))), trivial⟩
            | succ remaining => exact ⟨released, trivial⟩
  | claim heap record number remaining =>
      simp only [usePage]
      split
      · exact proceeds_failed _ _ same
      · next placed =>
        obtain ⟨defers, rooted⟩ := defers_tryPlace guarded (locked rfl) (rooted rfl) placed
        exact proceeds_next defers rooted rfl
      · exact proceeds_nextProbe guarded (number + 1) remaining pursues room
  | fill heap record number =>
      simp only [usePage]
      split
      · exact proceeds_failed _ _ same
      · next placed =>
        obtain ⟨defers, rooted⟩ := defers_tryPlace guarded (locked rfl) (rooted rfl) placed
        exact proceeds_next defers rooted rfl
      · exact proceeds_failed _ _ same
  | erase heap record =>
      simp only [usePage]
      split
      · exact proceeds_failed _ _ same
      · exact proceeds_failed _ _ same
      · split
        · exact proceeds_failed _ _ same
        · next changed =>
          obtain ⟨defers, keeps⟩ := defers_changeFrame guarded.orderly (locked rfl) changed
          exact proceeds_next defers (keeps (rooted rfl)) rfl
  | collect heap number remaining found =>
      simp only [usePage]
      split
      · exact proceeds_failed _ _ same
      · cases remaining with
        | zero => exact proceeds_finished same fun _ => by simp
        | succ remaining => exact proceeds_aim same

/-- The changed pages are reported. -/
lemma proceeds_reporting {change : Change} {ids : List FrameId}
    (rooted : ∀ id ∈ ids, db.Rooted id)
    (locked : ∀ id, (Operation.reporting txn change ids).changed? = some id →
      own (db.cache.frame id).page = some .exclusive) :
    Proceeds own call db (db.step (.reporting txn change ids)) := by
  cases ids with
  | nil =>
      exact proceeds_finished (.refl own db) fun id => by
        cases change <;> simp [Change.succeeded]
  | cons id rest =>
      have reported := defers_markDirty txn guarded.orderly (rooted id List.mem_cons_self)
        (locked id rfl)
      have kept := fun other listed =>
        (rooted other (List.mem_cons_of_mem id listed)).markDirty txn id
      rw [step]
      split
      · next moved =>
        rw [moved] at reported kept
        exact ⟨reported, kept⟩
      · next failure moved =>
        rw [moved] at reported
        refine proceeds_finished reported fun target => ?_
        cases change <;> cases failure <;> simp [Change.failed, Level.failedInsert]

include grounded

/-- Every move of an operation defers to the locks of the others; it must have the page locked
exclusively whose page object it may change. -/
theorem proceeds_step {operation : Operation} (allows : db.Allows actor call operation)
    (trusts : db.Trusts operation) (locked : ∀ id, operation.changed? = some id →
      own (db.cache.frame id).page = some .exclusive)
    (room : db.storage.Countable) : Proceeds own call db (db.step operation) := by
  cases operation with
  | fetching txn level aim stage =>
      obtain ⟨rfl, pursues, reaches⟩ := allows
      cases stage with
      | lock waited => exact proceeds_lockPage grounded waited
      | read => exact proceeds_loadPage guarded trusts
      | enter image => exact proceeds_enterPage guarded grounded trusts.2
      | use id => exact proceeds_usePage guarded pursues trusts.2 (locked id) room
  | reporting txn change ids => exact proceeds_reporting guarded trusts locked

omit grounded

/-- Operations that work on pages and heap files defer to the locks from their start on. -/
theorem proceeds_start
    (inserts : ∀ table record, call = .insert table record → ∀ store : Store,
      db.storage.catalog[table]? = some store → ∃ heap, store = .heap heap)
    (deletes : ∀ record id, call = .delete record → record.id = some id → ∀ store : Store,
      db.storage.catalog[id.page.table]? = some store → ∃ heap, store = .heap heap)
    (room : db.storage.Countable) : Proceeds own call db (db.start txn call) := by
  have same : Defers own db db := .refl own db
  cases call with
  | fetch page mode => exact proceeds_aim same
  | insert table record =>
      rw [start, startInsertRecord]
      split
      · next store named =>
        have found := Storage.catalog_of_storeOf named
        obtain ⟨heap, rfl⟩ := inserts table record rfl store found
        simp only [startInsert]
        split
        · exact proceeds_nextProbe guarded 0 _ ⟨table, found⟩ room
        · exact proceeds_finished same fun _ => by simp [Level.failedInsert]
      · exact proceeds_finished same fun _ => by simp
  | delete record =>
      rw [start, startDeleteRecord]
      split
      · exact proceeds_finished same fun _ => by simp
      · next id located =>
        split
        · next store named =>
          obtain ⟨heap, rfl⟩ :=
            deletes record id rfl located store (Storage.catalog_of_storeOf named)
          simp only [startDelete, located]
          split
          · exact proceeds_aim same
          · exact proceeds_finished same fun _ => by simp
        · exact proceeds_finished same fun _ => by simp
  | scan heap =>
      rw [start, startScan]
      split
      · exact proceeds_finished same fun _ => by simp
      · exact proceeds_aim same

end Moves

end Database

end PageTxn
