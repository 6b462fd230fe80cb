import PageTxn.Proofs.Residency
import PageTxn.Proofs.System

/-!
Databases at work: what holds of the cache whatever happens.

* `Works` says that a move has advanced the cache and goes on with page objects that have been
  made; `works_step` and `works_start` prove it of every move and every start of an operation.
* A `Workload` is a database with any number of operations in progress, also several of one
  transaction. A `Deed` starts an operation, lets one of those in progress make one indivisible
  move, makes, overwrites or reports a page object, flushes, discards, releases or ends, or
  comes from outside and changes the stores.
* `Workload.Represented` is what the cache promises: no more resident pages than its capacity,
  a queue of just these pages without repetitions, a page object of its own under each page,
  and no second page object for a page that became resident while it was read.
* `represented_run`: it is so after any deeds in any order.
-/

namespace PageTxn

/-- The page objects that an operation goes on with have been made. -/
def Operation.Made (next : FrameId) : Operation → Prop
  | .fetching _ _ _ (.use id) => id < next
  | .fetching .. => True
  | .reporting _ _ pages => ∀ id ∈ pages, id < next

/-- The page objects with which to go on after a move have been made. -/
def Progress.Made (next : FrameId) : Progress → Prop
  | .running operation | .parked operation => operation.Made next
  | .finished _ => True

lemma Operation.Made.mono {operation : Operation} {next later : FrameId}
    (made : operation.Made next) (le : next ≤ later) : operation.Made later := by
  cases operation with
  | reporting txn change pages =>
      exact fun id listed => Nat.lt_of_lt_of_le (made id listed) le
  | fetching txn level aim stage =>
      cases stage with
      | use id => exact Nat.lt_of_lt_of_le made le
      | lock waited => trivial
      | read => trivial
      | enter image => trivial

/-- What a store changed has been made, and is reported next. -/
lemma Change.made_next {change : Change} {txn : TxnId} {level : Level} {next : FrameId}
    (made : ∀ id ∈ change.pages, id < next) : (change.next txn level).Made next := by
  cases level with
  | store => trivial
  | database => exact made

namespace Database

open Cache

variable {db later : Database} {txn : TxnId} {level : Level} {id : FrameId}

/-- The cache has advanced, and the operation goes on with page objects that have been made. -/
structure Works (db : Database) (moved : Database × Progress) : Prop where
  advances : moved.1.cache.Advances db.cache
  made : moved.2.Made moved.1.cache.nextFrame

/-- An operation that ends goes on with no page object. -/
lemma works_finished {outcome : Outcome} (advances : later.cache.Advances db.cache) :
    db.Works (later, .finished outcome) := ⟨advances, trivial⟩

/-- An operation that asks for its next page has no page object yet. -/
lemma works_start_aim (aim : Aim) (advances : later.cache.Advances db.cache) :
    db.Works (later, aim.start txn level) := ⟨advances, trivial⟩

/-! ### Moves of an operation -/

lemma works_lockPage (orderly : db.cache.Orderly) (aim : Aim) (waited : Bool) :
    db.Works (db.lockPage txn level aim waited) := by
  rw [lockPage]
  split
  · split
    · next id there => exact ⟨.of_stats _ _, orderly.made _ _ there⟩
    · exact ⟨.of_stats _ _, trivial⟩
  · exact works_finished (.refl _)
  · exact ⟨.refl _, trivial⟩

lemma works_nextProbe (heap : HeapFile) (record : Record) (number remaining : Nat) :
    db.Works (db.nextProbe txn level heap record number remaining) := by
  cases remaining with
  | zero => exact works_start_aim _ (.refl _)
  | succ remaining => exact works_start_aim _ (.refl _)

/-- A record that was put into a page is reported by its page object. -/
lemma advances_tryPlace {heap : HeapFile} {record placed : Record}
    (done : db.tryPlace txn heap record id = .ok (some (later, placed))) :
    later.cache.Advances db.cache := by
  obtain ⟨slot, image, -, changed, -⟩ := changeFrame_of_tryPlace done
  exact advances_changeFrame changed

lemma works_usePage (aim : Aim) (made : id < db.cache.nextFrame) :
    db.Works (db.usePage txn level aim id) := by
  have single : ∀ {later : Database}, later.cache.Advances db.cache →
      ∀ other ∈ [id], other < later.cache.nextFrame := by
    intro later advances other here
    rw [List.mem_singleton.mp here]
    exact Nat.lt_of_lt_of_le made advances.nextFrame
  cases aim with
  | hand page mode => exact works_finished (.refl _)
  | probe heap record number remaining alreadyHeld =>
      simp only [usePage]
      split
      · exact works_finished (.refl _)
      · exact works_start_aim _ (.refl _)
      · -- a lock that is given back does not show in the cache
        cases alreadyHeld with
        | true => exact works_nextProbe ..
        | false =>
            have next : (db.release txn (heap.page number)).Works
                ((db.release txn (heap.page number)).nextProbe txn level heap record (number + 1)
                  remaining) := works_nextProbe ..
            exact ⟨next.advances, next.made⟩
  | claim heap record number remaining =>
      simp only [usePage]
      split
      · exact works_finished (.refl _)
      · next placed =>
        have advances := advances_tryPlace placed
        exact ⟨advances, Change.made_next (single advances)⟩
      · exact works_nextProbe ..
  | fill heap record number =>
      simp only [usePage]
      split
      · exact works_finished (.refl _)
      · next placed =>
        have advances := advances_tryPlace placed
        exact ⟨advances, Change.made_next (single advances)⟩
      · exact works_finished (.refl _)
  | erase heap record =>
      simp only [usePage]
      split
      · exact works_finished (.refl _)
      · exact works_finished (.refl _)
      · split
        · exact works_finished (.refl _)
        · next changed =>
          have advances := advances_changeFrame changed
          exact ⟨advances, Change.made_next (single advances)⟩
  | collect heap number remaining found =>
      simp only [usePage]
      split
      · exact works_finished (.refl _)
      · cases remaining with
        | zero => exact works_finished (.refl _)
        | succ remaining => exact works_start_aim _ (.refl _)

/-- Every move of an operation advances the cache. -/
theorem works_step {operation : Operation} (orderly : db.cache.Orderly)
    (made : operation.Made db.cache.nextFrame) : db.Works (db.step operation) := by
  cases operation with
  | fetching txn level aim stage =>
      cases stage with
      | lock waited => exact works_lockPage orderly aim waited
      | use id => exact works_usePage aim made
      | read =>
          have loaded := db.advances_loadPage aim.page
          rw [step]
          split
          · next moved => exact ⟨by rw [moved] at loaded; exact loaded, trivial⟩
          · next moved => exact works_finished (by rw [moved] at loaded; exact loaded)
      | enter image =>
          have entered := db.advances_enterPage aim.page image
          rw [step]
          split
          · next moved =>
            exact ⟨by rw [moved] at entered; exact entered, made_enterPage orderly moved⟩
          · next moved => exact works_finished (by rw [moved] at entered; exact entered)
  | reporting txn change pages =>
      cases pages with
      | nil => exact works_finished (.refl _)
      | cons id rest =>
          have reported : (db.markDirty txn id).1.cache.Advances db.cache :=
            advances_markDirty (made id List.mem_cons_self)
          rw [step]
          split
          · next moved =>
            rw [moved] at reported
            exact ⟨reported, fun other listed =>
              Nat.lt_of_lt_of_le (made other (List.mem_cons_of_mem _ listed)) reported.nextFrame⟩
          · next moved => exact works_finished (by rw [moved] at reported; exact reported)

/-! ### Starts of operations -/

/-- What a memory store changes it changes on page objects of its own. -/
lemma advances_changeEach (db : Database) (store : Store) (change : Image → Image)
    (pages : List PageId) :
    (db.changeEach store change pages).1.cache.Advances db.cache ∧
      ∀ ids, (db.changeEach store change pages).2 = .ok ids →
        ∀ id ∈ ids, id < (db.changeEach store change pages).1.cache.nextFrame := by
  induction pages generalizing db with
  | nil =>
      refine ⟨.refl _, fun ids done id listed => ?_⟩
      cases done
      cases listed
  | cons page rest ih =>
      have read := db.advances_readPage store page
      rw [changeEach]
      split
      · next middle failure moved =>
        rw [moved] at read
        exact ⟨read, fun ids done => by cases done⟩
      · next middle image moved =>
        rw [moved] at read
        have fresh := Advances.newFrame middle.cache (.ofImage page (change image))
        have rest_done := ih { middle with
          cache := (middle.cache.newFrame (.ofImage page (change image))).2 }
        dsimp only [newFrame] at fresh rest_done ⊢
        split
        · next last failure moved =>
          rw [moved] at rest_done
          exact ⟨rest_done.1.trans (fresh.trans read), fun ids done => by cases done⟩
        · next last ids moved =>
          rw [moved] at rest_done
          obtain ⟨advances, made⟩ := rest_done
          refine ⟨advances.trans (fresh.trans read), fun others equal => ?_⟩
          cases equal
          intro id listed
          rcases List.mem_cons.mp listed with rfl | inside
          · exact Nat.lt_of_lt_of_le (Nat.lt_succ_self _) advances.nextFrame
          · exact made ids rfl id inside

lemma works_startInsert (db : Database) (store : Store) (record : Record) :
    db.Works (db.startInsert txn level store record) := by
  cases store with
  | heap heap =>
      simp only [startInsert]
      split
      · exact works_nextProbe ..
      · exact works_finished (.refl _)
  | memory table id =>
      simp only [startInsert, changeTargets]
      split
      · next changed =>
        obtain ⟨advances, made⟩ := db.advances_changeEach (.memory table id) _ _
        rw [changed] at advances made
        exact ⟨advances, Change.made_next (made _ rfl)⟩
      · next changed =>
        obtain ⟨advances, -⟩ := db.advances_changeEach (.memory table id) _ _
        rw [changed] at advances
        exact works_finished advances

lemma works_startDelete (db : Database) (store : Store) (record : Record) :
    db.Works (db.startDelete txn level store record) := by
  cases store with
  | heap heap =>
      simp only [startDelete]
      split
      · exact works_finished (.refl _)
      · split
        · exact works_start_aim _ (.refl _)
        · exact works_finished (.refl _)
  | memory table id =>
      simp only [startDelete, changeTargets]
      split
      · next changed =>
        obtain ⟨advances, made⟩ := db.advances_changeEach (.memory table id) _ _
        rw [changed] at advances made
        exact ⟨advances, Change.made_next (made _ rfl)⟩
      · next changed =>
        obtain ⟨advances, -⟩ := db.advances_changeEach (.memory table id) _ _
        rw [changed] at advances
        exact works_finished advances

/-- The start of an operation advances the cache. -/
theorem works_start (db : Database) (call : Call) : db.Works (db.start txn call) := by
  cases call with
  | fetch page mode => exact works_start_aim _ (.refl _)
  | insert table record =>
      rw [start, startInsertRecord]
      split
      · exact works_startInsert ..
      · exact works_finished (.refl _)
  | delete record =>
      rw [start, startDeleteRecord]
      split
      · exact works_finished (.refl _)
      · split
        · exact works_startDelete ..
        · exact works_finished (.refl _)
  | scan heap =>
      rw [start, startScan]
      split
      · exact works_finished (.refl _)
      · exact works_start_aim _ (.refl _)

end Database

/-! ### Workloads -/

/-- A database at work. -/
structure Workload where
  db : Database
  /-- The operations in progress. -/
  running : List Operation
  /-- The results of those that have returned, the latest first. -/
  returned : List Outcome

/-- What may happen to a database at work. -/
inductive Deed where
  /-- A transaction calls an operation. -/
  | call (txn : TxnId) (call : Call)
  /-- A store is asked directly to insert a record. -/
  | insertInto (txn : TxnId) (store : Store) (record : Record)
  /-- A store is asked directly to delete a record. -/
  | deleteFrom (txn : TxnId) (store : Store) (record : Record)
  /-- One of the operations in progress makes one move. -/
  | move (place : Nat)
  /-- Someone makes a page object of a page. -/
  | make (page : PageId) (image : Image)
  /-- Someone overwrites the image of a page object. -/
  | overwrite (id : FrameId) (image : Image)
  /-- A transaction reports a page object dirty. -/
  | markDirty (txn : TxnId) (id : FrameId)
  | flushPage (page : PageId)
  | flushHeld (txn : TxnId)
  | flushAll
  | discard (page : PageId)
  | release (txn : TxnId) (page : PageId)
  | complete (txn : TxnId) (commit : Bool)
  /-- The stores come to hold something else, or to fail. -/
  | outside (storage : Storage)

namespace Workload

variable {w : Workload} {place : Nat} {capacity : Nat}

/-- An empty cache over some stores, and no operation in progress. -/
def initial (storage : Storage) (capacity : Nat) (capacity_pos : 0 < capacity) : Workload :=
  ⟨⟨storage, .empty capacity capacity_pos, .empty⟩, [], []⟩

/-- Go on after the start of an operation. -/
def begin (w : Workload) : Database × Progress → Workload
  | (db, .running operation) | (db, .parked operation) =>
      { w with db, running := w.running ++ [operation] }
  | (db, .finished outcome) => { w with db, returned := outcome :: w.returned }

/-- Go on after a move of an operation. -/
def proceed (w : Workload) (place : Nat) : Database × Progress → Workload
  | (db, .running operation) | (db, .parked operation) =>
      { w with db, running := w.running.set place operation }
  | (db, .finished outcome) =>
      ⟨db, w.running.eraseIdx place, outcome :: w.returned⟩

/-- Let one thing happen. Only page objects that have been made can be overwritten or
reported. -/
def act (w : Workload) : Deed → Workload
  | .call txn call => w.begin (w.db.start txn call)
  | .insertInto txn store record => w.begin (w.db.startInsert txn .store store record)
  | .deleteFrom txn store record => w.begin (w.db.startDelete txn .store store record)
  | .move place =>
      match w.running[place]? with
      | some operation => w.proceed place (w.db.step operation)
      | none => w
  | .make page image =>
      { w with db := { w.db with cache := (w.db.cache.newFrame (.ofImage page image)).2 } }
  | .overwrite id image =>
      match (w.db.cache.frame id).copyFrom? image with
      | .ok frame => { w with db := { w.db with cache := w.db.cache.setFrame id frame } }
      | .error _ => w
  | .markDirty txn id =>
      if id < w.db.cache.nextFrame then { w with db := (w.db.markDirty txn id).1 } else w
  | .flushPage page => { w with db := (w.db.flushPage page).1 }
  | .flushHeld txn => { w with db := (w.db.flushHeld txn).1 }
  | .flushAll => { w with db := w.db.flushAll.1 }
  | .discard page => { w with db := w.db.discard page }
  | .release txn page => { w with db := w.db.release txn page }
  | .complete txn commit => { w with db := (w.db.complete txn commit).1 }
  | .outside storage => { w with db := { w.db with storage } }

/-- Let one thing happen after the other. -/
def run (w : Workload) (deeds : List Deed) : Workload := deeds.foldl act w

/-- The cache is exact, and the operations in progress go on with page objects that have been
made. -/
structure Sane (capacity : Nat) (w : Workload) : Prop where
  exact : w.db.cache.Exact
  capacity : w.db.cache.capacity = capacity
  made : ∀ operation ∈ w.running, operation.Made w.db.cache.nextFrame

lemma sane_initial (storage : Storage) (capacity : Nat) (capacity_pos : 0 < capacity) :
    (initial storage capacity capacity_pos).Sane capacity :=
  ⟨Cache.exact_empty capacity capacity_pos, rfl, fun operation inside => by cases inside⟩

namespace Sane

variable (sane : w.Sane capacity)
include sane

/-- Whatever advances the cache keeps the workload sane. -/
lemma advance {db : Database} (advances : db.cache.Advances w.db.cache) :
    { w with db }.Sane capacity :=
  ⟨advances.exact sane.exact, advances.capacity.trans sane.capacity,
    fun operation inside => (sane.made operation inside).mono advances.nextFrame⟩

lemma begin {moved : Database × Progress} (works : w.db.Works moved) :
    (w.begin moved).Sane capacity := by
  obtain ⟨db, progress⟩ := moved
  have advanced := sane.advance works.advances
  have added : ∀ operation, operation.Made db.cache.nextFrame →
      { w with db, running := w.running ++ [operation] }.Sane capacity := by
    intro operation made
    refine ⟨advanced.exact, advanced.capacity, fun other inside => ?_⟩
    rcases List.mem_append.mp inside with before | last
    · exact advanced.made other before
    · rw [List.mem_singleton.mp last]
      exact made
  cases progress with
  | running operation => exact added operation works.made
  | parked operation => exact added operation works.made
  | finished outcome => exact ⟨advanced.exact, advanced.capacity, advanced.made⟩

lemma proceed {moved : Database × Progress} (works : w.db.Works moved) :
    (w.proceed place moved).Sane capacity := by
  obtain ⟨db, progress⟩ := moved
  have advanced := sane.advance works.advances
  have replaced : ∀ operation, operation.Made db.cache.nextFrame →
      { w with db, running := w.running.set place operation }.Sane capacity := by
    intro operation made
    refine ⟨advanced.exact, advanced.capacity, fun other inside => ?_⟩
    rcases List.mem_or_eq_of_mem_set inside with before | rfl
    · exact advanced.made other before
    · exact made
  cases progress with
  | running operation => exact replaced operation works.made
  | parked operation => exact replaced operation works.made
  | finished outcome =>
      exact ⟨advanced.exact, advanced.capacity,
        fun other inside => advanced.made other (List.mem_of_mem_eraseIdx inside)⟩

/-- Whatever happens keeps the workload sane. -/
theorem act (deed : Deed) : (w.act deed).Sane capacity := by
  cases deed with
  | call txn call => exact sane.begin (w.db.works_start call)
  | insertInto txn store record => exact sane.begin (w.db.works_startInsert store record)
  | deleteFrom txn store record => exact sane.begin (w.db.works_startDelete store record)
  | move place =>
      rw [Workload.act]
      split
      · next operation there =>
        exact sane.proceed (Database.works_step sane.exact.toOrderly
          (sane.made operation (List.mem_of_getElem? there)))
      · exact sane
  | make page image => exact sane.advance (.newFrame _ _)
  | overwrite id image =>
      rw [Workload.act]
      split
      · next frame taken => exact sane.advance (.setFrame (Frame.page_of_copyFrom? taken))
      · exact sane
  | markDirty txn id =>
      rw [Workload.act]
      split
      · next made => exact sane.advance (Cache.advances_markDirty made)
      · exact sane
  | flushPage page => exact sane.advance (w.db.advances_flushPage page)
  | flushHeld txn => exact sane.advance (w.db.advances_flushEach _)
  | flushAll => exact sane.advance (w.db.advances_flushEach _)
  | discard page => exact sane.advance (w.db.cache.advances_discard page)
  | release txn page => exact sane.advance (.refl _)
  | complete txn commit => exact sane.advance (w.db.advances_complete txn commit)
  | outside storage => exact sane.advance (.refl _)

/-- Whatever happens one after the other keeps the workload sane. -/
theorem run (deeds : List Deed) : (w.run deeds).Sane capacity := by
  induction deeds generalizing w with
  | nil => exact sane
  | cons deed rest ih => exact ih (sane.act deed)

end Sane

/-! ### What the cache promises -/

/-- What the cache promises about the resident pages, and about a page that has become resident
while it was read from its store. -/
structure Represented (capacity : Nat) (w : Workload) : Prop where
  /-- There are no more resident pages than the capacity allows. -/
  bounded : w.db.cache.size ≤ capacity
  /-- No page is queued twice. -/
  nodup : w.db.cache.queue.order.Nodup
  /-- The queued pages are the resident ones. -/
  queued : ∀ page, page ∈ w.db.cache.queue.order ↔ w.db.cache.isResident page = true
  /-- The page object under a page is one of this page. -/
  page : ∀ page id, w.db.cache.residentFrame? page = some id → (w.db.cache.frame id).page = page
  /-- If a page has become resident while an operation has read it, the operation takes the
  resident page object, and database and other operations stay as they are. -/
  taken : ∀ place txn level aim image id,
    w.running[place]? = some (.fetching txn level aim (.enter image)) →
      w.db.cache.residentFrame? aim.page = some id →
        w.act (.move place) =
          { w with running := w.running.set place (.fetching txn level aim (.use id)) }
  /-- A fetch returns the page object that it has taken, and the database stays as it is. -/
  handed : ∀ place txn level page mode id,
    w.running[place]? = some (.fetching txn level (.hand page mode) (.use id)) →
      w.act (.move place) =
        ⟨w.db, w.running.eraseIdx place, .fetched (.ok id) :: w.returned⟩

/-- What the cache promises holds after any deeds in any order: any fetches, inserts, deletes and
scans, move by move, any reports, flushes, discards, releases and ends, and any change of the
stores from outside. -/
theorem represented_run (storage : Storage) (capacity : Nat) (capacity_pos : 0 < capacity)
    (deeds : List Deed) :
    ((initial storage capacity capacity_pos).run deeds).Represented capacity := by
  have sane := (sane_initial storage capacity capacity_pos).run deeds
  set w := (initial storage capacity capacity_pos).run deeds
  refine ⟨?_, sane.exact.nodup, fun page => sane.exact.mem_order_iff, sane.exact.page,
    fun place txn level aim image id entering there => ?_,
    fun place txn level page mode id using_ => ?_⟩
  · rw [← sane.capacity]
    exact sane.exact.bounded
  · simp only [act, entering, Database.step, Database.enterPage, there, proceed]
  · simp only [act, using_, Database.step, Database.usePage, proceed]

/-- With room for a single page: two transactions read the same page, and both are handed the page
object that the first one has brought in. -/
theorem represented_run_race :
    let page : PageId := ⟨⟨1⟩, 0⟩
    let storage := ((Storage.empty ⟨2, by decide⟩).addMemory (.zeroed ⟨1⟩ 2 2 [])).2.register
      (.memory ⟨1⟩ 0)
    let deeds : List Deed :=
      [.call ⟨1⟩ (.fetch page .shared), .call ⟨2⟩ (.fetch page .shared), .move 0, .move 1, .move 0,
        .move 1, .move 0, .move 1, .move 1, .move 0]
    let w := (initial storage 1 (by decide)).run deeds
    w.returned.map (fun | .fetched (.ok id) => some id | _ => none) = [some 0, some 0] ∧
      w.db.cache.stats.read = 2 ∧ w.Represented 1 := by
  intro page storage deeds w
  have handed : w.returned.map (fun | .fetched (.ok id) => some id | _ => none) =
      [some 0, some 0] := by decide +kernel
  have read : w.db.cache.stats.read = 2 := by decide +kernel
  -- the run need not be evaluated again
  clear_value deeds
  exact ⟨handed, read, represented_run storage 1 (by decide) deeds⟩

end Workload

end PageTxn
