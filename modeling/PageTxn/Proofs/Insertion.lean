import Mathlib.Algebra.GroupWithZero.Nat
import PageTxn.Proofs.Course

/-!
What an insert that fails leaves behind.

* `Database.Searches` lists what an insert does with a page at hand (`searches_usePage`): it
  claims the page, goes on to the next one, or puts its record there (`Database.Lands`).
* `Database.Preserves` says that no existing page shows anything else, is owned by anybody else or
  is stored otherwise, and that new pages are zeroed.
* `Database.Unplaced` is the invariant of an insert that has not put its record anywhere: one move
  of it preserves the data and keeps the invariant, or it lands (`Unplaced.moves`).
* `Database.Landed` is the invariant after that: an insert that has landed does not fail
  (`Landed.of_course`).
* `failed_insert_preserves`: so all moves of an insert that fails preserve the data, and together
  they append one page at most.
-/

namespace PageTxn

/-- The number of the page that an insert looks at, and how many pages follow it. -/
def Aim.left? : Aim → Option (Nat × Nat)
  | probe _ _ number remaining _ | claim _ _ number remaining => some (number, remaining)
  | _ => none

/-- How many pages may still be appended. -/
def Progress.appends : Progress → Nat
  | running (.fetching _ _ aim _) | parked (.fetching _ _ aim _) =>
      if aim.left?.isSome then 1 else 0
  | _ => 0

lemma appends_le_one (progress : Progress) : progress.appends ≤ 1 := by
  unfold Progress.appends
  split
  · split <;> omega
  · split <;> omega
  · exact Nat.zero_le 1

namespace Database

variable {db middle later : Database} {size : PageSize} {txn : TxnId} {level : Level}
  {heap : HeapFile} {record : Record} {page : PageId} {id : FrameId} {aim : Aim}
  {moved : Database × Progress}

/-! ### A page at hand -/

/-- A page that is shown has no free slot. -/
def Full (db : Database) (heap : HeapFile) (page : PageId) : Prop :=
  ∃ image, db.shown? page = some image ∧ heap.layout.firstFree? image = .ok none

/-- The record was put into the first free slot of a page that the transaction holds
exclusively. -/
inductive Lands (db : Database) (txn : TxnId) (level : Level) (heap : HeapFile) (record : Record)
    (page : PageId) : Database × Progress → Prop
  | intro {later : Database} {slot : Nat} {before image : Image} {id : FrameId}
      (held : db.locks.table.modeOf? txn page = some .exclusive)
      (there : db.cache.residentFrame? page = some id) (shown : db.shown? page = some before)
      (placed : heap.layout.place? before record.data = .ok (some (slot, image)))
      (puts : Puts txn page image later db) :
      db.Lands txn level heap record page
        (later, (Change.insertion (record.placed ⟨page, slot⟩) [id]).next txn level)

/-- What an insert does with the page at hand. -/
inductive Searches (db : Database) (txn : TxnId) (level : Level) (heap : HeapFile)
    (record : Record) : Aim → Database × Progress → Prop
  | free {number remaining : Nat} {alreadyHeld : Bool} :
      db.Searches txn level heap record (.probe heap record number remaining alreadyHeld)
        (db, (Aim.claim heap record number remaining).start txn level)
  | full {aim : Aim} {number remaining : Nat} {locks : LockManager}
      (left : aim.left? = some (number, remaining)) (full : db.Full heap (heap.page number)) :
      db.Searches txn level heap record aim
        (nextProbe { db with locks } txn level heap record (number + 1) remaining)
  | overfull {number : Nat} {failure : Failure} (full : db.Full heap (heap.page number)) :
      db.Searches txn level heap record (.fill heap record number)
        (db, .finished (level.failedInsert record failure))
  | lands {aim : Aim} {moved : Database × Progress}
      (lands : db.Lands txn level heap record aim.page moved) :
      db.Searches txn level heap record aim moved

/-- A record is put into a resident page that the transaction holds, or the page is full. -/
lemma lands_tryPlace (sized : db.Sized size) (opened : heap.OpenedUnder size)
    (whole : record.data.size = heap.layout.recordSize)
    (held : db.locks.table.modeOf? txn page = some .exclusive)
    (there : db.cache.residentFrame? page = some id) (level : Level) :
    db.Full heap page ∧ db.tryPlace txn heap record id = .ok none ∨
      ∃ later placed, db.tryPlace txn heap record id = .ok (some (later, placed)) ∧
        db.Lands txn level heap record page
          (later, (Change.insertion placed [id]).next txn level) := by
  have shown := shown?_of_resident there
  have fits := sized.fits (sized.exact.made page id there) opened
  rcases exists_tryPlace fits whole txn with
    ⟨free, tried⟩ | ⟨later, image, placed, same, -, tried⟩
  · exact .inl ⟨⟨_, shown, free⟩, tried⟩
  · obtain ⟨slot, image, done, changed, rfl⟩ := changeFrame_of_tryPlace tried
    refine .inr ⟨later, _, tried, ?_⟩
    rw [sized.exact.page page id there]
    exact .intro held there shown done (puts_changeFrame sized.exact.toOrderly there changed)

/-- What an insert does with a page that its transaction has fetched. -/
lemma searches_usePage (sized : db.Sized size) (opened : heap.OpenedUnder size)
    (whole : record.data.size = heap.layout.recordSize)
    (inserts : aim.insert? = some (heap, record)) (locked : db.Locked txn aim)
    (there : db.cache.residentFrame? aim.page = some id) (level : Level) :
    db.Searches txn level heap record aim (db.usePage txn level aim id) := by
  cases aim with
  | hand page mode => cases inserts
  | erase heap id => cases inserts
  | collect heap number remaining found => cases inserts
  | probe heap record number remaining alreadyHeld =>
      cases inserts
      have fits := sized.fits (sized.exact.made _ id there) opened
      obtain ⟨found, free⟩ := SlotLayout.exists_firstFree fits
      simp only [usePage, free]
      cases found with
      | some slot => exact .free
      | none =>
          have full : db.Full heap (heap.page number) := ⟨_, shown?_of_resident there, free⟩
          cases alreadyHeld with
          | true => exact .full rfl full
          | false => exact .full rfl full
  | claim heap record number remaining =>
      cases inserts
      rcases lands_tryPlace sized opened whole (locked rfl) there level with
        ⟨full, tried⟩ | ⟨later, placed, tried, lands⟩
      · simp only [usePage, tried]
        exact .full rfl full
      · simp only [usePage, tried]
        exact .lands lands
  | fill heap record number =>
      cases inserts
      rcases lands_tryPlace sized opened whole (locked rfl) there level with
        ⟨full, tried⟩ | ⟨later, placed, tried, lands⟩
      · simp only [usePage, tried]
        exact .overfull full
      · simp only [usePage, tried]
        exact .lands lands

/-! ### Data that are preserved -/

/-- No page that existed shows anything else, carries the changes of anybody else or is stored
otherwise. Pages that are new are zeroed. -/
structure Preserves (later earlier : Database) : Prop where
  tables : later.storage.SameTables earlier.storage
  stored : ∀ page, later.storage.image? page = earlier.storage.image? page ∨
    earlier.storage.image? page = none ∧
      later.storage.image? page = some (.zeros earlier.storage.pageSize.bytes)
  shown : ∀ page, later.shown? page = earlier.shown? page ∨
    earlier.shown? page = none ∧
      later.shown? page = some (.zeros earlier.storage.pageSize.bytes)
  owner : ∀ page, later.owner? page = earlier.owner? page

lemma Rests.preserves (rests : later.Rests db) : later.Preserves db where
  tables := by rw [rests.storage]; exact ⟨rfl, rfl⟩
  stored page := by rw [rests.storage]; exact .inl rfl
  shown page := .inl (rests.shown page)
  owner := rests.owner

/-- A file takes some bytes of a page behind its last one. -/
lemma preserves_appendPart {length : Nat} (room : db.storage.pages heap < UInt32.size)
    (part : length ≤ db.storage.pageSize.bytes) (locks : LockManager) :
    Preserves { db with locks, storage := db.storage.appendPart heap length } db where
  tables := ⟨rfl, rfl⟩
  stored := Storage.image?_appendPart room part
  shown page := by
    rw [shown?, shown?]
    cases db.cache.residentFrame? page with
    | none => exact Storage.image?_appendPart room part page
    | some id => exact .inl rfl
  owner page := rfl

namespace Preserves

/-- What was preserved by one step after the other. -/
lemma trans (h : later.Preserves middle) (h' : middle.Preserves db) : later.Preserves db where
  tables := h.tables.trans h'.tables
  stored page := by
    rcases h'.stored page with same | ⟨absent, zeroed⟩
    · rw [← same, ← h'.tables.pageSize]
      exact h.stored page
    · rcases h.stored page with kept | ⟨missing, -⟩
      · exact .inr ⟨absent, kept.trans zeroed⟩
      · rw [zeroed] at missing
        cases missing
  shown page := by
    rcases h'.shown page with same | ⟨absent, zeroed⟩
    · rw [← same, ← h'.tables.pageSize]
      exact h.shown page
    · rcases h.shown page with kept | ⟨missing, -⟩
      · exact .inr ⟨absent, kept.trans zeroed⟩
      · rw [zeroed] at missing
        cases missing
  owner page := (h.owner page).trans (h'.owner page)

/-- Zeroed pages have no records. -/
lemma records_eq (preserves : later.Preserves db) (opened : db.storage.Opened) :
    later.records = db.records := by
  funext id
  have tables : ∀ image, later.storage.payloadIn image id = db.storage.payloadIn image id := by
    intro image
    rw [Storage.payloadIn, Storage.payloadIn, preserves.tables.catalog]
  rw [records, records]
  rcases preserves.shown id.page with same | ⟨absent, zeroed⟩
  · rw [same]
    exact Option.bind_congr fun image _ => tables image
  · rw [absent, zeroed, Option.bind_some, Option.bind_none, tables]
    exact Storage.payloadIn_zeros opened id

end Preserves

/-! ### Looking for a place -/

/-- The images have the length of a page, clean pages show what is stored, and the file is the store
of its table. -/
structure Fit (size : PageSize) (heap : HeapFile) (db : Database) : Prop where
  sized : db.Sized size
  faithful : db.Faithful
  registered : db.storage.catalog[heap.table]? = some (.heap heap)

lemma Fit.opened (fit : db.Fit size heap) : heap.OpenedUnder size := by
  have opened := fit.sized.storage.opened heap.table heap fit.registered
  rwa [fit.sized.storage.pageSize] at opened

/-- An insert has not put its record into any page. -/
inductive Unplaced (db : Database) (txn : TxnId) (level : Level) (heap : HeapFile)
    (record : Record) : Progress → Prop
  | running {aim : Aim} {stage : Stage} (inserts : aim.insert? = some (heap, record))
      (known : db.AtStage txn aim stage) :
      db.Unplaced txn level heap record (.running (.fetching txn level aim stage))
  | parked {aim : Aim} {waited : Bool} (inserts : aim.insert? = some (heap, record)) :
      db.Unplaced txn level heap record (.parked (.fetching txn level aim (.lock waited)))
  | failed {failure : Failure} {kept : Record} :
      db.Unplaced txn level heap record (.finished (.inserted (.error failure) kept))

/-- The data are preserved, and the insert goes on without having put its record anywhere. The pages
that were appended and those that may still be are as many as the insert may append. -/
structure Roams (size : PageSize) (db : Database) (txn : TxnId) (level : Level) (heap : HeapFile)
    (record : Record) (allowed : Nat) (moved : Database × Progress) : Prop where
  preserves : moved.1.Preserves db
  fit : moved.1.Fit size heap
  unplaced : moved.1.Unplaced txn level heap record moved.2
  pages : moved.1.storage.pages heap - db.storage.pages heap + moved.2.appends ≤ allowed

lemma unplaced_failedInsert (failure : Failure) :
    db.Unplaced txn level heap record (.finished (level.failedInsert record failure)) := by
  cases level <;> cases failure <;> exact .failed

lemma unplaced_failed (inserts : aim.insert? = some (heap, record)) (failure : Failure) :
    db.Unplaced txn level heap record (.finished (aim.failed level failure)) := by
  cases aim with
  | hand page mode => cases inserts
  | erase heap id => cases inserts
  | collect heap number remaining found => cases inserts
  | probe heap record number remaining alreadyHeld =>
      cases inserts
      exact unplaced_failedInsert failure
  | claim heap record number remaining =>
      cases inserts
      exact unplaced_failedInsert failure
  | fill heap record number =>
      cases inserts
      exact unplaced_failedInsert failure

/-- The pages of an insert are those of its file. -/
lemma table_of_insert (inserts : aim.insert? = some (heap, record)) :
    aim.page.table = heap.table := by
  cases aim <;> cases inserts <;> rfl

/-- An insert goes on to its next page, or appends one. -/
lemma roams_nextProbe (fit : db.Fit size heap)
    (room : db.storage.pages heap < UInt32.size) {locks : LockManager} {number remaining : Nat}
    (comes : db.Comes (nextProbe { db with locks } txn level heap record number remaining) moved) :
    Roams size db txn level heap record 1 moved := by
  have locked : Rests { db with locks } db := fit.faithful.rests_of_stats locks db.cache.stats
  have sized : Sized size { db with locks } := fit.sized.of_stats locks db.cache.stats
  cases remaining with
  | succ remaining =>
      cases comes.eq fun _ _ _ _ _ same => by cases same
      exact ⟨locked.preserves, ⟨sized, locked.faithful, fit.registered⟩, .running rfl trivial,
        by simp [nextProbe, Aim.start, Progress.appends, Aim.left?]⟩
  | zero =>
      have appended : ∀ length ≤ db.storage.pageSize.bytes,
          Preserves { db with locks, storage := db.storage.appendPart heap length } db ∧
          Fit size heap { db with locks, storage := db.storage.appendPart heap length } ∧
          (db.storage.appendPart heap length).pages heap - db.storage.pages heap ≤ 1 := by
        intro length part
        have preserves := preserves_appendPart room part locks
        have pages := Storage.pages_appendPart_le room part
        refine ⟨preserves, ⟨⟨⟨fit.sized.storage.pageSize, fit.sized.storage.opened,
          fit.sized.storage.memory⟩, fit.sized.cache, fit.sized.exact⟩, ?_, fit.registered⟩,
          by omega⟩
        -- what a clean page shows is stored, and stays so
        intro page id there clean
        have stored := fit.faithful page id there clean
        rcases preserves.stored page with same | ⟨absent, -⟩
        · exact same.trans stored
        · rw [absent] at stored
          cases stored
      cases comes with
      | asModelled =>
          obtain ⟨preserves, fits, pages⟩ := appended _ (Nat.le_refl _)
          exact ⟨preserves, fits, .running rfl trivial, pages⟩
      | unappended cause part =>
          obtain ⟨preserves, fits, pages⟩ := appended _ part
          exact ⟨preserves, fits, unplaced_failedInsert _, pages⟩

/-- One move of an insert, as modelled, keeps the lengths. It belongs to the fetch of a page, or
uses the page. -/
theorem Fit.step (fit : db.Fit size heap) (whole : record.data.size = heap.layout.recordSize)
    (inserts : aim.insert? = some (heap, record)) {stage : Stage}
    (known : db.AtStage txn aim stage) (level : Level) :
    (db.step (.fetching txn level aim stage)).1.Sized size ∧
      (db.Fetched txn level aim (db.step (.fetching txn level aim stage)) ∨
        db.Searches txn level heap record aim (db.step (.fetching txn level aim stage))) := by
  have found : db.storage.catalog[aim.page.table]? = some (.heap heap) := by
    rw [table_of_insert inserts]
    exact fit.registered
  have aims : aim.Sized size := by
    cases aim <;> cases inserts <;> exact ⟨fit.opened, whole⟩
  refine ⟨known.sized_step fit.sized found aims level, ?_⟩
  by_cases used : ∃ id, stage = .use id
  · obtain ⟨id, rfl⟩ := used
    exact .inr (searches_usePage fit.sized fit.opened whole inserts known.1 known.2 level)
  · exact .inl (fetched_step fit.faithful fit.sized.exact.toOrderly found known
      (fun id same => used ⟨id, same⟩) level)

/-- One move of an insert that has not put its record anywhere: the data are preserved, or the
record is put into the page at hand. -/
theorem Unplaced.moves {operation : Operation} (fit : db.Fit size heap)
    (whole : record.data.size = heap.layout.recordSize)
    (unplaced : db.Unplaced txn level heap record (.running operation))
    (room : 0 < (Progress.running operation).appends → db.storage.pages heap < UInt32.size)
    (moves : db.Moves operation moved) :
    Roams size db txn level heap record (Progress.running operation).appends moved ∨
      moved.1.Sized size ∧ ∃ page, db.Lands txn level heap record page moved := by
  cases unplaced with
  | @running aim stage inserts known =>
  have same : db.Rests db := fit.faithful.rests_of_stats db.locks db.cache.stats
  cases moves with
  | unread cause =>
      exact .inl ⟨same.preserves, fit, unplaced_failed inserts _, by simp [Progress.appends]⟩
  | step comes =>
      obtain ⟨sized, step⟩ := fit.step whole inserts known level
      generalize db.step (.fetching txn level aim stage) = result at sized step comes
      rcases step with fetched | searches
      · -- a page that is fetched leaves no trace
        have unappended : moved = result := by
          refine comes.eq fun _ _ _ _ _ same => ?_
          cases fetched with
          | next rests known asked =>
              cases same
              exact asked false rfl
          | parked rests => cases same
          | refused rests refusal => cases same
        subst unappended
        have kept : ∀ {later : Database}, later.Rests db → later.Sized size →
            later.Fit size heap := fun rests sized =>
          ⟨sized, rests.faithful, by rw [rests.storage]; exact fit.registered⟩
        refine .inl ?_
        cases fetched with
        | next rests known asked =>
            exact ⟨rests.preserves, kept rests sized, .running inserts known,
              by simp [Progress.appends, rests.storage]⟩
        | parked rests =>
            exact ⟨rests.preserves, kept rests sized, .parked inserts,
              by simp [Progress.appends, rests.storage]⟩
        | refused rests refusal =>
            exact ⟨rests.preserves, kept rests sized, unplaced_failed inserts _,
              by simp [Progress.appends, rests.storage]⟩
      · -- the page is at hand
        cases searches with
        | free =>
            cases comes.eq fun _ _ _ _ _ same => by cases same
            exact .inl ⟨same.preserves, fit, .running rfl trivial,
              by simp [Progress.appends, Aim.start, Aim.left?]⟩
        | full left full =>
            have may : (Progress.running (.fetching txn level aim stage)).appends = 1 := by
              simp [Progress.appends, left]
            rw [may] at room ⊢
            exact .inl (roams_nextProbe fit (room Nat.one_pos) comes)
        | overfull full =>
            cases comes.eq fun _ _ _ _ _ same => by cases same
            exact .inl ⟨same.preserves, fit, unplaced_failedInsert _, by simp [Progress.appends]⟩
        | lands lands =>
            have landed : moved = result := by
              refine comes.eq fun _ _ _ _ _ same => ?_
              cases lands
              cases level <;> cases same
            subst landed
            exact .inr ⟨sized, _, lands⟩

/-! ### After the record was put into a page -/

/-- The record was put into a page that is resident, and the insert reports it or has returned. -/
inductive Landed (db : Database) : Progress → Prop
  | reporting {txn : TxnId} {record : Record} {ids pages : List FrameId}
      (there : ∀ id ∈ pages, db.cache.residentFrame? (db.cache.frame id).page = some id) :
      db.Landed (.running (.reporting txn (.insertion record ids) pages))
  | done {ids : List FrameId} {record : Record} :
      db.Landed (.finished (.inserted (.ok ids) record))

lemma Lands.landed (lands : db.Lands txn level heap record page moved)
    (sized : moved.1.Sized size) : moved.1.Landed moved.2 := by
  cases lands with
  | @intro later slot before image id held there shown placed puts =>
      cases level with
      | store => exact .done
      | database =>
          refine .reporting fun other here => ?_
          rw [List.mem_singleton.mp here]
          have resident := (puts.resident page).trans there
          rw [sized.exact.page page id resident]
          exact resident

/-- To report a resident page does not fail. -/
lemma Landed.moves {operation : Operation} (landed : db.Landed (.running operation))
    (moves : db.Moves operation moved) : moved.1.Landed moved.2 := by
  cases landed with
  | @reporting txn record ids pages there =>
      cases moves with
      | step comes =>
          cases pages with
          | nil =>
              cases comes.eq fun _ _ _ _ _ same => by cases same
              exact .done
          | cons id rest =>
              have marked : db.markDirty txn id = ({ db with
                  cache := db.cache.setFrame id ((db.cache.frame id).mark txn) }, .ok ()) := by
                rw [Database.markDirty,
                  Cache.markDirty_of_resident (there id List.mem_cons_self)]
              rw [step, marked] at comes
              cases comes.eq fun _ _ _ _ _ same => by cases same
              refine .reporting fun other later => ?_
              have here := there other (List.mem_cons_of_mem _ later)
              have page : ((db.cache.setFrame id ((db.cache.frame id).mark txn)).frame other).page =
                  (db.cache.frame other).page := by
                rw [Cache.frame_setFrame]
                split
                · next same => rw [same]; rfl
                · rfl
              show db.cache.residentFrame? _ = some other
              rw [page]
              exact here

/-! ### Courses of inserts -/

/-- Others may lead to the database while an insert into the file is parked: it is reachable, its
clean resident pages show what is stored, the file is registered, and its pages can be numbered. -/
structure AtRest (size : PageSize) (heap : HeapFile) (db : Database) : Prop where
  reached : db.Reachable size
  faithful : db.Faithful
  registered : db.storage.catalog[heap.table]? = some (.heap heap)
  room : db.storage.pages heap < UInt32.size

/-- Others act only while the insert is parked, and leave the database at rest. -/
def Meanwhile (size : PageSize) (heap : HeapFile) (db : Database) : Progress → Database → Prop
  | .running _, next => next = db
  | _, next => next.AtRest size heap

lemma AtRest.fit (rest : db.AtRest size heap) : db.Fit size heap :=
  ⟨rest.reached.sized, rest.faithful, rest.registered⟩

variable {progress : Progress} {steps : List (Database × Database)} {outcome : Outcome}

lemma undisturbed_meanwhile (size : PageSize) (heap : HeapFile) (db : Database)
    (operation : Operation) : Meanwhile size heap db (.running operation) db := rfl

/-- An operation that was parked goes on in a database at rest. -/
lemma AtRest.resumed {next : Database} {operation : Operation} (rest : next.AtRest size heap)
    (course : Course (Meanwhile size heap) next (.running operation) steps outcome)
    (db : Database) : Course (Meanwhile size heap) db (.parked operation) steps outcome := by
  cases course with
  | move goes others moves later =>
      cases goes
      cases others
      exact .move rfl rest moves later

/-- An insert that has landed succeeds. -/
lemma Landed.of_course (landed : db.Landed progress)
    (course : Course (Meanwhile size heap) db progress steps outcome) :
    ∃ ids kept, outcome = .inserted (.ok ids) kept := by
  induction course with
  | finished =>
      cases landed
      exact ⟨_, _, rfl⟩
  | move goes others moves later ih =>
      cases landed with
      | done => cases goes
      | reporting there =>
          cases goes
          cases others
          exact ih ((Landed.reporting there).moves moves)

/-- The moves of an insert that fails preserve the data, and append no more pages than allowed. -/
lemma Unplaced.of_course (whole : record.data.size = heap.layout.recordSize)
    (unplaced : db.Unplaced txn level heap record progress)
    (ready : ∀ operation, progress = .running operation → db.Fit size heap ∧
      (0 < progress.appends → db.storage.pages heap < UInt32.size))
    (course : Course (Meanwhile size heap) db progress steps outcome) {failure : Failure}
    {kept : Record} (failed : outcome = .inserted (.error failure) kept) :
    (∀ step ∈ steps, step.2.Preserves step.1 ∧ step.1.storage.Opened) ∧
      (steps.map fun step =>
        step.2.storage.pages heap - step.1.storage.pages heap).sum ≤ progress.appends := by
  induction course with
  | finished => exact ⟨by simp, by simp⟩
  | @move db next progress operation moved rest outcome goes others moves later ih =>
      -- the operation goes on in a fit database, whether it was parked or not
      obtain ⟨unplaced, fit, room, same⟩ :
          next.Unplaced txn level heap record (.running operation) ∧ next.Fit size heap ∧
          (0 < (Progress.running operation).appends → next.storage.pages heap < UInt32.size) ∧
          progress.appends = (Progress.running operation).appends := by
        cases unplaced with
        | running inserts known =>
            cases goes
            cases others
            obtain ⟨fit, room⟩ := ready _ rfl
            exact ⟨.running inserts known, fit, room, rfl⟩
        | parked inserts =>
            cases goes
            have calm : next.AtRest size heap := others
            exact ⟨.running inserts trivial, calm.fit, fun _ => calm.room, rfl⟩
        | failed => cases goes
      rw [same]
      rcases unplaced.moves fit whole room moves with roams | ⟨sized, page, lands⟩
      · have pages := roams.pages
        have one := appends_le_one (.running operation)
        obtain ⟨preserved, few⟩ := ih roams.unplaced (fun _ _ => ⟨roams.fit, fun may => by
          have before := room (by omega)
          omega⟩) failed
        refine ⟨fun step inside => ?_, by simp only [List.map_cons, List.sum_cons]; omega⟩
        rcases List.mem_cons.mp inside with rfl | further
        · exact ⟨roams.preserves, fit.sized.storage.opened⟩
        · exact preserved step further
      · obtain ⟨ids, placed, succeeded⟩ := (lands.landed sized).of_course later
        rw [failed] at succeeded
        cases succeeded

/-- **An insert that fails changes no data.** It inserts into a registered heap file, directly or
through the database, and fails for whatever reason: a record of a wrong size, a deadlock, a cache
without room, or a file that cannot be measured, read or appended to. In between it may have waited
any number of times, and others have left the database at rest. Then each of its own moves leaves
what every existing page shows, and whose changes it carries, so that no dirty page is dropped; it
writes nothing to an existing page, and leaves the live records. All its moves together append at
most one page, which is zeroed. -/
theorem failed_insert_preserves (rest : db.AtRest size heap) {started : Database × Progress}
    (begins : db.BeginsIn txn level (.heap heap) record started) {failure : Failure}
    {kept : Record}
    (course : Course (Meanwhile size heap) started.1 started.2 steps
      (.inserted (.error failure) kept)) :
    (∀ step ∈ (db, started.1) :: steps,
      step.2.Preserves step.1 ∧ step.2.records = step.1.records) ∧
    (((db, started.1) :: steps).map fun step =>
      step.2.storage.pages heap - step.1.storage.pages heap).sum ≤ 1 := by
  have opened := rest.fit.sized.storage.opened
  -- whatever fails at once has changed nothing
  have refused : ∀ answer : Outcome, started = (db, .finished answer) →
      started.1.Preserves db ∧ started.1.storage = db.storage ∧ steps = [] := by
    rintro answer rfl
    refine ⟨(rest.faithful.rests_of_stats db.locks db.cache.stats).preserves, rfl, ?_⟩
    cases course with
    | finished => rfl
    | move goes others moves later => cases goes
  -- the start and the moves after it preserve the data
  obtain ⟨preserves, preserved, few⟩ : started.1.Preserves db ∧
      (∀ step ∈ steps, step.2.Preserves step.1 ∧ step.1.storage.Opened) ∧
      started.1.storage.pages heap - db.storage.pages heap + (steps.map fun step =>
        step.2.storage.pages heap - step.1.storage.pages heap).sum ≤ 1 := by
    cases begins with
    | uncounted cause file whole =>
        obtain ⟨preserves, -, rfl⟩ := refused _ rfl
        exact ⟨preserves, by simp, by simp⟩
    | counted comes =>
        rw [startInsert] at comes
        split at comes
        · next whole =>
          have roams : Roams size db txn level heap record 1 started :=
            roams_nextProbe rest.fit rest.room comes
          obtain ⟨preserved, few⟩ := roams.unplaced.of_course whole (fun operation running =>
            ⟨roams.fit, fun may => by
              have pages := roams.pages
              have before := rest.room
              omega⟩) course rfl
          have pages := roams.pages
          exact ⟨roams.preserves, preserved, by omega⟩
        · have same := comes.eq fun _ _ _ _ _ same => by cases same
          obtain ⟨preserves, storage, rfl⟩ := refused _ same
          exact ⟨preserves, by simp, by simp [storage]⟩
  refine ⟨fun step inside => ?_, by simpa using few⟩
  rcases List.mem_cons.mp inside with rfl | later
  · exact ⟨preserves, preserves.records_eq opened⟩
  · obtain ⟨kept, opened⟩ := preserved step later
    exact ⟨kept, kept.records_eq opened⟩

end Database

/-! ### An insert that waits and fails -/

/-- The page of a file is full. The second transaction asks for the page after it, which does not
exist, and keeps the lock. -/
def barNewPage : List Deed :=
  .call ⟨1⟩ (.insert ⟨1⟩ (.ofData #[5])) :: List.replicate 8 (.move 0) ++
    .call ⟨1⟩ (.insert ⟨1⟩ (.ofData #[6])) :: List.replicate 8 (.move 0) ++
    .complete ⟨1⟩ true :: .call ⟨2⟩ (.fetch ⟨⟨1⟩, 1⟩ .exclusive) :: List.replicate 2 (.move 0)

/-- The first transaction appends that page for its record and has to wait; meanwhile the second one
fills it up and commits. -/
def fillNewPage : List Deed :=
  .call ⟨1⟩ (.insert ⟨1⟩ (.ofData #[7])) :: List.replicate 6 (.move 0) ++
    .call ⟨2⟩ (.insert ⟨1⟩ (.ofData #[1])) :: List.replicate 8 (.move 1) ++
    .call ⟨2⟩ (.insert ⟨1⟩ (.ofData #[2])) :: List.replicate 8 (.move 1) ++
    .call ⟨2⟩ (.insert ⟨1⟩ (.ofData #[3])) :: List.replicate 8 (.move 1) ++ [.complete ⟨2⟩ true]

/-- A database to which deeds on the file have led. -/
def afterDeeds (deeds : List Deed) : Database :=
  ((Workload.initial oneHeap 2 Nat.two_pos).run deeds).db

lemma reachable_afterDeeds {deeds : List Deed}
    (fitting : ∀ deed ∈ deeds, deed.Sized ⟨4, by decide⟩) :
    (afterDeeds deeds).Reachable ⟨4, by decide⟩ := by
  refine ⟨oneHeap, 2, Nat.two_pos, deeds, ⟨rfl, opened_oneHeap, fun id number image found => ?_⟩,
    fitting, rfl⟩
  simp [oneHeap, Storage.register, Storage.memory, Storage.empty, default, MemoryStore.zeroed]
    at found

/-- The first transaction is told that records of one byte do not fit in pages of four, after it has
waited. Its insert has appended a page, and has changed nothing else. -/
theorem failed_insert_preserves_overtaken :
    let heap : HeapFile := ⟨⟨1⟩, ⟨1, 3⟩, ["records"]⟩
    let record : Record := .ofData #[7]
    let db := afterDeeds barNewPage
    let next := afterDeeds (barNewPage ++ fillNewPage)
    let started := db.startInsert ⟨1⟩ .database (.heap heap) record
    db.AtRest ⟨4, by decide⟩ heap ∧ next.AtRest ⟨4, by decide⟩ heap ∧
      (started.1.proceed started.2).2 =
        .parked (.fetching ⟨1⟩ .database (.fill heap record 1) (.lock true)) ∧
      ∃ steps, Course (Database.Meanwhile ⟨4, by decide⟩ heap) started.1 started.2 steps
          (.inserted (.error (Error.unsupportedRecordSize 1 4)) record) ∧
        (∀ step ∈ (db, started.1) :: steps,
          step.2.Preserves step.1 ∧ step.2.records = step.1.records) ∧
        (((db, started.1) :: steps).map fun step =>
          step.2.storage.pages heap - step.1.storage.pages heap).sum ≤ 1 := by
  intro heap record db next started
  have fitting : ∀ deed ∈ barNewPage ++ fillNewPage, deed.Sized ⟨4, by decide⟩ := by
    simp [barNewPage, fillNewPage, Deed.Sized, Call.Sized]
  have before : db.AtRest ⟨4, by decide⟩ heap :=
    ⟨reachable_afterDeeds fun deed inside => fitting deed (List.mem_append_left _ inside),
      Database.faithful_of_residentPages (by decide +kernel), by decide +kernel,
      by decide +kernel⟩
  have meanwhile : next.AtRest ⟨4, by decide⟩ heap :=
    ⟨reachable_afterDeeds fitting, Database.faithful_of_residentPages (by decide +kernel),
      by decide +kernel, by decide +kernel⟩
  obtain ⟨middle, parks⟩ : ∃ middle, started.1.proceed started.2 =
      (middle, .parked (.fetching ⟨1⟩ .database (.fill heap record 1) (.lock true))) :=
    Database.exists_turn (by decide +kernel)
  obtain ⟨later, fails⟩ : ∃ later, next.proceed (.running (.fetching ⟨1⟩ .database
      (.fill heap record 1) (.lock true))) =
        (later, .finished (.inserted (.error (Error.unsupportedRecordSize 1 4)) record)) :=
    Database.exists_turn (by decide +kernel)
  -- the runs need not be evaluated again
  clear_value db next
  have undisturbed := Database.undisturbed_meanwhile ⟨4, by decide⟩ heap
  obtain ⟨rest, course⟩ := Course.of_turn undisturbed fails .finished
  obtain ⟨steps, course⟩ := Course.of_turn undisturbed parks (meanwhile.resumed course middle)
  exact ⟨before, meanwhile, congrArg Prod.snd parks, steps, course,
    Database.failed_insert_preserves before (.counted .asModelled) course⟩

end PageTxn
