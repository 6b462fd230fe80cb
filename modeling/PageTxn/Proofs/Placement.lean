import Mathlib.Data.List.Induction
import PageTxn.Proofs.Eviction
import PageTxn.Proofs.Provenance
import PageTxn.Proofs.Underway

/-!
Why an insert fails.

The transactions fetch, look at, overwrite and report pages, insert, delete and scan records of
heap files, and end, in any interleaving of their moves; nobody releases, flushes or discards
pages, and no file runs out of page numbers, which are 32-bit words. Memory stores may refuse pages
at any time, and the file of the insert may refuse whatever it asks for.

* `System.Tries` lists what one move of an insert comes to in the model, and why it fails if it
  does; `Truthful.tries_step`.
* `System.Awaits` says that an insert has appended a page at some point of a run, and what has
  happened since, none of which to its transaction. By `System.Overtaken` another transaction has
  filled the page up meanwhile and has ended.
* `System.Places` is the invariant: the pages that an insert has still to look at exist, and a page
  that it fills it has appended itself and is traced since. `Truthful.places_endure`.
* `Truthful.overtaken`: if the appended page is full, then the insert was overtaken.
* `insert_failures`: an insert of a record of the right size fails only because of a deadlock, for
  want of room in the cache, because its file refuses something, or because it was overtaken.
  `insert_finds_full_page`: so it may be.
-/

namespace PageTxn

open History

/-! ### Why an insert has failed -/

/-- A failed insert tells why. -/
lemma Level.eq_of_failedInsert {level : Level} {record kept : Record} {failure other : Failure}
    (failed : level.failedInsert record failure = .inserted (.error other) kept) :
    failure = other := by
  cases level <;> cases failure <;> cases failed <;> rfl

lemma Aim.eq_of_failed {aim : Aim} {level : Level} {failure other : Failure} {kept : Record}
    (failed : aim.failed level failure = .inserted (.error other) kept) : failure = other := by
  cases aim with
  | hand page mode => cases failed
  | probe heap record number remaining alreadyHeld => exact Level.eq_of_failedInsert failed
  | claim heap record number remaining => exact Level.eq_of_failedInsert failed
  | fill heap record number => exact Level.eq_of_failedInsert failed
  | erase heap id => cases failed
  | collect heap number remaining found => cases failed

lemma Change.eq_of_failed {change : Change} {failure other : Failure} {kept : Record}
    (failed : change.failed failure = .inserted (.error other) kept) : failure = other := by
  cases change with
  | insertion record pages => exact Level.eq_of_failedInsert failed
  | deletion pages => cases failed

/-- An insert that fails, unless so in the model, was refused the page that it was to append. -/
lemma Database.Comes.eq_or_refused {db : Database} {moved came : Database × Progress}
    (comes : db.Comes moved came) {failure : Failure} {kept : Record}
    (failed : came.2 = .finished (.inserted (.error failure) kept)) :
    came = moved ∨ moved.2.operation? ≠ none ∧ ∃ cause, failure = Error.io cause := by
  cases comes with
  | asModelled => exact .inl rfl
  | unappended cause part =>
      exact .inr ⟨nofun, cause, (Level.eq_of_failedInsert (Progress.finished.inj failed)).symm⟩

namespace System

variable {s later : System} {db : Database} {incident : Incident} {txn : TxnId}
  {heap : HeapFile} {record : Record} {aim : Aim} {stage : Stage} {number : Nat} {call : Call}
  {operation : Operation} {id : FrameId}

/-! ### Moves of an insert -/

/-- The pages that an insert has still to look at exist. -/
inductive Looks (storage : Storage) (heap : HeapFile) (record : Record) : Aim → Prop where
  | probe {number remaining : Nat} {alreadyHeld : Bool}
      (inside : number + remaining < storage.heapPages heap) :
      Looks storage heap record (.probe heap record number remaining alreadyHeld)
  | claim {number remaining : Nat} (inside : number + remaining < storage.heapPages heap) :
      Looks storage heap record (.claim heap record number remaining)
  | fill {number : Nat} (inside : number < storage.heapPages heap) :
      Looks storage heap record (.fill heap record number)

/-- The next page of an insert exists, or has just been appended. -/
structure Picks (s : System) (heap : HeapFile) (record : Record) (db : Database) (next : Aim) :
    Prop where
  looks : Looks db.storage heap record next
  fresh : ∀ number, next = .fill heap record number → s.stored? (heap.page number) = none ∧
    db.storage.image? (heap.page number) = some (.zeros s.db.storage.pageSize.bytes)

/-- What a move of an insert comes to. It goes on with its page, picks the next one, reports the
page in which it has placed the record, or fails. -/
inductive Tries (s : System) (txn : TxnId) (heap : HeapFile) (record : Record) (aim : Aim)
    (stage : Stage) : Database × Progress → Prop where
  | goes {db : Database} {next : Stage} :
      Tries s txn heap record aim stage (db, .running (.fetching txn .database aim next))
  | waits {db : Database} {next : Stage} :
      Tries s txn heap record aim stage (db, .parked (.fetching txn .database aim next))
  | picks {db : Database} {next : Aim} (picks : Picks s heap record db next) :
      Tries s txn heap record aim stage (db, next.start txn .database)
  | places {db : Database} {change : Change} :
      Tries s txn heap record aim stage (db, change.next txn .database)
  | refused {db : Database} : Tries s txn heap record aim stage
      (db, .finished (aim.failed .database (Error.deadlock txn)))
  | exhausted {db : Database} {capacity : Nat} : Tries s txn heap record aim stage
      (db, .finished (aim.failed .database (Error.cacheExhausted capacity)))
  | full {db : Database} {id : FrameId} {number : Nat} (fills : aim = .fill heap record number)
      (uses : stage = .use id) (full : heap.layout.firstFree? (s.frame id).live = .ok none) :
      Tries s txn heap record aim stage (db, .finished (aim.failed .database
        (Error.unsupportedRecordSize heap.layout.recordSize s.db.storage.pageSize.bytes)))

variable {storage : Storage}

lemma Looks.table_eq (looks : Looks storage heap record aim) : aim.page.table = heap.table := by
  cases looks <;> rfl

/-- A page at which an insert is looking exists. -/
lemma Looks.inside (looks : Looks storage heap record aim) :
    aim.page.number < storage.heapPages heap := by
  cases looks with
  | probe inside => exact Nat.lt_of_le_of_lt (Nat.le_add_right ..) inside
  | claim inside => exact Nat.lt_of_le_of_lt (Nat.le_add_right ..) inside
  | fill inside => exact inside

/-- Pages that are appended leave the others there. -/
lemma Looks.grown {grown : Storage} (looks : Looks storage heap record aim)
    (le : storage.heapPages heap ≤ grown.heapPages heap) : Looks grown heap record aim := by
  cases looks with
  | probe inside => exact .probe (Nat.lt_of_lt_of_le inside le)
  | claim inside => exact .claim (Nat.lt_of_lt_of_le inside le)
  | fill inside => exact .fill (Nat.lt_of_lt_of_le inside le)

section Moves

variable (ok : s.Truthful) (found : s.db.storage.catalog[heap.table]? = some (.heap heap))
include ok found

/-- The page objects of a heap file have room for its slots. -/
lemma Truthful.fits (opened : s.db.storage.Opened) (made : id < s.db.cache.nextFrame)
    (of : (s.frame id).page.table = heap.table) : heap.layout.Fits (s.frame id).live.size := by
  obtain ⟨image, stored, size⟩ := ok.guarded.db.backed id made
  rw [Storage.image?_heap (by rw [of, found])] at stored
  rw [← size, PageFile.size_of_read? stored]
  exact opened.fits found

/-- An insert goes on with the next page of its file, or appends one. -/
lemma Truthful.picks_nextProbe (same : db.storage = s.db.storage) {number remaining : Nat}
    (bounded : number + remaining ≤ s.db.storage.heapPages heap)
    (room : (db.nextProbe txn .database heap record number remaining).1.storage.Countable) :
    ∃ next, (db.nextProbe txn .database heap record number remaining).2 =
        next.start txn .database ∧
      Picks s heap record (db.nextProbe txn .database heap record number remaining).1 next := by
  cases remaining with
  | succ remaining =>
      refine ⟨_, rfl, .probe ?_, fun number fills => by cases fills⟩
      show number + remaining < db.storage.heapPages heap
      rw [same]
      omega
  | zero =>
      have room_before : s.db.storage.Countable := by
        rw [← same]
        exact (Database.grows_nextProbe ..).countable room
      obtain ⟨later, appended, -, tables, absent, images⟩ :=
        Storage.exists_appendPage ok.guarded.db.separate.apart found
          (room_before heap.table heap found)
      have found' : later.catalog[heap.table]? = some (.heap heap) := by
        rw [tables.catalog, found]
      have zeroed : later.image? (heap.page (s.db.storage.heapPages heap)) =
          some (.zeros s.db.storage.pageSize.bytes) := by
        rw [images]
        exact if_pos rfl
      have there : later.image? (heap.page (s.db.storage.heapPages heap)) ≠ none := by
        rw [zeroed]
        simp
      simp only [Database.nextProbe, same, appended] at room ⊢
      refine ⟨_, rfl, .fill ?_, fun number fills => ?_⟩
      · show s.db.storage.heapPages heap < later.heapPages heap
        rw [Storage.heapPages_eq (room heap.table heap found')]
        exact (Storage.image?_heap_ne_none_iff found').mp there
      · cases fills
        exact ⟨absent, zeroed⟩

/-- An insert that is called picks a page. -/
lemma Truthful.exists_picks (whole : record.data.size = heap.layout.recordSize)
    (room : (s.db.start txn (.insert heap.table record)).1.storage.Countable) :
    ∃ db next, s.db.start txn (.insert heap.table record) = (db, next.start txn .database) ∧
      Picks s heap record db next := by
  have started : s.db.start txn (.insert heap.table record) =
      s.db.nextProbe txn .database heap record 0 (s.db.storage.heapPages heap) := by
    rw [Database.start, Database.startInsertRecord, Storage.storeOf_eq found]
    exact if_pos whole
  rw [started] at room ⊢
  obtain ⟨next, first, picks⟩ := ok.picks_nextProbe found rfl (by omega) room
  exact ⟨_, next, Prod.ext rfl first, picks⟩

/-- An insert uses the page that it has at hand. -/
lemma Truthful.tries_usePage (opened : s.db.storage.Opened)
    (whole : record.data.size = heap.layout.recordSize)
    (looks : Looks s.db.storage heap record aim)
    (hand : s.db.Holds txn aim.page aim.mode id)
    (room : (s.db.usePage txn .database aim id).1.storage.Countable) :
    Tries s txn heap record aim (.use id) (s.db.usePage txn .database aim id) := by
  have fits : heap.layout.Fits (s.frame id).live.size :=
    ok.fits found opened hand.made (by rw [hand.shows, looks.table_eq])
  have goes_on : ∀ {db : Database} {number remaining : Nat}, db.storage = s.db.storage →
      number + remaining ≤ s.db.storage.heapPages heap →
      (db.nextProbe txn .database heap record number remaining).1.storage.Countable →
      Tries s txn heap record aim (.use id)
        (db.nextProbe txn .database heap record number remaining) := by
    intro db number remaining same bounded room
    obtain ⟨next, start, picks⟩ := ok.picks_nextProbe found same bounded room
    rw [show db.nextProbe txn .database heap record number remaining =
      (_, next.start txn .database) from Prod.ext rfl start]
    exact .picks picks
  cases looks with
  | @probe number remaining alreadyHeld inside =>
      rw [Database.usePage] at room ⊢
      obtain ⟨slot, free⟩ := SlotLayout.exists_firstFree fits
      simp only [free] at room ⊢
      cases slot with
      | some slot => exact .picks ⟨.claim inside, fun number fills => by cases fills⟩
      | none =>
          cases alreadyHeld with
          | true => exact goes_on rfl (by omega) room
          | false => exact goes_on rfl (by omega) room
  | @claim number remaining inside =>
      rw [Database.usePage] at room ⊢
      rcases Database.exists_tryPlace fits whole txn with
        ⟨-, full⟩ | ⟨later, image, placed, -, -, done⟩
      · simp only [full] at room ⊢
        exact goes_on rfl (by omega) room
      · simp only [done]
        exact .places
  | @fill number inside =>
      rw [Database.usePage]
      rcases Database.exists_tryPlace fits whole txn with
        ⟨free, full⟩ | ⟨later, image, placed, -, -, done⟩
      · simp only [full]
        exact .full rfl rfl free
      · simp only [done]
        exact .places

omit ok in
/-- A page at which an insert is looking can be read. -/
lemma Looks.exists_image (looks : Looks s.db.storage heap record aim)
    (room : s.db.storage.Countable) : ∃ image, s.stored? aim.page = some image := by
  have registered : s.db.storage.catalog[aim.page.table]? = some (.heap heap) := by
    rw [looks.table_eq, found]
  refine Option.ne_none_iff_exists'.mp ((Storage.image?_heap_ne_none_iff registered).mpr ?_)
  rw [← Storage.heapPages_eq (room _ _ registered)]
  exact looks.inside

omit ok in
/-- The page of an insert is read if its file does not refuse it. -/
lemma Looks.step_read (looks : Looks s.db.storage heap record aim) (txn : TxnId)
    (room : s.db.storage.Countable) :
    ∃ db image, s.db.step (.fetching txn .database aim .read) =
      (db, .running (.fetching txn .database aim (.enter image))) := by
  obtain ⟨image, stored⟩ := looks.exists_image found room
  rw [Database.step, Database.loadPage_heap (by rw [looks.table_eq, found]) stored]
  exact ⟨_, image, rfl⟩

/-- Every move of an insert with a page ahead comes to that. -/
lemma Truthful.tries_step (opened : s.db.storage.Opened)
    (whole : record.data.size = heap.layout.recordSize)
    (looks : Looks s.db.storage heap record aim)
    (reaches : s.db.Reaches txn aim stage)
    (room : (s.db.step (.fetching txn .database aim stage)).1.storage.Countable) :
    Tries s txn heap record aim stage (s.db.step (.fetching txn .database aim stage)) := by
  cases stage with
  | lock waited =>
      rw [Database.step, Database.lockPage]
      split
      · split <;> exact .goes
      · exact .refused
      · exact .waits
  | read =>
      obtain ⟨db, image, read⟩ :=
        looks.step_read found txn ((Database.grows_step ..).countable room)
      rw [read]
      exact .goes
  | enter image =>
      rw [Database.step, Database.enterPage]
      cases s.db.cache.residentFrame? aim.page with
      | some id => exact .goes
      | none =>
          cases made : s.db.cache.makeRoom with
          | mk cache answer =>
              cases answer with
              | ok done => exact .goes
              | error error =>
                  obtain ⟨capacity, rfl⟩ := Cache.exists_exhausted made
                  exact .exhausted
  | use id => exact ok.tries_usePage found opened whole looks reaches room

end Moves

/-- A changed page of an insert that cannot be reported finds no room in the cache. -/
lemma Truthful.exhausted_of_report (ok : s.Truthful) {own : TxnId} {change : Change}
    {pages : List FrameId} {failure : Failure} {kept : Record}
    (busy : s.phase txn = .busy call (.reporting own change pages))
    (failed : (s.db.step (.reporting own change pages)).2 =
      .finished (.inserted (.error failure) kept)) :
    ∃ capacity, failure = Error.cacheExhausted capacity := by
  have respects := ok.guarded.phase txn
  rw [busy] at respects
  cases pages with
  | nil => cases change <;> cases failed
  | cons id rest =>
      have claims := respects.2 id List.mem_cons_self
      rw [Database.step] at failed
      cases told : s.db.markDirty own id with
      | mk marked result =>
          rw [told] at failed
          cases result with
          | ok => cases failed
          | error reason =>
              have same := Change.eq_of_failed (Progress.finished.inj failed)
              rw [← same]
              exact (Cache.exhausted_of_markDirty (fun other there =>
                ok.guarded.db.size_eq claims.made there) (congrArg Prod.snd told)).1

/-- An insert that reports pages goes on with the rest of them. -/
lemma exists_reporting {own : TxnId} {change : Change} {pages : List FrameId} {asked : Call}
    (busy : (db.step (.reporting own change pages)).2.phase asked = .busy call operation) :
    ∃ rest, operation = .reporting own change rest := by
  cases pages with
  | nil => exact (Progress.phase_finished_ne _ _ _ _ busy).elim
  | cons id rest =>
      rw [Database.step] at busy
      split at busy
      · cases busy
        exact ⟨rest, rfl⟩
      · exact (Progress.phase_finished_ne _ _ _ _ busy).elim

/-! ### Waiting for an appended page -/

/-- With one step an insert has appended a page, and goes on to fill it. -/
structure Appends (s later : System) (txn : TxnId) (heap : HeapFile) (record : Record)
    (number : Nat) : Prop where
  absent : s.stored? (heap.page number) = none
  zeroed : later.stored? (heap.page number) = some (.zeros s.db.storage.pageSize.bytes)
  fills : later.phase txn = .busy (.insert heap.table record)
    (.fetching txn .database (.fill heap record number) (.lock false))

/-- With some incident of a run an insert has appended a page. Since then these events have
happened, and none of them to the transaction of the insert. -/
def Awaits (start : System) (incidents : List Incident) (txn : TxnId) (heap : HeapFile)
    (record : Record) (number : Nat) (events : List Event) : Prop :=
  ∃ before incident since, incidents = before ++ incident :: since ∧
    Appends (start.endure before) ((start.endure before).suffer incident) txn heap record number ∧
    (start.endure incidents).history = events ++ (start.endure before).history ∧
    ∀ event ∈ events, event.txn ≠ txn

/-- Since an insert has appended a page, another transaction has filled the page up and has ended in
this way. -/
def Overtaken (start : System) (incidents : List Incident) (txn : TxnId) (heap : HeapFile)
    (record : Record) (ending : Ending) : Prop :=
  ∃ number events image, Awaits start incidents txn heap record number events ∧
    Delivered (heap.page number) image ending events ∧
    heap.layout.firstFree? image = .ok none

lemma Overtaken.exists_ended {start : System} {incidents : List Incident} {ending : Ending}
    (overtaken : Overtaken start incidents txn heap record ending) :
    ∃ other, .ended other ending ∈ (start.endure incidents).history := by
  obtain ⟨number, events, image, ⟨before, incident, since, -, -, history, -⟩,
    ⟨newer, other, older, rfl, -⟩, -⟩ := overtaken
  exact ⟨other, by rw [history]; simp⟩

/-- An insert in progress has existing pages ahead, or reports the one that it has changed. A page
that it fills it has appended itself, and the page is traced since. -/
inductive Placing (start : System) (incidents : List Incident) (txn : TxnId) (heap : HeapFile)
    (record : Record) : Operation → Prop where
  | fetching {aim : Aim} {stage : Stage}
      (looks : Looks (start.endure incidents).db.storage heap record aim)
      (appended : ∀ number, aim = .fill heap record number →
        ∃ events, Awaits start incidents txn heap record number events ∧
          (start.endure incidents).Traced (heap.page number)
            (.zeros start.db.storage.pageSize.bytes) events) :
      Placing start incidents txn heap record (.fetching txn .database aim stage)
  | reporting {change : Change} {pages : List FrameId} :
      Placing start incidents txn heap record (.reporting txn change pages)

/-- An insert of a transaction, if one is in progress, does so. -/
def Places (start : System) (incidents : List Incident) (txn : TxnId) (heap : HeapFile)
    (record : Record) : Prop :=
  ∀ operation, (start.endure incidents).phase txn = .busy (.insert heap.table record) operation →
    Placing start incidents txn heap record operation

lemma endure_concat (s : System) (incidents : List Incident) (incident : Incident) :
    s.endure (incidents ++ [incident]) = (s.endure incidents).suffer incident := by
  simp [endure]

variable {start : System} {incidents : List Incident} {events new : List Event}

/-- Another incident does not matter unless something happens to the transaction. -/
lemma Awaits.extend (awaits : Awaits start incidents txn heap record number events)
    (history : ((start.endure incidents).suffer incident).history =
      new ++ (start.endure incidents).history) (silent : ∀ event ∈ new, event.txn ≠ txn) :
    Awaits start (incidents ++ [incident]) txn heap record number (new ++ events) := by
  obtain ⟨before, first, since, rfl, appends, past, others⟩ := awaits
  refine ⟨before, first, since ++ [incident], by simp, appends, ?_, fun event inside => ?_⟩
  · rw [endure_concat, history, past, List.append_assoc]
  · rcases List.mem_append.mp inside with added | old
    · exact silent event added
    · exact others event old

section Steps

variable (ok : (start.endure incidents).Truthful) (plain : (start.endure incidents).Plain)
  (work : incident.IsWork (start.endure incidents).db.storage)
  (found : (start.endure incidents).db.storage.catalog[heap.table]? = some (.heap heap))
  (room : ((start.endure incidents).suffer incident).db.storage.Countable)
include ok plain work found room

lemma Placing.extend (placing : Placing start incidents txn heap record operation)
    (acts : (start.endure incidents).Acts incident.actor? new
      ((start.endure incidents).suffer incident)) (silent : ∀ event ∈ new, event.txn ≠ txn) :
    Placing start (incidents ++ [incident]) txn heap record operation := by
  have grown := (start.endure incidents).grows_suffer incident
  cases placing with
  | fetching looks appended =>
      refine .fetching ?_ fun number fills => ?_
      · rw [endure_concat]
        exact looks.grown (grown.heapPages_le room found)
      · obtain ⟨events, awaits, traced⟩ := appended number fills
        refine ⟨_, awaits.extend acts.history silent, ?_⟩
        rw [endure_concat]
        exact traced.suffer ok plain work (grown.countable room) acts
  | reporting => exact .reporting

omit plain work found room in
/-- An insert picks its next page, and leaves all pages alone. -/
lemma Picks.placing {next : Aim} (picks : Picks (start.endure incidents) heap record db next)
    (ok' : ((start.endure incidents).suffer incident).Truthful)
    (happens : (start.endure incidents).suffer incident =
      (start.endure incidents).follow txn (.insert heap.table record)
        (db, next.start txn .database))
    (alone : ∀ page, Database.LeavesAlone page (start.endure incidents).db db) :
    Placing start (incidents ++ [incident]) txn heap record
      (.fetching txn .database next (.lock false)) := by
  refine .fetching ?_ fun number fills => ?_
  · rw [endure_concat, happens]
    exact picks.looks
  · obtain ⟨absent, zeroed⟩ := picks.fresh number fills
    refine ⟨[], ⟨incidents, incident, [], rfl, ⟨absent, ?_, ?_⟩, ?_, List.forall_mem_nil _⟩, ?_⟩
    · rw [happens]
      exact zeroed
    · rw [happens, phase_follow_self, fills]
      rfl
    · rw [endure_concat, happens]
      rfl
    · rw [(start.grows_endure incidents).pageSize] at zeroed
      rw [endure_concat]
      refine traced_appended ok ok' ?_ absent ?_
      · rw [happens]
        exact alone _
      · rw [happens]
        exact zeroed

omit plain in
/-- An insert that is called has existing pages ahead. -/
lemma Truthful.placing_call (whole : record.data.size = heap.layout.recordSize) {next : Operation}
    (calls : incident = .act ⟨txn, .call (.insert heap.table record)⟩)
    (happens : (start.endure incidents).suffer incident =
      (start.endure incidents).follow txn (.insert heap.table record)
        ((start.endure incidents).db.start txn (.insert heap.table record)))
    (going : ((start.endure incidents).db.start txn (.insert heap.table record)).2.phase
      (.insert heap.table record) = .busy (.insert heap.table record) next) :
    Placing start (incidents ++ [incident]) txn heap record next := by
  have room_before := ((start.endure incidents).grows_suffer incident).countable room
  have ok' := truthful_suffer ok work room_before
  have proceeds : Database.Proceeds (fun _ => none) (.insert heap.table record)
      (start.endure incidents).db
      ((start.endure incidents).db.start txn (.insert heap.table record)) :=
    ok.proceeds_call (calls ▸ work) room_before
  rw [happens, storage_follow] at room
  obtain ⟨db, first, started, picks⟩ := ok.exists_picks found whole room
  rw [started] at going happens proceeds
  cases going
  exact picks.placing ok ok' happens fun page => proceeds.defers.leaves page rfl

/-- An insert in progress makes a move. -/
lemma Truthful.placing_move (opened : (start.endure incidents).db.storage.Opened)
    (whole : record.data.size = heap.layout.recordSize)
    (places : Places start incidents txn heap record) {running next : Operation}
    (busy : (start.endure incidents).phase txn = .busy (.insert heap.table record) running)
    (happens : (start.endure incidents).suffer incident =
      (start.endure incidents).follow txn (.insert heap.table record)
        ((start.endure incidents).db.step running))
    (going : ((start.endure incidents).db.step running).2.phase (.insert heap.table record) =
      .busy (.insert heap.table record) next) :
    Placing start (incidents ++ [incident]) txn heap record next := by
  have room_before := ((start.endure incidents).grows_suffer incident).countable room
  obtain ⟨new, acts⟩ := ok.acts work room_before
  have ok' := truthful_suffer ok work room_before
  have respects := ok.guarded.phase txn
  have extend := fun operation (placing : Placing start incidents txn heap record operation) =>
    placing.extend ok plain work found room acts
  have history := acts.history
  have placing := places running busy
  rw [busy] at respects
  rw [happens, storage_follow] at room
  rw [happens] at history
  cases placing with
  | reporting =>
      obtain ⟨rest, rfl⟩ := exists_reporting going
      exact .reporting
  | @fetching aim stage looks appended =>
      have turns := ok.turns_move room_before busy nofun
      have tries := ok.tries_step found opened whole looks respects.2.2 room
      generalize (start.endure incidents).db.step _ = moved at turns tries going history happens
      cases tries with
      | goes =>
          cases going
          obtain rfl : new = [] := List.self_eq_append_left.mp history
          exact extend _ (.fetching looks appended) (List.forall_mem_nil _)
      | waits =>
          cases going
          obtain rfl : new = [] := List.self_eq_append_left.mp history
          exact extend _ (.fetching looks appended) (List.forall_mem_nil _)
      | picks picks =>
          cases going
          cases turns with
          | quiet leaves quiet => exact picks.placing ok ok' happens leaves
      | places =>
          cases going
          exact .reporting
      | refused => exact (Progress.phase_finished_ne _ _ _ _ going).elim
      | exhausted => exact (Progress.phase_finished_ne _ _ _ _ going).elim
      | full => exact (Progress.phase_finished_ne _ _ _ _ going).elim

/-- Every incident keeps the invariant. -/
theorem Truthful.places_suffer (opened : (start.endure incidents).db.storage.Opened)
    (whole : record.data.size = heap.layout.recordSize)
    (places : Places start incidents txn heap record) :
    Places start (incidents ++ [incident]) txn heap record := by
  have room_before := ((start.endure incidents).grows_suffer incident).countable room
  obtain ⟨new, acts⟩ := ok.acts work room_before
  intro next busy
  rw [endure_concat] at busy
  by_cases mine : incident.actor? = some txn
  · have does := does_suffer mine work (s := start.endure incidents)
    generalize happens : (start.endure incidents).suffer incident = later at does
    have history := acts.history
    rw [happens] at busy history
    cases does with
    | nothing =>
        obtain rfl : new = [] := List.self_eq_append_left.mp history
        exact (places next busy).extend ok plain work found room acts (List.forall_mem_nil _)
    | @calls call free =>
        have called := busy
        rw [phase_follow_self] at called
        obtain ⟨rfl, -⟩ := Progress.of_phase_busy called
        exact ok.placing_call work found room whole rfl happens called
    | @moves call running now =>
        have moved := busy
        rw [phase_follow_self] at moved
        obtain ⟨rfl, -⟩ := Progress.of_phase_busy moved
        exact ok.placing_move plain work found room opened whole places now happens moved
    | looks holding => cases holding.symm.trans busy
    | overwrites writable copied => cases (Function.update_self ..).symm.trans busy
    | reports changing tells => cases (Function.update_self ..).symm.trans busy
    | ends free tells => cases (Function.update_self ..).symm.trans busy
    | stops free => cases (Function.update_self ..).symm.trans busy
  · rw [phase_suffer_of_ne mine] at busy
    refine (places next busy).extend ok plain work found room acts fun event listed own => mine ?_
    rw [acts.own event listed, own]

end Steps

/-- Every run keeps the invariant. -/
theorem Truthful.places_endure (ok : start.Truthful) (plain : start.Plain)
    (opened : start.db.storage.Opened)
    (found : start.db.storage.catalog[heap.table]? = some (.heap heap))
    (whole : record.data.size = heap.layout.recordSize)
    (idle : ∀ operation, start.phase txn ≠ .busy (.insert heap.table record) operation)
    (incidents : List Incident) (work : ∀ incident ∈ incidents, incident.IsWork start.db.storage)
    (room : (start.endure incidents).db.storage.Countable) :
    Places start incidents txn heap record := by
  induction incidents using List.reverseRecOn with
  | nil => exact fun operation busy => absurd busy (idle operation)
  | append_singleton incidents incident ih =>
      have work_before := fun next listed => work next (List.mem_append_left [incident] listed)
      rw [endure_concat] at room
      have grown := start.grows_endure incidents
      have room_before := ((start.endure incidents).grows_suffer incident).countable room
      refine (truthful_endure ok incidents work_before room_before).1.places_suffer
        (plain.endure ok incidents work_before room_before) ?_ ?_ room ?_ whole
        (ih work_before room_before)
      · exact (Incident.isWork_congr grown.catalog incident).mpr (work incident (by simp))
      · rw [grown.catalog]
        exact found
      · exact opened.of_sameTables grown.toSameTables

/-! ### A page that is full although it was appended -/

section Failures

variable (ok : (start.endure incidents).Truthful) (plain : (start.endure incidents).Plain)
  (opened : (start.endure incidents).db.storage.Opened)
  (found : (start.endure incidents).db.storage.catalog[heap.table]? = some (.heap heap))
  (places : Places start incidents txn heap record)
include ok plain opened found places

/-- If the page that an insert has appended is full, then the insert was overtaken. -/
lemma Truthful.overtaken
    (busy : (start.endure incidents).phase txn = .busy (.insert heap.table record)
      (.fetching txn .database (.fill heap record number) (.use id)))
    (full : heap.layout.firstFree? ((start.endure incidents).frame id).live = .ok none) :
    ∃ ending, ending ≠ .aborted ∧ Overtaken start incidents txn heap record ending := by
  have respects := ok.guarded.phase txn
  have assumes := ok.assumes txn
  cases places _ busy with
  | fetching looks appended =>
      obtain ⟨events, awaits, traced⟩ := appended number rfl
      rw [busy] at respects assumes
      have hand : (start.endure incidents).db.Holds txn (heap.page number) .exclusive id :=
        respects.2.2
      have unwritten : ownWrite txn (heap.page number) events = none := by
        obtain ⟨before, incident, since, -, -, -, others⟩ := awaits
        exact ownWrite_of_others others _
      have accounted := traced.accounted ok plain hand.covers.1 (by rw [busy]; rfl) unwritten
        assumes.1
      rcases accounted with zeroed | ⟨ending, kept, delivered⟩
      · -- a zeroed page has a free slot
        have computed := opened heap.table heap found
        rw [zeroed, ← (start.grows_endure incidents).pageSize,
          SlotLayout.firstFree?_zeros (SlotLayout.fits_of_layoutFor computed)
            (SlotLayout.slots_pos_of_layoutFor computed)] at full
        cases full
      · exact ⟨ending, kept, number, events, _, awaits, delivered, full⟩

/-- What an insert tells if its last move fails, and its file refuses nothing. -/
lemma Truthful.failure_of_step (whole : record.data.size = heap.layout.recordSize)
    (busy : (start.endure incidents).phase txn = .busy (.insert heap.table record) operation)
    (room : ((start.endure incidents).db.step operation).1.storage.Countable) {failure : Failure}
    {kept : Record} (failed : ((start.endure incidents).db.step operation).2 =
      .finished (.inserted (.error failure) kept)) :
    failure = Error.deadlock txn ∨ (∃ capacity, failure = Error.cacheExhausted capacity) ∨
      failure = Error.unsupportedRecordSize heap.layout.recordSize
          (start.endure incidents).db.storage.pageSize.bytes ∧
        ∃ ending, ending ≠ .aborted ∧ Overtaken start incidents txn heap record ending := by
  cases places operation busy with
  | reporting => exact .inr (.inl (ok.exhausted_of_report busy failed))
  | @fetching aim stage looks appended =>
      have respects := ok.guarded.phase txn
      rw [busy] at respects
      have tries := ok.tries_step found opened whole looks respects.2.2 room
      generalize (start.endure incidents).db.step _ = moved at tries failed
      cases tries with
      | goes => cases failed
      | waits => cases failed
      | picks picks => cases failed
      | places => cases failed
      | refused => exact .inl (Aim.eq_of_failed (Progress.finished.inj failed)).symm
      | @exhausted db capacity =>
          exact .inr (.inl ⟨capacity, (Aim.eq_of_failed (Progress.finished.inj failed)).symm⟩)
      | @full db id number fills uses full =>
          subst fills uses
          exact .inr (.inr ⟨(Aim.eq_of_failed (Progress.finished.inj failed)).symm,
            ok.overtaken plain opened found places busy full⟩)

end Failures

/-! ### The last move -/

/-- What a call comes to with its start or its next move, with everything that its file may
refuse. -/
inductive Advances (s : System) (txn : TxnId) (call : Call) (moved : Database × Progress) : Prop
  | starts (free : (s.phase txn).isFree = true) (starts : s.db.Starts txn call moved)
  | moves {operation : Operation} (busy : s.phase txn = .busy call operation)
      (moves : s.db.Moves operation moved)

/-- What it comes to if its file refuses nothing. -/
def expected (s : System) (txn : TxnId) (call : Call) : Database × Progress :=
  match s.phase txn with
  | .busy _ operation => s.db.step operation
  | _ => s.db.start txn call

lemma expected_of_free (free : (s.phase txn).isFree = true) (call : Call) :
    s.expected txn call = s.db.start txn call := by
  cases now : s.phase txn with
  | busy asked operation =>
      rw [now] at free
      cases free
  | _ => simp [expected, now]

lemma expected_of_busy (busy : s.phase txn = .busy call operation) :
    s.expected txn call = s.db.step operation := by
  simp only [expected, busy]

lemma going_nextProbe (db : Database) (txn : TxnId) (level : Level) (heap : HeapFile)
    (record : Record) (number remaining : Nat) :
    (db.nextProbe txn level heap record number remaining).2.operation? ≠ none := by
  cases remaining <;> exact nofun

/-- An insert of a record of the right size does not fail at its start. -/
lemma going_start (found : s.db.storage.catalog[heap.table]? = some (.heap heap))
    (whole : record.data.size = heap.layout.recordSize) (txn : TxnId) :
    (s.db.start txn (.insert heap.table record)).2.operation? ≠ none := by
  rw [Database.start, Database.startInsertRecord, Storage.storeOf_eq found]
  simp only [Database.startInsert, if_pos whole]
  exact going_nextProbe _ _ _ _ _ _ _

/-- An insert that fails does so as in the model, or its file has refused something. -/
lemma Places.eq_or_refused (places : Places start incidents txn heap record)
    (found : (start.endure incidents).db.storage.catalog[heap.table]? = some (.heap heap))
    (whole : record.data.size = heap.layout.recordSize)
    (room : (start.endure incidents).db.storage.Countable) {moved : Database × Progress}
    (advances : (start.endure incidents).Advances txn (.insert heap.table record) moved)
    {failure : Failure} {kept : Record}
    (failed : moved.2 = .finished (.inserted (.error failure) kept)) :
    (∃ operation, (start.endure incidents).phase txn =
        .busy (.insert heap.table record) operation ∧
      moved = (start.endure incidents).db.step operation) ∨
    ((start.endure incidents).expected txn (.insert heap.table record)).2.operation? ≠ none ∧
      ∃ cause, failure = Error.io cause := by
  cases advances with
  | starts free starts =>
      rw [expected_of_free free]
      have going := going_start found whole txn
      refine .inr ⟨going, ?_⟩
      cases starts with
      | asModelled =>
          rw [failed] at going
          exact absurd rfl going
      | insert begins =>
          cases begins with
          | unregistered named => cases (Storage.storeOf_eq found).symm.trans named
          | registered named begins =>
              cases (Storage.storeOf_eq found).symm.trans named
              cases begins with
              | uncounted cause file whole =>
                  exact ⟨cause, (Level.eq_of_failedInsert (Progress.finished.inj failed)).symm⟩
              | counted comes =>
                  refine (comes.eq_or_refused failed).elim (fun same => ?_) And.right
                  have started : (start.endure incidents).db.start txn
                      (.insert heap.table record) = moved := by
                    rw [Database.start, Database.startInsertRecord, Storage.storeOf_eq found, same]
                  rw [started, failed] at going
                  exact absurd rfl going
  | @moves operation busy moves =>
      rw [expected_of_busy busy]
      cases moves with
      | step comes =>
          exact (comes.eq_or_refused failed).imp (fun same => ⟨operation, busy, same⟩) id
      | @unread own level aim cause =>
          have told := (Aim.eq_of_failed (Progress.finished.inj failed)).symm
          refine .inr ⟨?_, cause, told⟩
          cases places _ busy with
          | fetching looks appended =>
              obtain ⟨db, image, read⟩ := looks.step_read found txn room
              rw [read]
              exact Option.some_ne_none _

lemma Advances.grows {moved : Database × Progress} (advances : s.Advances txn call moved) :
    moved.1.storage.Grows s.db.storage := by
  cases advances with
  | starts free starts => exact starts.grows
  | moves busy moves => exact moves.grows

/-! ### Runs without refusals -/

lemma endure_map_act (s : System) (actions : List Action) :
    s.endure (actions.map .act) = s.run actions := by
  rw [endure, run, List.foldl_map]
  rfl

/-- If no store fails, then no commit is refused. -/
lemma not_stuck_of_reliable (reliable : storage.Reliable) (capacity : Nat)
    (capacity_pos : 0 < capacity) (actions : List Action)
    (work : ∀ action ∈ actions, Incident.IsWork storage (.act action)) (txn : TxnId) :
    let s := (initial storage capacity capacity_pos).run actions
    s.db.storage.Countable → ¬ s.Stuck txn := by
  intro s room stuck
  have ok := ((consistent_initial reliable capacity capacity_pos).run (disciplined_work storage)
    actions work fun _ _ _ => room).1
  obtain ⟨newer, older, split⟩ := List.append_of_mem stuck
  have admissible := ok.admissible
  rw [split] at admissible
  cases admits_of_admissible admissible

end System

/-- **Why an insert fails.** Let transactions work on pages and on the records of heap files, in any
interleaving of their moves, while stores may refuse pages at any time. An insert of a record of the
right size into a heap file fails only because of a deadlock, because there is no room in the cache,
because the file refuses something without which the insert would have gone on, or because it was
overtaken: since it has appended its page, another transaction has filled the page up and has
committed, or a store has refused its commit. Only then the insert says that the record size is not
supported. -/
theorem insert_failures {storage : Storage} (separate : storage.Separate)
    (opened : storage.Opened) (capacity : Nat) (capacity_pos : 0 < capacity)
    (incidents : List Incident) (work : ∀ incident ∈ incidents, incident.IsWork storage)
    {heap : HeapFile} (found : storage.catalog[heap.table]? = some (.heap heap))
    {record kept : Record} (whole : record.data.size = heap.layout.recordSize) {txn : TxnId}
    {failure : Failure} {moved : Database × Progress} :
    let start := System.initial storage capacity capacity_pos
    let s := start.endure incidents
    s.Advances txn (.insert heap.table record) moved → moved.1.storage.Countable →
    moved.2 = .finished (.inserted (.error failure) kept) →
    failure = Error.deadlock txn ∨ (∃ capacity, failure = Error.cacheExhausted capacity) ∨
      ((s.expected txn (.insert heap.table record)).2.operation? ≠ none ∧
        ∃ cause, failure = Error.io cause) ∨
      failure = Error.unsupportedRecordSize heap.layout.recordSize storage.pageSize.bytes ∧
        ∃ ending, start.Overtaken incidents txn heap record ending ∧
          (ending = .committed ∨ ending = .stuck ∧
            ¬ (storage.Reliable ∧ ∃ actions : List Action, incidents = actions.map .act)) := by
  intro start s advances room failed
  have room_before : s.db.storage.Countable := advances.grows.countable room
  have initially : start.Truthful := System.truthful_initial separate capacity capacity_pos
  have plain : start.Plain := System.plain_initial storage capacity capacity_pos
  have grown : s.db.storage.Grows storage := start.grows_endure incidents
  obtain ⟨ok, tables⟩ := System.truthful_endure initially incidents work room_before
  have found' : s.db.storage.catalog[heap.table]? = some (.heap heap) := by
    rw [tables]
    exact found
  have places : start.Places incidents txn heap record :=
    initially.places_endure plain opened found whole (fun operation busy => by cases busy)
      incidents work room_before
  rcases places.eq_or_refused found' whole room_before advances failed with
    ⟨operation, busy, rfl⟩ | refused
  · rcases ok.failure_of_step (plain.endure initially incidents work room_before)
      (opened.of_sameTables grown.toSameTables) found' places whole busy room failed with
      deadlock | exhausted | ⟨told, ending, kept, overtaken⟩
    · exact .inl deadlock
    · exact .inr (.inl exhausted)
    · rw [grown.pageSize] at told
      refine .inr (.inr (.inr ⟨told, ending, overtaken, ?_⟩))
      cases ending with
      | committed => exact .inl rfl
      | aborted => exact absurd rfl kept
      | stuck =>
          refine .inr ⟨rfl, ?_⟩
          rintro ⟨reliable, actions, rfl⟩
          obtain ⟨other, stuck⟩ := overtaken.exists_ended
          rw [System.endure_map_act] at stuck
          refine System.not_stuck_of_reliable reliable capacity capacity_pos actions
            (fun action listed => work _ (List.mem_map_of_mem listed)) other ?_ stuck
          rw [← System.endure_map_act]
          exact room_before
  · exact .inr (.inr (.inl refused))

/-! ### An insert that was overtaken -/

/-- A transaction inserts a record of one byte, as far as it gets. -/
def insertByte (txn : TxnId) (byte : UInt8) : List Action :=
  ⟨txn, .call (.insert ⟨1⟩ (.ofData #[byte]))⟩ :: List.replicate 12 ⟨txn, .move⟩

/-- The page of a file is full. The second transaction asks for the page after it, which does not
exist, and keeps the lock. The first one appends the page for its record and has to wait; meanwhile
the second one fills the page up. It commits, and the first one gets its lock. -/
def overtakeInsert : List Action :=
  fillPage ++ ⟨⟨2⟩, .call (.fetch ⟨⟨1⟩, 1⟩ .exclusive)⟩ :: List.replicate 2 ⟨⟨2⟩, .move⟩ ++
    insertByte ⟨1⟩ 7 ++ insertByte ⟨2⟩ 1 ++ insertByte ⟨2⟩ 2 ++ insertByte ⟨2⟩ 3 ++
    [⟨⟨2⟩, .complete true⟩, ⟨⟨1⟩, .move⟩]

/-- They only fetch a page, insert records and commit. -/
lemma work_overtakeInsert :
    ∀ action ∈ overtakeInsert ++ [⟨⟨1⟩, .move⟩],
      action.act.isPageWork = true ∨ action.act.IsRecordWork oneHeap := by
  have isHeap : ∀ table, oneHeap.IsHeap table := fun table store found =>
    ⟨_, catalog_oneHeap found⟩
  simp [overtakeInsert, fillPage, insertByte, Act.isPageWork, Act.IsRecordWork, isHeap]

/-- The first transaction is told that records of one byte do not fit in pages of four. -/
theorem insert_failures_overtaken :
    let heap : HeapFile := ⟨⟨1⟩, ⟨1, 3⟩, ["records"]⟩
    let record : Record := .ofData #[7]
    let start := System.initial oneHeap 2 (by decide)
    let s := start.endure (overtakeInsert.map .act)
    (s.expected ⟨1⟩ (.insert heap.table record)).2 =
        .finished (.inserted (.error (Error.unsupportedRecordSize 1 4)) record) ∧
      start.Overtaken (overtakeInsert.map .act) ⟨1⟩ heap record .committed := by
  intro heap record start s
  have same : s = start.run overtakeInsert := start.endure_map_act overtakeInsert
  have busy : s.phase ⟨1⟩ = .busy (.insert heap.table record)
      (.fetching ⟨1⟩ .database (.fill heap record 1) (.use 1)) := by
    rw [same]
    decide +kernel
  have advances : s.Advances ⟨1⟩ (.insert heap.table record)
      (s.expected ⟨1⟩ (.insert heap.table record)) := by
    rw [System.expected_of_busy busy]
    exact .moves busy (.step .asModelled)
  have returned : (s.expected ⟨1⟩ (.insert heap.table record)).2 =
      .finished (.inserted (.error (Error.unsupportedRecordSize 1 4)) record) := by
    rw [same]
    decide +kernel
  have room : (s.expected ⟨1⟩ (.insert heap.table record)).1.storage.Countable := by
    rw [same]
    decide +kernel
  have work : ∀ incident ∈ overtakeInsert.map .act, Incident.IsWork oneHeap incident := by
    intro incident listed
    obtain ⟨action, inside, rfl⟩ := List.mem_map.mp listed
    exact work_overtakeInsert action (List.mem_append_left _ inside)
  refine ⟨returned, ?_⟩
  rcases insert_failures reliable_oneHeap.separate opened_oneHeap 2 (by decide)
    (overtakeInsert.map .act) work rfl rfl advances room returned with
    refused | ⟨capacity, exhausted⟩ | ⟨-, cause, denied⟩ |
      ⟨-, ending, overtaken, rfl | ⟨-, denied⟩⟩
  · cases refused
  · cases exhausted
  · cases denied
  · exact overtaken
  · exact absurd ⟨reliable_oneHeap, overtakeInsert, rfl⟩ denied

/-- The record has the right size for its file, and the page that was appended for it has three
slots; but it is refused because of its size. -/
theorem insert_finds_full_page :
    let heap : HeapFile := ⟨⟨1⟩, ⟨1, 3⟩, ["records"]⟩
    let record : Record := .ofData #[7]
    let s := (System.initial oneHeap 2 (by decide)).run overtakeInsert
    oneHeap.Reliable ∧ oneHeap.Opened ∧ oneHeap.catalog[heap.table]? = some (.heap heap) ∧
      (∀ action ∈ overtakeInsert ++ [⟨⟨1⟩, .move⟩],
        action.act.isPageWork = true ∨ action.act.IsRecordWork oneHeap) ∧
      record.data.size = heap.layout.recordSize ∧ 0 < heap.layout.slots ∧
      (s.act ⟨⟨1⟩, .move⟩).history.head? = some (.returned ⟨1⟩ (.insert heap.table record)
        (.inserted (.error (Error.unsupportedRecordSize 1 4)) record) []) := by
  intro heap record s
  exact ⟨reliable_oneHeap, opened_oneHeap, rfl, work_overtakeInsert, rfl, by decide,
    by decide +kernel⟩

end PageTxn
