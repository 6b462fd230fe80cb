import PageTxn.Database
import PageTxn.Operation.Basic

/-!
The moves of an operation.

`Database.step` is one indivisible move; between two moves other transactions may
act. An operation that does not get its lock is parked and asks again when it is
resumed. Every move that does not end an operation lowers its budget
(`Database.budget_of_step`), so that no operation moves on for ever.
-/

namespace PageTxn

namespace Database

/-! ### Moves of a fetch -/

/-- Ask for the lock; if it is granted, look whether the page is resident. -/
def lockPage (db : Database) (txn : TxnId) (level : Level) (aim : Aim) (waited : Bool) :
    Database × Progress :=
  match db.locks.request txn aim.page aim.mode waited with
  | (locks, .granted) =>
      match db.cache.residentFrame? aim.page with
      | some id =>
          ({ db with locks, cache := db.cache.countHit },
            .running (.fetching txn level aim (.use id)))
      | none =>
          ({ db with locks, cache := db.cache.countMiss },
            .running (.fetching txn level aim .read))
  | (locks, .refused) =>
      ({ db with locks }, .finished (aim.failed level (Error.deadlock txn)))
  | (locks, .wait) =>
      ({ db with locks }, .parked (.fetching txn level aim (.lock true)))

/-- Read the page from the store of its table. -/
def loadPage (db : Database) (page : PageId) : Database × Except Failure Image :=
  match db.storage.storeOf page.table with
  | .error error => (db, .error error)
  | .ok store =>
      match db.readPage store page with
      | (db, .ok image) => ({ db with cache := db.cache.countRead }, .ok image)
      | (db, .error failure) => (db, .error failure)

/-- Bring a page that was read into the cache, unless it has become resident
meanwhile. -/
def enterPage (db : Database) (page : PageId) (image : Image) :
    Database × Except Error FrameId :=
  match db.cache.residentFrame? page with
  | some id => (db, .ok id)
  | none =>
      match db.cache.makeRoom with
      | (cache, .error error) => ({ db with cache }, .error error)
      | (cache, .ok ()) =>
          let (id, cache) := cache.newFrame (.ofImage page image)
          ({ db with cache := cache.bringIn id }, .ok id)

/-! ### Moves with a page at hand -/

/-- Go on with an insert on the next page, or on a new one if no page is left. -/
def nextProbe (db : Database) (txn : TxnId) (level : Level) (heap : HeapFile)
    (record : Record) (number remaining : Nat) : Database × Progress :=
  match remaining with
  | 0 =>
      let (appended, storage) := db.storage.appendPage heap
      ({ db with storage }, (Aim.fill heap record appended).start txn level)
  | remaining + 1 =>
      let alreadyHeld := db.locks.holds txn (heap.page number)
      (db, (Aim.probe heap record number remaining alreadyHeld).start txn level)

/-- Replace the live image of a frame by one of the same length and let the
transaction own the change. -/
def changeFrame (db : Database) (txn : TxnId) (id : FrameId) (image : Image) :
    Except Fault Database :=
  match (db.cache.frame id).copyFrom? image with
  | .ok frame => .ok { db with cache := db.cache.setFrame id (frame.mark txn) }
  | .error fault => .error fault

/-- Put a record into the first free slot of a page, if there is one. -/
def tryPlace (db : Database) (txn : TxnId) (heap : HeapFile) (record : Record)
    (id : FrameId) : Except Fault (Option (Database × Record)) := do
  let frame := db.cache.frame id
  match ← heap.layout.place? frame.live record.data with
  | some (slot, image) =>
      let db ← db.changeFrame txn id image
      pure (some (db, record.placed ⟨frame.page, slot⟩))
  | none => pure none

/-- A record that was put into a page was placed there, and the page object shows the changed
image. -/
theorem changeFrame_of_tryPlace {db later : Database} {txn : TxnId} {heap : HeapFile}
    {record placed : Record} {id : FrameId}
    (tried : db.tryPlace txn heap record id = .ok (some (later, placed))) :
    ∃ slot image, heap.layout.place? (db.cache.frame id).live record.data =
        .ok (some (slot, image)) ∧
      db.changeFrame txn id image = .ok later ∧
      placed = record.placed ⟨(db.cache.frame id).page, slot⟩ := by
  rw [tryPlace] at tried
  cases found : heap.layout.place? (db.cache.frame id).live record.data with
  | error fault => simp [found, bind, Except.bind] at tried
  | ok answer =>
      cases answer with
      | none => simp [found, bind, Except.bind, pure, Except.pure] at tried
      | some place =>
          cases changed : db.changeFrame txn id place.2 with
          | error fault => simp [found, changed, bind, Except.bind] at tried
          | ok after =>
              simp only [found, changed, bind, Except.bind, pure, Except.pure, Except.ok.injEq,
                Option.some.injEq, Prod.mk.injEq] at tried
              obtain ⟨rfl, rfl⟩ := tried
              exact ⟨place.1, place.2, rfl, changed, rfl⟩

/-- Use the page that was fetched. -/
def usePage (db : Database) (txn : TxnId) (level : Level) (aim : Aim) (id : FrameId) :
    Database × Progress :=
  match aim with
  | .hand .. => (db, .finished (.fetched (.ok id)))
  | .probe heap record number remaining alreadyHeld =>
      match heap.layout.firstFree? (db.cache.frame id).live with
      | .error fault => (db, .finished (aim.failed level fault))
      | .ok (some _) => (db, (Aim.claim heap record number remaining).start txn level)
      | .ok none =>
          let db := if alreadyHeld then db else db.release txn aim.page
          db.nextProbe txn level heap record (number + 1) remaining
  | .claim heap record number remaining =>
      match db.tryPlace txn heap record id with
      | .error fault => (db, .finished (aim.failed level fault))
      | .ok (some (db, record)) => (db, (Change.insertion record [id]).next txn level)
      | .ok none => db.nextProbe txn level heap record (number + 1) remaining
  | .fill heap record _ =>
      match db.tryPlace txn heap record id with
      | .error fault => (db, .finished (aim.failed level fault))
      | .ok (some (db, record)) => (db, (Change.insertion record [id]).next txn level)
      | .ok none =>
          let error := Error.unsupportedRecordSize heap.layout.recordSize
            db.storage.pageSize.bytes
          (db, .finished (aim.failed level error))
  | .erase heap record =>
      match heap.layout.clear? (db.cache.frame id).live record.slot with
      | .error fault => (db, .finished (aim.failed level fault))
      | .ok none => (db, .finished (aim.failed level (Error.recordNotFound record)))
      | .ok (some image) =>
          match db.changeFrame txn id image with
          | .error fault => (db, .finished (aim.failed level fault))
          | .ok db => (db, (Change.deletion [id]).next txn level)
  | .collect heap number remaining found =>
      match heap.layout.contents? (db.cache.frame id).live with
      | .error fault => (db, .finished (aim.failed level fault))
      | .ok contents =>
          let records := contents.map fun (slot, data) =>
            (⟨some ⟨heap.page number, slot⟩, data⟩ : Record)
          match remaining with
          | 0 => (db, .finished (.scanned (.ok (found ++ records))))
          | remaining + 1 =>
              (db, (Aim.collect heap (number + 1) remaining (found ++ records)).start txn level)

/-! ### Moves of an operation -/

/-- One move of an operation. -/
def step (db : Database) : Operation → Database × Progress
  | .fetching txn level aim (.lock waited) => db.lockPage txn level aim waited
  | .fetching txn level aim .read =>
      match db.loadPage aim.page with
      | (db, .ok image) => (db, .running (.fetching txn level aim (.enter image)))
      | (db, .error failure) => (db, .finished (aim.failed level failure))
  | .fetching txn level aim (.enter image) =>
      match db.enterPage aim.page image with
      | (db, .ok id) => (db, .running (.fetching txn level aim (.use id)))
      | (db, .error error) => (db, .finished (aim.failed level error))
  | .fetching txn level aim (.use id) => db.usePage txn level aim id
  | .reporting _ change [] => (db, .finished change.succeeded)
  | .reporting txn change (id :: rest) =>
      match db.markDirty txn id with
      | (db, .ok ()) => (db, .running (.reporting txn change rest))
      | (db, .error failure) => (db, .finished (change.failed failure))

/-! ### The moves come to an end -/

/-- Going on with an insert leaves a bounded number of moves. -/
theorem budget_of_nextProbe {db db' : Database} {txn : TxnId} {level : Level}
    {heap : HeapFile} {record : Record} {number remaining : Nat} {operation : Operation}
    (h : db.nextProbe txn level heap record number remaining = (db', .running operation)) :
    operation.budget ≤ 8 * remaining + 6 := by
  unfold nextProbe at h
  split at h <;>
  · cases h
    simp only [Operation.budget, Aim.budget, Stage.budget]
    omega

/-- Reporting takes one move a page and one more. -/
theorem budget_of_next {change : Change} {txn : TxnId} {level : Level}
    {operation : Operation} (h : change.next txn level = .running operation) :
    operation.budget = change.pages.length + 1 := by
  unfold Change.next at h
  split at h <;> cases h
  rfl

/-- Using a page leaves fewer moves than were left before. -/
theorem budget_of_usePage {db db' : Database} {txn : TxnId} {level : Level} {aim : Aim}
    {id : FrameId} {operation : Operation}
    (h : db.usePage txn level aim id = (db', .running operation)) :
    operation.budget ≤ aim.budget := by
  unfold usePage at h
  split at h
  · cases h
  · -- a free slot is looked for
    split at h
    · cases h
    · cases h
      simp only [Operation.budget, Aim.budget, Stage.budget]
      omega
    · have rest := budget_of_nextProbe h
      simp only [Aim.budget]
      omega
  · -- the record is put into a page that had a free slot
    split at h
    · cases h
    · have rest := budget_of_next (Prod.mk.inj h).2
      simp only [rest, Change.pages, Aim.budget, List.length_cons, List.length_nil]
      omega
    · have rest := budget_of_nextProbe h
      simp only [Aim.budget]
      omega
  · -- the record is put into an appended page
    split at h
    · cases h
    · have rest := budget_of_next (Prod.mk.inj h).2
      simp only [rest, Change.pages, Aim.budget, List.length_cons, List.length_nil]
      omega
    · cases h
  · -- a record is removed
    split at h
    · cases h
    · cases h
    · split at h
      · cases h
      · have rest := budget_of_next (Prod.mk.inj h).2
        simp only [rest, Change.pages, Aim.budget, List.length_cons, List.length_nil]
        omega
  · -- the records of a page are read
    split at h
    · cases h
    · split at h
      · cases h
      · cases h
        simp only [Operation.budget, Aim.budget, Stage.budget]
        omega

/-- Every move that does not end an operation lowers its budget. -/
theorem budget_of_step {db db' : Database} {operation later : Operation}
    (h : db.step operation = (db', .running later)) : later.budget < operation.budget := by
  unfold step at h
  split at h
  · -- the lock is asked for
    unfold lockPage at h
    split at h
    · split at h <;>
      · cases h
        simp only [Operation.budget, Stage.budget]
        omega
    · cases h
    · cases h
  · -- the page is read
    split at h
    · cases h
      simp only [Operation.budget, Stage.budget]
      omega
    · cases h
  · -- the page is brought in
    split at h
    · cases h
      simp only [Operation.budget, Stage.budget]
      omega
    · cases h
  · -- the page is used
    have rest := budget_of_usePage h
    simp only [Operation.budget, Stage.budget] at *
    omega
  · cases h
  · -- a page is reported
    split at h
    · cases h
      simp only [Operation.budget, List.length_cons]
      omega
    · cases h

end Database

end PageTxn
