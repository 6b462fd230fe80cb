import PageTxn.Proofs.Atomicity
import PageTxn.Proofs.Contents
import PageTxn.Proofs.Turns

/-!
Courses of an insert, with everything that a file may refuse.

* `Storage.appendPart` is what a file has taken of a page before it refused to append it;
  `image?_appendPart` says what that does to the stored pages.
* `Database.Begins` and `Database.Moves` are the start and the moves of an insert: those of
  `Database.startInsertRecord` and `Database.step`, and the same where the file refuses to be
  measured, read or appended to.
* `Course` lists the moves of an operation up to its outcome. Between two moves others may act, as
  far as the course allows. `Course.of_turn`: a turn that meets no refusal is a part of a course.
* `failed_insert_takes_place_back`: an insert into a registered table that fails leaves its record
  without a place, wherever it fails; without a store for the table the record stays as it was.
-/

namespace PageTxn

/-! ### Pages appended in part -/

/-- The storage after a file has taken some of the bytes of a page that was to be appended. -/
def Storage.appendPart (storage : Storage) (heap : HeapFile) (length : Nat) : Storage :=
  let bytes := storage.disk.bytes heap.file
  storage.setFile heap
    (bytes.splice (PageFile.count bytes storage.pageSize * storage.pageSize.bytes)
      (Image.zeros length))

namespace PageFile

variable {bytes : Image} {size : PageSize} {length : Nat}

/-- Bytes that do not make up a page leave the pages of a file as they are. -/
lemma read?_splice_short (short : length < size.bytes) (other : Nat) :
    read? (bytes.splice (wholePages bytes size * size.bytes) (.zeros length)) size other =
      read? bytes size other := by
  obtain ⟨before, behind⟩ := size_lt_end bytes size
  set later := bytes.splice (wholePages bytes size * size.bytes) (.zeros length) with spliced
  have bounds : bytes.size ≤ later.size ∧
      later.size < (wholePages bytes size + 1) * size.bytes := by
    rw [Nat.add_mul, Nat.one_mul]
    simp only [spliced, Image.splice, Array.size_append, Array.size_extract, Image.size_zeros]
    omega
  have count : wholePages later size = wholePages bytes size := by
    refine Nat.le_antisymm (Nat.le_of_lt_succ ?_) (Nat.div_le_div_right bounds.1)
    exact (Nat.div_lt_iff_lt_mul size.bytes_pos).mpr bounds.2
  rw [read?, read?, count]
  by_cases there : other < wholePages bytes size
  · rw [if_pos there, if_pos there]
    refine congrArg some (Array.ext_getElem? fun i => ?_)
    rw [getElem?_page (by rw [count]; exact there), getElem?_page there]
    have step : (other + 1) * size.bytes ≤ wholePages bytes size * size.bytes :=
      Nat.mul_le_mul_right _ there
    rw [Nat.add_mul, Nat.one_mul] at step
    by_cases h : i < size.bytes
    · rw [if_pos h, if_pos h, Image.getElem?_splice_of_lt before (by omega), if_neg (by omega)]
    · rw [if_neg h, if_neg h]
  · rw [if_neg there, if_neg there]

/-- Whatever a file takes of a page, it has at most that page more, which is zeroed then. -/
lemma read?_splice_end (room : wholePages bytes size < UInt32.size) (part : length ≤ size.bytes)
    (other : Nat) :
    read? (bytes.splice (wholePages bytes size * size.bytes) (.zeros length)) size other =
        read? bytes size other ∨
      wholePages bytes size = other ∧
        read? (bytes.splice (wholePages bytes size * size.bytes) (.zeros length)) size other =
          some (.zeros size.bytes) := by
  rcases Nat.lt_or_eq_of_le part with short | rfl
  · exact .inl (read?_splice_short short other)
  · have appended := read?_append room other
    rw [append_eq room] at appended
    by_cases last : wholePages bytes size = other
    · rw [if_pos last] at appended
      exact .inr ⟨last, appended⟩
    · rw [if_neg last] at appended
      exact .inl appended

end PageFile

namespace Storage

variable {storage : Storage} {heap : HeapFile} {length : Nat}
  (room : storage.pages heap < UInt32.size) (part : length ≤ storage.pageSize.bytes)
include room

lemma appendPart_eq (length : Nat) : storage.appendPart heap length =
    storage.setFile heap ((storage.disk.bytes heap.file).splice
      (storage.pages heap * storage.pageSize.bytes) (.zeros length)) := by
  rw [pages] at room ⊢
  rw [appendPart, PageFile.count, Nat.mod_eq_of_lt room]

include part

/-- Stored pages stay as they are, and a page that is new is zeroed. -/
theorem image?_appendPart (page : PageId) :
    (storage.appendPart heap length).image? page = storage.image? page ∨
      storage.image? page = none ∧
        (storage.appendPart heap length).image? page = some (.zeros storage.pageSize.bytes) := by
  have catalog : (storage.appendPart heap length).catalog = storage.catalog := rfl
  cases found : storage.catalog[page.table]? with
  | none => exact .inl (by simp only [image?, catalog, found])
  | some store =>
      cases store with
      | memory name id =>
          rw [image?_memory found, image?_memory (catalog ▸ found)]
          exact .inl rfl
      | heap other =>
          rw [image?_heap found, image?_heap (catalog ▸ found), appendPart_eq room, setFile,
            Disk.bytes_setBytes]
          split
          · next same =>
            -- the page is one of the file that was appended to
            rw [pages, same] at room ⊢
            rcases PageFile.read?_splice_end room part page.number with kept | ⟨last, zeroed⟩
            · exact .inl kept
            · refine .inr ⟨?_, zeroed⟩
              rw [PageFile.read?, if_neg (by omega)]
          · exact .inl rfl

/-- A file that was appended to has at most one page more. -/
lemma pages_appendPart_le :
    (storage.appendPart heap length).pages heap ≤ storage.pages heap + 1 := by
  obtain ⟨before, behind⟩ :=
    PageFile.size_lt_end (storage.disk.bytes heap.file) storage.pageSize
  have bounded : ((storage.disk.bytes heap.file).splice
      (storage.pages heap * storage.pageSize.bytes) (.zeros length)).size <
        (storage.pages heap + 2) * storage.pageSize.bytes := by
    rw [pages, Nat.add_mul]
    simp only [Image.splice, Array.size_append, Array.size_extract, Image.size_zeros]
    omega
  rw [appendPart_eq room, pages, setFile, Disk.bytes_setBytes, if_pos rfl]
  exact Nat.le_of_lt_succ ((Nat.div_lt_iff_lt_mul storage.pageSize.bytes_pos).mpr bounded)

end Storage

/-! ### Starts and moves -/

namespace Database

/-- What a start or a move comes to: what it comes to in the model, or, if it was to append a page,
a refusal of the file. -/
inductive Comes (db : Database) : Database × Progress → Database × Progress → Prop
  | asModelled {moved : Database × Progress} : db.Comes moved moved
  | unappended {later : Database} {txn : TxnId} {level : Level} {heap : HeapFile} {record : Record}
      {number length : Nat} (cause : IoCause) (part : length ≤ db.storage.pageSize.bytes) :
      db.Comes (later, (Aim.fill heap record number).start txn level)
        ({ later with storage := db.storage.appendPart heap length },
          .finished (level.failedInsert record (Error.io cause)))

/-- An insert of a record into a store begins. The pages of a file are counted once its size has
been told. -/
inductive BeginsIn (db : Database) (txn : TxnId) (level : Level) (store : Store)
    (record : Record) : Database × Progress → Prop
  | counted {moved : Database × Progress}
      (comes : db.Comes (db.startInsert txn level store record) moved) :
      db.BeginsIn txn level store record moved
  | uncounted {heap : HeapFile} (cause : IoCause) (file : store = .heap heap)
      (whole : record.data.size = heap.layout.recordSize) :
      db.BeginsIn txn level store record
        (db, .finished (level.failedInsert record (Error.io cause)))

/-- An insert of a record into the store of a table begins. -/
inductive Begins (db : Database) (txn : TxnId) (table : TableId) (record : Record) :
    Database × Progress → Prop
  | registered {store : Store} {moved : Database × Progress}
      (named : db.storage.storeOf table = .ok store)
      (begins : db.BeginsIn txn .database store record moved) : db.Begins txn table record moved
  | unregistered {error : Error} (named : db.storage.storeOf table = .error error) :
      db.Begins txn table record (db, .finished (.inserted (.error error) record))

/-- An operation makes one move. A page is read once the file gives it out. -/
inductive Moves (db : Database) : Operation → Database × Progress → Prop
  | step {operation : Operation} {moved : Database × Progress}
      (comes : db.Comes (db.step operation) moved) : db.Moves operation moved
  | unread {txn : TxnId} {level : Level} {aim : Aim} (cause : IoCause) :
      db.Moves (.fetching txn level aim .read)
        (db, .finished (aim.failed level (Error.io cause)))

/-- A move that appends no page comes to what it comes to in the model. -/
lemma Comes.eq {db : Database} {moved came : Database × Progress} (comes : db.Comes moved came)
    (keeps : ∀ (txn : TxnId) (level : Level) (heap : HeapFile) (record : Record) (number : Nat),
      moved.2 ≠ (Aim.fill heap record number).start txn level) : came = moved := by
  cases comes with
  | asModelled => rfl
  | unappended cause part => exact absurd rfl (keeps _ _ _ _ _)

/-- The model begins an insert so. -/
lemma begins_startInsertRecord (db : Database) (txn : TxnId) (table : TableId) (record : Record) :
    db.Begins txn table record (db.startInsertRecord txn table record) := by
  rw [startInsertRecord]
  split
  · next store named => exact .registered named (.counted .asModelled)
  · next error named => exact .unregistered named

end Database

/-! ### Courses -/

/-- The operation that goes on. -/
def Progress.operation? : Progress → Option Operation
  | running operation | parked operation => some operation
  | finished _ => none

/-- The moves of an operation up to its outcome, each with the database before and after it.
`meanwhile` says to which databases others may lead from one move to the next. -/
inductive Course (meanwhile : Database → Progress → Database → Prop) :
    Database → Progress → List (Database × Database) → Outcome → Prop
  | finished {db : Database} {outcome : Outcome} :
      Course meanwhile db (.finished outcome) [] outcome
  | move {db next : Database} {progress : Progress} {operation : Operation}
      {moved : Database × Progress} {rest : List (Database × Database)} {outcome : Outcome}
      (goes : progress.operation? = some operation) (others : meanwhile db progress next)
      (moves : next.Moves operation moved) (later : Course meanwhile moved.1 moved.2 rest outcome) :
      Course meanwhile db progress ((next, moved.1) :: rest) outcome

/-- How far an operation has come after a turn. -/
def Progress.ofTurn : Turn Operation Outcome → Progress
  | .parked operation => .parked operation
  | .finished outcome => .finished outcome

/-- A turn that meets no refusal is a part of a course. -/
lemma Course.of_turn {meanwhile : Database → Progress → Database → Prop} {db middle : Database}
    {progress : Progress} {result : Turn Operation Outcome} {rest : List (Database × Database)}
    {outcome : Outcome}
    (undisturbed : ∀ (db : Database) (operation : Operation), meanwhile db (.running operation) db)
    (turn : db.proceed progress = (middle, result))
    (later : Course meanwhile middle (.ofTurn result) rest outcome) :
    ∃ steps, Course meanwhile db progress steps outcome := by
  cases progress with
  | parked operation =>
      cases turn
      exact ⟨rest, later⟩
  | finished answer =>
      cases turn
      exact ⟨rest, later⟩
  | running operation =>
      induction budget : operation.budget using Nat.strongRecOn generalizing db operation with
      | ind fuel ih =>
          have one : (db.step operation).1.proceed (db.step operation).2 = (middle, result) :=
            (db.resume_eq operation).symm.trans turn
          have moves : db.Moves operation (db.step operation) := .step .asModelled
          cases moved : db.step operation with
          | mk next progress =>
              rw [moved] at one moves
              have following : ∃ steps, Course meanwhile next progress steps outcome := by
                cases progress with
                | running following =>
                    have less := Database.budget_of_step moved
                    exact ih following.budget (by omega) following one rfl
                | parked following =>
                    cases one
                    exact ⟨rest, later⟩
                | finished answer =>
                    cases one
                    exact ⟨rest, later⟩
              obtain ⟨steps, course⟩ := following
              exact ⟨_, .move rfl (undisturbed db operation) moves course⟩

/-! ### Taking the place back -/

/-- The file and the record of an insert for which a page is fetched. -/
def Aim.insert? : Aim → Option (HeapFile × Record)
  | probe heap record .. | claim heap record .. | fill heap record _ => some (heap, record)
  | _ => none

/-- An insert that fails with an error returns its record without a place. -/
def Outcome.TakesBack (record : Record) (outcome : Outcome) : Prop :=
  ∀ (error : Error) (kept : Record), outcome = .inserted (.error error) kept →
    kept = record.unplaced

/-- The database inserts the record, or reports where it was put. -/
def Operation.TakesBack (record : Record) : Operation → Prop
  | .fetching _ level aim _ => level = .database ∧ ∃ heap, aim.insert? = some (heap, record)
  | .reporting _ change _ =>
      ∃ placed pages, change = .insertion placed pages ∧ placed.unplaced = record.unplaced

/-- Wherever the insert goes on, it will take back the place. -/
def Progress.TakesBack (record : Record) : Progress → Prop
  | running operation | parked operation => operation.TakesBack record
  | finished outcome => outcome.TakesBack record

section TakesBack

variable {db : Database} {txn : TxnId} {heap : HeapFile} {record placed : Record} {aim : Aim}
  {failure : Failure}

/-- The record of an insert whose place the database takes back. -/
lemma takesBack_failedInsert (same : placed.unplaced = record.unplaced) :
    (Level.database.failedInsert placed failure).TakesBack record := by
  intro error kept failed
  cases failure with
  | error cause =>
      cases failed
      exact same
  | fault cause => cases failed

lemma takesBack_failed (inserts : aim.insert? = some (heap, record)) :
    (aim.failed .database failure).TakesBack record := by
  cases aim with
  | hand page mode => cases inserts
  | erase heap id => cases inserts
  | collect heap number remaining found => cases inserts
  | probe heap record number remaining alreadyHeld =>
      cases inserts
      exact takesBack_failedInsert rfl
  | claim heap record number remaining =>
      cases inserts
      exact takesBack_failedInsert rfl
  | fill heap record number =>
      cases inserts
      exact takesBack_failedInsert rfl

lemma takesBack_nextProbe (db : Database) (number remaining : Nat) :
    (db.nextProbe txn .database heap record number remaining).2.TakesBack record := by
  cases remaining with
  | zero => exact ⟨rfl, heap, rfl⟩
  | succ remaining => exact ⟨rfl, heap, rfl⟩

/-- A record that was put into a page has its payload. -/
lemma takesBack_tryPlace {id : FrameId} {later : Database}
    (tried : db.tryPlace txn heap record id = .ok (some (later, placed))) :
    ((Change.insertion placed [id]).next txn .database).TakesBack record := by
  obtain ⟨slot, image, -, -, rfl⟩ := Database.changeFrame_of_tryPlace tried
  exact ⟨_, _, rfl, rfl⟩

lemma takesBack_usePage (inserts : aim.insert? = some (heap, record)) (id : FrameId) :
    (db.usePage txn .database aim id).2.TakesBack record := by
  cases aim with
  | hand page mode => cases inserts
  | erase heap id => cases inserts
  | collect heap number remaining found => cases inserts
  | probe heap record number remaining alreadyHeld =>
      cases inserts
      simp only [Database.usePage]
      split
      · exact takesBack_failed rfl
      · exact ⟨rfl, heap, rfl⟩
      · exact takesBack_nextProbe ..
  | claim heap record number remaining =>
      cases inserts
      simp only [Database.usePage]
      split
      · exact takesBack_failed rfl
      · next tried => exact takesBack_tryPlace tried
      · exact takesBack_nextProbe ..
  | fill heap record number =>
      cases inserts
      simp only [Database.usePage]
      split
      · exact takesBack_failed rfl
      · next tried => exact takesBack_tryPlace tried
      · exact takesBack_failed rfl

/-- A move of an insert goes on so, in any database. -/
lemma Operation.TakesBack.step {operation : Operation} (takes : operation.TakesBack record)
    (db : Database) : (db.step operation).2.TakesBack record := by
  cases operation with
  | fetching txn level aim stage =>
      obtain ⟨rfl, heap, inserts⟩ := takes
      cases stage with
      | use id => exact takesBack_usePage inserts id
      | lock waited =>
          rw [Database.step, Database.lockPage]
          split
          · split <;> exact ⟨rfl, heap, inserts⟩
          · exact takesBack_failed inserts
          · exact ⟨rfl, heap, inserts⟩
      | read =>
          rw [Database.step]
          split
          · exact ⟨rfl, heap, inserts⟩
          · exact takesBack_failed inserts
      | enter image =>
          rw [Database.step]
          split
          · exact ⟨rfl, heap, inserts⟩
          · exact takesBack_failed inserts
  | reporting txn change pages =>
      obtain ⟨placed, changed, rfl, same⟩ := takes
      cases pages with
      | nil =>
          intro error kept failed
          cases failed
      | cons id rest =>
          rw [Database.step]
          split
          · exact ⟨placed, changed, rfl, same⟩
          · exact takesBack_failedInsert same

/-- Nor does a refusal of the file change that. -/
lemma Database.Comes.takesBack {moved came : Database × Progress} (comes : db.Comes moved came)
    (takes : moved.2.TakesBack record) : came.2.TakesBack record := by
  cases comes with
  | asModelled => exact takes
  | unappended cause part =>
      obtain ⟨rfl, heap, inserts⟩ := takes
      cases inserts
      exact takesBack_failedInsert rfl

lemma Database.Moves.takesBack {operation : Operation} {moved : Database × Progress}
    (moves : db.Moves operation moved) (takes : operation.TakesBack record) :
    moved.2.TakesBack record := by
  cases moves with
  | step comes => exact comes.takesBack (takes.step db)
  | unread cause =>
      obtain ⟨rfl, heap, inserts⟩ := takes
      exact takesBack_failed inserts

lemma Database.BeginsIn.takesBack {store : Store} {moved : Database × Progress}
    (begins : db.BeginsIn txn .database store record moved) : moved.2.TakesBack record := by
  cases begins with
  | uncounted cause file whole => exact takesBack_failedInsert rfl
  | counted comes =>
      refine comes.takesBack ?_
      cases store with
      | heap heap =>
          rw [Database.startInsert]
          split
          · exact takesBack_nextProbe ..
          · exact takesBack_failedInsert rfl
      | memory table id =>
          rw [Database.startInsert]
          split
          · exact ⟨_, _, rfl, rfl⟩
          · exact takesBack_failedInsert rfl

/-- Whatever others do meanwhile, the insert takes back the place if it fails. -/
lemma Course.takesBack {meanwhile : Database → Progress → Database → Prop} {progress : Progress}
    {steps : List (Database × Database)} {outcome : Outcome}
    (course : Course meanwhile db progress steps outcome) (takes : progress.TakesBack record) :
    outcome.TakesBack record := by
  induction course with
  | finished => exact takes
  | @move db next progress operation moved rest outcome goes others moves later ih =>
      refine ih (moves.takesBack ?_)
      cases progress with
      | running operation =>
          cases goes
          exact takes
      | parked operation =>
          cases goes
          exact takes
      | finished outcome => cases goes

end TakesBack

/-- **A failed insert into a registered table leaves its record without a place**, whatever place
the record had before, wherever the insert fails, whatever the file refuses, and whatever others do
between its moves. Where the table has no store, nothing is tried, and the record stays as it
was. -/
theorem failed_insert_takes_place_back {db : Database} {txn : TxnId} {table : TableId}
    {record kept : Record} {started : Database × Progress} {steps : List (Database × Database)}
    {error : Error} (begins : db.Begins txn table record started)
    (course : Course (fun _ _ _ => True) started.1 started.2 steps
      (.inserted (.error error) kept)) :
    kept.data = record.data ∧
      kept.id = if db.storage.catalog.contains table then none else record.id := by
  cases begins with
  | registered named begins =>
      rw [course.takesBack begins.takesBack error kept rfl]
      have found := Storage.catalog_of_storeOf named
      rw [Std.ExtTreeMap.contains_eq_isSome_getElem?, found]
      exact ⟨rfl, rfl⟩
  | @unregistered error named =>
      have absent : db.storage.catalog[table]? = none := by
        rw [Storage.storeOf] at named
        split at named
        · cases named
        · next missing => exact missing
      rw [Std.ExtTreeMap.contains_eq_isSome_getElem?, absent]
      cases course with
      | finished => exact ⟨rfl, rfl⟩
      | move goes others moves later => cases goes

/-- A turn whose result is known has led to some database. -/
lemma Database.exists_turn {turn : Database × Turn Operation Outcome}
    {result : Turn Operation Outcome} (told : turn.2 = result) :
    ∃ later, turn = (later, result) := ⟨turn.1, Prod.ext rfl told⟩

/-- The page of a file with one page is full, it is the only one for which there is room, and the
first transaction has changed it. -/
def fullPage : Database :=
  let start : Database := ⟨oneHeap, .empty 1 Nat.one_pos, .empty⟩
  let once := (start.insertRecord ⟨1⟩ ⟨1⟩ (.ofData #[5])).1
  (once.insertRecord ⟨1⟩ ⟨1⟩ (.ofData #[6])).1

/-- A record that was put into the table is inserted once more. There is no room for another page,
and the record loses its place. -/
theorem failed_insert_takes_place_back_exhausted :
    let placed : Record := ⟨some ⟨⟨⟨1⟩, 0⟩, 2⟩, #[6]⟩
    let outcome : Outcome := .inserted (.error (Error.cacheExhausted 1)) placed.unplaced
    ∃ started steps, fullPage.Begins ⟨1⟩ ⟨1⟩ placed started ∧
      Course (fun _ _ _ => True) started.1 started.2 steps outcome ∧
      placed.unplaced.data = placed.data ∧ placed.unplaced.id = none := by
  intro placed outcome
  obtain ⟨later, turn⟩ : ∃ later, (fullPage.startInsertRecord ⟨1⟩ ⟨1⟩ placed).1.proceed
      (fullPage.startInsertRecord ⟨1⟩ ⟨1⟩ placed).2 = (later, .finished outcome) :=
    Database.exists_turn (by decide +kernel)
  have registered : fullPage.storage.catalog.contains ⟨1⟩ = true := by decide +kernel
  have begins := fullPage.begins_startInsertRecord ⟨1⟩ ⟨1⟩ placed
  obtain ⟨steps, course⟩ : ∃ steps, Course (fun _ _ _ => True)
      (fullPage.startInsertRecord ⟨1⟩ ⟨1⟩ placed).1 (fullPage.startInsertRecord ⟨1⟩ ⟨1⟩ placed).2
      steps outcome := Course.of_turn (fun _ _ => trivial) turn .finished
  have kept := failed_insert_takes_place_back begins course
  rw [if_pos registered] at kept
  exact ⟨_, steps, begins, course, kept⟩

/-- The record is inserted into a table without a store. It keeps its place in the other table. -/
theorem unregistered_insert_keeps_place :
    let placed : Record := ⟨some ⟨⟨⟨1⟩, 0⟩, 2⟩, #[6]⟩
    (fullPage.records ⟨⟨⟨1⟩, 0⟩, 2⟩ = some placed.data) ∧
      (fullPage.insertRecord ⟨1⟩ ⟨2⟩ placed).2 =
        .finished (.inserted (.error (Error.tableNotFound ⟨2⟩)) placed) ∧ placed.id ≠ none := by
  intro placed
  exact ⟨by decide +kernel, by decide +kernel, by decide⟩

end PageTxn
