import PageTxn.Proofs.Search
import PageTxn.Proofs.SlotEdits

/-!
What a delete removes, and that it undoes an insert.

* `SlotLayout.clear?_of_place`: to clear a slot undoes placing a record there, byte by byte, if the
  bytes of the slot were zero.
* `Database.Erasing` is a delete that has not waited, up to the move that clears the slot
  (`Erasing.step`). `erase_turn`: with the page at hand, the delete ends in the same turn.
* `Database.Deleted` says what a delete has done, and with which answer.
* `delete_is_exact`: a delete that does not wait and is not refused removes its record and nothing
  else, or leaves everything as it is; and directly after an insert it gives back the image.
-/

namespace PageTxn

namespace Image

/-- A bit of a byte that was not set is set and cleared again. -/
lemma clear_mask {byte : UInt8} {i : Nat} (inside : i < 8) (unset : byte.toNat.testBit i = false) :
    (byte ||| mask i) &&& ~~~ mask i = byte := by
  refine byte_ext fun j small => ?_
  rw [UInt8.toNat_and, UInt8.toNat_or, Nat.testBit_and, Nat.testBit_or, testBit_mask inside small,
    testBit_not_mask inside small]
  by_cases here : i = j
  · subst here
    simp [unset]
  · simp [here]

end Image

namespace SlotLayout

variable {layout : SlotLayout} {page payload image : Image} {slot : Nat}

/-- What placing a record does to the bytes. -/
lemma image_of_place (fits : layout.Fits page.size)
    (placed : layout.place? page payload = .ok (some (slot, image))) :
    slot < layout.slots ∧ page.bit? slot = .ok false ∧ payload.size = layout.recordSize ∧
      image = (page.splice (layout.offset slot) payload).setBit slot true := by
  obtain ⟨free, written⟩ := firstFree_of_place placed
  obtain ⟨inside, unused⟩ := firstFreeAmong_eq_some free
  have inside := List.mem_range.mp inside
  rw [write?, if_pos (offset_le fits inside)] at written
  split at written
  · next whole =>
    cases written
    exact ⟨inside, unused, whole, rfl⟩
  · cases written

/-- To clear a slot undoes placing a record there, if the bytes of the slot were zero. -/
theorem clear?_of_place (fits : layout.Fits page.size)
    (placed : layout.place? page payload = .ok (some (slot, image)))
    (zero : page.extract (layout.offset slot) (layout.offset slot + layout.recordSize) =
      Image.zeros layout.recordSize) :
    (slot < layout.slots ∧ (isUsed? image slot).toOption = some true) ∧
      layout.cleared image slot = page := by
  obtain ⟨inside, unused, whole, rfl⟩ := image_of_place fits placed
  have range := offset_le fits inside
  have header := bit_lt_header inside
  have start : layout.headerSize ≤ layout.offset slot := Nat.le_add_right ..
  have size : (page.splice (layout.offset slot) payload).size = page.size :=
    Image.size_splice (by omega)
  refine ⟨⟨inside, ?_⟩, Array.ext_getElem? fun i => ?_⟩
  · rw [isUsed?, Image.bit?_setBit (by omega), if_pos rfl]
    rfl
  · rw [cleared, Image.setBit, Array.getElem?_modify, Image.getElem?_splice (by
      rw [Image.size_setBit, size, Image.size_zeros]; exact range), Image.size_zeros]
    by_cases bitmap : slot / 8 = i
    · -- the byte with the bit of the slot
      rw [if_pos bitmap, if_neg (by omega), Image.setBit, Array.getElem?_modify, if_pos bitmap,
        Image.getElem?_splice (by omega), if_neg (by omega)]
      cases byte : page[i]? with
      | none => rfl
      | some value =>
          rw [Image.bit?, bitmap, byte] at unused
          have unset : value.toNat.testBit (slot % 8) = false := Except.ok.inj unused
          simp only [Option.map_some, if_true, Bool.false_eq_true, if_false,
            Image.clear_mask (Nat.mod_lt slot (by decide)) unset]
    · rw [if_neg bitmap]
      by_cases within : layout.offset slot ≤ i ∧ i < layout.offset slot + layout.recordSize
      · -- a byte of the slot
        have byte := congrArg (fun bytes => bytes[i - layout.offset slot]?) zero
        simp only [Array.getElem?_extract] at byte
        rw [if_pos within, ← byte, if_pos (by omega), Nat.add_sub_cancel' within.1]
      · rw [if_neg within, Image.getElem?_setBit_of_ne _ bitmap,
          Image.getElem?_splice (by omega), if_neg (by omega)]

end SlotLayout

/-- The number of the last page of the file that an insert may look at. -/
def Aim.last (aim : Aim) : Nat := aim.page.number + (aim.left?.map Prod.snd).getD 0

namespace Database

variable {start db later : Database} {size : PageSize} {txn : TxnId} {level : Level}
  {heap : HeapFile} {record : Record} {id : RecordId} {frame : FrameId}

/-! ### A page at hand -/

/-- A used slot of a page that the file has, as the page is shown. -/
def Occupied (db : Database) (heap : HeapFile) (id : RecordId) : Prop := db.Marked heap true id

/-- With the page at hand, the slot is cleared and the delete ends in the same turn, or it finds
nothing to clear and leaves everything as it is. -/
lemma erase_turn (sized : db.Sized size) (opened : heap.OpenedUnder size) (id : RecordId)
    (there : db.cache.residentFrame? id.page = some frame) {image : Image}
    (shown : db.shown? id.page = some image) (txn : TxnId) (level : Level) :
    (id.slot < heap.layout.slots ∧ db.slotUsed? id = some true ∧
      ∃ later, (db.usePage txn level (.erase heap id) frame).1.proceed
          (db.usePage txn level (.erase heap id) frame).2 =
            (later, .finished (.deleted (.ok [frame]))) ∧
        Puts txn id.page (heap.layout.cleared image id.slot) later db) ∨
      ¬ (id.slot < heap.layout.slots ∧ db.slotUsed? id = some true) ∧
        db.usePage txn level (.erase heap id) frame =
          (db, .finished (.deleted (.error (Error.recordNotFound id)))) := by
  have orderly := sized.exact.toOrderly
  have made := orderly.made _ frame there
  have live := shown?_of_resident there
  have fits := sized.fits made opened
  rw [shown] at live
  cases live
  have used_eq : db.slotUsed? id =
      (SlotLayout.isUsed? (db.cache.frame frame).live id.slot).toOption := by
    rw [slotUsed?, shown, Option.bind_some]
  rw [used_eq]
  by_cases used : id.slot < heap.layout.slots ∧
      (SlotLayout.isUsed? (db.cache.frame frame).live id.slot).toOption = some true
  · have answer := SlotLayout.clear?_eq fits id.slot
    rw [if_pos used] at answer
    have whole : (heap.layout.cleared (db.cache.frame frame).live id.slot).size = size.bytes := by
      rw [SlotLayout.size_of_clear? answer]
      exact sized.cache frame made
    obtain ⟨middle, changed, sized⟩ := sized.changeFrame made txn whole
    have puts := puts_changeFrame orderly there changed
    have resident := (puts.resident id.page).trans there
    obtain ⟨later, returned, puts, -⟩ := puts.returns sized resident (.deletion _) rfl level
    refine .inl ⟨used.1, used.2, later, ?_, puts⟩
    simp only [usePage, answer, changed]
    exact returned
  · have answer := SlotLayout.clear?_eq fits id.slot
    rw [if_neg used] at answer
    refine .inr ⟨used, ?_⟩
    simp only [usePage, answer]
    rfl

/-! ### Deleting -/

/-- What a delete has done that answers so: exactly the record is gone, or nothing has changed as
there was no record. -/
inductive Deleted (db later : Database) (txn : TxnId) (heap : HeapFile) (id : RecordId) :
    Except Failure (List FrameId) → Prop
  | removed {pages : List FrameId} (occupied : db.Occupied heap id) (live : db.records id ≠ none)
      (records : later.records = Function.update db.records id none)
      (owner : later.owner? id.page = some txn) : Deleted db later txn heap id (.ok pages)
  | missing (unoccupied : ¬ db.Occupied heap id)
      (shown : ∀ page, later.shown? page = db.shown? page)
      (owner : ∀ page, later.owner? page = db.owner? page) :
      Deleted db later txn heap id (.error (Error.recordNotFound id))

/-- A delete has not waited. It has not come to its page yet, or it was refused. -/
inductive Erasing (size : PageSize) (start : Database) (txn : TxnId) (level : Level)
    (heap : HeapFile) (id : RecordId) (db : Database) : Progress → Prop
  | running {stage : Stage} (sized : db.Sized size) (rests : db.Rests start)
      (known : db.AtStage txn (.erase heap id) stage) :
      Erasing size start txn level heap id db
        (.running (.fetching txn level (.erase heap id) stage))
  | parked {operation : Operation} : Erasing size start txn level heap id db (.parked operation)
  | refused {error : Error} (refusal : error.isRefusal = true) :
      Erasing size start txn level heap id db (.finished (.deleted (.error error)))

/-- One move of a delete that has not come to its page yet. -/
lemma Erasing.step (found : start.storage.catalog[id.page.table]? = some (.heap heap))
    (opened : heap.OpenedUnder size) (stored : start.storage.image? id.page ≠ none)
    {stage : Stage} (sized : db.Sized size) (rests : db.Rests start)
    (known : db.AtStage txn (.erase heap id) stage) (unused : ∀ frame, stage ≠ .use frame) :
    Erasing size start txn level heap id
      (db.step (.fetching txn level (.erase heap id) stage)).1
      (db.step (.fetching txn level (.erase heap id) stage)).2 := by
  have found : db.storage.catalog[(Aim.erase heap id).page.table]? = some (.heap heap) := by
    rw [rests.storage]
    exact found
  have kept := known.sized_step sized found opened level
  have fetched := fetched_step rests.faithful sized.exact.toOrderly found known unused level
  generalize db.step (.fetching txn level (.erase heap id) stage) = moved at kept fetched
  cases fetched with
  | next further known asked => exact .running kept (further.trans rests) known
  | parked further => exact .parked
  | refused further refusal =>
      rcases refusal with refusal | missing
      · exact .refused refusal
      · rw [rests.storage] at missing
        exact absurd missing stored

/-- A delete that does not wait and is not refused removes its record, or finds none. -/
theorem deleted_of_turn (rest : db.AtRest size heap) (placed : record.id = some id)
    {result : Except Failure (List FrameId)}
    (turn : (db.startDelete txn level (.heap heap) record).1.proceed
      (db.startDelete txn level (.heap heap) record).2 = (later, .finished (.deleted result)))
    (unrefused : ∀ error : Error, result = .error error → error.isRefusal = false) :
    db.Deleted later txn heap id result := by
  have fit := rest.fit
  have count : db.storage.heapPages heap = db.storage.pages heap := Storage.heapPages_eq rest.room
  simp only [startDelete, placed, count] at turn
  split at turn
  · next inside =>
    obtain ⟨table, number⟩ := inside
    have found : db.storage.catalog[id.page.table]? = some (.heap heap) := by
      rw [table]
      exact fit.registered
    have stored : db.storage.image? id.page ≠ none :=
      (Storage.image?_heap_ne_none_iff found).mpr number
    have same : db.Rests db := fit.faithful.rests_of_stats db.locks db.cache.stats
    have begun : Erasing size db txn level heap id db ((Aim.erase heap id).start txn level) :=
      .running fit.sized same trivial
    rcases keeps_or_breaks begun turn with refused | ⟨middle, operation, erasing, breaks, goes⟩
    · cases refused with
      | refused refusal =>
          rw [unrefused _ rfl] at refusal
          cases refusal
    · cases erasing with
      | @running stage sized rests known =>
      obtain ⟨frame, rfl⟩ : ∃ frame, stage = .use frame := by
        by_contra unused
        exact breaks (Erasing.step found fit.opened stored sized rests known fun frame same =>
          unused ⟨frame, same⟩)
      -- the page is at hand, and shows what it showed at the start
      have there : middle.cache.residentFrame? id.page = some frame := known.2
      have shown := shown?_of_resident there
      have marks : db.slotUsed? id = middle.slotUsed? id := by
        rw [slotUsed?, slotUsed?, rests.shown]
      rcases erase_turn sized fit.opened id there shown txn level with
        ⟨inside, used, last, ends, puts⟩ | ⟨unused, ends⟩
      · cases ends.symm.trans goes
        have found' : middle.storage.catalog[id.page.table]? = some (.heap heap) := by
          rw [rests.storage]
          exact found
        have fits := sized.fits (sized.exact.made _ frame there) fit.opened
        obtain ⟨live, exchanged⟩ := SlotLayout.payload?_cleared fits
          ⟨inside, by rwa [slotUsed?, shown, Option.bind_some] at used⟩
        have records : middle.records = db.records :=
          rests.preserves.records_eq fit.sized.storage.opened
        refine .removed ⟨table, number, inside, marks.trans used⟩ ?_ ?_ ?_
        · rw [← records, Database.records, shown, Option.bind_some, Storage.payloadIn_heap found']
          exact live
        · rw [← records]
          exact puts.records_eq found' shown exchanged
        · rw [puts.owner, if_pos rfl]
      · rw [step, ends] at goes
        cases goes
        refine .missing (fun occupied => unused ⟨occupied.slot, ?_⟩) rests.shown rests.owner
        rw [← marks]
        exact occupied.bit
  · next outside =>
    cases turn
    exact .missing (fun occupied => outside ⟨occupied.table, occupied.page⟩) (fun _ => rfl)
      fun _ => rfl

/-! ### Undoing an insert -/

/-- A turn of an insert begins: the insert is started, or it goes on after it was parked, at a page
that the file has with all those that are left. -/
inductive InsertTurn (db : Database) (txn : TxnId) (level : Level) (heap : HeapFile)
    (record : Record) : Database × Progress → Prop
  | started : db.InsertTurn txn level heap record (db.startInsert txn level (.heap heap) record)
  | resumed {aim : Aim} {waited : Bool} (inserts : aim.insert? = some (heap, record))
      (whole : record.data.size = heap.layout.recordSize)
      (inside : aim.last < db.storage.pages heap) :
      db.InsertTurn txn level heap record
        (db, .running (.fetching txn level aim (.lock waited)))

/-- An insert knows that the file has the page that it has come to and those that are left, and that
the data are preserved. -/
inductive Ahead (start : Database) (heap : HeapFile) (db : Database) : Aim → Prop
  | among {aim : Aim} {number remaining : Nat} (left : aim.left? = some (number, remaining))
      (inside : number + remaining < start.storage.pages heap) (rests : db.Rests start) :
      Ahead start heap db aim
  | behind {record : Record} {number : Nat} (inside : number < db.storage.pages heap)
      (preserves : db.Preserves start) : Ahead start heap db (.fill heap record number)

lemma Ahead.preserves {aim : Aim} (ahead : Ahead start heap db aim) : db.Preserves start := by
  cases ahead with
  | among left inside rests => exact rests.preserves
  | behind inside preserves => exact preserves

lemma Ahead.inside {aim : Aim} (ahead : Ahead start heap db aim)
    (inserts : aim.insert? = some (heap, record)) : aim.page.number < db.storage.pages heap := by
  cases ahead with
  | @among _ number remaining left inside rests =>
      have here : aim.page.number = number := by
        cases aim <;> cases inserts <;> cases left <;> rfl
      rw [rests.storage]
      omega
  | behind inside preserves => exact inside

/-- An insert goes on to its next page, or appends one. -/
lemma ahead_nextProbe (rest : start.AtRest size heap) {locks : LockManager}
    {number remaining : Nat} (fit : db.Fit size heap) (rests : db.Rests start)
    (inside : number + remaining ≤ start.storage.pages heap) {moved : Database × Progress}
    (goes : nextProbe { db with locks } txn level heap record number remaining = moved) :
    Searching (Ahead start heap) size txn level heap record moved.1 moved.2 := by
  refine searching_nextProbe fit rests rest.room (fun later left alreadyHeld more rests => ?_)
    (fun last later preserves storage cache => ?_) goes
  · exact .among rfl (by omega) rests
  · refine .behind ?_ preserves
    rw [storage, (Storage.pages_appendPage rest.room).2]
    exact Nat.lt_succ_self _

lemma carried_ahead (rest : start.AtRest size heap) :
    Carried (Ahead start heap) size txn level heap record where
  rests ahead rests := by
    cases ahead with
    | among left inside rests' => exact .among left inside (rests.trans rests')
    | behind inside preserves =>
        exact .behind (by rw [rests.storage]; exact inside) (rests.preserves.trans preserves)
  claim ahead := by
    cases ahead with
    | among left inside rests =>
        cases left
        exact .among rfl inside rests
  next fit ahead left full moved goes := by
    cases ahead with
    | among left' inside rests =>
        cases left.symm.trans left'
        exact ahead_nextProbe rest fit rests (by omega) goes
    | behind => cases left

/-- An insert that succeeds in this turn has settled its record on a page that the file has. -/
lemma InsertTurn.settles (rest : db.AtRest size heap) {turn : Database × Progress}
    (begins : db.InsertTurn txn level heap record turn) {ids : List FrameId} {kept : Record}
    (inserted : turn.1.proceed turn.2 = (later, .finished (.inserted (.ok ids) kept))) :
    ∃ id, kept = record.placed id ∧ Settles (Ahead db heap) size txn heap record later id := by
  have same : db.Rests db := rest.faithful.rests_of_stats db.locks db.cache.stats
  cases begins with
  | started =>
      rw [startInsert] at inserted
      split at inserted
      · next whole =>
        have count : db.storage.heapPages heap = db.storage.pages heap :=
          Storage.heapPages_eq rest.room
        have searching : Searching (Ahead db heap) size txn level heap record
            (db.nextProbe txn level heap record 0 (db.storage.heapPages heap)).1
            (db.nextProbe txn level heap record 0 (db.storage.heapPages heap)).2 :=
          ahead_nextProbe rest rest.fit same (by omega) rfl
        exact searching.of_turn (carried_ahead rest) whole inserted
      · cases level <;> cases inserted
  | @resumed aim waited inserts whole inside =>
      have ahead : Ahead db heap db aim := by
        cases aim with
        | hand page mode => cases inserts
        | erase heap id => cases inserts
        | collect heap number remaining found => cases inserts
        | probe heap record number remaining alreadyHeld =>
            cases inserts
            exact .among rfl inside same
        | claim heap record number remaining =>
            cases inserts
            exact .among rfl inside same
        | fill heap record number =>
            cases inserts
            exact .behind inside same.preserves
      have searching : Searching (Ahead db heap) size txn level heap record db
          (.running (.fetching txn level aim (.lock waited))) :=
        .running inserts ahead rest.fit trivial
      exact searching.of_turn (carried_ahead rest) whole inserted

/-- A transaction that holds a page exclusively is granted the lock on it, and finds the page at
hand. -/
lemma lockPage_of_held {aim : Aim} (held : db.locks.table.modeOf? txn aim.page = some .exclusive)
    (there : db.cache.residentFrame? aim.page = some frame) (level : Level) (waited : Bool) :
    ∃ locks, db.lockPage txn level aim waited =
      ({ db with locks, cache := db.cache.countHit },
        .running (.fetching txn level aim (.use frame))) := by
  have lock := LockTable.modeOf?_eq_exclusive_iff.mp held
  have free : db.locks.table.blockers txn aim.page aim.mode = ∅ := by
    simp only [LockTable.blockers, lock, if_pos]
  have granted : (db.locks.request txn aim.page aim.mode waited).2 = .granted := by
    rw [LockManager.request, LockTable.request, free]
    rfl
  refine ⟨(db.locks.request txn aim.page aim.mode waited).1, ?_⟩
  rw [lockPage]
  split
  · next locks requested =>
    rw [there, requested]
  · next locks requested =>
    rw [requested] at granted
    cases granted
  · next locks requested =>
    rw [requested] at granted
    cases granted

/-- A delete directly after an insert does not wait, succeeds, and gives back the image that the
page had before, if the bytes of the slot were zero. -/
theorem Settles.undone (settles : Settles (Ahead start heap) size txn heap record db id)
    (room : db.storage.pages heap < UInt32.size) {kept : Record} (placed : kept.id = some id)
    (level : Level) :
    ∃ before, before = (start.shown? id.page).getD (.zeros start.storage.pageSize.bytes) ∧
      (before.extract (heap.layout.offset id.slot)
          (heap.layout.offset id.slot + heap.layout.recordSize) =
            Image.zeros heap.layout.recordSize →
        ∃ later pages, (db.startDelete txn level (.heap heap) kept).1.proceed
            (db.startDelete txn level (.heap heap) kept).2 =
              (later, .finished (.deleted (.ok pages))) ∧
          later.shown? id.page = some before) := by
  cases settles with
  | @intro middle aim slot before image frame inserts ahead fit held there shown put puts sized =>
  refine ⟨before, ?_, fun zero => ?_⟩
  · rcases ahead.preserves.shown aim.page with same | ⟨absent, zeroed⟩
    · rw [← same, shown]
      rfl
    · cases zeroed.symm.trans shown
      rw [absent]
      rfl
  · have found : middle.storage.catalog[aim.page.table]? = some (.heap heap) := by
      rw [table_of_insert inserts]
      exact fit.registered
    have fits : heap.layout.Fits before.size := by
      rw [fit.sized.size_of_shown found shown]
      exact SlotLayout.fits_of_layoutFor fit.opened
    obtain ⟨used, restored⟩ := SlotLayout.clear?_of_place fits put zero
    have inside : aim.page.table = heap.table ∧ aim.page.number < db.storage.heapPages heap := by
      rw [Storage.heapPages_eq room, puts.storage]
      exact ⟨table_of_insert inserts, ahead.inside inserts⟩
    -- the lock is still held, and the page is resident and shows the record
    have resident := (puts.resident aim.page).trans there
    have shown' := puts.shown aim.page
    rw [if_pos rfl] at shown'
    have held : db.locks.table.modeOf? txn (Aim.erase heap ⟨aim.page, slot⟩).page =
        some .exclusive := by
      rw [puts.locks]
      exact held
    obtain ⟨locks, asked⟩ := lockPage_of_held held resident level false
    have marked : db.slotUsed? ⟨aim.page, slot⟩ = some true := by
      rw [slotUsed?, shown', Option.bind_some]
      exact used.2
    simp only [startDelete, placed]
    rw [if_pos inside, Aim.start, proceed, resume_eq, step, asked, proceed, resume_eq, step]
    have counted : Sized size { db with locks, cache := db.cache.countHit } :=
      sized.of_stats locks _
    have showing : shown? { db with locks, cache := db.cache.countHit } aim.page = some image :=
      shown'
    rcases erase_turn counted fit.opened ⟨aim.page, slot⟩ resident showing txn level with
      ⟨-, -, later, ends, cleared⟩ | ⟨unused, ends⟩
    · refine ⟨later, [frame], ends, ?_⟩
      rw [cleared.shown, if_pos rfl, restored]
    · exact absurd ⟨used.1, marked⟩ unused

/-- **A delete is exact, and undoes an insert.** A delete from a registered heap file that neither
waits nor is refused succeeds exactly if its place exists and is used. Then exactly that record is
gone, and the page carries the changes of the transaction; otherwise the record is not found, and
every page shows what it showed and carries the changes of whom it did. If a transaction deletes a
record directly after an insert of it has succeeded, it does not wait and is not refused, and the
page gets back the image that it had before the insert put the record there, provided the bytes of
the slot were zero. -/
theorem delete_is_exact (rest : db.AtRest size heap) (txn : TxnId) (level : Level)
    (record : Record) :
    (∀ id later result, record.id = some id →
      (db.startDelete txn level (.heap heap) record).1.proceed
        (db.startDelete txn level (.heap heap) record).2 = (later, .finished (.deleted result)) →
      (∀ error : Error, result = .error error → error.isRefusal = false) →
        db.Deleted later txn heap id result) ∧
    ∀ (turn : Database × Progress) (middle : Database) (ids : List FrameId) (kept : Record),
      db.InsertTurn txn level heap record turn →
      turn.1.proceed turn.2 = (middle, .finished (.inserted (.ok ids) kept)) →
      middle.storage.pages heap < UInt32.size →
        ∃ id before, kept = record.placed id ∧
          before = (db.shown? id.page).getD (.zeros db.storage.pageSize.bytes) ∧
          (before.extract (heap.layout.offset id.slot)
              (heap.layout.offset id.slot + heap.layout.recordSize) =
                Image.zeros heap.layout.recordSize →
            ∃ later pages, (middle.startDelete txn level (.heap heap) kept).1.proceed
                (middle.startDelete txn level (.heap heap) kept).2 =
                  (later, .finished (.deleted (.ok pages))) ∧
              later.shown? id.page = some before) := by
  constructor
  · intro id later result placed turn unrefused
    exact deleted_of_turn rest placed turn unrefused
  · intro turn middle ids kept begins inserted room
    obtain ⟨id, rfl, settles⟩ := begins.settles rest inserted
    have placed : (record.placed id).id = some id := rfl
    obtain ⟨before, shown, undone⟩ := settles.undone room placed level
    exact ⟨id, before, rfl, shown, undone⟩

end Database

/-- The second transaction deletes a record from the page that is full. Or it puts a record on a new
page, and deletes it again. -/
theorem delete_is_exact_twice :
    let heap : HeapFile := ⟨⟨1⟩, ⟨1, 3⟩, ["records"]⟩
    let size : PageSize := ⟨4, by decide⟩
    let db := afterDeeds barNewPage
    let old : RecordId := ⟨⟨⟨1⟩, 0⟩, 1⟩
    let new : RecordId := ⟨⟨⟨1⟩, 1⟩, 0⟩
    let record : Record := ⟨some old, #[7]⟩
    db.AtRest size heap ∧
      (∃ later, (db.startDelete ⟨2⟩ .database (.heap heap) record).1.proceed
          (db.startDelete ⟨2⟩ .database (.heap heap) record).2 =
            (later, .finished (.deleted (.ok [0]))) ∧
        db.Deleted later ⟨2⟩ heap old (.ok [0])) ∧
      ∃ middle later pages, (db.startInsert ⟨2⟩ .database (.heap heap) record).1.proceed
          (db.startInsert ⟨2⟩ .database (.heap heap) record).2 =
            (middle, .finished (.inserted (.ok [1]) (record.placed new))) ∧
        (middle.startDelete ⟨2⟩ .database (.heap heap) (record.placed new)).1.proceed
            (middle.startDelete ⟨2⟩ .database (.heap heap) (record.placed new)).2 =
              (later, .finished (.deleted (.ok pages))) ∧
        later.shown? new.page = some #[0, 0, 0, 0] := by
  intro heap size db old new record
  have calm : db.AtRest size heap :=
    ⟨reachable_afterDeeds (by simp [barNewPage, Deed.Sized, Call.Sized]),
      Database.faithful_of_residentPages (by decide +kernel), by decide +kernel,
      by decide +kernel⟩
  obtain ⟨later, deletes⟩ : ∃ later, (db.startDelete ⟨2⟩ .database (.heap heap) record).1.proceed
      (db.startDelete ⟨2⟩ .database (.heap heap) record).2 =
        (later, .finished (.deleted (.ok [0]))) := Database.exists_turn (by decide +kernel)
  obtain ⟨middle, inserts⟩ : ∃ middle, (db.startInsert ⟨2⟩ .database (.heap heap) record).1.proceed
      (db.startInsert ⟨2⟩ .database (.heap heap) record).2 =
        (middle, .finished (.inserted (.ok [1]) (record.placed new))) :=
    Database.exists_turn (by decide +kernel)
  have pages : ((db.startInsert ⟨2⟩ .database (.heap heap) record).1.proceed
      (db.startInsert ⟨2⟩ .database (.heap heap) record).2).1.storage.pages heap <
        UInt32.size := by decide +kernel
  have absent : db.shown? new.page = none := by decide +kernel
  have bytes : db.storage.pageSize.bytes = 4 := by decide +kernel
  -- the runs need not be evaluated again
  clear_value db
  rw [inserts] at pages
  obtain ⟨exact_delete, undone⟩ := Database.delete_is_exact calm ⟨2⟩ .database record
  obtain ⟨id, before, same, shown, restores⟩ := undone _ middle [1] _ .started inserts pages
  cases same
  rw [absent, bytes] at shown
  subst shown
  obtain ⟨last, ids, deleted, image⟩ := restores (by decide)
  have removed : db.Deleted later ⟨2⟩ heap old (.ok [0]) :=
    exact_delete old later _ rfl deletes fun error failed => by cases failed
  exact ⟨calm, ⟨later, deletes, removed⟩, middle, last, ids, inserts, deleted, image⟩

end PageTxn
