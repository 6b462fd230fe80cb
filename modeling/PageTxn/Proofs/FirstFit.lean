import PageTxn.Proofs.Search

/-!
Where an insert puts its record.

* `SlotLayout.used_of_firstFree`: the slots before the first free one are used.
* `Database.Vacant` places are the free slots of the pages that a file has. `Database.Passed` is
  what an insert knows that has begun at the first page: all pages before are full
  (`carried_passed`).
* `insert_takes_first_place`: so an insert that does not wait takes the first vacant place, or the
  first slot of a new page if no place is vacant.
-/

namespace PageTxn

namespace SlotLayout

variable {layout : SlotLayout} {page : Image} {found : Option Nat}

/-- Of ascending slots, those before the first free one are used, and all if none is free. -/
lemma used_of_firstFreeAmong {slots : List Nat} (ascending : slots.Pairwise (· < ·))
    (free : firstFreeAmong page slots = .ok found) {slot : Nat} (inside : slot ∈ slots)
    (before : ∀ first, found = some first → slot < first) : isUsed? page slot = .ok true := by
  induction slots with
  | nil => cases inside
  | cons first rest ih =>
      obtain ⟨least, ascending⟩ := List.pairwise_cons.mp ascending
      rw [firstFreeAmong] at free
      cases bit : isUsed? page first with
      | error fault => simp [bit, bind, Except.bind] at free
      | ok used =>
          rw [bit] at free
          cases used with
          | true =>
              rcases List.mem_cons.mp inside with rfl | later
              · exact bit
              · exact ih ascending free later
          | false =>
              cases free
              have less := before first rfl
              rcases List.mem_cons.mp inside with rfl | later
              · omega
              · have more := least slot later
                omega

/-- The slots before the first free one are used, and all if none is free. -/
theorem used_of_firstFree (free : layout.firstFree? page = .ok found) {slot : Nat}
    (inside : slot < layout.slots) (before : ∀ first, found = some first → slot < first) :
    isUsed? page slot = .ok true :=
  used_of_firstFreeAmong List.pairwise_lt_range free (List.mem_range.mpr inside) before

end SlotLayout

/-- A page that is appended did not exist, and is zeroed. -/
lemma Storage.image?_appendPage {storage : Storage} {heap : HeapFile}
    (room : storage.pages heap < UInt32.size)
    (found : storage.catalog[heap.table]? = some (.heap heap)) :
    storage.image? (heap.page (storage.pages heap)) = none ∧
      (storage.appendPage heap).2.image? (heap.page (storage.pages heap)) =
        some (.zeros storage.pageSize.bytes) := by
  have found : storage.catalog[(heap.page (storage.pages heap)).table]? = some (.heap heap) := found
  constructor
  · rw [image?_heap found, PageFile.read?]
    exact if_neg (Nat.lt_irrefl _)
  · have appended := PageFile.read?_append room (storage.pages heap)
    have found : (storage.appendPage heap).2.catalog[(heap.page (storage.pages heap)).table]? =
        some (.heap heap) := found
    rw [image?_heap found]
    show PageFile.read? ((storage.setFile heap
      (PageFile.append (storage.disk.bytes heap.file) storage.pageSize).2).disk.bytes heap.file)
        storage.pageSize (storage.pages heap) = _
    rw [setFile, Disk.bytes_setBytes, if_pos rfl, appended]
    exact if_pos rfl

namespace Database

variable {start db later : Database} {size : PageSize} {txn : TxnId} {level : Level}
  {heap : HeapFile} {record : Record} {page : PageId} {aim : Aim}

/-! ### Vacant places -/

/-- A free slot of a page that the file has, as the page is shown. -/
def Vacant (db : Database) (heap : HeapFile) (id : RecordId) : Prop := db.Marked heap false id

/-- No place of a full page is vacant. -/
lemma Full.not_vacant (full : db.Full heap page) {id : RecordId} (here : id.page = page) :
    ¬ db.Vacant heap id := by
  intro vacant
  obtain ⟨image, shown, none_free⟩ := full
  have used := SlotLayout.used_of_firstFree none_free vacant.slot fun first found => by cases found
  have free := vacant.bit
  rw [slotUsed?, here, shown, Option.bind_some, used] at free
  cases free

/-- A place of the file lies on the page with its number. -/
lemma Vacant.page_eq {id : RecordId} (vacant : db.Vacant heap id) :
    id.page = heap.page id.page.number := by
  rw [HeapFile.page, ← vacant.table]

/-- The first free slot of a page that the file has is vacant. -/
lemma vacant_of_firstFree {number slot : Nat} {image : Image}
    (inside : number < db.storage.pages heap) (shown : db.shown? (heap.page number) = some image)
    (free : heap.layout.firstFree? image = .ok (some slot)) :
    db.Vacant heap ⟨heap.page number, slot⟩ := by
  obtain ⟨exists_slot, unused⟩ := SlotLayout.firstFreeAmong_eq_some free
  refine ⟨rfl, inside, List.mem_range.mp exists_slot, ?_⟩
  rw [slotUsed?, shown, Option.bind_some, SlotLayout.isUsed?, unused]
  rfl

/-- If all pages before are full, the first free slot of a page is the first vacant place. -/
lemma Vacant.precedes {number slot : Nat} {image : Image} {other : RecordId}
    (vacant : db.Vacant heap other) (full : ∀ passed < number, db.Full heap (heap.page passed))
    (shown : db.shown? (heap.page number) = some image)
    (free : heap.layout.firstFree? image = .ok (some slot)) :
    other = ⟨heap.page number, slot⟩ ∨ RecordId.Precedes ⟨heap.page number, slot⟩ other := by
  have page := vacant.page_eq
  rcases Nat.lt_trichotomy other.page.number number with less | equal | more
  · exact absurd vacant ((full _ less).not_vacant page)
  · -- on the page itself, the slots before are used
    rw [equal] at page
    have behind : slot ≤ other.slot := by
      by_contra before
      have used := SlotLayout.used_of_firstFree free vacant.slot fun first found => by
        cases found
        omega
      have unused := vacant.bit
      rw [slotUsed?, page, shown, Option.bind_some, used] at unused
      cases unused
    rcases Nat.eq_or_lt_of_le behind with same | less
    · cases other
      cases page
      cases same
      exact .inl rfl
    · exact .inr (.inr ⟨equal.symm, less⟩)
  · exact .inr (.inl more)

/-- The first place that was vacant, or, if none was, the first slot of a page that has been
appended. -/
inductive FirstPlace (start later : Database) (heap : HeapFile) : RecordId → Prop
  | vacant {id : RecordId} (vacant : start.Vacant heap id)
      (first : ∀ other, start.Vacant heap other → other = id ∨ id.Precedes other)
      (storage : later.storage = start.storage) : FirstPlace start later heap id
  | appended (full : ∀ other, ¬ start.Vacant heap other)
      (storage : later.storage = (start.storage.appendPage heap).2)
      (one : later.storage.pages heap = start.storage.pages heap + 1) :
      FirstPlace start later heap ⟨heap.page (start.storage.pages heap), 0⟩

/-! ### Looking for the first place -/

/-- No page of the file is resident that it does not have. -/
def NoneBeyond (heap : HeapFile) (db : Database) : Prop :=
  ∀ number, db.storage.pages heap ≤ number → db.cache.residentFrame? (heap.page number) = none

/-- It is enough to look at the pages that are resident. -/
lemma noneBeyond_of_residentPages
    (all : ∀ page ∈ db.cache.residentPages, page.number < db.storage.pages heap) :
    db.NoneBeyond heap := by
  intro number outside
  cases there : db.cache.residentFrame? (heap.page number) with
  | none => rfl
  | some id =>
      have inside : number < db.storage.pages heap := all _ (Cache.mem_residentPages there)
      omega

/-- An insert that has begun with the first page knows that all pages are full that it has passed.
It has come to a page that the file had at the start, or to one that it has appended. -/
inductive Passed (start : Database) (heap : HeapFile) (db : Database) : Aim → Prop
  | among {aim : Aim} {number remaining : Nat} (left : aim.left? = some (number, remaining))
      (inside : number + 1 + remaining = start.storage.pages heap)
      (full : ∀ passed < number, start.Full heap (heap.page passed)) (rests : db.Rests start) :
      Passed start heap db aim
  | behind {record : Record}
      (full : ∀ passed < start.storage.pages heap, start.Full heap (heap.page passed))
      (preserves : db.Preserves start)
      (storage : db.storage = (start.storage.appendPage heap).2)
      (zeroed : db.shown? (heap.page (start.storage.pages heap)) =
        some (.zeros start.storage.pageSize.bytes)) :
      Passed start heap db (.fill heap record (start.storage.pages heap))

lemma Passed.preserves (passed : Passed start heap db aim) : db.Preserves start := by
  cases passed with
  | among left inside full rests => exact rests.preserves
  | behind full preserves storage zeroed => exact preserves

/-- The free slot that an insert finds on the page that it has come to is the first place. -/
lemma Passed.firstPlace (passed : Passed start heap db aim)
    (inserts : aim.insert? = some (heap, record))
    (opened : heap.OpenedUnder start.storage.pageSize)
    (room : start.storage.pages heap < UInt32.size) {before : Image} {slot : Nat}
    (shown : db.shown? aim.page = some before)
    (free : heap.layout.firstFree? before = .ok (some slot)) (same : later.storage = db.storage) :
    start.FirstPlace later heap ⟨aim.page, slot⟩ := by
  cases passed with
  | @among _ number remaining left inside full rests =>
      have here : aim.page = heap.page number := by
        cases aim <;> cases inserts <;> cases left <;> rfl
      rw [here, rests.shown] at shown
      rw [here]
      exact .vacant (vacant_of_firstFree (by omega) shown free)
        (fun other vacant => vacant.precedes full shown free) (same.trans rests.storage)
  | behind full preserves storage zeroed =>
      cases zeroed.symm.trans shown
      rw [SlotLayout.firstFree?_zeros (SlotLayout.fits_of_layoutFor opened)
        (SlotLayout.slots_pos_of_layoutFor opened)] at free
      cases free
      refine .appended (fun other vacant => ?_) (same.trans storage) ?_
      · exact (full _ vacant.page).not_vacant vacant.page_eq vacant
      · rw [same, storage]
        exact (Storage.pages_appendPage room).2

section First

variable (rest : start.AtRest size heap) (beyond : start.NoneBeyond heap)
include rest beyond

/-- If all pages that were passed are full, the insert goes on to the next one, or it appends one
that is zeroed. -/
lemma passed_nextProbe {locks : LockManager} {number remaining : Nat} (fit : db.Fit size heap)
    (rests : db.Rests start) (inside : number + remaining = start.storage.pages heap)
    (full : ∀ passed < number, start.Full heap (heap.page passed)) {moved : Database × Progress}
    (goes : nextProbe { db with locks } txn level heap record number remaining = moved) :
    Searching (Passed start heap) size txn level heap record moved.1 moved.2 := by
  refine searching_nextProbe fit rests rest.room (fun later left alreadyHeld more rests => ?_)
    (fun last later preserves storage cache => ?_) goes
  · exact .among rfl (by omega) full rests
  · -- the page that is appended was not shown, so that it is not resident
    obtain ⟨new, stored⟩ := Storage.image?_appendPage rest.room rest.registered
    have absent : db.cache.residentFrame? (heap.page (start.storage.pages heap)) = none := by
      have shown := rests.shown (heap.page (start.storage.pages heap))
      rw [shown?_of_absent (beyond _ (Nat.le_refl _)), new] at shown
      cases there : db.cache.residentFrame? (heap.page (start.storage.pages heap)) with
      | none => rfl
      | some id =>
          rw [shown?_of_resident there] at shown
          cases shown
    refine .behind (fun passed less => full passed (by omega)) preserves storage ?_
    rw [shown?_of_absent (by rw [cache]; exact absent), storage]
    exact stored

/-- What an insert knows that has begun with the first page is kept. -/
lemma carried_passed : Carried (Passed start heap) size txn level heap record where
  rests passed rests := by
    cases passed with
    | among left inside full rests' => exact .among left inside full (rests.trans rests')
    | behind full preserves storage zeroed =>
        exact .behind full (rests.preserves.trans preserves) (rests.storage.trans storage)
          ((rests.shown _).trans zeroed)
  claim passed := by
    cases passed with
    | among left inside full rests =>
        cases left
        exact .among rfl inside full rests
  next fit passed left here moved goes := by
    cases passed with
    | among left' inside full rests =>
        cases left.symm.trans left'
        refine passed_nextProbe rest beyond fit rests (by omega) (fun passed less => ?_) goes
        rcases Nat.eq_or_lt_of_le (Nat.le_of_lt_succ less) with rfl | less
        · obtain ⟨image, shown, free⟩ := here
          exact ⟨image, (rests.shown _).symm.trans shown, free⟩
        · exact full passed less
    | behind => cases left

end First

/-- **First fit.** An insert into a registered heap file that succeeds without having to wait puts
its record into the first vacant place of the file. If no place is vacant, the file gets one more
page, and the record its first slot; otherwise the storage stays as it is. The live records are
the old ones and the new one, and the page carries the changes of the transaction. -/
theorem insert_takes_first_place (rest : db.AtRest size heap) (beyond : db.NoneBeyond heap)
    {ids : List FrameId} {kept : Record}
    (turn : (db.startInsert txn level (.heap heap) record).1.proceed
      (db.startInsert txn level (.heap heap) record).2 =
        (later, .finished (.inserted (.ok ids) kept))) :
    ∃ id, kept = record.placed id ∧ db.FirstPlace later heap id ∧ db.records id = none ∧
      later.records = Function.update db.records id (some record.data) ∧
      later.owner? id.page = some txn := by
  rw [startInsert] at turn
  split at turn
  · next whole =>
    have same : db.Rests db := rest.faithful.rests_of_stats db.locks db.cache.stats
    have count : db.storage.heapPages heap = db.storage.pages heap :=
      Storage.heapPages_eq rest.room
    have searching : Searching (Passed db heap) size txn level heap record
        (db.nextProbe txn level heap record 0 (db.storage.heapPages heap)).1
        (db.nextProbe txn level heap record 0 (db.storage.heapPages heap)).2 :=
      passed_nextProbe rest beyond rest.fit same (by omega)
        (fun passed less => absurd less (Nat.not_lt_zero passed)) rfl
    obtain ⟨id, rfl, settles⟩ := searching.of_turn (carried_passed rest beyond) whole turn
    obtain ⟨absent, records⟩ :=
      settles.records rest.fit.sized.storage.opened fun passed => passed.preserves
    refine ⟨id, rfl, ?_, absent, records, ?_⟩
    · cases settles with
      | intro inserts passed fit held there shown placed puts sized =>
          have opened : heap.OpenedUnder db.storage.pageSize := by
            rw [rest.fit.sized.storage.pageSize]
            exact rest.fit.opened
          exact passed.firstPlace inserts opened rest.room shown
            (SlotLayout.firstFree_of_place placed).1 puts.storage
    · cases settles with
      | intro inserts passed fit held there shown placed puts sized =>
          rw [puts.owner, if_pos rfl]
  · cases level <;> cases turn

end Database

/-- The first page of a file is filled up, and a record is put on a second one. Then the middle
one of the first three records is deleted. -/
def leaveGap : List Deed :=
  .call ⟨1⟩ (.insert ⟨1⟩ (.ofData #[5])) :: List.replicate 8 (.move 0) ++
    .call ⟨1⟩ (.insert ⟨1⟩ (.ofData #[6])) :: List.replicate 8 (.move 0) ++
    .call ⟨1⟩ (.insert ⟨1⟩ (.ofData #[7])) :: List.replicate 12 (.move 0) ++
    .call ⟨1⟩ (.delete ⟨some ⟨⟨⟨1⟩, 0⟩, 1⟩, #[5]⟩) :: List.replicate 6 (.move 0) ++
    [.complete ⟨1⟩ true]

/-- The next record takes the gap, not one of the slots of the second page. -/
theorem insert_takes_first_place_gap :
    let heap : HeapFile := ⟨⟨1⟩, ⟨1, 3⟩, ["records"]⟩
    let record : Record := .ofData #[8]
    let id : RecordId := ⟨⟨⟨1⟩, 0⟩, 1⟩
    let db := afterDeeds leaveGap
    db.AtRest ⟨4, by decide⟩ heap ∧ db.NoneBeyond heap ∧
      ∃ later, db.insertRecord ⟨2⟩ ⟨1⟩ record =
          (later, .finished (.inserted (.ok [0]) (record.placed id))) ∧
        db.FirstPlace later heap id ∧ db.records id = none ∧
        later.records = Function.update db.records id (some #[8]) ∧
        later.owner? id.page = some ⟨2⟩ := by
  intro heap record id db
  have calm : db.AtRest ⟨4, by decide⟩ heap :=
    ⟨reachable_afterDeeds (by simp [leaveGap, Deed.Sized, Call.Sized]),
      Database.faithful_of_residentPages (by decide +kernel), by decide +kernel,
      by decide +kernel⟩
  have none_beyond : db.NoneBeyond heap :=
    Database.noneBeyond_of_residentPages (by decide +kernel)
  obtain ⟨later, turn⟩ : ∃ later, db.insertRecord ⟨2⟩ ⟨1⟩ record =
      (later, .finished (.inserted (.ok [0]) (record.placed id))) :=
    Database.exists_turn (by decide +kernel)
  -- the run need not be evaluated again
  clear_value db
  have taken := turn
  rw [Database.insertRecord_eq calm.registered] at taken
  obtain ⟨place, kept, result⟩ := Database.insert_takes_first_place calm none_beyond taken
  cases kept
  exact ⟨calm, none_beyond, later, turn, result⟩

end PageTxn
