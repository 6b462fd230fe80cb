import PageTxn.Proofs.History
import PageTxn.Proofs.SlotMap

/-!
What a history says about records.

* `Storage.records` are the live records of the heap files: the payload of every place that
  has one.
* `RecordChange.perform?` inserts a record at a place that is free or deletes one that is there,
  and `replay?` does one change after the other.
* `History.committedChanges` lists the inserts and deletes of the committed transactions that
  were successful, one transaction after the other in the order of their commits.
* `replay?_committedChanges`: in an admissible history without page writes, this list can be
  replayed on the live records of the beginning, and it leaves those of the ledger.
-/

namespace PageTxn

open History

/-- A layout that was computed for a page size fits the pages of that size. -/
lemma SlotLayout.fits_of_layoutFor {layout : SlotLayout} {size : PageSize} {recordSize : Nat}
    (computed : HeapFile.layoutFor size recordSize = .ok layout) : layout.Fits size.bytes := by
  rw [HeapFile.layoutFor] at computed
  split at computed
  · next layout sizes =>
    cases computed
    exact fits_of_ofSizes? sizes
  · cases computed

/-- A layout that was computed has a slot. -/
lemma SlotLayout.slots_pos_of_layoutFor {layout : SlotLayout} {size : PageSize} {recordSize : Nat}
    (computed : HeapFile.layoutFor size recordSize = .ok layout) : 0 < layout.slots := by
  rw [HeapFile.layoutFor] at computed
  split at computed
  · next found sizes =>
    cases computed
    rw [ofSizes?] at sizes
    split at sizes
    · cases sizes
    · next some_slot =>
      cases sizes
      exact Nat.pos_of_ne_zero fun none_left => some_slot (.inr none_left)
  · cases computed

/-- A record of the right size is placed on a page that is large enough, or the page is full. -/
lemma Database.exists_tryPlace {db : Database} {heap : HeapFile} {record : Record} {id : FrameId}
    (fits : heap.layout.Fits (db.cache.frame id).live.size)
    (whole : record.data.size = heap.layout.recordSize) (txn : TxnId) :
    heap.layout.firstFree? (db.cache.frame id).live = .ok none ∧
        db.tryPlace txn heap record id = .ok none ∨
      ∃ later image placed, image.size = (db.cache.frame id).live.size ∧
        db.changeFrame txn id image = .ok later ∧
        db.tryPlace txn heap record id = .ok (some (later, placed)) := by
  obtain ⟨answer, placed⟩ := SlotLayout.exists_place fits whole
  cases answer with
  | none =>
      refine .inl ⟨?_, by rw [tryPlace, placed]; rfl⟩
      obtain ⟨found, free⟩ := SlotLayout.exists_firstFree fits
      cases found with
      | none => exact free
      | some slot =>
          rw [SlotLayout.place?, free] at placed
          cases written : heap.layout.write? (db.cache.frame id).live slot record.data with
          | error fault => simp [written, bind, Except.bind] at placed
          | ok image => simp [written, bind, Except.bind, pure, Except.pure] at placed
  | some place =>
      obtain ⟨slot, image⟩ := place
      have same := SlotLayout.size_of_place? placed
      obtain ⟨later, changed⟩ : ∃ later, db.changeFrame txn id image = .ok later := by
        rw [changeFrame, Frame.copyFrom?_of_size same]
        exact ⟨_, rfl⟩
      refine .inr ⟨later, image, record.placed ⟨(db.cache.frame id).page, slot⟩, same, changed, ?_⟩
      simp only [tryPlace, placed, bind, Except.bind, changed]
      rfl

/-! ### Live records -/

namespace Storage

/-- Every heap file was opened under the present page size. -/
def Opened (storage : Storage) : Prop :=
  ∀ (table : TableId) (heap : HeapFile), storage.catalog[table]? = some (.heap heap) →
    HeapFile.layoutFor storage.pageSize heap.layout.recordSize = .ok heap.layout

/-- The payload that an image of its page has at a place. -/
def payloadIn (storage : Storage) (image : Image) (id : RecordId) : Option Image :=
  match storage.catalog[id.page.table]? with
  | some (.heap heap) => heap.layout.payload? image id.slot
  | _ => none

/-- The live records that are stored. -/
def records (storage : Storage) (id : RecordId) : Option Image :=
  (storage.image? id.page).bind fun image => storage.payloadIn image id

variable {storage : Storage} {page : PageId} {heap : HeapFile}

lemma Opened.of_sameTables {later : Storage} (opened : storage.Opened)
    (tables : later.SameTables storage) : later.Opened := by
  intro table heap found
  rw [tables.pageSize]
  rw [tables.catalog] at found
  exact opened table heap found

/-- The slots of a heap file fit the pages. -/
lemma Opened.fits (opened : storage.Opened) {table : TableId}
    (found : storage.catalog[table]? = some (.heap heap)) :
    heap.layout.Fits storage.pageSize.bytes :=
  SlotLayout.fits_of_layoutFor (opened table heap found)

lemma payloadIn_heap (found : storage.catalog[page.table]? = some (.heap heap)) (image : Image)
    (slot : Nat) : storage.payloadIn image ⟨page, slot⟩ = heap.layout.payload? image slot := by
  rw [payloadIn]
  simp only [found]

/-- The pages of a heap file have the length of a page. -/
lemma size_initially (found : storage.catalog[page.table]? = some (.heap heap)) :
    (storage.initially page).size = storage.pageSize.bytes := by
  rw [initially, image?_heap found]
  cases read : PageFile.read? (storage.disk.bytes heap.file) storage.pageSize page.number with
  | none => exact Image.size_zeros _
  | some image => exact PageFile.size_of_read? read

/-- Pages that do not exist yet have no records. -/
lemma payloadIn_zeros (opened : storage.Opened) (id : RecordId) :
    storage.payloadIn (.zeros storage.pageSize.bytes) id = none := by
  rw [payloadIn]
  split
  · next heap found => rw [SlotLayout.payload?_zeros (opened.fits found)]
  · rfl

lemma records_eq (opened : storage.Opened) :
    storage.records = fun id => storage.payloadIn (storage.initially id.page) id := by
  funext id
  rw [records, initially]
  cases storage.image? id.page with
  | some image => rfl
  | none => rw [Option.bind_none, Option.getD_none, payloadIn_zeros opened]

end Storage

/-! ### Changes -/

/-- What an insert or a delete does to the live records. -/
inductive RecordChange where
  | inserted (id : RecordId) (data : Image)
  | deleted (id : RecordId)
  deriving DecidableEq

/-- Insert a record at a free place, or delete the record at a place. -/
def RecordChange.perform? (records : RecordId → Option Image) :
    RecordChange → Option (RecordId → Option Image)
  | inserted id data =>
      match records id with
      | none => some (Function.update records id (some data))
      | some _ => none
  | deleted id =>
      match records id with
      | none => none
      | some _ => some (Function.update records id none)

/-- Do one change after the other, as long as each is possible. -/
def replay? (records : RecordId → Option Image) (changes : List RecordChange) :
    Option (RecordId → Option Image) :=
  changes.foldlM RecordChange.perform? records

lemma replay?_append {records : RecordId → Option Image} (first second : List RecordChange) :
    replay? records (first ++ second) =
      (replay? records first).bind fun later => replay? later second :=
  List.foldlM_append

/-- The change that a successful insert or delete has made. -/
def Event.change? : Event → Option RecordChange
  | returned _ (.insert ..) (.inserted (.ok _) record) _ =>
      record.id.map fun id => .inserted id record.data
  | returned _ (.delete record) (.deleted (.ok _)) _ => record.id.map .deleted
  | _ => none

namespace History

/-- The changes of a transaction in their order. -/
def changesOf (txn : TxnId) : List Event → List RecordChange
  | [] => []
  | event :: earlier =>
      if event.txn = txn then changesOf txn earlier ++ event.change?.toList
      else changesOf txn earlier

/-- The changes of the committed transactions, one transaction after the other in the order of
their commits. -/
def committedChanges : List Event → List RecordChange
  | [] => []
  | .ended txn .committed :: earlier => committedChanges earlier ++ changesOf txn earlier
  | _ :: earlier => committedChanges earlier

variable {storage : Storage} {allowed : Act → Prop} {history : List Event} {txn : TxnId}
  {page : PageId}

/-- The live records that a transaction should see: those that it has left on the pages that it
has written, and the given ones elsewhere. -/
def ownRecords (storage : Storage) (txn : TxnId) (records : RecordId → Option Image)
    (history : List Event) (id : RecordId) : Option Image :=
  match ownWrite txn id.page history with
  | some image => storage.payloadIn image id
  | none => records id

/-! ### One change -/

/-- Events without effect make no change. -/
lemma change?_eq_none {call : Call} {outcome : Outcome} {changed : List (PageId × Image)}
    (idle : outcome.isChange = false) :
    (Event.returned txn call outcome changed).change? = none := by
  cases outcome with
  | fetched result => cases call <;> rfl
  | scanned result => cases call <;> rfl
  | inserted result record =>
      cases result with
      | ok ids => cases idle
      | error failure => cases call <;> rfl
  | deleted result =>
      cases result with
      | ok ids => cases idle
      | error failure => cases call <;> rfl

/-- If one slot of a page gets another payload, one live record changes. -/
lemma update_records {heap : HeapFile} {before image : Image} {slot : Nat}
    {payload : Option Image} {records : RecordId → Option Image}
    (found : storage.catalog[page.table]? = some (.heap heap))
    (here : ∀ slot, records ⟨page, slot⟩ = storage.payloadIn before ⟨page, slot⟩)
    (exchanged : ∀ other, heap.layout.payload? image other =
      if slot = other then payload else heap.layout.payload? before other) :
    Function.update records ⟨page, slot⟩ payload =
      fun id => if id.page = page then storage.payloadIn image id else records id := by
  funext ⟨other, place⟩
  by_cases same : other = page
  · subst same
    rw [if_pos rfl, Storage.payloadIn_heap found, exchanged]
    by_cases slots : slot = place
    · rw [if_pos slots, slots, Function.update_self]
    · rw [if_neg slots, Function.update_of_ne fun e => slots (congrArg RecordId.slot e).symm,
        here, Storage.payloadIn_heap found]
  · rw [if_neg same, Function.update_of_ne fun e => same (congrArg RecordId.page e)]

/-- What an effect does to the records that a transaction should see. -/
lemma Effect.perform? (opened : storage.Opened) {call : Call} {outcome : Outcome} {image : Image}
    (effect : Effect storage txn history call outcome page image)
    (whole : (visible storage txn page history).size = (storage.initially page).size)
    {records : RecordId → Option Image}
    (here : ∀ slot, records ⟨page, slot⟩ =
      storage.payloadIn (visible storage txn page history) ⟨page, slot⟩) :
    ∃ change, (Event.returned txn call outcome [(page, image)]).change? = some change ∧
      change.perform? records =
        some fun id => if id.page = page then storage.payloadIn image id else records id := by
  cases effect with
  | @inserted _ heap record slot _ ids found placed =>
      rw [Storage.size_initially found] at whole
      obtain ⟨free, exchanged⟩ := SlotLayout.place?_eq_some (whole ▸ opened.fits found) placed
      rw [← Storage.payloadIn_heap found, ← here] at free
      refine ⟨.inserted ⟨page, slot⟩ record.data, rfl, ?_⟩
      rw [RecordChange.perform?, free]
      exact congrArg some (update_records found here exchanged)
  | @deleted id heap record _ ids found located cleared =>
      rw [Storage.size_initially found] at whole
      obtain ⟨there, exchanged⟩ := SlotLayout.clear?_eq_some (whole ▸ opened.fits found) cleared
      rw [← Storage.payloadIn_heap found, ← here] at there
      obtain ⟨payload, payload_eq⟩ := Option.ne_none_iff_exists'.mp there
      refine ⟨.deleted id, by rw [Event.change?, located, Option.map_some], ?_⟩
      rw [RecordChange.perform?, payload_eq]
      exact congrArg some (update_records found here exchanged)

/-! ### The changes of one transaction -/

/-- What one event adds to the changes of its own transaction, if the records that these start
from are those of the ledger where the event has to do with them. -/
lemma replay?_change (opened : storage.Opened) (silent : ¬ allowed .report) {event : Event}
    (admits : Admits storage allowed history event)
    (admissible : Admissible storage allowed history)
    {records : RecordId → Option Image}
    (agree : ∀ access ∈ event.accesses, ∀ slot, records ⟨access.page, slot⟩ =
      storage.payloadIn (ledger storage access.page history) ⟨access.page, slot⟩) :
    replay? (ownRecords storage event.txn records history) event.change?.toList =
      some (ownRecords storage event.txn records (event :: history)) := by
  have idle : event.change? = none → (∀ page, event.left? page = none) →
      replay? (ownRecords storage event.txn records history) event.change?.toList =
        some (ownRecords storage event.txn records (event :: history)) := by
    intro unchanged unwritten
    rw [unchanged]
    refine congrArg some (funext fun id => ?_)
    rw [ownRecords, ownRecords, ownWrite_cons, if_pos rfl, unwritten, Option.none_or]
  cases admits with
  | looked permitted live seen existing => exact idle rfl fun page => rfl
  | wrote permitted live whole => exact absurd permitted silent
  | unchanged quiet => exact idle (change?_eq_none quiet) fun page => rfl
  | committed live alone => exact idle rfl fun page => rfl
  | aborted live => exact idle rfl fun page => rfl
  | @changed txn call outcome page image live whole effect =>
      have here : ∀ slot, ownRecords storage txn records history ⟨page, slot⟩ =
          storage.payloadIn (visible storage txn page history) ⟨page, slot⟩ := by
        intro slot
        rw [ownRecords, visible]
        cases ownWrite txn page history with
        | some image => rfl
        | none => exact agree _ (List.mem_singleton_self _) slot
      have size : (visible storage txn page history).size = (storage.initially page).size := by
        rw [visible]
        cases wrote : ownWrite txn page history with
        | some image => exact size_of_ownWrite admissible wrote
        | none => exact size_ledger admissible
      obtain ⟨change, made, applied⟩ := effect.perform? opened size here
      rw [made, Option.toList_some, replay?, List.foldlM_cons, Event.txn, applied]
      refine congrArg some (funext fun id => ?_)
      by_cases same : id.page = page
      · have wrote : ownWrite txn id.page
            (.returned txn call outcome [(page, image)] :: history) = some image := by
          rw [ownWrite_cons, Event.txn, if_pos rfl, Event.left?, same, List.lookup_cons_self,
            Option.some_or]
        rw [if_pos same, ownRecords, wrote]
      · have apart : (id.page == page) = false := by simp [same]
        have kept : ownWrite txn id.page (.returned txn call outcome [(page, image)] :: history) =
            ownWrite txn id.page history := by
          rw [ownWrite_cons, Event.txn, if_pos rfl, Event.left?, List.lookup_cons, apart,
            List.lookup_nil, Option.none_or]
        rw [if_neg same, ownRecords, ownRecords, kept]

/-- As long as a transaction goes on, its changes can be replayed on the records of the ledger,
and they leave the records that it should see. -/
lemma replay?_changesOf (opened : storage.Opened) (silent : ¬ allowed .report)
    (admissible : Admissible storage allowed history) (live : ¬ Ended txn history)
    {records : RecordId → Option Image}
    (agree : ∀ page, Accesses txn page history → ∀ slot, records ⟨page, slot⟩ =
      storage.payloadIn (ledger storage page history) ⟨page, slot⟩) :
    replay? records (changesOf txn history) = some (ownRecords storage txn records history) := by
  induction history with
  | nil => rfl
  | cons event history ih =>
      obtain ⟨admits, admissible⟩ := admissible
      have live_before : ¬ Ended txn history := fun ended => live (ended_cons.mpr (Or.inr ended))
      have kept : ∀ page, Accesses txn page (event :: history) → ∀ slot, records ⟨page, slot⟩ =
          storage.payloadIn (ledger storage page history) ⟨page, slot⟩ := by
        intro page accesses slot
        rw [agree page accesses, ledger_of_accessed admits live accesses]
      have earlier := ih admissible live_before fun page accesses =>
        kept page (accesses_cons.mpr (Or.inr accesses))
      by_cases own : event.txn = txn
      · subst own
        have here : ∀ access ∈ event.accesses, ∀ slot, records ⟨access.page, slot⟩ =
            storage.payloadIn (ledger storage access.page history) ⟨access.page, slot⟩ :=
          fun access inside =>
            kept _ (accesses_cons.mpr (Or.inl ⟨rfl, access, inside, rfl⟩))
        calc replay? records (changesOf event.txn (event :: history))
            = (replay? records (changesOf event.txn history)).bind
                fun later => replay? later event.change?.toList := by
              rw [changesOf, if_pos rfl, replay?_append]
          _ = replay? (ownRecords storage event.txn records history) event.change?.toList := by
              rw [earlier, Option.bind_some]
          _ = some (ownRecords storage event.txn records (event :: history)) :=
              replay?_change opened silent admits admissible here
      · rw [changesOf, if_neg own, earlier]
        refine congrArg some (funext fun id => ?_)
        rw [ownRecords, ownRecords, ownWrite_cons_of_ne own]

/-! ### All transactions -/

/-- The changes of the committed transactions, in the order of their commits, can be replayed on
the live records of the beginning, and they leave the records of the ledger. -/
theorem replay?_committedChanges (opened : storage.Opened) (silent : ¬ allowed .report)
    (admissible : Admissible storage allowed history) :
    replay? storage.records (committedChanges history) =
      some fun id => storage.payloadIn (ledger storage id.page history) id := by
  induction history with
  | nil => exact congrArg some (Storage.records_eq opened)
  | cons event history ih =>
      obtain ⟨admits, admissible⟩ := admissible
      have replayed := ih admissible
      cases admits with
      | looked permitted live seen existing => exact replayed
      | wrote permitted live whole => exact absurd permitted silent
      | unchanged quiet => exact replayed
      | changed live whole effect => exact replayed
      | aborted live => exact replayed
      | @committed txn live alone =>
          set records := fun id : RecordId =>
            storage.payloadIn (ledger storage id.page history) id
          have agree : ∀ page, Accesses txn page history → ∀ slot, records ⟨page, slot⟩ =
              storage.payloadIn (ledger storage page history) ⟨page, slot⟩ := fun _ _ _ => rfl
          have result : ∀ id, ownRecords storage txn records history id =
              storage.payloadIn (ledger storage id.page (.ended txn .committed :: history)) id := by
            intro id
            rw [ownRecords, ledger_committed, visible]
            cases ownWrite txn id.page history with
            | some image => rfl
            | none => rfl
          calc replay? storage.records (committedChanges (.ended txn .committed :: history))
              = (replay? storage.records (committedChanges history)).bind
                  fun later => replay? later (changesOf txn history) := replay?_append ..
            _ = replay? records (changesOf txn history) := by rw [replayed, Option.bind_some]
            _ = some (ownRecords storage txn records history) :=
                replay?_changesOf opened silent admissible live agree
            _ = _ := congrArg some (funext result)

end History

end PageTxn
