import PageTxn.Proofs.Storage
import PageTxn.Proofs.System

/-!
What a history says about pages.

Histories list the latest event first.

* `ownWrite`, `ledger` and `visible` are the image that a transaction has left on a page, the
  image that the committed transactions have left, and the image that a transaction should
  see: its own one if there is one, and the committed one otherwise.
* `Admissible` collects the events that a history may go on with: looks show the visible
  image, and a transaction commits only while nobody else works on what it wrote.
* `serial` lists the accesses of the committed transactions, one transaction after the other
  in the order of their commits.
-/

namespace PageTxn

/-- The image that is stored for a page at the beginning; pages that do not exist yet will be
zeroed ones. -/
def Storage.initially (storage : Storage) (page : PageId) : Image :=
  (storage.image? page).getD (.zeros storage.pageSize.bytes)

/-! ### Events -/

/-- A page is looked at or written, and this is the image that is seen or left. -/
inductive Access where
  | read (page : PageId) (image : Image)
  | write (page : PageId) (image : Image)
  deriving DecidableEq

/-- The page of an access. -/
def Access.page : Access → PageId
  | read page _ | write page _ => page

namespace Event

/-- Whose event it is. -/
def txn : Event → TxnId
  | looked txn .. | wrote txn .. | returned txn .. | ended txn _ => txn

/-- The pages that were looked at or written. -/
def accesses : Event → List Access
  | looked _ page image => [.read page image]
  | wrote _ page image => [.write page image]
  | returned _ _ _ changed => changed.map fun (page, image) => .write page image
  | ended .. => []

/-- The image that a page was left with, if it was written. -/
def left? (page : PageId) : Event → Option Image
  | wrote _ other image => if other = page then some image else none
  | returned _ _ _ changed => changed.lookup page
  | _ => none

/-- Whether a transaction ended. -/
def isEnd : Event → Bool
  | ended .. => true
  | _ => false

end Event

/-- Whether a record was inserted or deleted. -/
def Outcome.isChange : Outcome → Bool
  | .inserted (.ok _) _ | .deleted (.ok _) => true
  | _ => false

/-! ### Histories -/

namespace History

/-- The image that a transaction last left on a page. -/
def ownWrite (txn : TxnId) (page : PageId) : List Event → Option Image
  | [] => none
  | event :: earlier =>
      if event.txn = txn then (event.left? page).or (ownWrite txn page earlier)
      else ownWrite txn page earlier

/-- The image that the last committed writer of a page has left on it. -/
def committedWrite (page : PageId) : List Event → Option Image
  | [] => none
  | .ended txn .committed :: earlier =>
      (ownWrite txn page earlier).or (committedWrite page earlier)
  | _ :: earlier => committedWrite page earlier

/-- The image that the committed transactions have left on a page. -/
def ledger (storage : Storage) (page : PageId) (history : List Event) : Image :=
  (committedWrite page history).getD (storage.initially page)

/-- The image of a page that a transaction should see. -/
def visible (storage : Storage) (txn : TxnId) (page : PageId) (history : List Event) : Image :=
  (ownWrite txn page history).getD (ledger storage page history)

/-- The transaction has ended. -/
def Ended (txn : TxnId) (history : List Event) : Prop :=
  ∃ ending, Event.ended txn ending ∈ history

/-- The transaction has looked at the page or written it. -/
def Accesses (txn : TxnId) (page : PageId) (history : List Event) : Prop :=
  ∃ event ∈ history, event.txn = txn ∧ ∃ access ∈ event.accesses, access.page = page

/-- The accesses of a transaction in their order. -/
def accessesOf (txn : TxnId) : List Event → List Access
  | [] => []
  | event :: earlier =>
      if event.txn = txn then accessesOf txn earlier ++ event.accesses
      else accessesOf txn earlier

/-- The accesses of the committed transactions, one transaction after the other in the order of
their commits. -/
def serial : List Event → List Access
  | [] => []
  | .ended txn .committed :: earlier => serial earlier ++ accessesOf txn earlier
  | _ :: earlier => serial earlier

variable {storage : Storage} {txn other : TxnId} {page : PageId} {event : Event}
  {history : List Event}

/-! ### One more event -/

lemma ownWrite_cons :
    ownWrite txn page (event :: history) =
      if event.txn = txn then (event.left? page).or (ownWrite txn page history)
      else ownWrite txn page history := rfl

lemma ownWrite_cons_of_ne (apart : event.txn ≠ txn) :
    ownWrite txn page (event :: history) = ownWrite txn page history := by
  rw [ownWrite, if_neg apart]

/-- Only a commit changes what is committed. -/
lemma committedWrite_cons (still : event.isEnd = false) :
    committedWrite page (event :: history) = committedWrite page history := by
  cases event with
  | ended txn ending => cases still
  | looked txn page image => rfl
  | wrote txn page image => rfl
  | returned txn call outcome changed => rfl

lemma ledger_cons (still : event.isEnd = false) :
    ledger storage page (event :: history) = ledger storage page history := by
  rw [ledger, committedWrite_cons still, ledger]

lemma committedWrite_ended (ending : Ending) (quiet : ending ≠ .committed) :
    committedWrite page (.ended txn ending :: history) = committedWrite page history := by
  cases ending with
  | committed => exact absurd rfl quiet
  | aborted => rfl
  | stuck => rfl

/-- A commit puts the images of the transaction into the ledger. -/
lemma ledger_committed :
    ledger storage page (.ended txn .committed :: history) =
      visible storage txn page history := by
  rw [ledger, committedWrite, visible, ledger]
  cases ownWrite txn page history <;> simp

lemma ended_cons :
    Ended txn (event :: history) ↔
      (event.txn = txn ∧ event.isEnd = true) ∨ Ended txn history := by
  rw [Ended]
  constructor
  · rintro ⟨ending, here | later⟩
    · exact Or.inl ⟨rfl, rfl⟩
    · next there => exact Or.inr ⟨ending, there⟩
  · rintro (⟨own, isEnd⟩ | ⟨ending, there⟩)
    · cases event with
      | ended other ending =>
          cases own
          exact ⟨ending, List.mem_cons_self⟩
      | looked txn page image => cases isEnd
      | wrote txn page image => cases isEnd
      | returned txn call outcome changed => cases isEnd
    · exact ⟨ending, List.mem_cons_of_mem _ there⟩

lemma ended_cons_of_still (still : event.isEnd = false) :
    Ended txn (event :: history) ↔ Ended txn history := by
  rw [ended_cons, still]
  simp

lemma ended_cons_of_ne (apart : event.txn ≠ txn) :
    Ended txn (event :: history) ↔ Ended txn history := by
  rw [ended_cons]
  simp [apart]

lemma accesses_cons :
    Accesses txn page (event :: history) ↔
      (event.txn = txn ∧ ∃ access ∈ event.accesses, access.page = page) ∨
        Accesses txn page history := by
  simp [Accesses]

lemma accesses_cons_of_ne (apart : event.txn ≠ txn) :
    Accesses txn page (event :: history) ↔ Accesses txn page history := by
  rw [accesses_cons]
  simp [apart]

/-- A page that a transaction has written is one that it has accessed. -/
lemma accesses_of_ownWrite {image : Image} (wrote : ownWrite txn page history = some image) :
    Accesses txn page history := by
  induction history with
  | nil => cases wrote
  | cons event history ih =>
      rw [accesses_cons]
      rw [ownWrite_cons] at wrote
      split at wrote
      · next own =>
        rcases Option.or_eq_some_iff.mp wrote with here | ⟨-, before⟩
        · refine Or.inl ⟨own, ?_⟩
          cases event with
          | looked txn other image => cases here
          | ended txn ending => cases here
          | wrote txn other image =>
              rw [Event.left?] at here
              split at here
              · next same => exact ⟨_, List.mem_singleton_self _, same⟩
              · cases here
          | returned txn call outcome changed =>
              rw [Event.left?, List.lookup_eq_some_iff] at here
              obtain ⟨before, after, rfl, -⟩ := here
              exact ⟨.write page image, by simp [Event.accesses], rfl⟩
        · exact Or.inr (ih before)
      · exact Or.inr (ih wrote)

/-! ### More events -/

/-- Events that leave nothing on the page do not matter. -/
lemma ownWrite_append_of_blank {events : List Event}
    (blank : ∀ event ∈ events, event.txn = txn → event.left? page = none) (history : List Event) :
    ownWrite txn page (events ++ history) = ownWrite txn page history := by
  induction events with
  | nil => rfl
  | cons event rest ih =>
      rw [List.cons_append, ownWrite_cons,
        ih fun other listed => blank other (List.mem_cons_of_mem _ listed)]
      split
      · next own => rw [blank event List.mem_cons_self own, Option.none_or]
      · rfl

/-- The events of others leave nothing of a transaction on a page. -/
lemma ownWrite_of_others {events : List Event} (others : ∀ event ∈ events, event.txn ≠ txn)
    (page : PageId) :
    ownWrite txn page events = none := by
  rw [← List.append_nil events]
  exact ownWrite_append_of_blank (fun event listed own => absurd own (others event listed)) []

/-! ### Admissible histories -/

/-- What an insert or a delete of a heap file has done to its page. -/
inductive Effect (storage : Storage) (txn : TxnId) (history : List Event) :
    Call → Outcome → PageId → Image → Prop where
  | inserted {page : PageId} {heap : HeapFile} {record : Record} {slot : Nat} {image : Image}
      {ids : List FrameId} (found : storage.catalog[page.table]? = some (.heap heap))
      (placed : heap.layout.place? (visible storage txn page history) record.data =
        .ok (some (slot, image))) :
      Effect storage txn history (.insert page.table record)
        (.inserted (.ok ids) (record.placed ⟨page, slot⟩)) page image
  | deleted {id : RecordId} {heap : HeapFile} {record : Record} {image : Image}
      {ids : List FrameId} (found : storage.catalog[id.page.table]? = some (.heap heap))
      (located : record.id = some id)
      (cleared : heap.layout.clear? (visible storage txn id.page history) id.slot =
        .ok (some image)) :
      Effect storage txn history (.delete record) (.deleted (.ok ids)) id.page image

/-- Only inserts and deletes have effects. -/
lemma Effect.asks {call : Call} {outcome : Outcome} {image : Image}
    (effect : Effect storage txn history call outcome page image) :
    (∃ table record, call = .insert table record) ∨ ∃ record, call = .delete record := by
  cases effect with
  | inserted found placed => exact Or.inl ⟨_, _, rfl⟩
  | deleted found located cleared => exact Or.inr ⟨_, rfl⟩

/-- The events with which a history may go on, if only some acts are allowed. -/
inductive Admits (storage : Storage) (allowed : Act → Prop) (history : List Event) :
    Event → Prop where
  | looked {txn : TxnId} {page : PageId} {image : Image} (permitted : allowed .look)
      (live : ¬ Ended txn history) (seen : image = visible storage txn page history)
      (existing : storage.image? page ≠ none ∨
        ∃ table record, allowed (.call (.insert table record))) :
      Admits storage allowed history (.looked txn page image)
  | wrote {txn : TxnId} {page : PageId} {image : Image} (permitted : allowed .report)
      (live : ¬ Ended txn history) (whole : image.size = (storage.initially page).size) :
      Admits storage allowed history (.wrote txn page image)
  | unchanged {txn : TxnId} {call : Call} {outcome : Outcome}
      (idle : outcome.isChange = false) :
      Admits storage allowed history (.returned txn call outcome [])
  | changed {txn : TxnId} {call : Call} {outcome : Outcome} {page : PageId} {image : Image}
      (live : ¬ Ended txn history) (whole : image.size = (storage.initially page).size)
      (effect : Effect storage txn history call outcome page image) :
      Admits storage allowed history (.returned txn call outcome [(page, image)])
  | committed {txn : TxnId} (live : ¬ Ended txn history)
      (alone : ∀ (page : PageId) (other : TxnId), ownWrite txn page history ≠ none →
        other ≠ txn → Accesses other page history → Ended other history) :
      Admits storage allowed history (.ended txn .committed)
  | aborted {txn : TxnId} (live : ¬ Ended txn history) :
      Admits storage allowed history (.ended txn .aborted)

/-- Every event was one with which the history before it may go on. -/
def Admissible (storage : Storage) (allowed : Act → Prop) : List Event → Prop
  | [] => True
  | event :: earlier => Admits storage allowed earlier event ∧ Admissible storage allowed earlier

variable {allowed : Act → Prop}

/-- Pages are written with images of their own length. -/
lemma size_of_ownWrite {image : Image} (admissible : Admissible storage allowed history)
    (wrote : ownWrite txn page history = some image) :
    image.size = (storage.initially page).size := by
  induction history with
  | nil => cases wrote
  | cons event history ih =>
      obtain ⟨admits, admissible⟩ := admissible
      rw [ownWrite_cons] at wrote
      split at wrote
      · rcases Option.or_eq_some_iff.mp wrote with here | ⟨-, before⟩
        · cases admits with
          | looked permitted live seen existing => cases here
          | unchanged idle => cases here
          | committed live alone => cases here
          | aborted live => cases here
          | wrote permitted live whole =>
              rw [Event.left?] at here
              split at here
              · next same =>
                cases here
                rw [← same]
                exact whole
              · cases here
          | @changed _ _ _ other written live whole effect =>
              have lookup : [(other, written)].lookup page = some image := here
              rw [List.lookup_eq_some_iff] at lookup
              obtain ⟨before, after, list, -⟩ := lookup
              have same : (page, image) ∈ [(other, written)] := by
                rw [list]
                simp
              rw [List.mem_singleton] at same
              cases same
              exact whole
        · exact ih admissible before
      · exact ih admissible wrote

/-- The ledger has images of the length of their pages. -/
lemma size_ledger (admissible : Admissible storage allowed history) :
    (ledger storage page history).size = (storage.initially page).size := by
  induction history with
  | nil => rfl
  | cons event history ih =>
      by_cases still : event.isEnd = false
      · rw [ledger_cons still]
        exact ih admissible.2
      · obtain ⟨admits, admissible⟩ := admissible
        cases admits with
        | looked permitted live seen existing => exact absurd rfl still
        | wrote permitted live whole => exact absurd rfl still
        | unchanged idle => exact absurd rfl still
        | changed live whole effect => exact absurd rfl still
        | aborted live =>
            rw [ledger, committedWrite_ended .aborted (by simp), ← ledger]
            exact ih admissible
        | @committed txn live alone =>
            rw [ledger_committed, visible]
            cases wrote : ownWrite txn page history with
            | none => exact ih admissible
            | some image => exact size_of_ownWrite admissible wrote

/-- What a transaction has accessed is not committed anew by others while it goes on. -/
lemma ledger_of_accessed (admits : Admits storage allowed history event)
    (live : ¬ Ended txn (event :: history)) (accesses : Accesses txn page (event :: history)) :
    ledger storage page (event :: history) = ledger storage page history := by
  by_cases still : event.isEnd = false
  · exact ledger_cons still
  · cases admits with
    | looked permitted live seen existing => exact absurd rfl still
    | wrote permitted live whole => exact absurd rfl still
    | unchanged idle => exact absurd rfl still
    | changed live whole effect => exact absurd rfl still
    | aborted live => rfl
    | @committed other open_before alone =>
        have apart : txn ≠ other := fun same => live (ended_cons.mpr (Or.inl ⟨same.symm, rfl⟩))
        have before : Accesses txn page history :=
          (accesses_cons_of_ne (Ne.symm apart)).mp accesses
        have unwritten : ownWrite other page history = none := by
          by_contra written
          exact live (ended_cons.mpr (Or.inr (alone page txn written apart before)))
        rw [ledger_committed, visible, unwritten, Option.getD_none]

/-- Every event was one with which the history before it might go on. -/
lemma admits_of_admissible {newer older : List Event}
    (admissible : Admissible storage allowed (newer ++ event :: older)) :
    Admits storage allowed older event := by
  induction newer with
  | nil => exact admissible.1
  | cons other rest ih => exact ih admissible.2

end History

end PageTxn
