import PageTxn.Proofs.Cache
import PageTxn.Proofs.History
import PageTxn.Proofs.LockTable

/-!
The invariant that ties locks, cache, stores and history together.

* `System.AtHand` and `System.Window` say what a transaction may rely on for the page that it
  has at hand, and for one whose image it changes; `System.Serves` does so for an operation in
  progress.
* `System.Kept` is the state of a resident page: it shows the stored image, or one transaction
  has it locked exclusively and its image is the one that this transaction has left or is
  about to report.
* `System.Consistent` is the invariant.
* `System.Spares` says what the steps of other transactions leave to a transaction, and
  `TxnOk.spared` and `Kept.spared` that this is enough.
-/

namespace PageTxn

open History

/-- A transaction holds a page at least as strongly as a mode asks for. -/
def LockTable.Covers (table : LockTable) (txn : TxnId) (page : PageId) (mode : LockMode) : Prop :=
  table.modeOf? txn page ≠ none ∧
    (mode = .exclusive → table.modeOf? txn page = some .exclusive)

/-- The frame whose image a transaction changes without having reported it yet. -/
def Phase.window? : Phase → Option FrameId
  | changing id => some id
  | busy _ (.reporting _ change _) => change.pages.head?
  | _ => none

namespace System

/-! ### Views -/

/-- How a transaction holds a page. -/
abbrev mode (s : System) (txn : TxnId) (page : PageId) : Option LockMode :=
  s.db.locks.table.modeOf? txn page

/-- The image that is stored for a page. -/
abbrev stored? (s : System) (page : PageId) : Option Image := s.db.storage.image? page

/-- A frame of the cache. -/
abbrev frame (s : System) (id : FrameId) : Frame := s.db.cache.frame id

/-- The frame that is resident under a page. -/
abbrev resident? (s : System) (page : PageId) : Option FrameId := s.db.cache.residentFrame? page

/-! ### What a transaction relies on -/

/-- The purposes for which an operation fetches pages. A page that an insert gives back later
has not been accessed by the transaction. -/
inductive Pursues (storage : Storage) (txn : TxnId) (history : List Event) :
    Call → Level → Aim → Prop where
  | hand {page : PageId} {mode : LockMode} :
      Pursues storage txn history (.fetch page mode) .database (.hand page mode)
  | probe {table : TableId} {heap : HeapFile} {record : Record} {number remaining : Nat}
      {alreadyHeld : Bool} (found : storage.catalog[table]? = some (.heap heap))
      (untouched : alreadyHeld = false → ¬ Accesses txn (heap.page number) history) :
      Pursues storage txn history (.insert table record) .database
        (.probe heap record number remaining alreadyHeld)
  | claim {table : TableId} {heap : HeapFile} {record : Record} {number remaining : Nat}
      (found : storage.catalog[table]? = some (.heap heap)) :
      Pursues storage txn history (.insert table record) .database
        (.claim heap record number remaining)
  | fill {table : TableId} {heap : HeapFile} {record : Record} {number : Nat}
      (found : storage.catalog[table]? = some (.heap heap)) :
      Pursues storage txn history (.insert table record) .database (.fill heap record number)
  | erase {id : RecordId} {heap : HeapFile} {record : Record}
      (found : storage.catalog[id.page.table]? = some (.heap heap))
      (located : record.id = some id) :
      Pursues storage txn history (.delete record) .database (.erase heap id)
  | collect {heap : HeapFile} {number remaining : Nat} {records : List Record} :
      Pursues storage txn history (.scan heap) .store (.collect heap number remaining records)

section Reliance

variable (storage : Storage) (s : System) (txn : TxnId)

/-- The transaction has locked the page of the frame, and the frame shows the image that it
should see. Under an exclusive lock no other frame can be resident. -/
structure AtHand (page : PageId) (mode : LockMode) (id : FrameId) : Prop where
  covers : s.db.locks.table.Covers txn page mode
  made : id < s.db.cache.nextFrame
  shows : (s.frame id).page = page
  before : s.stored? page = some (s.frame id).before
  live : (s.frame id).live = visible storage txn page s.history
  alone : mode = .exclusive → ∀ other, s.resident? page = some other → other = id

/-- The transaction has locked the page of the frame exclusively, and no other frame can be
resident; the image of the frame may be any. -/
structure Window (id : FrameId) : Prop where
  lock : s.mode txn (s.frame id).page = some .exclusive
  made : id < s.db.cache.nextFrame
  before : s.stored? (s.frame id).page = some (s.frame id).before
  alone : ∀ other, s.resident? (s.frame id).page = some other → other = id

/-- How far the operation in progress has come, and what it relies on. -/
inductive Serves (call : Call) : Operation → Prop where
  | lock {level : Level} {aim : Aim} {waited : Bool}
      (pursues : Pursues storage txn s.history call level aim) :
      Serves call (.fetching txn level aim (.lock waited))
  | read {level : Level} {aim : Aim} (pursues : Pursues storage txn s.history call level aim)
      (covers : s.db.locks.table.Covers txn aim.page aim.mode) :
      Serves call (.fetching txn level aim .read)
  | enter {level : Level} {aim : Aim} {image : Image}
      (pursues : Pursues storage txn s.history call level aim)
      (covers : s.db.locks.table.Covers txn aim.page aim.mode)
      (loaded : s.stored? aim.page = some image) :
      Serves call (.fetching txn level aim (.enter image))
  | use {level : Level} {aim : Aim} {id : FrameId}
      (pursues : Pursues storage txn s.history call level aim)
      (atHand : AtHand storage s txn aim.page aim.mode id) :
      Serves call (.fetching txn level aim (.use id))
  | report {change : Change} {id : FrameId} (window : Window s txn id)
      (single : change.pages = [id])
      (effect : Effect storage txn s.history call change.succeeded (s.frame id).page
        (s.frame id).live) :
      Serves call (.reporting txn change [id])
  | reported {change : Change} {id : FrameId} (window : Window s txn id)
      (single : change.pages = [id])
      (effect : Effect storage txn s.history call change.succeeded (s.frame id).page
        (s.frame id).live)
      (there : s.resident? (s.frame id).page = some id)
      (owner : (s.frame id).owner = some txn) :
      Serves call (.reporting txn change [])

/-- What a transaction relies on in its phase. -/
def PhaseOk (allowed : Act → Prop) : Phase → Prop
  | .ready => True
  | .holding page mode id => AtHand storage s txn page mode id
  | .changing id => Window s txn id
  | .busy call operation => allowed (.call call) ∧ Serves storage s txn call operation
  | .gone => ∀ page, s.mode txn page = none

/-- What holds of one transaction. The pages that it has written stay resident and dirty and
those that it has accessed stay locked, until it ends. -/
structure TxnOk (allowed : Act → Prop) : Prop where
  phase : PhaseOk storage s txn allowed (s.phase txn)
  owned : ∀ (page : PageId) (image : Image), ownWrite txn page s.history = some image →
    ¬ Ended txn s.history →
      ∃ id, s.resident? page = some id ∧ (s.frame id).owner = some txn
  accessed : ∀ page : PageId, Accesses txn page s.history → ¬ Ended txn s.history →
    s.mode txn page ≠ none
  gone : s.phase txn = .gone ↔ Ended txn s.history

end Reliance

/-! ### What holds of the pages -/

/-- A transaction has locked a resident page exclusively, and the image of the page is the one
that the transaction has left, or is about to be reported. -/
structure OwnedBy (s : System) (txn : TxnId) (page : PageId) (id : FrameId) : Prop where
  lock : s.mode txn page = some .exclusive
  owner : (s.frame id).owner = none ∨ (s.frame id).owner = some txn
  reason : (s.phase txn).window? = some id ∨
    ((s.frame id).owner = some txn ∧ ownWrite txn page s.history = some (s.frame id).live)

/-- The before-image of a resident page is the stored image; its live image is the same unless
a transaction has changed it. -/
structure Kept (s : System) (page : PageId) (id : FrameId) : Prop where
  before : s.stored? page = some (s.frame id).before
  state : ((s.frame id).owner = none ∧ (s.frame id).live = (s.frame id).before) ∨
    ∃ txn, OwnedBy s txn page id

/-- Locks, cache, stores and history agree. -/
structure Consistent (storage : Storage) (allowed : Act → Prop) (s : System) : Prop where
  sound : s.db.locks.table.Sound
  orderly : s.db.cache.Orderly
  reliable : s.db.storage.Reliable
  tables : s.db.storage.SameTables storage
  admissible : Admissible storage allowed s.history
  stored : ∀ (page : PageId) (image : Image), s.stored? page = some image →
    image = ledger storage page s.history
  missing : ∀ page : PageId, s.stored? page = none →
    committedWrite page s.history = none ∧ storage.image? page = none
  grown : ∀ page : PageId, s.stored? page ≠ none →
    storage.image? page ≠ none ∨ ∃ table record, allowed (.call (.insert table record))
  kept : ∀ (page : PageId) (id : FrameId), s.resident? page = some id → Kept s page id
  txn : ∀ txn : TxnId, TxnOk storage s txn allowed

/-- What the steps of others leave to a transaction: its phase, its locks, its part of the
history, and the pages that it has locked. -/
structure Spares (storage : Storage) (txn : TxnId) (s later : System) : Prop where
  phase : later.phase txn = s.phase txn
  mode : ∀ page : PageId, later.mode txn page = s.mode txn page
  made : s.db.cache.nextFrame ≤ later.db.cache.nextFrame
  stored : ∀ (page : PageId) (image : Image), s.mode txn page ≠ none →
    s.stored? page = some image → later.stored? page = some image
  frame : ∀ id : FrameId, id < s.db.cache.nextFrame → s.mode txn (s.frame id).page ≠ none →
    later.frame id = s.frame id
  stays : ∀ id : FrameId, id < s.db.cache.nextFrame → s.mode txn (s.frame id).page ≠ none →
    (s.frame id).owner = some txn → s.resident? (s.frame id).page = some id →
      later.resident? (s.frame id).page = some id
  alone : ∀ (page : PageId) (id : FrameId), s.mode txn page = some .exclusive →
    later.resident? page = some id → s.resident? page = some id
  own : ∀ page : PageId, ownWrite txn page later.history = ownWrite txn page s.history
  ledger : ∀ page : PageId, s.mode txn page ≠ none →
    ledger storage page later.history = ledger storage page s.history
  accesses : ∀ page : PageId, Accesses txn page later.history → Accesses txn page s.history
  ended : Ended txn later.history ↔ Ended txn s.history

variable {storage : Storage} {allowed : Act → Prop} {s later : System} {txn : TxnId}
  {page : PageId} {id : FrameId}

/-! ### First consequences -/

lemma AtHand.window (hand : AtHand storage s txn page .exclusive id) : Window s txn id where
  lock := by
    rw [hand.shows]
    exact hand.covers.2 rfl
  made := hand.made
  before := by
    rw [hand.shows]
    exact hand.before
  alone := by
    rw [hand.shows]
    exact hand.alone rfl

/-- Only a transaction that goes on holds locks. -/
lemma TxnOk.live (ok : TxnOk storage s txn allowed) (held : s.mode txn page ≠ none) :
    ¬ Ended txn s.history := by
  intro ended
  have nothing := ok.phase
  rw [ok.gone.mpr ended] at nothing
  exact held (nothing page)

/-- Whoever holds a page next to an exclusive holder is that holder. -/
lemma eq_of_exclusive {other : TxnId} (exclusive : s.mode other page = some .exclusive)
    (held : s.mode txn page ≠ none) : txn = other := by
  by_contra apart
  exact held (LockTable.modeOf?_eq_none_of_exclusive exclusive apart)

/-- What an effect says is decided by the image that the transaction should see. -/
lemma effect_of_visible {earlier history : List Event} {call : Call} {outcome : Outcome}
    {image : Image} (effect : Effect storage txn earlier call outcome page image)
    (same : visible storage txn page history = visible storage txn page earlier) :
    Effect storage txn history call outcome page image := by
  cases effect with
  | inserted found placed => exact .inserted found (by rw [same]; exact placed)
  | deleted found located cleared => exact .deleted found located (by rw [same]; exact cleared)

namespace Consistent

variable (ok : Consistent storage allowed s)
include ok

/-- What a transaction relies on in the phase that it is in. -/
lemma phaseOk {phase : Phase} (now : s.phase txn = phase) :
    PhaseOk storage s txn allowed phase := by
  have phaseOk := (ok.txn txn).phase
  rw [now] at phaseOk
  exact phaseOk

/-- The registered tables are those of the beginning. -/
lemma catalog_eq (table : TableId) :
    s.db.storage.catalog[table]? = storage.catalog[table]? := by rw [ok.tables.catalog]

/-- A transaction that goes on has written no page that is not resident. -/
lemma unwritten_of_absent (live : ¬ Ended txn s.history) (absent : s.resident? page = none) :
    ownWrite txn page s.history = none := by
  by_contra written
  obtain ⟨image, wrote⟩ := Option.ne_none_iff_exists'.mp written
  obtain ⟨id, resident, -⟩ := (ok.txn txn).owned page image wrote live
  rw [absent] at resident
  cases resident

/-- A transaction that goes on has written no page that it has not locked. -/
lemma unwritten_of_unlocked (live : ¬ Ended txn s.history) (unlocked : s.mode txn page = none) :
    ownWrite txn page s.history = none := by
  by_contra written
  obtain ⟨image, wrote⟩ := Option.ne_none_iff_exists'.mp written
  exact (ok.txn txn).accessed page (accesses_of_ownWrite wrote) live unlocked

/-- A transaction that goes on and does not change the image of a resident page which it has
locked finds there the image that it should see. -/
lemma live_eq_visible (held : s.mode txn page ≠ none) (there : s.resident? page = some id)
    (closed : (s.phase txn).window? ≠ some id) :
    (s.frame id).live = visible storage txn page s.history := by
  obtain ⟨before, ⟨clean, same⟩ | ⟨other, owned⟩⟩ := ok.kept page id there
  · -- a clean page shows the stored image, and the transaction has not written it
    have unwritten : ownWrite txn page s.history = none := by
      by_contra written
      obtain ⟨image, wrote⟩ := Option.ne_none_iff_exists'.mp written
      obtain ⟨dirty, resident, owner⟩ :=
        (ok.txn txn).owned page image wrote ((ok.txn txn).live held)
      rw [there] at resident
      cases resident
      rw [clean] at owner
      cases owner
    rw [visible, unwritten, Option.getD_none, same]
    exact ok.stored page _ before
  · -- a page that someone has locked exclusively is locked by the transaction itself
    have own := eq_of_exclusive owned.lock held
    subst own
    rcases owned.reason with opened | ⟨-, wrote⟩
    · exact absurd opened closed
    · rw [visible, wrote, Option.getD_some]

/-- Whoever has locked a resident page has it at hand. -/
lemma atHand {mode : LockMode} (covers : s.db.locks.table.Covers txn page mode)
    (there : s.resident? page = some id) (closed : (s.phase txn).window? ≠ some id) :
    AtHand storage s txn page mode id where
  covers := covers
  made := ok.orderly.made page id there
  shows := ok.orderly.page page id there
  before := (ok.kept page id there).before
  live := ok.live_eq_visible covers.1 there closed
  alone _ other resident := by
    rw [there] at resident
    cases resident
    rfl

end Consistent

/-- What makes a page the own one of a transaction is its lock, its frame, and the part of the
transaction in phases and history. -/
lemma OwnedBy.of_same (owned : OwnedBy s txn page id) (same : later.frame id = s.frame id)
    (lock : later.mode txn page = s.mode txn page) (phase : later.phase txn = s.phase txn)
    (own : ownWrite txn page later.history = ownWrite txn page s.history) :
    OwnedBy later txn page id := by
  refine ⟨lock.trans owned.lock, ?_, ?_⟩
  · rw [same]
    exact owned.owner
  · rw [same, phase, own]
    exact owned.reason

/-! ### What is left to a transaction -/

lemma Spares.refl (txn : TxnId) (s : System) : Spares storage txn s s where
  phase := rfl
  mode _ := rfl
  made := Nat.le_refl _
  stored _ _ _ stored := stored
  frame _ _ _ := rfl
  stays _ _ _ _ there := there
  alone _ _ _ there := there
  own _ := rfl
  ledger _ _ := rfl
  accesses _ accesses := accesses
  ended := Iff.rfl

lemma Spares.trans {middle : System} (first : Spares storage txn s middle)
    (second : Spares storage txn middle later) : Spares storage txn s later where
  phase := second.phase.trans first.phase
  mode page := (second.mode page).trans (first.mode page)
  made := Nat.le_trans first.made second.made
  stored page image held stored :=
    second.stored page image (by rw [first.mode]; exact held)
      (first.stored page image held stored)
  frame id made held := by
    have same := first.frame id made held
    rw [← same]
    refine second.frame id (Nat.lt_of_lt_of_le made first.made) ?_
    rw [same, first.mode]
    exact held
  stays id made held owner there := by
    have same := first.frame id made held
    have resident := first.stays id made held owner there
    rw [← same] at resident ⊢
    refine second.stays id (Nat.lt_of_lt_of_le made first.made) ?_ ?_ resident
    · rw [same, first.mode]
      exact held
    · rw [same]
      exact owner
  alone page id exclusive there := by
    refine first.alone page id exclusive (second.alone page id ?_ there)
    rw [first.mode]
    exact exclusive
  own page := (second.own page).trans (first.own page)
  ledger page held := by
    rw [second.ledger page (by rw [first.mode]; exact held), first.ledger page held]
  accesses page accesses := first.accesses page (second.accesses page accesses)
  ended := second.ended.trans first.ended

section Spared

variable (spares : Spares storage txn s later)
include spares

lemma Spares.visible (held : s.mode txn page ≠ none) :
    visible storage txn page later.history = visible storage txn page s.history := by
  rw [History.visible, History.visible, spares.own, spares.ledger page held]

lemma Spares.covers {mode : LockMode} (covers : s.db.locks.table.Covers txn page mode) :
    later.db.locks.table.Covers txn page mode := by
  have same : later.db.locks.table.modeOf? txn page = s.db.locks.table.modeOf? txn page :=
    spares.mode page
  rw [LockTable.Covers, same]
  exact covers

lemma AtHand.spared {mode : LockMode} (hand : AtHand storage s txn page mode id) :
    AtHand storage later txn page mode id := by
  have held := hand.covers.1
  have same : later.frame id = s.frame id :=
    spares.frame id hand.made (by rw [hand.shows]; exact held)
  refine ⟨spares.covers hand.covers, Nat.lt_of_lt_of_le hand.made spares.made, ?_, ?_, ?_, ?_⟩
  · rw [same, hand.shows]
  · rw [same]
    exact spares.stored page _ held hand.before
  · rw [same, spares.visible held]
    exact hand.live
  · intro exclusive other there
    exact hand.alone exclusive other (spares.alone page other (hand.covers.2 exclusive) there)

lemma Window.same_frame (window : Window s txn id) : later.frame id = s.frame id :=
  spares.frame id window.made (by rw [window.lock]; simp)

lemma Window.spared (window : Window s txn id) : Window later txn id := by
  have held : s.mode txn (s.frame id).page ≠ none := by
    rw [window.lock]
    simp
  have same := window.same_frame spares
  refine ⟨?_, Nat.lt_of_lt_of_le window.made spares.made, ?_, ?_⟩
  · rw [same, spares.mode]
    exact window.lock
  · rw [same]
    exact spares.stored _ _ held window.before
  · rw [same]
    intro other there
    exact window.alone other (spares.alone _ other window.lock there)

lemma Pursues.spared {call : Call} {level : Level} {aim : Aim}
    (pursues : Pursues storage txn s.history call level aim) :
    Pursues storage txn later.history call level aim := by
  cases pursues with
  | hand => exact .hand
  | probe found untouched =>
      exact .probe found fun fresh accesses => untouched fresh (spares.accesses _ accesses)
  | claim found => exact .claim found
  | fill found => exact .fill found
  | erase found located => exact .erase found located
  | collect => exact .collect

lemma Serves.spared {call : Call} {operation : Operation}
    (serves : Serves storage s txn call operation) : Serves storage later txn call operation := by
  cases serves with
  | lock pursues => exact .lock (pursues.spared spares)
  | read pursues covers => exact .read (pursues.spared spares) (spares.covers covers)
  | enter pursues covers loaded =>
      exact .enter (pursues.spared spares) (spares.covers covers)
        (spares.stored _ _ covers.1 loaded)
  | use pursues hand => exact .use (pursues.spared spares) (hand.spared spares)
  | @report change id window single effect =>
      have same := window.same_frame spares
      have held : s.mode txn (s.frame id).page ≠ none := by
        rw [window.lock]
        simp
      refine .report (window.spared spares) single ?_
      rw [same]
      exact effect_of_visible effect (spares.visible held)
  | @reported change id window single effect there owner =>
      have same := window.same_frame spares
      have held : s.mode txn (s.frame id).page ≠ none := by
        rw [window.lock]
        simp
      refine .reported (window.spared spares) single ?_ ?_ ?_
      · rw [same]
        exact effect_of_visible effect (spares.visible held)
      · rw [same]
        exact spares.stays id window.made held owner there
      · rw [same]
        exact owner

/-- What held of a transaction still holds after the steps of others. -/
lemma TxnOk.spared (orderly : s.db.cache.Orderly) (ok : TxnOk storage s txn allowed) :
    TxnOk storage later txn allowed where
  phase := by
    have before := ok.phase
    rw [spares.phase]
    cases phase : s.phase txn with
    | ready => trivial
    | holding page mode id =>
        rw [phase] at before
        exact AtHand.spared spares before
    | changing id =>
        rw [phase] at before
        exact Window.spared spares before
    | busy call operation =>
        rw [phase] at before
        exact ⟨before.1, before.2.spared spares⟩
    | gone =>
        rw [phase] at before
        intro page
        rw [spares.mode]
        exact before page
  owned page image wrote live := by
    rw [spares.own] at wrote
    rw [spares.ended] at live
    obtain ⟨id, there, owner⟩ := ok.owned page image wrote live
    have shows : (s.frame id).page = page := orderly.page page id there
    have made := orderly.made page id there
    have held : s.mode txn (s.frame id).page ≠ none := by
      rw [shows]
      exact ok.accessed page (accesses_of_ownWrite wrote) live
    refine ⟨id, ?_, ?_⟩
    · rw [← shows]
      rw [← shows] at there
      exact spares.stays id made held owner there
    · rw [spares.frame id made held]
      exact owner
  accessed page accesses live := by
    rw [spares.ended] at live
    rw [spares.mode]
    exact ok.accessed page (spares.accesses page accesses) live
  gone := by
    rw [spares.phase, spares.ended]
    exact ok.gone

/-- A page that a transaction owns is still its own after the steps of others. -/
lemma OwnedBy.spared (orderly : s.db.cache.Orderly) (there : s.resident? page = some id)
    (owned : OwnedBy s txn page id) : OwnedBy later txn page id := by
  have shows : (s.frame id).page = page := orderly.page page id there
  have same : later.frame id = s.frame id := by
    refine spares.frame id (orderly.made page id there) ?_
    rw [shows, owned.lock]
    simp
  exact owned.of_same same (spares.mode page) spares.phase (spares.own page)

end Spared

/-- A resident page whose frame a step leaves alone is kept, if the step keeps the pages of its
own transaction. -/
lemma Kept.spared (orderly : s.db.cache.Orderly) (there : s.resident? page = some id)
    (kept : Kept s page id) (others : ∀ other, other ≠ txn → Spares storage other s later)
    (before : later.stored? page = some (later.frame id).before)
    (same : later.frame id = s.frame id)
    (own : OwnedBy s txn page id → OwnedBy later txn page id) : Kept later page id := by
  refine ⟨before, ?_⟩
  rcases kept.state with ⟨clean, live⟩ | ⟨other, owned⟩
  · rw [same]
    exact Or.inl ⟨clean, live⟩
  · by_cases mine : other = txn
    · subst mine
      exact Or.inr ⟨other, own owned⟩
    · exact Or.inr ⟨other, owned.spared (others other mine) orderly there⟩

end System

end PageTxn
