import PageTxn.Proofs.Moves
import PageTxn.Proofs.Settling

/-!
The end of a transaction.

* `Consistent.exclusive_of_ownWrite`: a transaction that goes on has locked exclusively what it
  has written.
* `System.Closing` says what frames and stores must look like for a transaction to end, and
  `Closing.leads` that it can end then.
* `Consistent.complete`: a commit and an abort keep the invariant and spare all others.
-/

namespace PageTxn.System

open History

variable {storage : Storage} {allowed : Act → Prop} {s : System} {txn : TxnId}
  {page : PageId} {id : FrameId}

/-- A transaction that may call an operation or end has reported all its changes. -/
lemma closed_of_free {phase : Phase} (free : phase.isFree = true) (id : FrameId) :
    phase.window? ≠ some id := by
  cases phase with
  | ready => simp [Phase.window?]
  | holding page mode id => simp [Phase.window?]
  | changing id => cases free
  | busy call operation => cases free
  | gone => cases free

namespace Consistent

variable (ok : Consistent storage allowed s)
include ok

lemma live_of_free (free : (s.phase txn).isFree = true) : ¬ Ended txn s.history := by
  intro gone
  rw [(ok.txn txn).gone.mpr gone] at free
  cases free

/-- What a transaction that goes on has written is resident, and locked exclusively. -/
lemma exclusive_of_ownWrite {image : Image}
    (wrote : ownWrite txn page s.history = some image) (live : ¬ Ended txn s.history) :
    s.mode txn page = some .exclusive ∧
      ∃ id, s.resident? page = some id ∧ (s.frame id).owner = some txn := by
  obtain ⟨id, there, owner⟩ := (ok.txn txn).owned page image wrote live
  refine ⟨?_, id, there, owner⟩
  rcases (ok.kept page id there).state with ⟨clean, -⟩ | ⟨other, owned⟩
  · rw [clean] at owner
    cases owner
  · rcases owned.owner with clean | mine
    · rw [clean] at owner
      cases owner
    · rw [mine] at owner
      cases owner
      exact owned.lock

end Consistent

/-! ### Giving the locks back -/

/-- The system after a transaction has ended and given its locks back. -/
def close (s : System) (txn : TxnId) (ending : Ending) (later : Database) : System :=
  ({ s with db := { later with locks := later.locks.releaseAll txn } }.setPhase txn .gone).log
    (.ended txn ending)

/-- What frames and stores must look like for a transaction to end: the pages that it has locked
are clean and show the stored images, and these are the ones of the ledger. -/
structure Closing (storage : Storage) (allowed : Act → Prop) (s : System) (txn : TxnId)
    (ending : Ending) (change : Frame → Frame) (later : Database) : Prop where
  free : (s.phase txn).isFree = true
  settled : Database.Settled change (s.db.locks.heldPages txn) s.db later
  shows : ∀ frame, (change frame).page = frame.page
  idle : ∀ frame : Frame, frame.owner = none → frame.live = frame.before → change frame = frame
  reliable : later.storage.Reliable
  tables : later.storage.SameTables s.db.storage
  admits : Admits storage allowed s.history (.ended txn ending)
  elsewhere : ∀ page, s.mode txn page = none ∨ s.resident? page = none →
    later.storage.image? page = s.stored? page
  here : ∀ page id, s.mode txn page ≠ none → s.resident? page = some id →
    (change (s.frame id)).owner = none ∧
      (change (s.frame id)).live = (change (s.frame id)).before ∧
      later.storage.image? page = some (change (s.frame id)).before
  stored : ∀ page image, later.storage.image? page = some image →
    image = ledger storage page (.ended txn ending :: s.history)
  missing : ∀ page, later.storage.image? page = none →
    committedWrite page (.ended txn ending :: s.history) = none ∧ storage.image? page = none
  unwritten : ∀ page, ownWrite txn page s.history = none →
    ledger storage page (.ended txn ending :: s.history) = ledger storage page s.history

namespace Closing

variable {ending : Ending} {change : Frame → Frame} {later : Database}
  (closing : Closing storage allowed s txn ending change later)
  (ok : Consistent storage allowed s) {other : TxnId} {image : Image}
include closing

lemma resident?_eq (page : PageId) :
    (s.close txn ending later).resident? page = s.resident? page :=
  closing.settled.resident page

include ok

lemma mode_eq (other : TxnId) (page : PageId) :
    (s.close txn ending later).mode other page =
      if txn = other then none else s.mode other page := by
  show (later.locks.releaseAll txn).table.modeOf? other page = _
  rw [closing.settled.locks]
  exact ok.sound.modeOf?_releaseAll txn other page

/-- The resident pages that the transaction has locked are settled. -/
lemma frame_of_held (held : s.mode txn page ≠ none) (there : s.resident? page = some id) :
    (s.close txn ending later).frame id = change (s.frame id) := by
  have shows : (s.db.cache.frame id).page = page := ok.orderly.page page id there
  refine (closing.settled.frame id).trans (if_pos ?_)
  rw [shows]
  exact ⟨ok.sound.mem_heldPages.mpr held, there⟩

/-- Other pages are not touched. -/
lemma frame_of_open (unlocked : s.mode txn (s.frame id).page = none) :
    (s.close txn ending later).frame id = s.frame id :=
  (closing.settled.frame id).trans
    (if_neg fun listed => ok.sound.mem_heldPages.mp listed.1 unlocked)

/-- What others have locked as well is clean. -/
lemma change_eq (apart : other ≠ txn) (held : s.mode other page ≠ none)
    (mine : s.mode txn page ≠ none) (there : s.resident? page = some id) :
    change (s.frame id) = s.frame id := by
  rcases (ok.kept page id there).state with ⟨clean, same⟩ | ⟨writer, owned⟩
  · exact closing.idle _ clean same
  · have writer_eq := eq_of_exclusive owned.lock held
    exact absurd (writer_eq.trans (eq_of_exclusive owned.lock mine).symm) apart

lemma frame_of_other (apart : other ≠ txn) (held : s.mode other (s.frame id).page ≠ none) :
    (s.close txn ending later).frame id = s.frame id := by
  refine (closing.settled.frame id).trans ?_
  split
  · next mine =>
    exact closing.change_eq ok apart held (ok.sound.mem_heldPages.mp mine.1) mine.2
  · rfl

lemma image?_of_other (apart : other ≠ txn) (held : s.mode other page ≠ none)
    (there : s.stored? page = some image) : later.storage.image? page = some image := by
  by_cases mine : s.mode txn page = none
  · exact (closing.elsewhere page (Or.inl mine)).trans there
  · cases resident : s.resident? page with
    | none => exact (closing.elsewhere page (Or.inr resident)).trans there
    | some id =>
        have forced := (closing.here page id mine resident).2.2
        rw [closing.change_eq ok apart held mine resident,
          ← (ok.kept page id resident).before] at forced
        exact forced.trans there

/-- The other transactions are spared. -/
lemma spares (apart : other ≠ txn) : Spares storage other s (s.close txn ending later) where
  phase := Function.update_of_ne apart ..
  mode page := by rw [closing.mode_eq ok, if_neg apart.symm]
  made := Nat.le_of_eq closing.settled.nextFrame.symm
  stored page image held there := closing.image?_of_other ok apart held there
  frame id _ held := closing.frame_of_other ok apart held
  stays id _ _ _ there := (closing.resident?_eq _).trans there
  alone page id _ there := (closing.resident?_eq page).symm.trans there
  own page := ownWrite_cons_of_ne apart.symm
  ledger page held := by
    refine closing.unwritten page ?_
    by_contra written
    obtain ⟨image, wrote⟩ := Option.ne_none_iff_exists'.mp written
    have lock := (ok.exclusive_of_ownWrite wrote (ok.live_of_free closing.free)).1
    exact apart (eq_of_exclusive lock held)
  accesses page accesses :=
    (accesses_cons_of_ne (show (Event.ended txn ending).txn ≠ other from apart.symm)).mp accesses
  ended := ended_cons_of_ne (show (Event.ended txn ending).txn ≠ other from apart.symm)

/-- The pages are kept. -/
lemma kept (there : s.resident? page = some id) : Kept (s.close txn ending later) page id := by
  have before := (ok.kept page id there).before
  by_cases mine : s.mode txn page = none
  · have same : (s.close txn ending later).frame id = s.frame id := by
      refine closing.frame_of_open ok ?_
      rw [show (s.frame id).page = page from ok.orderly.page page id there]
      exact mine
    refine (ok.kept page id there).spared ok.orderly there
      (fun other apart => closing.spares ok apart) ?_ same fun owned => ?_
    · rw [same]
      exact (closing.elsewhere page (Or.inl mine)).trans before
    · have lock := owned.lock
      rw [mine] at lock
      cases lock
  · obtain ⟨clean, live, image⟩ := closing.here page id mine there
    have forced := closing.frame_of_held ok mine there
    refine ⟨?_, Or.inl ?_⟩
    · rw [forced]
      exact image
    · rw [forced]
      exact ⟨clean, live⟩

/-- The transaction can end. -/
theorem leads : Leads storage allowed txn s (s.close txn ending later) := by
  have self : (s.close txn ending later).phase txn = .gone := Function.update_self ..
  have ended : Ended txn (s.close txn ending later).history :=
    ended_cons.mpr (Or.inl ⟨rfl, rfl⟩)
  have others : ∀ other, other ≠ txn → Spares storage other s (s.close txn ending later) :=
    fun other apart => closing.spares ok apart
  have own : TxnOk storage (s.close txn ending later) txn allowed := by
    refine ⟨?_, fun page image _ going => absurd ended going,
      fun page _ going => absurd ended going, ⟨fun _ => ended, fun _ => self⟩⟩
    rw [self]
    intro page
    rw [closing.mode_eq ok, if_pos rfl]
  refine ⟨{
    sound := ?_
    orderly := closing.settled.orderly closing.shows ok.orderly
    reliable := closing.reliable
    tables := closing.tables.trans ok.tables
    admissible := ⟨closing.admits, ok.admissible⟩
    stored := closing.stored
    missing := closing.missing
    grown := fun page there => ok.grown page fun absent => ?_
    kept := fun page id there => closing.kept ok ((closing.resident?_eq page).symm.trans there)
    txn := ok.txn_of_spares own others }, others⟩
  · show (later.locks.releaseAll txn).table.Sound
    rw [closing.settled.locks]
    exact ok.sound.releaseAll txn
  · have absent_page : s.resident? page = none := by
      by_contra resident
      obtain ⟨id, there⟩ := Option.ne_none_iff_exists'.mp resident
      have before := (ok.kept page id there).before
      rw [absent] at before
      cases before
    exact there ((closing.elsewhere page (Or.inr absent_page)).trans absent)

end Closing

/-! ### Commit and abort -/

namespace Consistent

variable (ok : Consistent storage allowed s)
include ok

/-- A free transaction finds, on a resident page that it has locked, either a clean frame that
shows its before-image, or its own changes. -/
lemma state_of_free (free : (s.phase txn).isFree = true) (held : s.mode txn page ≠ none)
    (there : s.resident? page = some id) :
    ((s.frame id).owner = none ∧ (s.frame id).live = (s.frame id).before) ∨
      (s.frame id).owner = some txn := by
  rcases (ok.kept page id there).state with clean | ⟨other, owned⟩
  · exact Or.inl clean
  · have mine := eq_of_exclusive owned.lock held
    subst mine
    rcases owned.reason with opened | ⟨dirty, -⟩
    · exact absurd opened (closed_of_free free id)
    · exact Or.inr dirty

/-- The pages that a free transaction has locked can be forced to their stores. -/
lemma forceable (free : (s.phase txn).isFree = true) :
    ∀ page ∈ s.db.locks.heldPages txn, s.db.Forceable page := by
  intro page listed id there
  refine ⟨(ok.kept page id there).before, fun clean => ?_⟩
  rcases ok.state_of_free free (ok.sound.mem_heldPages.mp listed) there with ⟨-, same⟩ | dirty
  · exact same
  · rw [show (s.frame id).owner = none from clean] at dirty
    cases dirty

/-- A transaction that is free can commit. -/
lemma commit (free : (s.phase txn).isFree = true) :
    Leads storage allowed txn s (s.complete txn true) := by
  have live : ¬ Ended txn s.history := ok.live_of_free free
  obtain ⟨later, done, reliable, tables, images, settled⟩ :=
    Database.exists_commitPages ok.reliable ok.orderly (ok.forceable free)
  have complete : s.complete txn true = s.close txn .committed later := by
    simp [System.complete, free, Database.complete, Database.settle, done, close]
  have elsewhere : ∀ page, s.mode txn page = none ∨ s.resident? page = none →
      later.storage.image? page = s.stored? page := by
    rintro page (unlocked | absent)
    · rw [images, if_neg]
      exact fun listed => ok.sound.mem_heldPages.mp listed unlocked
    · have shown : s.db.shown? page = s.stored? page := by
        simp [Database.shown?, show s.db.cache.residentFrame? page = none from absent]
      rw [images, shown, ite_self]
  have forced : ∀ page id, s.mode txn page ≠ none → s.resident? page = some id →
      later.storage.image? page = some (s.frame id).live := by
    intro page id held there
    have listed : page ∈ s.db.locks.heldPages txn := ok.sound.mem_heldPages.mpr held
    rw [images, if_pos listed]
    simp [Database.shown?, show s.db.cache.residentFrame? page = some id from there]
  -- a page is settled, or the transaction has not written it
  have settled_or : ∀ page, (∃ id, s.mode txn page ≠ none ∧ s.resident? page = some id) ∨
      (ownWrite txn page s.history = none ∧ later.storage.image? page = s.stored? page) := by
    intro page
    by_cases held : s.mode txn page = none
    · exact Or.inr ⟨ok.unwritten_of_unlocked live held, elsewhere page (Or.inl held)⟩
    · cases resident : s.resident? page with
      | none => exact Or.inr ⟨ok.unwritten_of_absent live resident,
          elsewhere page (Or.inr resident)⟩
      | some id => exact Or.inl ⟨id, held, rfl⟩
  have closing : Closing storage allowed s txn .committed Frame.force later := {
    free := free
    settled := settled
    shows := fun _ => rfl
    idle := fun _ => Frame.force_of_clean
    reliable := reliable
    tables := tables
    admits := .committed live fun page other written apart accesses => by
      by_contra going
      obtain ⟨image, wrote⟩ := Option.ne_none_iff_exists'.mp written
      exact apart (eq_of_exclusive (ok.exclusive_of_ownWrite wrote live).1
        ((ok.txn other).accessed page accesses going))
    elsewhere := elsewhere
    here := fun page id held there => ⟨rfl, rfl, forced page id held there⟩
    stored := fun page image there => by
      rw [ledger_committed]
      rcases settled_or page with ⟨id, held, resident⟩ | ⟨unwritten, same⟩
      · rw [forced page id held resident] at there
        cases there
        exact ok.live_eq_visible held resident (closed_of_free free id)
      · rw [visible, unwritten, Option.getD_none]
        exact ok.stored page image (same.symm.trans there)
    missing := fun page absent => by
      rcases settled_or page with ⟨id, held, resident⟩ | ⟨unwritten, same⟩
      · rw [forced page id held resident] at absent
        cases absent
      · have nothing := ok.missing page (same.symm.trans absent)
        refine ⟨?_, nothing.2⟩
        rw [committedWrite, unwritten, Option.none_or]
        exact nothing.1
    unwritten := fun page unwritten => by
      rw [ledger_committed, visible, unwritten, Option.getD_none] }
  rw [complete]
  exact closing.leads ok

/-- A transaction that is free can abort. -/
lemma abort (free : (s.phase txn).isFree = true) :
    Leads storage allowed txn s (s.complete txn false) := by
  have complete : s.complete txn false =
      s.close txn .aborted (s.db.rollbackPages txn (s.db.locks.heldPages txn)) := by
    simp [System.complete, free, Database.complete, Database.settle, close]
  have same_ledger : ∀ page, ledger storage page (.ended txn .aborted :: s.history) =
      ledger storage page s.history := by
    intro page
    rw [ledger, committedWrite_ended .aborted (by simp), ledger]
  have closing : Closing storage allowed s txn .aborted (Frame.undo txn)
      (s.db.rollbackPages txn (s.db.locks.heldPages txn)) := {
    free := free
    settled := Database.settled_rollbackPages ok.orderly txn (s.db.locks.heldPages txn)
    shows := fun frame => by
      rw [Frame.undo]
      split <;> rfl
    idle := fun _ clean _ => Frame.undo_of_clean clean
    reliable := ok.reliable
    tables := ⟨rfl, rfl⟩
    admits := .aborted (ok.live_of_free free)
    elsewhere := fun page _ => rfl
    here := fun page id held there => by
      have before := (ok.kept page id there).before
      rcases ok.state_of_free free held there with ⟨clean, same⟩ | dirty
      · rw [Frame.undo_of_clean clean]
        exact ⟨clean, same, before⟩
      · rw [Frame.undo, if_pos dirty]
        exact ⟨rfl, rfl, before⟩
    stored := fun page image there => by
      rw [same_ledger]
      exact ok.stored page image there
    missing := fun page absent => by
      rw [committedWrite_ended .aborted (by simp)]
      exact ok.missing page absent
    unwritten := fun page _ => same_ledger page }
  rw [complete]
  exact closing.leads ok

/-- A transaction that is free can end. -/
lemma complete (free : (s.phase txn).isFree = true) (commit : Bool) :
    Leads storage allowed txn s (s.complete txn commit) := by
  cases commit with
  | true => exact ok.commit free
  | false => exact ok.abort free

end Consistent

end PageTxn.System
