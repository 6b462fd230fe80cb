import PageTxn.Proofs.Atomicity
import PageTxn.Proofs.Compliance
import PageTxn.Proofs.Isolation

/-!
Which pages are written if stores fail.

Transactions fetch, look at, overwrite and report pages, insert, delete and scan records of heap
files, and end; nobody releases, flushes or discards pages. The switches of a memory store may be
set at any time, so that it refuses reads or writes, and the store of any page may refuse it in
the middle of a commit.

* An `Incident` is an act of a transaction or a failure of a store; `System.endure` lets one
  happen after the other.
* `System.Guarded` is the invariant, and `suffers_incident` says that every incident keeps it and
  writes only pages that the transaction which commits has locked.
* `no_steal_unless_stuck`: so a dirty page is written by a commit of its owner alone, unless the
  owner got stuck in its commit. `steal_after_stuck`: then another transaction's commit may.
-/

namespace PageTxn

/-! ### Incidents -/

/-- What may happen to a system whose stores may fail. -/
inductive Incident where
  | act (action : Action)
  /-- The switches of a memory store are set: whether it refuses reads, and how many writes it
  still accepts. -/
  | outage (id : MemoryId) (failReads : Bool) (writesLeft : Option Nat)
  /-- A transaction commits, and after some pages a store refuses the next one. -/
  | interrupt (txn : TxnId) (accepted : Nat)

namespace Incident

/-- The transactions work on pages and on records of heap files. -/
def IsWork (storage : Storage) : Incident → Prop
  | act action => action.act.isPageWork = true ∨ action.act.IsRecordWork storage
  | outage .. | interrupt .. => True

/-- What is work is decided by the registered tables. -/
lemma isWork_congr {storage other : Storage} (same : storage.catalog = other.catalog)
    (incident : Incident) : incident.IsWork storage ↔ incident.IsWork other := by
  have heaps : storage.IsHeap = other.IsHeap := by
    funext table
    rw [Storage.IsHeap, Storage.IsHeap, same]
  cases incident with
  | outage id failReads writesLeft => rfl
  | interrupt txn accepted => rfl
  | act action =>
      obtain ⟨txn, act⟩ := action
      cases act with
      | call call => cases call <;> simp only [IsWork, Act.IsRecordWork, heaps]
      | _ => rfl

/-- The transaction that commits, whether or not its commit succeeds. -/
def committer? : Incident → Option TxnId
  | act ⟨txn, .complete true⟩ | interrupt txn _ => some txn
  | _ => none

end Incident

namespace System

open Database

variable {storage : Storage} {s later : System} {txn : TxnId} {pages : List PageId} {call : Call}

/-- A store refuses a page of a commit after some pages were accepted. -/
def interrupt (s : System) (txn : TxnId) (accepted : Nat) : System :=
  if (s.phase txn).isFree then
    s.close txn .stuck (s.db.commitPages ((s.db.locks.heldPages txn).take accepted)).1
  else s

/-- Let one incident happen. -/
def suffer (s : System) : Incident → System
  | .act action => s.act action
  | .outage id failReads writesLeft =>
      { s with db := { s.db with storage := s.db.storage.outage id failReads writesLeft } }
  | .interrupt txn accepted => s.interrupt txn accepted

/-- Let one incident happen after the other. -/
def endure (s : System) (incidents : List Incident) : System := incidents.foldl suffer s

lemma grows_suffer (s : System) (incident : Incident) :
    (s.suffer incident).db.storage.Grows s.db.storage := by
  cases incident with
  | act action => exact s.grows_act action
  | outage id failReads writesLeft => exact s.db.storage.grows_outage id failReads writesLeft
  | interrupt txn accepted =>
      show (s.interrupt txn accepted).db.storage.Grows s.db.storage
      rw [interrupt]
      split
      · exact s.db.grows_commitPages _
      · exact .refl _

/-- The pages that an incident may write. -/
def writable (s : System) (incident : Incident) : List PageId :=
  match incident.committer? with
  | some txn => s.db.locks.heldPages txn
  | none => []

/-- No file becomes shorter, whatever happens. -/
lemma grows_endure (s : System) (incidents : List Incident) :
    (s.endure incidents).db.storage.Grows s.db.storage := by
  induction incidents generalizing s with
  | nil => exact .refl _
  | cons incident rest ih => exact (ih (s.suffer incident)).trans (s.grows_suffer incident)

/-! ### The invariant -/

/-- The transaction got stuck in its commit. -/
def Stuck (s : System) (txn : TxnId) : Prop := Event.ended txn .stuck ∈ s.history

/-- Locks guard the dirty pages, and every transaction locks pages before it uses them. -/
structure Guarded (s : System) : Prop where
  db : s.db.Guarded s.Stuck
  phase : ∀ txn : TxnId, s.db.Respects txn (s.phase txn)

lemma guarded_initial (separate : storage.Separate) (capacity : Nat) (capacity_pos : 0 < capacity) :
    (initial storage capacity capacity_pos).Guarded where
  db := {
    sound := LockTable.sound_empty
    orderly := Cache.orderly_empty capacity capacity_pos
    separate := separate
    backed := fun id made => absurd made (Nat.not_lt_zero id)
    owned := fun page id txn there => by
      have nothing : (Cache.empty capacity capacity_pos).residentFrame? page = none := by
        simp [Cache.residentFrame?, Cache.empty]
      cases nothing.symm.trans there }
  phase _ := trivial

/-- An incident keeps the invariant and writes at most some pages. -/
structure Suffers (pages : List PageId) (s later : System) : Prop where
  guarded : later.Guarded
  writes : Storage.Writes pages later.db.storage s.db.storage

section Steps

variable (ok : s.Guarded)
include ok

lemma suffers_refl : Suffers pages s s := ⟨ok, .refl _⟩

/-- A step of one transaction that obeys the locks and brings it into another phase. -/
lemma suffers_of_obeys (phase : Phase) (obeys : Obeys later.Stuck txn pages s.db later.db)
    (phases : later.phase = Function.update s.phase txn phase)
    (respects : later.db.Respects txn phase) : Suffers pages s later := by
  refine ⟨⟨obeys.guarded, fun other => ?_⟩, obeys.writes⟩
  by_cases mine : other = txn
  · rw [mine, phases, Function.update_self]
    exact respects
  · rw [phases, Function.update_of_ne mine]
    exact (ok.phase other).carried (obeys.carries mine)

/-- The invariant of the database while more transactions get stuck. -/
lemma Guarded.db_mono (le : ∀ event ∈ s.history, event ∈ later.history) :
    s.db.Guarded later.Stuck :=
  ok.db.mono fun _ stuck => le _ stuck

/-- An operation is called or makes a move. -/
lemma suffers_follow {moved : Database × Progress}
    (complies : ∀ {stuck : TxnId → Prop}, s.db.Guarded stuck →
      Complies stuck txn call s.db moved) :
    Suffers [] s (s.follow txn call moved) := by
  have history : ∀ event ∈ s.history, event ∈ (s.follow txn call moved).history := by
    obtain ⟨db, running | parked | finished⟩ := moved
    · exact fun _ => id
    · exact fun _ => id
    · exact fun _ => List.mem_cons_of_mem _
  have moves := complies (ok.db_mono history)
  refine suffers_of_obeys ok _ ?_ (phase_follow_eq ..) ?_
  · rw [db_follow]
    exact moves.obeys
  · rw [db_follow]
    exact moves.respects

/-- A transaction has locked the page exclusively whose image it may overwrite. -/
lemma Guarded.claims_of_writable {id : FrameId} (writable : (s.phase txn).writable? = some id) :
    s.db.Claims txn id := by
  have respects := ok.phase txn
  rcases Phase.cases_of_writable writable with changing | ⟨page, holding⟩
  · rw [changing] at respects
    exact respects
  · rw [holding] at respects
    exact Holds.claims respects

/-- A transaction overwrites the page that it has at hand. -/
lemma suffers_overwrite (txn : TxnId) (image : Image) :
    Suffers [] s (s.overwrite txn image) := by
  rw [overwrite]
  split
  · next id writable =>
    have claims := ok.claims_of_writable writable
    split
    · next copied taken =>
      have owner : copied.owner = (s.db.cache.frame id).owner := by
        rw [Frame.copyFrom?] at taken
        split at taken
        · cases taken
          rfl
        · cases taken
      have changed : Obeys s.Stuck txn [] s.db
          { s.db with cache := s.db.cache.setFrame id copied } :=
        obeys_setFrame ok.db (Frame.page_of_copyFrom? taken) (Frame.size_of_copyFrom? taken)
          (Or.inl owner)
      exact suffers_of_obeys ok (.changing id) changed rfl
        (claims.carried (changed.carries_self fun _ => rfl))
    · exact suffers_refl ok
  · exact suffers_refl ok

/-- A transaction reports the page that it has overwritten. -/
lemma suffers_report (txn : TxnId) : Suffers [] s (s.report txn) := by
  rw [report]
  split
  · next id changing =>
    have claims : s.db.Claims txn id := by
      have respects := ok.phase txn
      rw [changing] at respects
      exact respects
    split
    · next db moved =>
      have guarded : s.db.Guarded (({ s with db }.setPhase txn .ready).log
          (.wrote txn (s.db.cache.frame id).page (s.db.cache.frame id).live)).Stuck :=
        ok.db_mono fun _ => List.mem_cons_of_mem _
      have reported := obeys_markDirty guarded claims
      rw [moved] at reported
      exact suffers_of_obeys ok .ready reported rfl trivial
    · next db failure moved =>
      have reported := obeys_markDirty ok.db claims
      rw [moved] at reported
      exact suffers_of_obeys ok .ready reported rfl trivial
  · exact suffers_refl ok

/-- A transaction ends. If a store refuses a page of its commit, it is stuck. -/
lemma suffers_complete (txn : TxnId) {commit : Bool}
    (obeys : ∀ {stuck : TxnId → Prop}, s.db.Guarded stuck →
      (s.db.complete txn commit).2 = .ok () ∨ stuck txn →
        Obeys stuck txn pages s.db (s.db.complete txn commit).1) :
    Suffers pages s (s.complete txn commit) := by
  have closed : ∀ ending, (s.db.complete txn commit).2 = .ok () ∨ ending = .stuck →
      Suffers pages s (({ s with db := (s.db.complete txn commit).1 }.setPhase txn .gone).log
        (.ended txn ending)) := by
    intro ending done
    refine suffers_of_obeys ok .gone (obeys (ok.db_mono fun _ => List.mem_cons_of_mem _) ?_) rfl
      trivial
    refine done.imp_right ?_
    rintro rfl
    exact List.mem_cons_self
  by_cases free : (s.phase txn).isFree = true
  · rw [complete, if_pos free]
    cases ended : s.db.complete txn commit with
    | mk db result =>
        rw [ended] at closed
        cases result with
        | ok => exact closed _ (Or.inl rfl)
        | error error => exact closed .stuck (Or.inr rfl)
  · rw [complete, if_neg free]
    exact suffers_refl ok

/-- A commit is interrupted by a store that refuses a page. -/
lemma suffers_interrupt (txn : TxnId) (accepted : Nat) :
    Suffers (s.db.locks.heldPages txn) s (s.interrupt txn accepted) := by
  rw [interrupt]
  split
  · set pages := (s.db.locks.heldPages txn).take accepted
    have guarded : s.db.Guarded (s.close txn .stuck (s.db.commitPages pages).1).Stuck :=
      ok.db_mono fun _ => List.mem_cons_of_mem _
    have stopped := obeys_stuck guarded List.mem_cons_self pages
    exact suffers_of_obeys ok .gone (stopped.widen fun _ => List.mem_of_mem_take) rfl trivial
  · exact suffers_refl ok

/-! ### Incidents and runs -/

/-- Every incident keeps the invariant, and writes at most pages that the transaction which
commits has locked. -/
theorem suffers_incident {incident : Incident} (work : incident.IsWork s.db.storage)
    (room : s.db.storage.Countable) :
    Suffers (s.writable incident) s (s.suffer incident) := by
  cases incident with
  | outage id failReads writesLeft =>
      have writes : Storage.Writes [] (s.db.storage.outage id failReads writesLeft)
          s.db.storage := s.db.storage.writes_outage id failReads writesLeft
      have switched : ∀ txn, Obeys s.Stuck txn [] s.db
          { s.db with storage := s.db.storage.outage id failReads writesLeft } :=
        fun txn => obeys_of_writes ok.db writes
      exact ⟨⟨(switched ⟨0⟩).guarded, fun txn => (ok.phase txn).carried
        ((switched txn).carries_self fun _ => rfl)⟩, writes⟩
  | interrupt txn accepted => exact suffers_interrupt ok txn accepted
  | act action =>
      obtain ⟨txn, act⟩ := action
      cases act with
      | complete commit =>
          cases commit with
          | true => exact suffers_complete ok txn fun guarded => obeys_commit guarded txn
          | false => exact suffers_complete ok txn fun guarded _ => obeys_abort guarded txn
      | look =>
          show Suffers [] s (s.look txn)
          rw [look]
          split
          · exact ⟨⟨ok.db_mono fun _ => List.mem_cons_of_mem _, ok.phase⟩, .refl _⟩
          · exact suffers_refl ok
      | overwrite image => exact suffers_overwrite ok txn image
      | report => exact suffers_report ok txn
      | move =>
          show Suffers [] s (s.move txn)
          rw [move]
          split
          · next call operation busy =>
            have allows : s.db.Allows txn call operation := by
              have respects := ok.phase txn
              rw [busy] at respects
              exact respects
            exact suffers_follow ok fun guarded => complies_step guarded allows room
          · exact suffers_refl ok
      | call call =>
          show Suffers [] s (s.call txn call)
          rw [System.call]
          split
          · refine suffers_follow ok fun guarded => complies_start guarded ?_ ?_ room
            · rintro table record rfl
              rcases work with paged | recorded
              · cases paged
              · exact recorded
            · rintro record id rfl located
              rcases work with paged | recorded
              · cases paged
              · exact recorded id located
          · exact suffers_refl ok
      | release page => rcases work with paged | recorded <;> contradiction
      | flushPage page => rcases work with paged | recorded <;> contradiction
      | flushHeld => rcases work with paged | recorded <;> contradiction
      | flushAll => rcases work with paged | recorded <;> contradiction
      | discard page => rcases work with paged | recorded <;> contradiction

end Steps

/-- Every run of incidents keeps the invariant, and the same tables are registered. -/
theorem guarded_endure (ok : s.Guarded) (incidents : List Incident)
    (work : ∀ incident ∈ incidents, incident.IsWork s.db.storage)
    (room : (s.endure incidents).db.storage.Countable) :
    (s.endure incidents).Guarded ∧
      (s.endure incidents).db.storage.catalog = s.db.storage.catalog := by
  induction incidents generalizing s with
  | nil => exact ⟨ok, rfl⟩
  | cons incident rest ih =>
      have grown := s.grows_endure (incident :: rest)
      have first := suffers_incident ok (work incident List.mem_cons_self) (grown.countable room)
      have tables := first.writes.catalog
      obtain ⟨guarded, same⟩ := ih first.guarded (fun next later =>
        (Incident.isWork_congr tables next).mpr (work next (List.mem_cons_of_mem _ later))) room
      exact ⟨guarded, same.trans tables⟩

end System

/-! ### Who writes dirty pages -/

/-- **No steal, unless a commit was refused.** Let stores refuse reads and writes at any time. In
every run in which nobody releases, flushes or discards pages, the owner of a dirty page has it
locked exclusively, or got stuck in its commit. And whatever happens next, a dirty page is written
by nothing else than a commit of a transaction that has locked it: the one of its owner, unless
the owner got stuck before. -/
theorem no_steal_unless_stuck {storage : Storage} (separate : storage.Separate) (capacity : Nat)
    (capacity_pos : 0 < capacity) (before : List Incident) (next : Incident)
    (work : ∀ incident ∈ before, incident.IsWork storage) (work_next : next.IsWork storage)
    (room : ((System.initial storage capacity capacity_pos).endure before).db.storage.Countable) :
    let s := (System.initial storage capacity capacity_pos).endure before
    ∀ (page : PageId) (id : FrameId) (owner : TxnId),
      s.resident? page = some id → (s.frame id).owner = some owner →
        (s.mode owner page = some .exclusive ∨ .ended owner .stuck ∈ s.history) ∧
        (¬ (s.suffer next).db.storage.Untouched s.db.storage page →
          ∃ txn, next.committer? = some txn ∧ s.mode txn page ≠ none ∧
            (txn = owner ∨ .ended owner .stuck ∈ s.history)) := by
  intro s page id owner there dirty
  obtain ⟨ok, tables⟩ := System.guarded_endure
    (System.guarded_initial separate capacity capacity_pos) before work room
  have locked := ok.db.owned page id owner there dirty
  refine ⟨locked, fun written => ?_⟩
  have suffers := System.suffers_incident ok
    ((Incident.isWork_congr tables next).mpr work_next) room
  obtain ⟨image, stored, -⟩ := ok.db.backed id (ok.db.orderly.made page id there)
  rw [ok.db.orderly.page page id there] at stored
  have listed : page ∈ s.writable next := by
    by_contra unlisted
    exact written (suffers.writes.untouched page unlisted (by rw [stored]; simp))
  rw [System.writable] at listed
  split at listed
  · next txn commits =>
    have held : s.mode txn page ≠ none := ok.db.sound.mem_heldPages.mp listed
    exact ⟨txn, commits, held, locked.imp_left fun lock => System.eq_of_exclusive lock held⟩
  · cases listed

/-- With room for a single page: the commit of the first transaction is refused, and the store
recovers; then the second transaction reads the page, and its commit would write it. -/
def refusedCommit : List Incident :=
  let page : PageId := ⟨⟨1⟩, 0⟩
  [.act ⟨⟨1⟩, .call (.fetch page .exclusive)⟩, .act ⟨⟨1⟩, .move⟩, .act ⟨⟨1⟩, .move⟩,
    .act ⟨⟨1⟩, .move⟩, .act ⟨⟨1⟩, .move⟩, .act ⟨⟨1⟩, .overwrite #[7, 9]⟩, .act ⟨⟨1⟩, .report⟩,
    .outage 0 false (some 0), .act ⟨⟨1⟩, .complete true⟩, .outage 0 false none,
    .act ⟨⟨2⟩, .call (.fetch page .shared)⟩, .act ⟨⟨2⟩, .move⟩, .act ⟨⟨2⟩, .move⟩]

/-- The second transaction writes a page of the first one, which it has locked, only because the
first one got stuck. -/
theorem no_steal_unless_stuck_reader :
    let s := (System.initial twoPages 1 (by decide)).endure refusedCommit
    let next : Incident := .act ⟨⟨2⟩, .complete true⟩
    let page : PageId := ⟨⟨1⟩, 0⟩
    (s.suffer next).stored? page = some #[7, 9] ∧
      ∃ txn, next.committer? = some txn ∧ s.mode txn page ≠ none ∧
        (txn = ⟨1⟩ ∨ .ended ⟨1⟩ .stuck ∈ s.history) := by
  intro s next page
  have work : ∀ incident ∈ refusedCommit, incident.IsWork twoPages := by
    simp [refusedCommit, Incident.IsWork, Act.isPageWork]
  have there : s.resident? page = some 0 := by decide +kernel
  have dirty : (s.frame 0).owner = some ⟨1⟩ := by decide +kernel
  have stored : s.stored? page = some #[0, 0] := by decide +kernel
  have written : (s.suffer next).stored? page = some #[7, 9] := by decide +kernel
  have room : s.db.storage.Countable := by decide +kernel
  refine ⟨written, (no_steal_unless_stuck reliable_twoPages.separate 1 (by decide) refusedCommit
    next work (Or.inl rfl) room page 0 ⟨1⟩ there dirty).2 fun untouched => ?_⟩
  have same : (s.suffer next).stored? page = s.stored? page := untouched.image
  rw [written, stored] at same
  exact absurd same (by decide)

/-- A transaction that has only read a page writes to its store what another one could not
commit. -/
theorem steal_after_stuck :
    let s := (System.initial twoPages 1 (by decide)).endure refusedCommit
    let later := s.suffer (.act ⟨⟨2⟩, .complete true⟩)
    let page : PageId := ⟨⟨1⟩, 0⟩
    s.history.any (fun | .ended txn .stuck => txn = ⟨1⟩ | _ => false) = true ∧
      s.resident? page = some 0 ∧ (s.frame 0).owner = some ⟨1⟩ ∧
      s.mode ⟨2⟩ page = some .shared ∧ s.stored? page = some #[0, 0] ∧
      later.stored? page = some #[7, 9] := by
  decide +kernel

end PageTxn
