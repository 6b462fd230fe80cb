import PageTxn.Proofs.Reliance
import PageTxn.Proofs.Restoration

/-!
Systems in which everybody may rely on the images that they have found, also if stores fail.

* `System.Acted` says what comes of what a transaction does for the phases and the history, and
  `System.Does` says, for incidents that are work, all that it can do.
* `System.Truthful` is the invariant; `truthful_suffer`, `truthful_endure` say that incidents keep
  it.
* `Truthful.reacts`: whatever a transaction does defers to the locks of the others. So a page that a
  transaction has locked shows the same image whatever the others do (`Truthful.shown_of_held`).
-/

namespace PageTxn

/-- The transaction that acts. -/
def Incident.actor? : Incident → Option TxnId
  | act action => some action.txn
  | interrupt txn _ => some txn
  | outage .. => none

namespace System

open Database

variable {storage : Storage} {s later : System} {incident : Incident} {txn actor other : TxnId}
  {page : PageId} {id : FrameId} {call : Call}

/-- What comes of what a transaction does: nothing, or it is in some phase then and at most one
event is recorded, which is one of its own. A transaction that has ended is gone. -/
inductive Acted (s : System) (txn : TxnId) : System → Prop
  | idle : Acted s txn s
  | silent (db : Database) (phase : Phase) : Acted s txn ({ s with db }.setPhase txn phase)
  | recorded (db : Database) (phase : Phase) (event : Event) (own : event.txn = txn)
      (gone : event.isEnd = true → phase = .gone) :
      Acted s txn (({ s with db }.setPhase txn phase).log event)

lemma acted_follow (s : System) (txn : TxnId) (call : Call) (moved : Database × Progress) :
    s.Acted txn (s.follow txn call moved) := by
  obtain ⟨db, running | parked | outcome⟩ := moved
  · exact .silent db _
  · exact .silent db _
  · exact .recorded db _ _ rfl fun ends => by cases ends

lemma acted_maintain (s : System) (txn : TxnId) (change : Database → Database) :
    s.Acted txn (s.maintain txn change) := by
  rw [maintain]
  split
  · exact .silent _ _
  · exact .idle

/-- Whatever a transaction does, it leaves the others in their phases. -/
theorem acted_act (s : System) (action : Action) : s.Acted action.txn (s.act action) := by
  obtain ⟨txn, act⟩ := action
  cases act with
  | call call =>
      show s.Acted txn (s.call txn call)
      rw [System.call]
      split
      · exact s.acted_follow ..
      · exact .idle
  | move =>
      show s.Acted txn (s.move txn)
      rw [System.move]
      split
      · exact s.acted_follow ..
      · exact .idle
  | look =>
      show s.Acted txn (s.look txn)
      rw [System.look]
      split
      · have looked := @Acted.recorded s txn s.db (s.phase txn)
        simp only [setPhase, Function.update_eq_self] at looked
        exact looked _ rfl fun ends => by cases ends
      · exact .idle
  | overwrite image =>
      show s.Acted txn (s.overwrite txn image)
      rw [System.overwrite]
      split
      · split
        · exact .silent _ _
        · exact .idle
      · exact .idle
  | report =>
      show s.Acted txn (s.report txn)
      rw [System.report]
      split
      · split
        · exact .recorded _ _ _ rfl fun ends => by cases ends
        · exact .silent _ _
      · exact .idle
  | complete commit =>
      show s.Acted txn (s.complete txn commit)
      rw [System.complete]
      split
      · split <;> exact .recorded _ _ _ rfl fun _ => rfl
      · exact .idle
  | release page => exact s.acted_maintain txn fun db => db.release txn page
  | flushPage page => exact s.acted_maintain txn fun db => (db.flushPage page).1
  | flushHeld => exact s.acted_maintain txn fun db => (db.flushHeld txn).1
  | flushAll => exact s.acted_maintain txn fun db => db.flushAll.1
  | discard page => exact s.acted_maintain txn fun db => db.discard page

lemma acted_suffer (acts : incident.actor? = some txn) : s.Acted txn (s.suffer incident) := by
  cases incident with
  | outage store failReads writesLeft => cases acts
  | act action =>
      cases acts
      exact s.acted_act action
  | interrupt txn accepted =>
      cases acts
      show s.Acted txn (s.interrupt txn accepted)
      rw [interrupt]
      split
      · exact .recorded _ _ _ rfl fun _ => rfl
      · exact .idle

lemma Acted.phase_of_ne (acted : s.Acted txn later) (apart : other ≠ txn) :
    later.phase other = s.phase other := by
  cases acted with
  | idle => rfl
  | silent db phase => exact Function.update_of_ne apart ..
  | recorded db phase event own gone => exact Function.update_of_ne apart ..

/-- A transaction that gets stuck is gone. -/
lemma Acted.stuck_cases (acted : s.Acted txn later) (stuck : later.Stuck other) :
    s.Stuck other ∨ later.phase other = .gone := by
  cases acted with
  | idle => exact Or.inl stuck
  | silent db phase => exact Or.inl stuck
  | recorded db phase event own gone =>
      rcases List.mem_cons.mp stuck with rfl | inside
      · obtain rfl : other = txn := own
        exact Or.inr ((Function.update_self ..).trans (gone rfl))
      · exact Or.inl inside

/-- A transaction that is gone does nothing. -/
lemma suffer_of_gone (acts : incident.actor? = some txn) (gone : s.phase txn = .gone) :
    s.suffer incident = s := by
  cases incident with
  | outage store failReads writesLeft => cases acts
  | interrupt txn accepted =>
      cases acts
      simp [suffer, interrupt, gone, Phase.isFree]
  | act action =>
      obtain ⟨txn, act⟩ := action
      cases acts
      cases act <;> simp [suffer, System.act, System.call, System.move, System.look,
        System.overwrite, System.report, System.complete, maintain, gone, Phase.isFree,
        Phase.writable?]

/-- What others do leaves a transaction in its phase. -/
lemma phase_suffer_of_ne (apart : incident.actor? ≠ some txn) :
    (s.suffer incident).phase txn = s.phase txn := by
  cases acts : incident.actor? with
  | some actor =>
      exact (acted_suffer acts).phase_of_ne fun same => apart (acts.trans (congrArg some same.symm))
  | none =>
      cases incident with
      | act action => cases acts
      | interrupt actor accepted => cases acts
      | outage store failReads writesLeft => rfl

/-- What an incident in which a transaction acts comes to, if it is work: nothing, or what the
transaction can do in its phase. -/
inductive Does (s : System) (txn : TxnId) : Incident → System → Prop
  | nothing (incident : Incident) : Does s txn incident s
  | calls {call : Call} (free : (s.phase txn).isFree = true) :
      Does s txn (.act ⟨txn, .call call⟩) (s.follow txn call (s.db.start txn call))
  | moves {call : Call} {operation : Operation} (busy : s.phase txn = .busy call operation) :
      Does s txn (.act ⟨txn, .move⟩) (s.follow txn call (s.db.step operation))
  | looks {page : PageId} {mode : LockMode} {id : FrameId}
      (holding : s.phase txn = .holding page mode id) :
      Does s txn (.act ⟨txn, .look⟩) (s.log (.looked txn page (s.frame id).live))
  | overwrites {image : Image} {id : FrameId} {frame : Frame}
      (writable : (s.phase txn).writable? = some id)
      (copied : (s.frame id).copyFrom? image = .ok frame) :
      Does s txn (.act ⟨txn, .overwrite image⟩)
        ({ s with db := { s.db with cache := s.db.cache.setFrame id frame } }.setPhase txn
          (.changing id))
  | reports {id : FrameId} {history : List Event} (changing : s.phase txn = .changing id)
      (tells : (∃ failure, (s.db.markDirty txn id).2 = .error failure) ∧ history = s.history ∨
        (s.db.markDirty txn id).2 = .ok () ∧
          history = .wrote txn (s.frame id).page (s.frame id).live :: s.history) :
      Does s txn (.act ⟨txn, .report⟩)
        ({ s with db := (s.db.markDirty txn id).1, history }.setPhase txn .ready)
  | ends {commit : Bool} {history : List Event} (free : (s.phase txn).isFree = true)
      (tells : ∃ ending, history = .ended txn ending :: s.history ∧
        (ending = .aborted ↔ commit = false)) :
      Does s txn (.act ⟨txn, .complete commit⟩)
        ({ s with db := (s.db.complete txn commit).1, history }.setPhase txn .gone)
  | stops {accepted : Nat} (free : (s.phase txn).isFree = true) :
      Does s txn (.interrupt txn accepted)
        (s.close txn .stuck (s.db.commitPages ((s.db.locks.heldPages txn).take accepted)).1)

/-- Whatever a transaction does that is work. -/
theorem does_suffer (acts : incident.actor? = some txn) (work : incident.IsWork storage) :
    s.Does txn incident (s.suffer incident) := by
  cases incident with
  | outage store failReads writesLeft => cases acts
  | interrupt txn accepted =>
      cases acts
      simp only [suffer, interrupt]
      split
      · next free => exact .stops free
      · exact .nothing _
  | act action =>
      obtain ⟨txn, act⟩ := action
      cases acts
      simp only [suffer, System.act]
      cases act with
      | call call =>
          simp only [System.call]
          split
          · next free => exact .calls free
          · exact .nothing _
      | move =>
          simp only [System.move]
          split
          · next busy => exact .moves busy
          · exact .nothing _
      | look =>
          simp only [System.look]
          split
          · next holding => exact .looks holding
          · exact .nothing _
      | overwrite image =>
          simp only [System.overwrite]
          split
          · next writable =>
            split
            · next copied => exact .overwrites writable copied
            · exact .nothing _
          · exact .nothing _
      | report =>
          simp only [System.report]
          split
          · next id changing =>
            have reports := fun history => @Does.reports s txn id history changing
            split
            · next marked =>
              rw [marked] at reports
              exact reports _ (.inr ⟨rfl, rfl⟩)
            · next marked =>
              rw [marked] at reports
              exact reports _ (.inl ⟨⟨_, rfl⟩, rfl⟩)
          · exact .nothing _
      | complete commit =>
          simp only [System.complete]
          split
          · next free =>
            have ends := fun history => @Does.ends s txn commit history free
            split
            · next ended =>
              rw [ended] at ends
              exact ends _ ⟨_, rfl, by cases commit <;> simp⟩
            · next ended =>
              rw [ended] at ends
              refine ends _ ⟨.stuck, rfl, ?_⟩
              cases commit with
              | true => simp
              | false => cases ended
          · exact .nothing _
      | release page => rcases work with paged | recorded <;> contradiction
      | flushPage page => rcases work with paged | recorded <;> contradiction
      | flushHeld => rcases work with paged | recorded <;> contradiction
      | flushAll => rcases work with paged | recorded <;> contradiction
      | discard page => rcases work with paged | recorded <;> contradiction

/-! ### The invariant -/

/-- The transaction has not overwritten the page without a report. -/
def Reported (s : System) (txn : TxnId) (page : PageId) : Prop :=
  ∀ id, s.phase txn = .changing id → (s.frame id).page ≠ page

lemma reported_of_free (free : (s.phase txn).isFree = true) : s.Reported txn page :=
  fun id changing => absurd changing (ne_changing_of_free free id)

lemma reported_of_busy {operation : Operation} (busy : s.phase txn = .busy call operation) :
    s.Reported txn page := by
  intro id changing
  cases busy.symm.trans changing

/-- The locks of the transaction that acts. -/
def own (s : System) (incident : Incident) (page : PageId) : Option LockMode :=
  incident.actor?.bind fun actor => s.mode actor page

/-- Who acts has not locked exclusively what others have locked. -/
lemma own_ne_exclusive (s : System) (apart : incident.actor? ≠ some txn)
    (held : s.mode txn page ≠ none) : s.own incident page ≠ some .exclusive := by
  intro exclusive
  obtain ⟨actor, acts, lock⟩ := Option.bind_eq_some_iff.mp exclusive
  rw [acts, eq_of_exclusive lock held] at apart
  exact apart rfl

/-- A store that fails shows nowhere. -/
lemma defers_outage (s : System) (store : MemoryId) (failReads : Bool) (writesLeft : Option Nat) :
    Defers (fun _ => none) s.db (s.suffer (.outage store failReads writesLeft)).db :=
  defers_of_writes (s.db.storage.writes_outage store failReads writesLeft)

/-- Everybody may rely on what they assume: resident pages have the stored images as their
before-images, clean ones show them, and a transaction that got stuck is gone. -/
structure Truthful (s : System) : Prop where
  guarded : s.Guarded
  restorable : s.Restorable
  departed : ∀ txn : TxnId, s.Stuck txn → s.phase txn = .gone
  grounded : s.db.Grounded
  assumes : ∀ txn : TxnId, s.db.Assumes (s.phase txn)

lemma truthful_initial (separate : storage.Separate) (capacity : Nat)
    (capacity_pos : 0 < capacity) : (initial storage capacity capacity_pos).Truthful where
  guarded := guarded_initial separate capacity capacity_pos
  restorable := restorable_initial storage capacity capacity_pos
  departed txn stuck := by cases stuck
  grounded page id there := by
    have nothing : (Cache.empty capacity capacity_pos).residentFrame? page = none := by
      simp [Cache.residentFrame?, Cache.empty]
    cases nothing.symm.trans there
  assumes _ := trivial

section Steps

variable (ok : s.Truthful)
include ok

/-- A page that a transaction has locked and not overwritten without a report is closed. -/
lemma Truthful.closed (held : s.mode txn page ≠ none) (reported : s.Reported txn page) :
    s.db.Closed page := by
  intro id there clean
  refine (ok.restorable.shown page id there clean).resolve_right ?_
  rintro ⟨other, changing⟩
  have claims := ok.restorable.grasps other
  rw [changing] at claims
  have lock : s.mode other (s.frame id).page = some .exclusive := Claims.lock claims
  rw [ok.guarded.db.orderly.page page id there] at lock
  rw [← eq_of_exclusive lock held] at changing
  exact reported id changing (ok.guarded.db.orderly.page page id there)

/-- A step of one transaction that defers to the locks of the others, and leaves it in a phase in
which it may rely on what it assumes. -/
lemma Truthful.step (acted : s.Acted txn later) (guarded : later.Guarded)
    (restorable : later.Restorable) (stays : s.phase txn = .gone → later.phase txn = .gone)
    (defers : Defers (s.mode txn) s.db later.db) (assumes : later.db.Assumes (later.phase txn)) :
    later.Truthful where
  guarded := guarded
  restorable := restorable
  departed other stuck := by
    refine (acted.stuck_cases stuck).elim (fun before => ?_) id
    have gone := ok.departed other before
    by_cases mine : other = txn
    · subst mine
      exact stays gone
    · exact (acted.phase_of_ne mine).trans gone
  grounded := defers.grounded ok.grounded
  assumes other := by
    by_cases mine : other = txn
    · rw [mine]
      exact assumes
    · rw [acted.phase_of_ne mine]
      refine Assumes.deferred defers (fun page lock => ?_) (fun page lock => ?_) ok.grounded
        (fun call operation busy page held => ok.closed held (reported_of_busy busy))
        (ok.guarded.phase other) (ok.assumes other)
      · exact LockTable.modeOf?_eq_none_of_exclusive lock mine
      · exact LockTable.modeOf?_eq_none_of_exclusive lock (Ne.symm mine)

/-- The frame that an operation may change is one of a page that its transaction has locked
exclusively. -/
lemma Truthful.locked {operation : Operation} (busy : s.phase txn = .busy call operation)
    (changes : operation.changed? = some id) :
    s.mode txn (s.frame id).page = some .exclusive := by
  have allows := ok.guarded.phase txn
  rw [busy] at allows
  cases operation with
  | reporting own change ids =>
      cases ids with
      | nil => cases changes
      | cons first rest =>
          cases changes
          exact (allows.2 _ List.mem_cons_self).lock
  | fetching own level aim stage =>
      obtain ⟨-, -, reaches⟩ := allows
      cases stage with
      | lock waited => cases aim <;> cases changes
      | read => cases aim <;> cases changes
      | enter image => cases aim <;> cases changes
      | use other =>
          have claims : aim.mode = .exclusive → s.db.Claims txn other := by
            intro exclusive
            have hand : s.db.Holds txn aim.page aim.mode other := reaches
            rw [exclusive] at hand
            exact hand.claims
          cases aim with
          | hand page mode => cases changes
          | probe heap record number remaining alreadyHeld => cases changes
          | collect heap number remaining found => cases changes
          | claim heap record number remaining =>
              cases changes
              exact (claims rfl).lock
          | fill heap record number =>
              cases changes
              exact (claims rfl).lock
          | erase heap id =>
              cases changes
              exact (claims rfl).lock

/-- A transaction that may end has no overwritten page, and all that it owns is locked
exclusively. -/
lemma Truthful.lock_of_owner (free : (s.phase txn).isFree = true)
    (there : s.resident? page = some id) (owner : (s.frame id).owner = some txn) :
    s.mode txn page = some .exclusive := by
  refine (ok.guarded.db.owned page id txn there owner).resolve_right fun stuck => ?_
  rw [ok.departed txn stuck] at free
  cases free

/-- A commit defers to the locks, however far it gets. -/
lemma Truthful.defers_commitPages (free : (s.phase txn).isFree = true) {pages : List PageId}
    (inside : ∀ page ∈ pages, page ∈ s.db.locks.heldPages txn) (locks : LockManager) :
    Defers (s.mode txn) s.db { (s.db.commitPages pages).1 with locks } := by
  refine (Database.defers_commitPages ok.guarded.db fun page listed => ?_).trans
    (defers_of_stats _ locks (s.db.commitPages pages).1.cache.stats)
  have held : s.mode txn page ≠ none := ok.guarded.db.sound.mem_heldPages.mp (inside page listed)
  exact ⟨held, ok.closed held (reported_of_free free)⟩

lemma Truthful.defers_complete (free : (s.phase txn).isFree = true) (commit : Bool) :
    Defers (s.mode txn) s.db (s.db.complete txn commit).1 := by
  cases commit with
  | true => exact ok.defers_commitPages free (fun _ => id) _
  | false =>
      exact (defers_rollbackPages ok.guarded.db.orderly txn
        (fun page id there owner => ok.lock_of_owner free there owner) _).trans
        (defers_of_stats _ _ (s.db.rollbackPages txn _).cache.stats)

/-- Incidents that are work flush no page and release none. -/
lemma Truthful.restorable_suffer (work : incident.IsWork storage) :
    (s.suffer incident).Restorable := by
  cases incident with
  | outage store failReads writesLeft =>
      refine ⟨ok.restorable.tidy, ok.restorable.exact, fun txn => ?_, ok.restorable.shown⟩
      refine Grasps.moved ?_ ?_ ?_ (ok.restorable.grasps txn)
      · exact fun _ => rfl
      · exact Nat.le_refl _
      · exact fun _ _ => rfl
  | act action =>
      refine ok.restorable.act ?_
      obtain ⟨txn, act⟩ := action
      cases act with
      | flushPage page => rcases work with paged | recorded <;> contradiction
      | flushHeld => rcases work with paged | recorded <;> contradiction
      | flushAll => rcases work with paged | recorded <;> contradiction
      | _ => rfl
  | interrupt txn accepted =>
      show (s.interrupt txn accepted).Restorable
      rw [interrupt]
      split
      · next free =>
        set pages := (s.db.locks.heldPages txn).take accepted
        have goes : s.db.locks.table.Goes txn none
            ((s.db.commitPages pages).1.locks.releaseAll txn).table := by
          rw [s.db.locks_commitPages pages]
          exact .releasesAll
        exact ok.restorable.step_of_upholds goes
          ((s.db.advances_commitPages pages).exact ok.restorable.exact)
          (s.db.upholds_commitPages pages) rfl trivial
          fun id changing => absurd changing (ne_changing_of_free free id)
      · exact ok.restorable

/-- A call that is work defers to all locks. -/
lemma Truthful.proceeds_call {own : PageId → Option LockMode}
    (work : Incident.IsWork s.db.storage (.act ⟨txn, .call call⟩))
    (room : s.db.storage.Countable) : Database.Proceeds own call s.db (s.db.start txn call) := by
  refine proceeds_start ok.guarded.db ?_ ?_ room
  · rintro table record rfl
    rcases work with paged | recorded
    · cases paged
    · exact recorded
  · rintro record id rfl located
    rcases work with paged | recorded
    · cases paged
    · exact recorded id located

/-- A move of an operation that may change the frame that it changes, if it changes one. -/
lemma Truthful.proceeds_move {own : PageId → Option LockMode} {operation : Operation}
    (busy : s.phase txn = .busy call operation)
    (changes : ∀ id, operation.changed? = some id → own (s.frame id).page = some .exclusive)
    (room : s.db.storage.Countable) : Database.Proceeds own call s.db (s.db.step operation) := by
  have allows := ok.guarded.phase txn
  have trusts := ok.assumes txn
  rw [busy] at allows trusts
  exact proceeds_step ok.guarded.db ok.grounded allows trusts changes room

/-- What a transaction does defers to the locks of the others, and leaves it in a phase in which it
may rely on what it assumes. -/
theorem Truthful.reacts (acts : incident.actor? = some txn)
    (work : incident.IsWork s.db.storage) (room : s.db.storage.Countable) :
    Defers (s.mode txn) s.db (s.suffer incident).db ∧
      (s.suffer incident).db.Assumes ((s.suffer incident).phase txn) := by
  have does := does_suffer acts work (s := s)
  have assumes := ok.assumes txn
  generalize s.suffer incident = later at does ⊢
  cases does with
  | nothing => exact ⟨.refl _ _, assumes⟩
  | looks holding => exact ⟨.refl _ _, assumes⟩
  | @calls call free =>
      have proceeds : Database.Proceeds (s.mode txn) call s.db (s.db.start txn call) :=
        ok.proceeds_call work room
      rw [db_follow, phase_follow_self]
      exact ⟨proceeds.defers, proceeds.assumes⟩
  | @moves call operation busy =>
      have proceeds : Database.Proceeds (s.mode txn) call s.db (s.db.step operation) :=
        ok.proceeds_move busy (fun id => ok.locked busy) room
      rw [db_follow, phase_follow_self]
      exact ⟨proceeds.defers, proceeds.assumes⟩
  | @overwrites image id frame writable copied =>
      have lock := (ok.guarded.claims_of_writable writable).lock
      have rooted : s.db.Rooted id := by
        rcases Phase.cases_of_writable writable with changing | ⟨page, holding⟩
        · rw [changing] at assumes
          exact assumes
        · rw [holding] at assumes
          exact assumes rfl
      have same_page := Frame.page_of_copyFrom? copied
      have same_before := Frame.before_of_copyFrom? copied
      simp only [setPhase, Function.update_self]
      exact ⟨defers_setFrame same_page same_before lock ok.guarded.db.orderly,
        rooted.setFrame (fun _ => rfl) same_page same_before⟩
  | @reports id history changing tells =>
      have lock : s.mode txn (s.frame id).page = some .exclusive :=
        (ok.guarded.claims_of_writable (by rw [changing]; rfl)).lock
      rw [changing] at assumes
      simp only [setPhase, Function.update_self]
      exact ⟨defers_markDirty txn ok.guarded.db.orderly assumes lock, trivial⟩
  | ends free tells =>
      simp only [setPhase, Function.update_self]
      exact ⟨ok.defers_complete free _, trivial⟩
  | stops free =>
      simp only [close, log, setPhase, Function.update_self]
      exact ⟨ok.defers_commitPages free (fun _ => List.mem_of_mem_take) _, trivial⟩

/-- Every incident keeps the invariant. -/
theorem truthful_suffer (work : incident.IsWork s.db.storage) (room : s.db.storage.Countable) :
    (s.suffer incident).Truthful := by
  have guarded := (suffers_incident ok.guarded work room).guarded
  have restorable := ok.restorable_suffer work
  cases actor : incident.actor? with
  | some txn =>
      obtain ⟨defers, assumes⟩ := ok.reacts actor work room
      refine ok.step (acted_suffer actor) guarded restorable (fun gone => ?_) defers assumes
      rw [suffer_of_gone actor gone]
      exact gone
  | none =>
      cases incident with
      | act action => cases actor
      | interrupt txn accepted => cases actor
      | outage store failReads writesLeft =>
          have defers := s.defers_outage store failReads writesLeft
          refine ⟨guarded, restorable, ok.departed, defers.grounded ok.grounded, fun other => ?_⟩
          exact Assumes.deferred defers (fun page lock => by cases lock) (fun _ _ => rfl)
            ok.grounded (fun call operation busy page held =>
              ok.closed held (reported_of_busy busy)) (ok.guarded.phase other) (ok.assumes other)

/-- Every run of incidents keeps the invariant, and the same tables are registered. -/
theorem truthful_endure (incidents : List Incident)
    (work : ∀ incident ∈ incidents, incident.IsWork s.db.storage)
    (room : (s.endure incidents).db.storage.Countable) :
    (s.endure incidents).Truthful ∧
      (s.endure incidents).db.storage.catalog = s.db.storage.catalog := by
  refine ⟨?_, (guarded_endure ok.guarded incidents work room).2⟩
  induction incidents generalizing s with
  | nil => exact ok
  | cons incident rest ih =>
      have work_first := work incident List.mem_cons_self
      have room_first := (s.grows_endure (incident :: rest)).countable room
      have tables := (suffers_incident ok.guarded work_first room_first).writes.catalog
      exact ih (truthful_suffer ok work_first room_first) (fun next later =>
        (Incident.isWork_congr tables next).mpr (work next (List.mem_cons_of_mem _ later))) room

/-! ### What the others notice -/

/-- A transaction changes the lock table as it may. -/
lemma Truthful.goes_suffer (acts : incident.actor? = some actor) (work : incident.IsWork storage) :
    ∃ asker, s.db.locks.table.Goes actor asker (s.suffer incident).db.locks.table := by
  have does := does_suffer acts work (s := s)
  generalize s.suffer incident = later at does ⊢
  cases does with
  | nothing => exact ⟨none, .stays⟩
  | looks holding => exact ⟨none, .stays⟩
  | overwrites writable copied => exact ⟨none, .stays⟩
  | @calls call free =>
      rw [db_follow]
      exact ⟨none, goes_of_locks_eq (s.db.locks_start actor call)⟩
  | @moves call operation busy =>
      have grasps := ok.restorable.grasps actor
      rw [busy] at grasps
      rw [db_follow, ← grasps.1]
      exact ⟨_, s.db.goes_step operation⟩
  | @reports id history changing tells =>
      exact ⟨none, goes_of_locks_eq (s.db.locks_markDirty actor id)⟩
  | @ends commit history free tells =>
      refine ⟨none, ?_⟩
      simp only [setPhase, s.db.locks_complete]
      exact .releasesAll
  | stops free =>
      refine ⟨none, ?_⟩
      simp only [close, log, setPhase, s.db.locks_commitPages]
      exact .releasesAll

/-- Nobody else loses a lock or gets one. -/
lemma Truthful.mode_suffer (apart : incident.actor? ≠ some txn) (work : incident.IsWork storage)
    (page : PageId) : (s.suffer incident).mode txn page = s.mode txn page := by
  cases acts : incident.actor? with
  | some actor =>
      obtain ⟨asker, goes⟩ := ok.goes_suffer acts work
      exact goes.modeOf?_of_ne (fun same => apart (acts.trans (congrArg some same.symm))) page
  | none =>
      cases incident with
      | act action => cases acts
      | interrupt actor accepted => cases acts
      | outage store failReads writesLeft => rfl

/-- Whatever happens defers to the locks of the others. -/
theorem Truthful.defers_suffer (work : incident.IsWork s.db.storage)
    (room : s.db.storage.Countable) :
    Defers (s.own incident) s.db (s.suffer incident).db := by
  cases acts : incident.actor? with
  | some actor =>
      have same : s.own incident = s.mode actor := by
        funext page
        rw [own, acts, Option.bind_some]
      rw [same]
      exact (ok.reacts acts work room).1
  | none =>
      have same : s.own incident = fun _ => none := by
        funext page
        rw [own, acts, Option.bind_none]
      rw [same]
      cases incident with
      | act action => cases acts
      | interrupt actor accepted => cases acts
      | outage store failReads writesLeft => exact s.defers_outage store failReads writesLeft

/-- **A page that a transaction has locked shows the same image** whatever the others do, unless
the transaction has overwritten it without a report. -/
theorem Truthful.shown_of_held (apart : incident.actor? ≠ some txn)
    (work : incident.IsWork s.db.storage) (room : s.db.storage.Countable)
    (held : s.mode txn page ≠ none) (reported : s.Reported txn page) {image : Image}
    (shown : s.db.shown? page = some image) : (s.suffer incident).db.shown? page = some image :=
  (ok.defers_suffer work room).shown page image (s.own_ne_exclusive apart held) ok.grounded
    (ok.closed held reported) shown

end Steps

end System

end PageTxn
