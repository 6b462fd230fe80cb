import PageTxn.Proofs.Completion
import PageTxn.Proofs.Operations

/-!
Runs keep the invariant.

* `Disciplined` says which acts may be allowed: no release, flush or discard from outside, and
  records are inserted into and deleted from heap files alone.
* `Consistent.act`: every allowed act keeps the invariant and spares the other transactions.
* `consistent_initial` and `Consistent.run`: so the invariant holds after every run.
-/

namespace PageTxn

/-- Whether an act releases, flushes or discards pages from outside. -/
def Act.isUpkeep : Act → Bool
  | release _ | flushPage _ | flushHeld | flushAll | discard _ => true
  | _ => false

/-- Only these acts may be allowed: nobody releases, flushes or discards pages, and records are
inserted into and deleted from heap files. -/
structure Disciplined (storage : Storage) (allowed : Act → Prop) : Prop where
  upkeep : ∀ act, allowed act → act.isUpkeep = false
  inserts : ∀ table record, allowed (.call (.insert table record)) →
    ∀ store, storage.catalog[table]? = some store → ∃ heap, store = .heap heap
  deletes : ∀ record id, allowed (.call (.delete record)) → record.id = some id →
    ∀ store, storage.catalog[id.page.table]? = some store → ∃ heap, store = .heap heap

namespace System

open History

variable {storage : Storage} {allowed : Act → Prop} {s : System} {txn : TxnId}
  {page : PageId} {id : FrameId}

/-- A transaction that may call an operation or end is not gone. -/
lemma going_of_free {phase : Phase} (free : phase.isFree = true) : phase ≠ .gone := by
  rintro rfl
  cases free

namespace Consistent

variable (ok : Consistent storage allowed s)
include ok

/-! ### Calls -/

/-- An operation that is finished at once and changes nothing can be called. -/
lemma refuse {call : Call} {outcome : Outcome} (free : (s.phase txn).isFree = true)
    (idle : outcome.isChange = false) (nothing : ∀ id, outcome ≠ .fetched (.ok id)) :
    Leads storage allowed txn s (s.follow txn call (s.db, .finished outcome)) :=
  (ok.leads_refl txn).returned (going_of_free free) idle nothing
    fun id opened => absurd opened (closed_of_free free id)

/-- An operation that begins with asking for a lock can be called. -/
lemma begin {call : Call} {level : Level} {aim : Aim} (free : (s.phase txn).isFree = true)
    (asked : allowed (.call call)) (pursues : Pursues storage txn s.history call level aim) :
    Leads storage allowed txn s (s.follow txn call (s.db, aim.start txn level)) :=
  (ok.leads_refl txn).running (going_of_free free) asked (.lock pursues)
    fun id opened => absurd opened (closed_of_free free id)

/-- A record can be inserted into a heap file. -/
lemma callInsert (disciplined : Disciplined storage allowed) {table : TableId} {record : Record}
    (free : (s.phase txn).isFree = true) (asked : allowed (.call (.insert table record)))
    (room : s.db.storage.Countable) :
    Leads storage allowed txn s (s.follow txn (.insert table record)
      (s.db.startInsertRecord txn table record)) := by
  rw [Database.startInsertRecord]
  cases named : s.db.storage.storeOf table with
  | error error => exact ok.refuse free rfl fun _ => by simp
  | ok store =>
      have found : storage.catalog[table]? = some store :=
        (ok.catalog_eq table).symm.trans (Storage.catalog_of_storeOf named)
      obtain ⟨heap, rfl⟩ := disciplined.inserts table record asked store found
      simp only [Database.startInsert]
      by_cases fits : record.data.size = heap.layout.recordSize
      · simp only [if_pos fits]
        have paused : Leads storage allowed txn s (s.setPhase txn .ready) :=
          ok.setPhase (going_of_free free) (by simp) trivial
            fun id opened => absurd opened (closed_of_free free id)
        rw [← follow_setPhase s s.db txn .ready]
        exact paused.trans (paused.consistent.nextProbe 0 _ (Function.update_self ..) asked
          found room)
      · simp only [if_neg fits]
        exact ok.refuse free (Level.isChange_failedInsert ..)
          fun _ => by simp [Level.failedInsert]

/-- A record can be deleted from a heap file. -/
lemma callDelete (disciplined : Disciplined storage allowed) {record : Record}
    (free : (s.phase txn).isFree = true) (asked : allowed (.call (.delete record))) :
    Leads storage allowed txn s (s.follow txn (.delete record)
      (s.db.startDeleteRecord txn record)) := by
  rw [Database.startDeleteRecord]
  cases located : record.id with
  | none => exact ok.refuse free rfl fun _ => by simp
  | some rid =>
      simp only
      cases named : s.db.storage.storeOf rid.page.table with
      | error error => exact ok.refuse free rfl fun _ => by simp
      | ok store =>
          have found : storage.catalog[rid.page.table]? = some store :=
            (ok.catalog_eq _).symm.trans (Storage.catalog_of_storeOf named)
          obtain ⟨heap, rfl⟩ := disciplined.deletes record rid asked located store found
          simp only [Database.startDelete]
          simp only [located]
          by_cases inside : rid.page.table = heap.table ∧
              rid.page.number < s.db.storage.heapPages heap
          · rw [if_pos inside]
            exact ok.begin free asked (.erase found located)
          · rw [if_neg inside]
            exact ok.refuse free rfl fun _ => by simp

/-- A heap file can be scanned. -/
lemma callScan {heap : HeapFile} (free : (s.phase txn).isFree = true)
    (asked : allowed (.call (.scan heap))) :
    Leads storage allowed txn s (s.follow txn (.scan heap) (s.db.startScan txn heap)) := by
  rw [Database.startScan]
  cases s.db.storage.heapPages heap with
  | zero => exact ok.refuse free rfl fun _ => by simp
  | succ remaining => exact ok.begin free asked .collect

/-- Every allowed call keeps the invariant. -/
lemma call (disciplined : Disciplined storage allowed) (call : Call)
    (asked : allowed (.call call))
    (room : ∀ table record, allowed (.call (.insert table record)) → s.db.storage.Countable) :
    Leads storage allowed txn s (s.call txn call) := by
  by_cases free : (s.phase txn).isFree = true
  · rw [System.call, if_pos free]
    cases call with
    | fetch page mode => exact ok.begin free asked .hand
    | insert table record => exact ok.callInsert disciplined free asked (room table record asked)
    | delete record => exact ok.callDelete disciplined free asked
    | scan heap => exact ok.callScan free asked
  · rw [System.call, if_neg free]
    exact ok.leads_refl txn

/-! ### Looking and writing -/

/-- A transaction looks at the page that it has at hand. -/
lemma look (permitted : allowed .look) : Leads storage allowed txn s (s.look txn) := by
  rw [System.look]
  split
  · next page mode id holding =>
    have hand : AtHand storage s txn page mode id := ok.phaseOk holding
    have existing := ok.grown page (by rw [hand.before]; simp)
    refine ok.log (.looked permitted ((ok.txn txn).live hand.covers.1) hand.live existing) rfl
      (fun _ => rfl) (fun access inside => ?_) fun call operation busy => ?_
    · rw [List.mem_singleton.mp inside]
      exact hand.covers.1
    · rw [Event.txn, holding] at busy
      cases busy
  · exact ok.leads_refl txn

/-- A transaction overwrites the page that it has at hand. -/
lemma overwrite (image : Image) : Leads storage allowed txn s (s.overwrite txn image) := by
  rw [System.overwrite]
  split
  · next id writable =>
    split
    · next frame copied =>
      have opened : Leads storage allowed txn s (s.setPhase txn (.changing id)) := by
        rcases Phase.cases_of_writable writable with changing | ⟨page, holding⟩
        · exact ok.setPhase (by simp [changing]) (by simp) (ok.phaseOk changing)
            fun id opened => Or.inl (by rw [changing] at opened; exact opened)
        · exact ok.setPhase (by simp [holding]) (by simp) (AtHand.window (ok.phaseOk holding))
            fun id opened => absurd opened (by simp [holding, Phase.window?])
      have changing : (s.setPhase txn (.changing id)).phase txn = .changing id :=
        Function.update_self ..
      rw [Frame.copyFrom?] at copied
      split at copied
      · cases copied
        exact opened.trans (opened.consistent.setFrame changing rfl rfl (Or.inl rfl))
      · cases copied
    · exact ok.leads_refl txn
  · exact ok.leads_refl txn

/-- A transaction reports the page that it has overwritten. -/
lemma report (permitted : allowed .report) : Leads storage allowed txn s (s.report txn) := by
  rw [System.report]
  split
  · next id changing =>
    have window : Window s txn id := ok.phaseOk changing
    have live : ¬ Ended txn s.history := (ok.txn txn).live (by rw [window.lock]; simp)
    rcases ok.markDirty changing with
      ⟨cache, done, lead, there, marked⟩ | ⟨cache, error, failed, lead, absent⟩
    · simp only [done]
      have window' : Window { s with db := { s.db with cache } } txn id :=
        lead.consistent.phaseOk changing
      have shows : (s.db.cache.frame id).page = (cache.frame id).page := by
        rw [marked]
        rfl
      have image : (s.db.cache.frame id).live = (cache.frame id).live := by
        rw [marked]
        rfl
      rw [shows, image]
      refine lead.trans (lead.consistent.logWrite
        (.wrote permitted live (lead.consistent.size_live window')) rfl ?_ window' ?_ ?_
        (fun page => rfl) fun access inside => ?_)
      · show (s.phase txn).window? = some id
        rw [changing]
        rfl
      · show cache.residentFrame? (cache.frame id).page = some id
        rw [← shows]
        exact there
      · show (cache.frame id).owner = some txn
        rw [marked]
        rfl
      · rw [List.mem_singleton.mp inside]
        rfl
    · simp only [failed]
      exact lead.trans (lead.consistent.setPhase (by simp [changing]) (by simp) trivial
        fun other opened => Or.inr (by
          rw [show _ = _ from changing] at opened
          cases opened
          exact absent))
  · exact ok.leads_refl txn

/-! ### Acts and runs -/

/-- Every allowed act keeps the invariant and spares the other transactions. -/
theorem act (disciplined : Disciplined storage allowed) (action : Action)
    (permitted : allowed action.act)
    (room : ∀ table record, allowed (.call (.insert table record)) → s.db.storage.Countable) :
    Leads storage allowed action.txn s (s.act action) := by
  obtain ⟨txn, act⟩ := action
  have calm := disciplined.upkeep act permitted
  cases act with
  | call call => exact ok.call disciplined call permitted room
  | move =>
      show Leads storage allowed txn s (s.move txn)
      rw [System.move]
      split
      · next call operation busy => exact ok.step busy room
      · exact ok.leads_refl txn
  | look => exact ok.look permitted
  | overwrite image => exact ok.overwrite image
  | report => exact ok.report permitted
  | complete commit =>
      by_cases free : (s.phase txn).isFree = true
      · exact ok.complete free commit
      · show Leads storage allowed txn s (s.complete txn commit)
        rw [System.complete, if_neg free]
        exact ok.leads_refl txn
  | release page => cases calm
  | flushPage page => cases calm
  | flushHeld => cases calm
  | flushAll => cases calm
  | discard page => cases calm

/-- Every allowed run keeps the invariant and spares the transactions that do not act. -/
theorem run (disciplined : Disciplined storage allowed) (actions : List Action)
    (permitted : ∀ action ∈ actions, allowed action.act)
    (room : ∀ table record, allowed (.call (.insert table record)) →
      (s.run actions).db.storage.Countable) :
    Consistent storage allowed (s.run actions) ∧
      ∀ other, (∀ action ∈ actions, action.txn ≠ other) →
        Spares storage other s (s.run actions) := by
  induction actions generalizing s with
  | nil => exact ⟨ok, fun other _ => .refl other s⟩
  | cons action rest ih =>
      have first := ok.act disciplined action (permitted action List.mem_cons_self)
        fun table record asked =>
          (s.grows_run (action :: rest)).countable (room table record asked)
      obtain ⟨consistent, spares⟩ := ih first.consistent
        (fun action later => permitted action (List.mem_cons_of_mem _ later)) room
      refine ⟨consistent, fun other apart => ?_⟩
      exact (first.spares other (apart action List.mem_cons_self).symm).trans
        (spares other fun action later => apart action (List.mem_cons_of_mem _ later))

end Consistent

/-- The invariant holds before anything happened. -/
lemma consistent_initial (reliable : storage.Reliable) (capacity : Nat)
    (capacity_pos : 0 < capacity) :
    Consistent storage allowed (initial storage capacity capacity_pos) where
  sound := LockTable.sound_empty
  orderly := Cache.orderly_empty capacity capacity_pos
  reliable := reliable
  tables := ⟨rfl, rfl⟩
  admissible := trivial
  stored page image there := by
    have found : storage.image? page = some image := there
    rw [initial, ledger, committedWrite, Storage.initially, found]
    rfl
  missing page absent := ⟨rfl, absent⟩
  grown page there := Or.inl there
  kept page id there := by
    have nothing : (Cache.empty capacity capacity_pos).residentFrame? page = none := by
      simp [Cache.residentFrame?, Cache.empty]
    rw [show (initial storage capacity capacity_pos).resident? page = none from nothing] at there
    cases there
  txn txn := {
    phase := trivial
    owned := fun page image wrote => by cases wrote
    accessed := fun page accesses => by
      obtain ⟨event, inside, -⟩ := accesses
      cases inside
    gone := ⟨fun gone => (by cases gone), fun ended => by
      obtain ⟨ending, inside⟩ := ended
      cases inside⟩ }

end System

end PageTxn
