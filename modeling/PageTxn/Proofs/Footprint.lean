import PageTxn.Proofs.Underway

/-!
Which locks an insert leaves behind.

* `Aim.locksAt` says which locks a transaction has at a stage of a fetch; `approaches_step`: a move
  of a fetch that has no page at hand goes on so.
* `Database.Footing` says which locks a transaction has while its insert is in progress, and
  `Database.Footprint` which ones when it returns. `foots_move` is one lemma for all moves,
  `foots_of_underway` says so for every point of a call.
* `insert_footprint`: an insert that succeeds adds the lock of the page of its record and no other,
  one that fails adds or strengthens at most one, and none is dropped at any time.
* `insert_keeps_full_page`: after a flush, an insert may also keep a page that it has found full.
-/

namespace PageTxn

/-! ### Locks during a fetch -/

/-- The locks at a stage of a fetch that began with these locks. -/
def Aim.locksAt (aim : Aim) (modes : PageId → Option LockMode) :
    Stage → PageId → Option LockMode
  | .lock _ => modes
  | _ => Function.update modes aim.page (some (aim.mode.joined (modes aim.page)))

namespace Database

variable {db later : Database} {txn : TxnId} {level : Level} {aim : Aim} {stage : Stage}
  {modes had : PageId → Option LockMode} {heap : HeapFile} {record : Record}

/-- At most one lock has been added or strengthened. -/
def Widens (had now : PageId → Option LockMode) : Prop :=
  ∃ page mode, now = Function.update had page mode ∧
    (had page = none ∨ mode = had page ∨ mode = some .exclusive)

lemma joined_exclusive (held : Option LockMode) :
    LockMode.joined .exclusive held = .exclusive := by
  rw [LockMode.joined, ite_self]

namespace Widens

lemma refl (had : PageId → Option LockMode) : Widens had had :=
  ⟨⟨⟨0⟩, 0⟩, _, (Function.update_eq_self ..).symm, .inr (.inl rfl)⟩

lemma exclusive (had : PageId → Option LockMode) (page : PageId) :
    Widens had (Function.update had page (some .exclusive)) :=
  ⟨page, _, rfl, .inr (.inr rfl)⟩

/-- The lock that a request leads to covers the one before. -/
lemma joined (had : PageId → Option LockMode) (page : PageId) (wanted : LockMode) :
    Widens had (Function.update had page (some (wanted.joined (had page)))) := by
  refine ⟨page, _, rfl, ?_⟩
  generalize had page = held
  rcases held with _ | _ | _ <;> cases wanted <;> simp [LockMode.joined]

end Widens

/-- No lock has been dropped. -/
lemma Widens.covers {page : PageId} {mode : LockMode}
    (widens : Widens had (db.locks.table.modeOf? txn)) (held : had page = some mode) :
    db.locks.table.Covers txn page mode := by
  obtain ⟨changed, now, locked, covers⟩ := widens
  rw [LockTable.Covers, locked]
  by_cases here : page = changed
  · subst here
    rw [Function.update_self]
    rcases covers with none_had | same | exclusive
    · cases none_had.symm.trans held
    · rw [same, held]
      exact ⟨by simp, congrArg some⟩
    · rw [exclusive]
      exact ⟨by simp, fun _ => rfl⟩
  · rw [Function.update_of_ne here, held]
    exact ⟨by simp, congrArg some⟩

/-- What a move of a fetch comes to that has no page at hand. -/
inductive Approaches (txn : TxnId) (level : Level) (aim : Aim)
    (modes : PageId → Option LockMode) : Database × Progress → Prop
  | running {later : Database} {stage : Stage}
      (locked : later.locks.table.modeOf? txn = aim.locksAt modes stage) :
      Approaches txn level aim modes (later, .running (.fetching txn level aim stage))
  | parked {later : Database} {stage : Stage}
      (locked : later.locks.table.modeOf? txn = aim.locksAt modes stage) :
      Approaches txn level aim modes (later, .parked (.fetching txn level aim stage))
  | failed {later : Database} {failure : Failure} (stage : Stage)
      (locked : later.locks.table.modeOf? txn = aim.locksAt modes stage) :
      Approaches txn level aim modes (later, .finished (aim.failed level failure))

/-- A granted lock is added to the others. -/
lemma approaches_lockPage (waited : Bool) :
    Approaches txn level aim (db.locks.table.modeOf? txn) (db.lockPage txn level aim waited) := by
  have requested := LockTable.modeOf?_request db.locks.table txn txn aim.page
  have verdict : (db.locks.request txn aim.page aim.mode waited).2 =
      (db.locks.table.request txn aim.page aim.mode).2 := rfl
  rw [lockPage]
  cases answer : db.locks.request txn aim.page aim.mode waited with
  | mk locks decision =>
      have table : locks.table = (db.locks.table.request txn aim.page aim.mode).1 := by
        rw [show locks = (db.locks.request txn aim.page aim.mode waited).1 by rw [answer]]
        rfl
      rw [answer] at verdict
      have kept : decision ≠ .granted → locks.table.modeOf? txn = db.locks.table.modeOf? txn := by
        intro denied
        funext page
        rw [table, requested, if_neg fun granted => denied (verdict.trans granted.1)]
      cases decision with
      | refused => exact .failed (.lock waited) (kept (by simp))
      | wait => exact .parked (kept (by simp))
      | granted =>
          have joined : locks.table.modeOf? txn = Function.update (db.locks.table.modeOf? txn)
              aim.page (some (aim.mode.joined (db.locks.table.modeOf? txn aim.page))) := by
            funext page
            rw [table, requested]
            by_cases here : page = aim.page
            · subst here
              rw [Function.update_self, if_pos ⟨verdict.symm, rfl, rfl⟩]
            · rw [Function.update_of_ne here, if_neg fun granted => here granted.2.1.symm]
          simp only
          split
          · exact .running joined
          · exact .running joined

/-- A move of a fetch keeps the locks that go with its stage. -/
theorem approaches_step (locked : db.locks.table.modeOf? txn = aim.locksAt modes stage)
    (away : ∀ id, stage ≠ .use id) :
    Approaches txn level aim modes (db.step (.fetching txn level aim stage)) := by
  cases stage with
  | use id => exact absurd rfl (away id)
  | lock waited =>
      rw [show modes = db.locks.table.modeOf? txn from locked.symm]
      exact approaches_lockPage waited
  | read =>
      have same := db.locks_loadPage aim.page
      rw [step]
      split
      · next loaded =>
        rw [loaded] at same
        exact .running (by rw [same]; exact locked)
      · next loaded =>
        rw [loaded] at same
        exact .failed .read (by rw [same]; exact locked)
  | enter image =>
      have same := db.locks_enterPage aim.page image
      rw [step]
      split
      · next entered =>
        rw [entered] at same
        exact .running (by rw [same]; exact locked)
      · next entered =>
        rw [entered] at same
        exact .failed (.enter image) (by rw [same]; exact locked)

/-! ### Locks during an insert -/

/-- A page that is shown has a free slot. -/
def HasRoom (db : Database) (heap : HeapFile) (page : PageId) : Prop :=
  ∃ image slot, db.shown? page = some image ∧ heap.layout.firstFree? image = .ok (some slot)

/-- The locks of a transaction while its insert is in progress, which had these ones before. -/
inductive Footing (had : PageId → Option LockMode) (db : Database) (txn : TxnId) :
    Operation → Prop
  | probe {level : Level} {heap : HeapFile} {record : Record} {number remaining : Nat}
      {alreadyHeld : Bool} {stage : Stage}
      (known : alreadyHeld = true ↔ had (heap.page number) ≠ none)
      (locked : db.locks.table.modeOf? txn =
        (Aim.probe heap record number remaining alreadyHeld).locksAt had stage) :
      Footing had db txn
        (.fetching txn level (.probe heap record number remaining alreadyHeld) stage)
  | claim {level : Level} {heap : HeapFile} {record : Record} {number remaining : Nat}
      {stage : Stage} (room : db.HasRoom heap (heap.page number))
      (locked : db.locks.table.modeOf? txn = (Aim.claim heap record number remaining).locksAt
        (Function.update had (heap.page number)
          (some (LockMode.joined .shared (had (heap.page number))))) stage) :
      Footing had db txn (.fetching txn level (.claim heap record number remaining) stage)
  | fill {level : Level} {heap : HeapFile} {record : Record} {number : Nat} {stage : Stage}
      (locked : db.locks.table.modeOf? txn = (Aim.fill heap record number).locksAt had stage) :
      Footing had db txn (.fetching txn level (.fill heap record number) stage)
  | reporting {record : Record} {ids pages : List FrameId} {id : RecordId}
      (placed : record.id = some id)
      (locked : db.locks.table.modeOf? txn = Function.update had id.page (some .exclusive)) :
      Footing had db txn (.reporting txn (.insertion record ids) pages)

/-- The locks of a transaction when its insert has returned. -/
inductive Footprint (had : PageId → Option LockMode) (db : Database) (txn : TxnId) :
    Outcome → Prop
  | inserted {ids : List FrameId} {record : Record} {id : RecordId} (placed : record.id = some id)
      (locked : db.locks.table.modeOf? txn = Function.update had id.page (some .exclusive)) :
      Footprint had db txn (.inserted (.ok ids) record)
  | failed {failure : Failure} {record : Record}
      (widens : Widens had (db.locks.table.modeOf? txn)) :
      Footprint had db txn (.inserted (.error failure) record)

/-- The locks of a transaction at whatever point its insert is. -/
def Foots (had : PageId → Option LockMode) (txn : TxnId) : Database × Progress → Prop
  | (db, .running operation) | (db, .parked operation) => db.Footing had txn operation
  | (db, .finished outcome) => db.Footprint had txn outcome

lemma foots_of_going {progress : Progress} {operation : Operation}
    (going : progress.operation? = some operation) :
    Foots had txn (db, progress) ↔ db.Footing had txn operation := by
  cases progress with
  | finished outcome => cases going
  | running running =>
      cases going
      rfl
  | parked parked =>
      cases going
      rfl

/-- A step that defers to the locks leaves the free slot. -/
lemma HasRoom.deferred {own : PageId → Option LockMode} {page : PageId}
    (room : db.HasRoom heap page) (defers : Defers own db later) (weak : own page ≠ some .exclusive)
    (grounded : db.Grounded) (closed : db.Closed page) : later.HasRoom heap page := by
  obtain ⟨image, slot, shown, free⟩ := room
  exact ⟨image, slot, defers.shown page image weak grounded closed shown, free⟩

/-- A page that an insert claims is locked. -/
lemma Footing.held_of_claim {number remaining : Nat}
    (locked : db.locks.table.modeOf? txn = (Aim.claim heap record number remaining).locksAt
      (Function.update had (heap.page number)
        (some (LockMode.joined .shared (had (heap.page number))))) stage) :
    db.locks.table.modeOf? txn (heap.page number) ≠ none := by
  rw [locked]
  cases stage <;> simp [Aim.locksAt, Aim.page]

/-- A failure says which record was to be inserted. -/
lemma footprint_failedInsert {failure : Failure}
    (widens : Widens had (db.locks.table.modeOf? txn)) :
    db.Footprint had txn (level.failedInsert record failure) := by
  cases level <;> cases failure <;> exact .failed widens

/-- While an insert is in progress, at most one lock has been added or strengthened. -/
lemma Footing.widens {operation : Operation} (footing : db.Footing had txn operation) :
    Widens had (db.locks.table.modeOf? txn) := by
  cases footing with
  | @probe _ heap record number remaining alreadyHeld stage known locked =>
      rw [locked]
      cases stage with
      | lock waited => exact .refl had
      | _ => exact .joined had (heap.page number) .shared
  | @fill _ heap record number stage locked =>
      rw [locked]
      cases stage with
      | lock waited => exact .refl had
      | _ => exact .joined had (heap.page number) .exclusive
  | @claim _ heap record number remaining stage room locked =>
      rw [locked]
      cases stage with
      | lock waited => exact .joined had (heap.page number) .shared
      | _ =>
          simp only [Aim.locksAt, Aim.page, Aim.mode, Function.update_idem, joined_exclusive]
          exact .exclusive had (heap.page number)
  | @reporting _ _ _ id placed locked =>
      rw [locked]
      exact .exclusive had id.page

/-- An insert may fail wherever it is. -/
lemma Footing.failed {failure : Failure}
    (footing : db.Footing had txn (.fetching txn level aim stage)) :
    db.Footprint had txn (aim.failed level failure) := by
  have widens := footing.widens
  cases footing <;> exact footprint_failedInsert widens

/-- A file that refuses to be appended to costs no lock. -/
lemma Comes.foots {moved came : Database × Progress} (comes : db.Comes moved came)
    (foots : Foots had txn moved) : Foots had txn came := by
  cases comes with
  | asModelled => exact foots
  | @unappended later own level heap record number length cause part =>
      have widens : Widens had (later.locks.table.modeOf? txn) := Footing.widens foots
      exact footprint_failedInsert widens

/-- The insert goes on with the next page, or with a new one. -/
lemma foots_nextProbe (sound : db.locks.table.Sound) (locked : db.locks.table.modeOf? txn = had)
    (number remaining : Nat) :
    Foots had txn (db.nextProbe txn level heap record number remaining) := by
  cases remaining with
  | zero => exact .fill locked
  | succ remaining =>
      refine .probe ?_ locked
      rw [← locked, LockManager.holds, LockTable.holds, Std.ExtTreeSet.contains_iff_mem]
      exact sound.mem_pagesOf txn _

/-! ### Moves with a page at hand -/

/-- Whoever has a lock keeps it with a request for a shared one. -/
lemma update_joined_shared {page : PageId} (held : had page ≠ none) :
    Function.update had page (some (LockMode.joined .shared (had page))) = had := by
  rw [Function.update_eq_self_iff]
  generalize had page = mode at held
  rcases mode with _ | _ | _
  · exact absurd rfl held
  · rfl
  · rfl

/-- Under an exclusive lock, the locks are those before, and this one. -/
lemma locksAt_claim {number remaining : Nat} {id : FrameId} :
    (Aim.claim heap record number remaining).locksAt (Function.update had (heap.page number)
        (some (LockMode.joined .shared (had (heap.page number))))) (.use id) =
      Function.update had (heap.page number) (some .exclusive) := by
  simp only [Aim.locksAt, Aim.page, Aim.mode, Function.update_idem, joined_exclusive]

lemma locksAt_fill {number : Nat} {id : FrameId} :
    (Aim.fill heap record number).locksAt had (.use id) =
      Function.update had (heap.page number) (some .exclusive) := by
  simp only [Aim.locksAt, Aim.page, Aim.mode, joined_exclusive]

/-- A record that was put into a page is on it, and the transaction reports the page or is done. -/
lemma foots_next {later : Database} {placed : Record} {id : FrameId}
    (tried : db.tryPlace txn heap record id = .ok (some (later, placed)))
    (locked : db.locks.table.modeOf? txn =
      Function.update had (db.cache.frame id).page (some .exclusive)) :
    Foots had txn (later, (Change.insertion placed [id]).next txn level) := by
  have same := locks_tryPlace tried
  obtain ⟨slot, image, -, -, rfl⟩ := changeFrame_of_tryPlace tried
  rw [← same] at locked
  cases level with
  | store => exact .inserted rfl locked
  | database => exact .reporting rfl locked

/-- A record finds no place only in a page without a free slot. -/
lemma firstFree_of_tryPlace {id : FrameId} (tried : db.tryPlace txn heap record id = .ok none) :
    heap.layout.firstFree? (db.cache.frame id).live = .ok none := by
  cases free : heap.layout.firstFree? (db.cache.frame id).live with
  | error fault => simp [tryPlace, SlotLayout.place?, free, bind, Except.bind] at tried
  | ok found =>
      cases found with
      | none => rfl
      | some slot =>
          -- the slot is used, unless that fails
          cases written : heap.layout.write? (db.cache.frame id).live slot record.data with
          | error fault =>
              simp [tryPlace, SlotLayout.place?, free, written, bind, Except.bind] at tried
          | ok image =>
              cases changed : db.changeFrame txn id image with
              | error fault =>
                  simp [tryPlace, SlotLayout.place?, free, written, changed, bind, Except.bind,
                    pure, Except.pure] at tried
              | ok later =>
                  simp [tryPlace, SlotLayout.place?, free, written, changed, bind, Except.bind,
                    pure, Except.pure] at tried

/-- The insert uses the page that it has at hand. -/
lemma foots_usePage {id : FrameId} (sound : db.locks.table.Sound)
    (shows : (db.cache.frame id).page = aim.page)
    (shown : db.shown? aim.page = some (db.cache.frame id).live)
    (footing : db.Footing had txn (.fetching txn level aim (.use id))) :
    Foots had txn (db.usePage txn level aim id) := by
  cases footing with
  | @probe _ heap record number remaining alreadyHeld _ known locked =>
      simp only [usePage]
      split
      · exact Footing.failed (.probe known locked)
      · next slot free => exact .claim ⟨_, slot, shown, free⟩ locked
      · cases alreadyHeld with
        | true =>
            refine foots_nextProbe sound (locked.trans ?_) ..
            exact update_joined_shared (known.mp rfl)
        | false =>
            have none_had : had (heap.page number) = none := by
              by_contra held
              cases known.mpr held
            refine foots_nextProbe (sound.release txn _) (funext fun page => ?_) ..
            show (db.locks.table.release txn (heap.page number)).1.modeOf? txn page = had page
            rw [LockTable.modeOf?_release, locked]
            split
            · next here => rw [← here.1, none_had]
            · next other => exact Function.update_of_ne (fun here => other ⟨here.symm, rfl⟩) ..
  | @claim _ heap record number remaining _ room locked =>
      simp only [usePage]
      split
      · exact Footing.failed (.claim room locked)
      · next tried => exact foots_next tried (by rw [shows]; exact locked.trans locksAt_claim)
      · next tried =>
        obtain ⟨image, slot, there, free⟩ := room
        cases shown.symm.trans there
        cases (firstFree_of_tryPlace tried).symm.trans free
  | @fill _ heap record number _ locked =>
      simp only [usePage]
      split
      · exact Footing.failed (.fill locked)
      · next tried => exact foots_next tried (by rw [shows]; exact locked.trans locksAt_fill)
      · exact Footing.failed (.fill locked)

/-- The insert reports the page. -/
lemma foots_reporting {change : Change} {pages : List FrameId}
    (footing : db.Footing had txn (.reporting txn change pages)) :
    Foots had txn (db.step (.reporting txn change pages)) := by
  cases footing with
  | reporting placed locked =>
      cases pages with
      | nil => exact .inserted placed locked
      | cons id rest =>
          have same := db.locks_markDirty txn id
          rw [step]
          split
          · next marked =>
            rw [marked] at same
            exact .reporting placed (by rw [same]; exact locked)
          · next marked =>
            rw [marked] at same
            refine footprint_failedInsert ?_
            rw [same, locked]
            exact .exclusive had _

/-- A move that has no page at hand goes on with its fetch. -/
lemma foots_approach (footing : db.Footing had txn (.fetching txn level aim stage))
    (away : ∀ id, stage ≠ .use id)
    (kept : db.locks.table.modeOf? txn aim.page ≠ none → ∀ heap, db.HasRoom heap aim.page →
      (db.step (.fetching txn level aim stage)).1.HasRoom heap aim.page) :
    Foots had txn (db.step (.fetching txn level aim stage)) := by
  cases footing with
  | probe known locked =>
      have approaches := @approaches_step db txn level _ stage _ locked away
      generalize db.step _ = moved at approaches ⊢
      cases approaches with
      | running locked => exact .probe known locked
      | parked locked => exact .probe known locked
      | failed stage locked => exact Footing.failed (.probe known locked)
  | fill locked =>
      have approaches := @approaches_step db txn level _ stage _ locked away
      generalize db.step _ = moved at approaches ⊢
      cases approaches with
      | running locked => exact .fill locked
      | parked locked => exact .fill locked
      | failed stage locked => exact Footing.failed (.fill locked)
  | @claim _ heap record number remaining _ room locked =>
      have approaches := @approaches_step db txn level _ stage _ locked away
      have room := kept (Footing.held_of_claim locked) heap room
      generalize db.step _ = moved at approaches room ⊢
      cases approaches with
      | running locked => exact .claim room locked
      | parked locked => exact .claim room locked
      | failed stage locked => exact Footing.failed (.claim room locked)

/-- At no point has more than one lock been added or strengthened. -/
lemma Foots.widens {progress : Progress} (foots : Foots had txn (db, progress)) :
    Widens had (db.locks.table.modeOf? txn) := by
  cases progress with
  | running operation => exact Footing.widens foots
  | parked operation => exact Footing.widens foots
  | finished outcome =>
      cases foots with
      | failed widens => exact widens
      | inserted placed locked =>
          rw [locked]
          exact .exclusive had _

/-- An insert begins without a lock of its own. -/
lemma foots_start {table : TableId} {moved : Database × Progress}
    (sound : db.locks.table.Sound) (heaps : db.storage.IsHeap table)
    (starts : db.Starts txn (.insert table record) moved) :
    Foots (db.locks.table.modeOf? txn) txn moved := by
  have begins : db.Begins txn table record moved := by
    cases starts with
    | asModelled => exact db.begins_startInsertRecord txn table record
    | insert begins => exact begins
  cases begins with
  | unregistered named => exact .failed (.refl _)
  | registered named begins =>
      cases begins with
      | uncounted cause file whole => exact footprint_failedInsert (.refl _)
      | counted comes =>
          obtain ⟨heap, rfl⟩ := heaps _ (Storage.catalog_of_storeOf named)
          refine comes.foots ?_
          rw [startInsert]
          split
          · exact foots_nextProbe sound rfl ..
          · exact footprint_failedInsert (.refl _)

end Database

namespace System

open Database

variable {s later : System} {txn : TxnId} {call : Call} {operation : Operation}
  {had : PageId → Option LockMode} {incident : Incident} {moved : Database × Progress}
  {progress : Progress}

/-- A move of an insert. -/
lemma Truthful.foots_move (ok : s.Truthful) (room : s.db.storage.Countable)
    (busy : s.phase txn = .busy call operation) (footing : s.db.Footing had txn operation)
    (moves : s.db.Moves operation moved) : Foots had txn moved := by
  have own : operation.txn = txn := by cases footing <;> rfl
  have allows := ok.guarded.phase txn
  have trusts := ok.assumes txn
  rw [busy] at allows trusts
  cases moves with
  | unread cause =>
      cases own
      exact footing.failed
  | step comes =>
      refine comes.foots ?_
      cases operation with
      | reporting own change pages =>
          cases own
          exact foots_reporting footing
      | fetching own level aim stage =>
          cases own
          by_cases there : ∃ id, stage = .use id
          · obtain ⟨id, rfl⟩ := there
            exact foots_usePage ok.guarded.db.sound (Holds.shows allows.2.2) trusts.1 footing
          · -- what the move changes is on no page that is shown
            have away : ∀ id, stage ≠ .use id := fun id use => there ⟨id, use⟩
            have proceeds : Database.Proceeds (fun _ => none) call s.db
                (s.db.step (.fetching own level aim stage)) := by
              refine ok.proceeds_move busy (fun id changes => ?_) room
              cases stage with
              | use other => exact absurd rfl (away other)
              | _ => cases aim <;> cases changes
            refine foots_approach footing away fun held heap room => ?_
            exact room.deferred proceeds.defers (by simp) ok.grounded
              (ok.closed held (reported_of_busy busy))

/-- What others do changes nothing for an insert. -/
lemma Truthful.footing_of_others (ok : s.Truthful) (work : incident.IsWork s.db.storage)
    (room : s.db.storage.Countable) (others : incident.actor? ≠ some txn)
    (busy : s.phase txn = .busy call operation) (footing : s.db.Footing had txn operation) :
    (s.suffer incident).db.Footing had txn operation := by
  have same : (s.suffer incident).db.locks.table.modeOf? txn = s.db.locks.table.modeOf? txn :=
    funext fun page => ok.mode_suffer others work page
  cases footing with
  | probe known locked => exact .probe known (same.trans locked)
  | fill locked => exact .fill (same.trans locked)
  | reporting placed locked => exact .reporting placed (same.trans locked)
  | @claim _ heap record number remaining stage has_room locked =>
      have held : s.mode txn (heap.page number) ≠ none := Footing.held_of_claim locked
      refine .claim (has_room.deferred (ok.defers_suffer work room) ?_ ok.grounded ?_)
        (same.trans locked)
      · exact s.own_ne_exclusive others held
      · exact ok.closed held (reported_of_busy busy)

/-- At every point of an insert, the transaction has the locks that it had before and the one that
goes with the point. -/
theorem foots_of_underway {table : TableId} {record : Record} (ok : s.Truthful)
    (underway : s.Underway txn (.insert table record) progress later)
    (room : later.db.storage.Countable) : Foots (s.mode txn) txn (later.db, progress) := by
  refine underway.rule (P := fun progress now => Foots (s.mode txn) txn (now.db, progress)) ok room
    ?_ ?_ ?_
  · intro moved work starts room
    have heaps : s.db.storage.IsHeap table := by
      rcases work with paged | recorded
      · cases paged
      · exact recorded
    rw [db_follow]
    exact foots_start ok.guarded.db.sound heaps starts
  · intro progress operation now incident underway going truthful others work room foots
    rw [foots_of_going going] at foots ⊢
    exact truthful.footing_of_others work room others (underway.busy going) foots
  · intro progress operation now moved underway going truthful moves room foots
    rw [foots_of_going going] at foots
    rw [db_follow]
    exact truthful.foots_move room (underway.busy going) foots moves

end System

/-- **Lock footprint of an insert.** Whatever the others do between its moves, also if stores and
the file fail: at no time of an insert does its transaction lack a lock that it had before. When
the insert succeeds, the transaction has locked the page of the new record exclusively, and all
other pages as before; when it fails, all pages but at most one. -/
theorem insert_footprint {storage : Storage} (separate : storage.Separate) (capacity : Nat)
    (capacity_pos : 0 < capacity) (before : List Incident)
    (work : ∀ incident ∈ before, incident.IsWork storage) {txn : TxnId} {table : TableId}
    {record : Record} {progress : Progress} {later : System} :
    let s := (System.initial storage capacity capacity_pos).endure before
    s.Underway txn (.insert table record) progress later → later.db.storage.Countable →
      (∀ page mode, s.mode txn page = some mode → later.db.locks.table.Covers txn page mode) ∧
      (∀ ids placed, progress = .finished (.inserted (.ok ids) placed) →
        ∃ id, placed.id = some id ∧ later.mode txn id.page = some .exclusive ∧
          ∀ other, other ≠ id.page → later.mode txn other = s.mode txn other) ∧
      ∀ failure kept, progress = .finished (.inserted (.error failure) kept) →
        ∃ page, ∀ other, other ≠ page → later.mode txn other = s.mode txn other := by
  intro s underway room
  have ok := (System.truthful_endure (System.truthful_initial separate capacity capacity_pos) before
    work (underway.grows.countable room)).1
  have foots := System.foots_of_underway ok underway room
  refine ⟨fun page mode held => foots.widens.covers held, ?_, ?_⟩
  · rintro ids placed rfl
    cases foots with
    | inserted here locked =>
        refine ⟨_, here, ?_, fun other apart => ?_⟩
        · rw [System.mode, locked, Function.update_self]
        · rw [System.mode, locked, Function.update_of_ne apart]
  · rintro failure kept rfl
    cases foots with
    | failed widens =>
        obtain ⟨page, mode, locked, -⟩ := widens
        refine ⟨page, fun other apart => ?_⟩
        rw [System.mode, locked, Function.update_of_ne apart]

/-- The first transaction holds the first page, which is full; the second one has the last page. -/
def holdsFullPage : List Incident :=
  appendOpenly ++ .act ⟨⟨1⟩, .call (.fetch ⟨⟨1⟩, 0⟩ .shared)⟩ :: movesOf ⟨1⟩ 2

/-- The insert of the first transaction passes the full page and waits for the second one, which
commits; it goes on until it has reported the page. -/
def insertGoesOn : List Incident :=
  movesOf ⟨1⟩ 3 ++ .act ⟨⟨2⟩, .complete true⟩ :: movesOf ⟨1⟩ 5

/-- The insert has waited. The transaction keeps the shared lock of the full page and gets the
exclusive one of the page of its record, and nothing else. -/
theorem insert_footprint_wait :
    let s := (System.initial oneHeap 2 (by decide)).endure holdsFullPage
    let call : Call := .insert ⟨1⟩ (.ofData #[8])
    let called := s.suffer (.act ⟨⟨1⟩, .call call⟩)
    let returned := (called.endure insertGoesOn).suffer (.act ⟨⟨1⟩, .move⟩)
    s.Underway ⟨1⟩ call (.finished (.inserted (.ok [1]) (onPage 1 1 #[8]))) returned ∧
      s.mode ⟨1⟩ ⟨⟨1⟩, 0⟩ = some .shared ∧ returned.mode ⟨1⟩ ⟨⟨1⟩, 0⟩ = some .shared ∧
      returned.mode ⟨1⟩ ⟨⟨1⟩, 1⟩ = some .exclusive := by
  intro s call called returned
  have isHeap : ∀ table, oneHeap.IsHeap table := fun table store found =>
    ⟨_, catalog_oneHeap found⟩
  have work : ∀ incident ∈ holdsFullPage, incident.IsWork oneHeap := by
    simp [holdsFullPage, appendOpenly, movesOf, fillPage, Incident.IsWork, Act.isPageWork,
      Act.IsRecordWork, isHeap]
  have shared : s.mode ⟨1⟩ ⟨⟨1⟩, 0⟩ = some .shared := by decide +kernel
  have room : returned.db.storage.Countable := by decide +kernel
  -- the insert is called, waits, goes on and returns
  have free : (s.phase ⟨1⟩).isFree = true := by decide +kernel
  have going : (s.db.start ⟨1⟩ call).2.operation? = some (.fetching ⟨1⟩ .database
      (.probe ⟨⟨1⟩, ⟨1, 3⟩, ["records"]⟩ (.ofData #[8]) 0 1 true) (.lock false)) := by
    decide +kernel
  let last : Operation := .reporting ⟨1⟩ (.insertion (onPage 1 1 #[8]) [1]) []
  have busy : (called.endure insertGoesOn).phase ⟨1⟩ = .busy call last := by decide +kernel
  have finished : ((called.endure insertGoesOn).db.step last).2 =
      .finished (.inserted (.ok [1]) (onPage 1 1 #[8])) := by decide +kernel
  have same : s.db.storage.catalog = oneHeap.catalog :=
    ((System.initial oneHeap 2 (by decide)).grows_endure holdsFullPage).catalog
  have permitted : Incident.IsWork s.db.storage (.act ⟨⟨1⟩, .call call⟩) :=
    Or.inr fun store found => isHeap _ store (same ▸ found)
  have waits : ∀ incident ∈ insertGoesOn, incident.IsWork s.db.storage := by
    simp [insertGoesOn, movesOf, Incident.IsWork, Act.isPageWork, Act.IsRecordWork]
  have own : ∀ incident ∈ insertGoesOn, incident.actor? = some ⟨1⟩ →
      incident = .act ⟨⟨1⟩, .move⟩ := by
    simp [insertGoesOn, movesOf, Incident.actor?]
  have underway : s.Underway ⟨1⟩ call
      (.finished (.inserted (.ok [1]) (onPage 1 1 #[8]))) returned :=
    .whole called rfl free permitted insertGoesOn own waits going busy finished
  clear_value returned
  obtain ⟨-, succeeds, -⟩ := insert_footprint reliable_oneHeap.separate 2 (by decide) holdsFullPage
    work underway room
  obtain ⟨id, placed, exclusive, others⟩ := succeeds [1] (onPage 1 1 #[8]) rfl
  cases placed
  exact ⟨underway, shared, (others ⟨⟨1⟩, 0⟩ (by decide)).trans shared, exclusive⟩

/-- The second transaction fills the first page and flushes it, deletes a record and aborts: the
page is shown as it was before, with free slots, but stored without. The third one has locked it. -/
def undoAfterFlush : List Action :=
  ⟨⟨2⟩, .call (.insert ⟨1⟩ (.ofData #[5]))⟩ :: List.replicate 8 ⟨⟨2⟩, .move⟩ ++
    ⟨⟨2⟩, .call (.insert ⟨1⟩ (.ofData #[6]))⟩ :: List.replicate 6 ⟨⟨2⟩, .move⟩ ++
    ⟨⟨2⟩, .flushPage ⟨⟨1⟩, 0⟩⟩ :: ⟨⟨2⟩, .call (.delete (onPage 0 2 #[6]))⟩ ::
      List.replicate 4 ⟨⟨2⟩, .move⟩ ++
    ⟨⟨2⟩, .complete false⟩ :: ⟨⟨3⟩, .call (.fetch ⟨⟨1⟩, 0⟩ .shared)⟩ ::
      List.replicate 2 ⟨⟨3⟩, .move⟩

/-- The first transaction finds a free slot and has to wait for the third one, which meanwhile reads
a page of another file, so that the first page is evicted, and commits. -/
def insertFindsFull : List Action :=
  ⟨⟨1⟩, .call (.insert ⟨1⟩ (.ofData #[8]))⟩ :: List.replicate 3 ⟨⟨1⟩, .move⟩ ++
    ⟨⟨3⟩, .call (.fetch ⟨⟨2⟩, 0⟩ .shared)⟩ :: List.replicate 4 ⟨⟨3⟩, .move⟩ ++
    ⟨⟨3⟩, .complete true⟩ :: List.replicate 9 ⟨⟨1⟩, .move⟩

/-- After a flush it is otherwise: a page may be full when the insert gets its exclusive lock, and
the insert goes on with the next page without a release. Its record is on the next page, and the
transaction holds both pages. -/
theorem insert_keeps_full_page :
    let storage := (oneHeap.addMemory (.zeroed ⟨2⟩ 4 1 [])).2.register (.memory ⟨2⟩ 0)
    let s := (System.initial storage 1 (by decide)).run undoAfterFlush
    let waited := s.run insertFindsFull
    let last : Operation := .reporting ⟨1⟩ (.insertion (onPage 1 0 #[8]) [3]) []
    let returned := waited.act ⟨⟨1⟩, .move⟩
    (s.db.shown? ⟨⟨1⟩, 0⟩ = some #[1, 9, 0, 0] ∧ s.stored? ⟨⟨1⟩, 0⟩ = some #[7, 9, 5, 6]) ∧
      waited.phase ⟨1⟩ = .busy (.insert ⟨1⟩ (.ofData #[8])) last ∧
      (waited.db.step last).2 = .finished (.inserted (.ok [3]) (onPage 1 0 #[8])) ∧
      s.mode ⟨1⟩ ⟨⟨1⟩, 0⟩ = none ∧ returned.mode ⟨1⟩ ⟨⟨1⟩, 0⟩ = some .exclusive ∧
      returned.mode ⟨1⟩ ⟨⟨1⟩, 1⟩ = some .exclusive := by
  decide +kernel

end PageTxn
