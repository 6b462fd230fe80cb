import PageTxn.Proofs.Truthful

/-!
Operations that change a single page.

Fetches, scans, inserts and deletes of heap files fetch one page after the other, and change the
last of them or none.

* `Database.Turns` lists what a move of an operation that fetches a page can come to: it goes on to
  fetch or returns, and leaves all pages alone, or it changes the page at hand and will report it
  (`Truthful.turns_move`).
* `System.Plain` says that the operations in progress are of this kind. Incidents keep it so
  (`Plain.suffer`, `Plain.endure`).
-/

namespace PageTxn

/-! ### Operations that report one page -/

/-- Whether the page is fetched for a scan. -/
def Aim.isScan : Aim → Bool
  | collect .. => true
  | _ => false

/-- The operation fetches a page; unless it scans, the database will be told of a change. -/
def Operation.Fetches : Operation → Prop
  | .fetching _ level aim _ => level = .store → aim.isScan = true
  | .reporting .. => False

/-- The operation fetches a page, or reports the single page object that it has changed. -/
def Operation.Plain (next : FrameId) : Operation → Prop
  | .reporting _ change ids => ∃ id < next, change.pages = [id] ∧ (ids = [id] ∨ ids = [])
  | operation => operation.Fetches

lemma Operation.Plain.mono {operation : Operation} {next more : FrameId}
    (plain : operation.Plain next) (le : next ≤ more) : operation.Plain more := by
  cases operation with
  | fetching own level aim stage => exact plain
  | reporting own change ids =>
      obtain ⟨id, made, shape⟩ := plain
      exact ⟨id, Nat.lt_of_lt_of_le made le, shape⟩

lemma Operation.Fetches.plain {operation : Operation} (fetches : operation.Fetches)
    (next : FrameId) : operation.Plain next := by
  cases operation with
  | fetching own level aim stage => exact fetches
  | reporting own change ids => cases fetches

/-- The operation goes on to fetch a page, or has returned and changed nothing. -/
def Progress.Quiet : Progress → Prop
  | running operation | parked operation => operation.Fetches
  | finished outcome => outcome.isChange = false

namespace Database

variable {db later : Database} {txn : TxnId} {call : Call} {level : Level} {aim : Aim}
  {stage : Stage} {heap : HeapFile} {record : Record} {operation : Operation}

lemma quiet_nextProbe (db : Database) (txn : TxnId) (heap : HeapFile) (record : Record)
    (number remaining : Nat) :
    (db.nextProbe txn .database heap record number remaining).2.Quiet := by
  cases remaining <;> exact nofun

/-- A call that is work changes no page at its start. -/
lemma quiet_start (work : Incident.IsWork db.storage (.act ⟨txn, .call call⟩)) :
    (db.start txn call).2.Quiet := by
  cases call with
  | fetch page mode => exact nofun
  | insert table record =>
      rw [start, startInsertRecord]
      split
      · next store named =>
        obtain ⟨heap, rfl⟩ : ∃ heap, store = .heap heap := by
          rcases work with paged | recorded
          · cases paged
          · exact recorded store (Storage.catalog_of_storeOf named)
        rw [startInsert]
        split
        · exact quiet_nextProbe ..
        · exact Level.isChange_failedInsert ..
      · rfl
  | delete record =>
      rw [start, startDeleteRecord]
      split
      · rfl
      · next id located =>
        split
        · next store named =>
          obtain ⟨heap, rfl⟩ : ∃ heap, store = .heap heap := by
            rcases work with paged | recorded
            · cases paged
            · exact recorded id located store (Storage.catalog_of_storeOf named)
          simp only [startDelete, located]
          split
          · exact nofun
          · rfl
        · rfl
  | scan heap =>
      rw [start, startScan]
      split
      · rfl
      · exact fun _ => rfl

/-- A move that changes no page object goes on to fetch, or returns. -/
lemma quiet_step (db : Database) (fetches : (Operation.fetching txn level aim stage).Fetches)
    (still : (Operation.fetching txn level aim stage).changed? = none) :
    (db.step (.fetching txn level aim stage)).2.Quiet := by
  have failed : ∀ failure, (aim.failed level failure).isChange = false :=
    aim.isChange_failed level
  cases stage with
  | lock waited =>
      rw [step, lockPage]
      split
      · split <;> exact fetches
      · exact failed _
      · exact fetches
  | read =>
      rw [step]
      split
      · exact fetches
      · exact failed _
  | enter image =>
      rw [step]
      split
      · exact fetches
      · exact failed _
  | use id =>
      rw [step]
      cases aim with
      | hand page mode => rfl
      | probe heap record number remaining alreadyHeld =>
          cases level with
          | store => cases fetches rfl
          | database =>
              rw [usePage]
              split
              · exact failed _
              · exact fun unscanned => by cases unscanned
              · exact quiet_nextProbe ..
      | claim heap record number remaining => cases still
      | fill heap record number => cases still
      | erase heap id => cases still
      | collect heap number remaining list =>
          rw [usePage]
          split
          · exact failed _
          · split
            · rfl
            · exact fetches

/-- What a move of an operation that fetches a page comes to: all pages are left alone, or the page
at hand is changed and will be reported. -/
inductive Turns (db : Database) (txn : TxnId) (stage : Stage) : Database × Progress → Prop
  | quiet {moved : Database × Progress} (leaves : ∀ page, LeavesAlone page db moved.1)
      (quiet : moved.2.Quiet) : Turns db txn stage moved
  | changes {later : Database} {id : FrameId} {image : Image} {change : Change}
      (uses : stage = .use id) (changed : db.changeFrame txn id image = .ok later)
      (single : change.pages = [id]) :
      Turns db txn stage (later, .running (.reporting txn change [id]))

end Database

namespace System

open Database History

variable {s later : System} {txn : TxnId} {call : Call} {own : TxnId} {level : Level} {aim : Aim}
  {stage : Stage}

/-- Every move of an operation that fetches a page comes to that. -/
lemma Truthful.turns_move (ok : s.Truthful) (room : s.db.storage.Countable)
    (busy : s.phase txn = .busy call (.fetching own level aim stage))
    (fetches : (Operation.fetching own level aim stage).Fetches) :
    s.db.Turns own stage (s.db.step (.fetching own level aim stage)) := by
  cases still : (Operation.fetching own level aim stage).changed? with
  | none =>
      have proceeds : Database.Proceeds (fun _ => none) call s.db
          (s.db.step (.fetching own level aim stage)) :=
        ok.proceeds_move busy (fun id changes => by cases still.symm.trans changes) room
      exact .quiet (fun page => proceeds.defers.leaves page rfl) (s.db.quiet_step fetches still)
  | some id =>
      have allows := ok.guarded.phase txn
      rw [busy] at allows
      obtain ⟨rfl, pursues, -⟩ := allows
      have same : ∀ page, LeavesAlone page s.db s.db := fun page => .refl page s.db
      have failed : ∀ failure, (aim.failed level failure).isChange = false :=
        aim.isChange_failed level
      cases stage with
      | lock waited => cases aim <;> cases still
      | read => cases aim <;> cases still
      | enter image => cases aim <;> cases still
      | use target =>
          rw [Database.step]
          cases level with
          | store =>
              have scans := fetches rfl
              cases aim <;> cases scans
              cases still
          | database =>
              cases aim with
              | hand page mode => cases still
              | probe heap record number remaining alreadyHeld => cases still
              | collect heap number remaining list => cases still
              | claim heap record number remaining =>
                  rw [usePage]
                  split
                  · exact .quiet same (failed _)
                  · next done =>
                    obtain ⟨slot, image, -, changed, -⟩ := changeFrame_of_tryPlace done
                    exact .changes rfl changed rfl
                  · have proceeds : Database.Proceeds (fun _ => none) call s.db
                        (s.db.nextProbe own .database heap record (number + 1) remaining) :=
                      proceeds_nextProbe ok.guarded.db (number + 1) remaining pursues room
                    exact .quiet (fun page => proceeds.defers.leaves page rfl)
                      (quiet_nextProbe ..)
              | fill heap record number =>
                  rw [usePage]
                  split
                  · exact .quiet same (failed _)
                  · next done =>
                    obtain ⟨slot, image, -, changed, -⟩ := changeFrame_of_tryPlace done
                    exact .changes rfl changed rfl
                  · exact .quiet same (failed _)
              | erase heap record =>
                  rw [usePage]
                  split
                  · exact .quiet same (failed _)
                  · exact .quiet same (failed _)
                  · split
                    · exact .quiet same (failed _)
                    · next changed => exact .changes rfl changed rfl

/-! ### Systems of such operations -/

/-- The operations in progress report the single page objects that they have changed. -/
def Plain (s : System) : Prop :=
  ∀ txn call operation, s.phase txn = .busy call operation →
    operation.Plain s.db.cache.nextFrame

variable {storage : Storage} {incident : Incident} {page : PageId} {new : List Event}
  {moved : Database × Progress}

/-- A transaction that may end has no page object in hand that it has changed. -/
lemma window?_of_free {phase : Phase} (free : phase.isFree = true) : phase.window? = none := by
  cases phase with
  | ready => rfl
  | holding page mode id => rfl
  | changing id => cases free
  | busy call operation => cases free
  | gone => cases free

/-- Nor has a transaction whose operation has returned. -/
lemma window?_after (call : Call) (outcome : Outcome) :
    (Phase.after call outcome).window? = none ∧ Phase.after call outcome ≠ .gone := by
  rw [Phase.after.eq_def]
  split <;> exact ⟨rfl, fun gone => by cases gone⟩

/-- Nor has a quiet operation. -/
lemma window?_of_quiet {progress : Progress} (quiet : progress.Quiet) (call : Call) :
    (progress.phase call).window? = none ∧ progress.phase call ≠ .gone := by
  cases progress with
  | running operation =>
      cases operation with
      | fetching own level aim stage => exact ⟨rfl, nofun⟩
      | reporting own change ids => cases quiet
  | parked operation =>
      cases operation with
      | fetching own level aim stage => exact ⟨rfl, nofun⟩
      | reporting own change ids => cases quiet
  | finished outcome => exact window?_after call outcome

/-- A quiet operation will report the single page object that it changes. -/
lemma plain_of_quiet {progress : Progress} {operation : Operation} (quiet : progress.Quiet)
    {asked : Call} (busy : progress.phase asked = .busy call operation) (next : FrameId) :
    operation.Plain next := by
  obtain ⟨-, rfl | rfl⟩ := Progress.of_phase_busy busy
  · exact quiet.plain next
  · exact quiet.plain next

/-- What a quiet operation records leaves nothing on any page. -/
lemma blank_of_quiet (quiet : moved.2.Quiet)
    (history : (s.follow txn call moved).history = new ++ s.history) :
    ∀ event ∈ new, event.left? page = none := by
  obtain ⟨db, running | parked | outcome⟩ := moved
  · rw [List.self_eq_append_left.mp history]
    exact List.forall_mem_nil _
  · rw [List.self_eq_append_left.mp history]
    exact List.forall_mem_nil _
  · intro event listed
    have one : [.returned txn call outcome (db.changed outcome)] = new :=
      (List.append_left_inj s.history).mp history
    rw [← one, List.mem_singleton] at listed
    rw [listed, db.changed_of_idle quiet]
    rfl

lemma plain_initial (storage : Storage) (capacity : Nat) (capacity_pos : 0 < capacity) :
    (initial storage capacity capacity_pos).Plain :=
  fun _ _ _ busy => by cases busy

/-- Incidents that are work keep the operations plain. -/
lemma Plain.suffer (plain : s.Plain) (ok : s.Truthful) (work : incident.IsWork s.db.storage)
    (room : s.db.storage.Countable) : (s.suffer incident).Plain := by
  have made := (ok.defers_suffer work room).made
  intro other asked operation busy
  by_cases mine : incident.actor? = some other
  · have does := does_suffer mine work (s := s)
    generalize s.suffer incident = later at does made busy
    cases does with
    | nothing => exact plain other asked operation busy
    | looks holding => exact plain other asked operation busy
    | calls free =>
        rw [phase_follow_self] at busy
        exact plain_of_quiet (Database.quiet_start work) busy _
    | @moves call running now =>
        rw [phase_follow_self] at busy
        rw [db_follow] at made ⊢
        cases running with
        | fetching own level aim stage =>
            have turns := ok.turns_move room now (plain _ _ _ now)
            generalize s.db.step _ = moved at turns made busy
            cases turns with
            | quiet leaves quiet => exact plain_of_quiet quiet busy _
            | @changes later id image change uses changed single =>
                cases busy
                subst uses
                have grasps := ok.restorable.grasps other
                rw [now] at grasps
                exact ⟨id, Nat.lt_of_lt_of_le grasps.2.1 made, single, .inl rfl⟩
        | reporting own change ids =>
            obtain ⟨id, before, single, rfl | rfl⟩ := plain _ _ _ now
            · rw [Database.step] at made busy ⊢
              generalize s.db.markDirty own id = told at made busy
              obtain ⟨later, failure | done⟩ := told
              · exact (Progress.phase_finished_ne _ _ _ _ busy).elim
              · cases busy
                exact ⟨id, Nat.lt_of_lt_of_le before made, single, .inr rfl⟩
            · exact (Progress.phase_finished_ne _ _ _ _ busy).elim
    | overwrites writable copied => cases (Function.update_self ..).symm.trans busy
    | reports changing tells => cases (Function.update_self ..).symm.trans busy
    | ends free tells => cases (Function.update_self ..).symm.trans busy
    | stops free => cases (Function.update_self ..).symm.trans busy
  · rw [phase_suffer_of_ne mine] at busy
    exact (plain other asked operation busy).mono made

/-- Every run of incidents keeps the operations plain. -/
lemma Plain.endure (plain : s.Plain) (ok : s.Truthful) (incidents : List Incident)
    (work : ∀ incident ∈ incidents, incident.IsWork s.db.storage)
    (room : (s.endure incidents).db.storage.Countable) : (s.endure incidents).Plain := by
  induction incidents generalizing s with
  | nil => exact plain
  | cons incident rest ih =>
      have work_first := work incident List.mem_cons_self
      have room_first := (s.grows_endure (incident :: rest)).countable room
      have tables := (suffers_incident ok.guarded work_first room_first).writes.catalog
      exact ih (plain.suffer ok work_first room_first) (truthful_suffer ok work_first room_first)
        (fun next later => (Incident.isWork_congr tables next).mpr
          (work next (List.mem_cons_of_mem _ later))) room

end System

end PageTxn
