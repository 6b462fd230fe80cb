import PageTxn.Proofs.Growth
import PageTxn.Proofs.Moves

/-!
The moves of an operation keep the invariant.

* `Leads.running` and `Leads.returned` go on after a move: the operation is still in progress,
  or it has returned without having changed anything.
* There is one lemma for each kind of move: asking for the lock, loading, entering, using and
  reporting a page. `Consistent.step` puts them together.
-/

namespace PageTxn

open History

/-- A failed insert inserts nothing. -/
@[simp]
lemma Level.isChange_failedInsert (level : Level) (record : Record) (failure : Failure) :
    (level.failedInsert record failure).isChange = false := by
  cases level <;> cases failure <;> rfl

/-- An operation that failed has changed nothing. -/
@[simp]
lemma Aim.isChange_failed (aim : Aim) (level : Level) (failure : Failure) :
    (aim.failed level failure).isChange = false := by
  cases aim with
  | hand page mode => rfl
  | probe heap record number remaining alreadyHeld => exact level.isChange_failedInsert ..
  | claim heap record number remaining => exact level.isChange_failedInsert ..
  | fill heap record number => exact level.isChange_failedInsert ..
  | erase heap id => rfl
  | collect heap number remaining found => rfl

/-- An operation whose change could not be reported has changed nothing. -/
@[simp]
lemma Change.isChange_failed (change : Change) (failure : Failure) :
    (change.failed failure).isChange = false := by
  cases change with
  | insertion record pages => exact Level.isChange_failedInsert ..
  | deletion pages => rfl

/-- What has changed nothing reports no pages. -/
lemma Database.changed_of_idle (db : Database) {outcome : Outcome}
    (idle : outcome.isChange = false) : db.changed outcome = [] := by
  simp only [Outcome.isChange] at idle
  split at idle
  · cases idle
  · cases idle
  · unfold Database.changed
    split
    · simp_all
    · simp_all
    · rfl

/-- A transaction is ready after an operation that has not handed out a page. -/
lemma Phase.after_eq_ready (call : Call) {outcome : Outcome}
    (nothing : ∀ id, outcome ≠ .fetched (.ok id)) : Phase.after call outcome = .ready := by
  simp only [Phase.after]
  split
  · next id => exact absurd rfl (nothing id)
  · rfl

/-- An operation that failed has not handed out a page. -/
lemma Aim.failed_ne_fetched (aim : Aim) (level : Level) (failure : Failure) (id : FrameId) :
    aim.failed level failure ≠ .fetched (.ok id) := by
  cases aim <;> simp [Aim.failed, Level.failedInsert] <;> split <;> simp

namespace System

variable {storage : Storage} {allowed : Act → Prop} {s : System} {db : Database} {txn : TxnId}
  {page : PageId} {id : FrameId} {call : Call} {operation later : Operation}

/-! ### Going on after a move -/

/-- The operation is still in progress after a move. -/
lemma Leads.running (lead : Leads storage allowed txn s { s with db })
    (going : s.phase txn ≠ .gone) (asked : allowed (.call call))
    (serves : Serves storage { s with db } txn call later)
    (closes : ∀ id, (s.phase txn).window? = some id →
      (Phase.busy call later).window? = some id ∨
        ∀ page, db.cache.residentFrame? page ≠ some id) :
    Leads storage allowed txn s ({ s with db }.setPhase txn (.busy call later)) :=
  lead.trans (lead.consistent.setPhase going (by simp) ⟨asked, serves⟩ closes)

/-- The operation has returned after a move and has changed nothing. -/
lemma Leads.returned {outcome : Outcome} (lead : Leads storage allowed txn s { s with db })
    (going : s.phase txn ≠ .gone) (idle : outcome.isChange = false)
    (nothing : ∀ id, outcome ≠ .fetched (.ok id))
    (closes : ∀ id, (s.phase txn).window? = some id →
      ∀ page, db.cache.residentFrame? page ≠ some id) :
    Leads storage allowed txn s (s.follow txn call (db, .finished outcome)) := by
  have ready : Leads storage allowed txn { s with db } ({ s with db }.setPhase txn .ready) :=
    lead.consistent.setPhase going (by simp) trivial fun id opened => Or.inr (closes id opened)
  have logged : Leads storage allowed txn ({ s with db }.setPhase txn .ready)
      (({ s with db }.setPhase txn .ready).log (.returned txn call outcome [])) :=
    ready.consistent.log (.unchanged idle) rfl (fun _ => rfl) (fun access inside => by cases inside)
      fun call operation => by simp [setPhase, Event.txn]
  rw [follow, Phase.after_eq_ready call nothing, db.changed_of_idle idle]
  exact lead.trans (ready.trans logged)

/-- The phase of a transaction that fetches a page has no open window. -/
lemma window?_fetching {level : Level} {aim : Aim} {stage : Stage}
    (busy : s.phase txn = .busy call (.fetching txn level aim stage)) (id : FrameId) :
    (s.phase txn).window? ≠ some id := by
  rw [busy]
  simp [Phase.window?]

namespace Consistent

variable (ok : Consistent storage allowed s)
include ok

/-- What the operation in progress relies on. -/
lemma serves (busy : s.phase txn = .busy call operation) :
    allowed (.call call) ∧ Serves storage s txn call operation := ok.phaseOk busy

/-! ### Fetching a page -/

/-- The operation asks for its lock. -/
lemma lockPage {level : Level} {aim : Aim} {waited : Bool}
    (busy : s.phase txn = .busy call (.fetching txn level aim (.lock waited))) :
    Leads storage allowed txn s (s.follow txn call (s.db.lockPage txn level aim waited)) := by
  have going : s.phase txn ≠ .gone := by simp [busy]
  have closed := window?_fetching busy
  obtain ⟨asked, serves⟩ := ok.serves busy
  obtain pursues : Pursues storage txn s.history call level aim := by
    cases serves with
    | lock pursues => exact pursues
  have requested := ok.request busy
  have modes := LockTable.modeOf?_request s.db.locks.table txn txn aim.page aim.page aim.mode
  have verdict : (s.db.locks.request txn aim.page aim.mode waited).2 =
      (s.db.locks.table.request txn aim.page aim.mode).2 := rfl
  rw [Database.lockPage]
  cases answer : s.db.locks.request txn aim.page aim.mode waited with
  | mk locks decision =>
      have table : locks.table = (s.db.locks.table.request txn aim.page aim.mode).1 := by
        rw [show locks = (s.db.locks.request txn aim.page aim.mode waited).1 by rw [answer]]
        rfl
      rw [answer] at requested verdict
      cases decision with
      | refused =>
          exact requested.returned going (aim.isChange_failed level _)
            (aim.failed_ne_fetched level _)
            fun id opened => absurd opened (closed id)
      | wait =>
          exact requested.running going asked (.lock pursues)
            fun id opened => absurd opened (closed id)
      | granted =>
          have covers : locks.table.Covers txn aim.page aim.mode := by
            rw [← verdict, if_pos ⟨rfl, rfl, rfl⟩, ← table] at modes
            rw [LockTable.Covers, modes]
            refine ⟨by simp, fun exclusive => ?_⟩
            rw [exclusive, LockMode.joined, ite_self]
          simp only
          cases there : s.db.cache.residentFrame? aim.page with
          | none =>
              have counted : Leads storage allowed txn s
                  { s with db := { s.db with locks, cache := s.db.cache.countMiss } } :=
                requested.trans (requested.consistent.leads_of_shrinks (.of_stats _ _) txn)
              exact counted.running going asked (.read pursues covers)
                fun id opened => absurd opened (closed id)
          | some id =>
              have counted : Leads storage allowed txn s
                  { s with db := { s.db with locks, cache := s.db.cache.countHit } } :=
                requested.trans (requested.consistent.leads_of_shrinks (.of_stats _ _) txn)
              exact counted.running going asked
                (.use pursues (counted.consistent.atHand covers there (closed id)))
                fun id opened => absurd opened (closed id)

/-- The page is read from its store. -/
lemma loadPage {level : Level} {aim : Aim}
    (busy : s.phase txn = .busy call (.fetching txn level aim .read)) :
    Leads storage allowed txn s
      (s.follow txn call (s.db.step (.fetching txn level aim .read))) := by
  have going : s.phase txn ≠ .gone := by simp [busy]
  have closed := window?_fetching busy
  obtain ⟨asked, serves⟩ := ok.serves busy
  obtain ⟨pursues, covers⟩ : Pursues storage txn s.history call level aim ∧
      s.db.locks.table.Covers txn aim.page aim.mode := by
    cases serves with
    | read pursues covers => exact ⟨pursues, covers⟩
  cases named : s.db.storage.storeOf aim.page.table with
  | error error =>
      have moved : s.db.step (.fetching txn level aim .read) =
          (s.db, .finished (aim.failed level error)) := by
        simp [Database.step, Database.loadPage, named]
      rw [moved]
      exact (ok.leads_refl txn).returned going (aim.isChange_failed level _)
        (aim.failed_ne_fetched level _) fun id opened => absurd opened (closed id)
  | ok store =>
      obtain ⟨stored, alike, read⟩ :=
        Storage.readPage_eq ok.reliable (Storage.catalog_of_storeOf named)
      have read_all := ok.leads_of_alike alike txn
      cases loaded : s.db.storage.image? aim.page with
      | none =>
          have moved : s.db.step (.fetching txn level aim .read) =
              ({ s.db with storage := stored },
                .finished (aim.failed level (Error.pageNotFound aim.page))) := by
            simp [Database.step, Database.loadPage, Database.readPage, named, read, loaded]
          rw [moved]
          exact read_all.returned going (aim.isChange_failed level _)
            (aim.failed_ne_fetched level _) fun id opened => absurd opened (closed id)
      | some image =>
          have moved : s.db.step (.fetching txn level aim .read) =
              ({ s.db with storage := stored, cache := s.db.cache.countRead },
                .running (.fetching txn level aim (.enter image))) := by
            simp [Database.step, Database.loadPage, Database.readPage, named, read, loaded]
          rw [moved]
          have counted : Leads storage allowed txn s { s with db := { s.db with
              storage := stored, cache := s.db.cache.countRead } } :=
            read_all.trans (read_all.consistent.leads_of_shrinks (.of_stats _ _) txn)
          exact counted.running going asked
            (.enter pursues covers ((alike.image aim.page).trans loaded))
            fun id opened => absurd opened (closed id)

/-- The page that was read is brought in, unless it has become resident meanwhile. -/
lemma enterPage {level : Level} {aim : Aim} {image : Image}
    (busy : s.phase txn = .busy call (.fetching txn level aim (.enter image))) :
    Leads storage allowed txn s
      (s.follow txn call (s.db.step (.fetching txn level aim (.enter image)))) := by
  have going : s.phase txn ≠ .gone := by simp [busy]
  have closed := window?_fetching busy
  obtain ⟨asked, serves⟩ := ok.serves busy
  obtain ⟨pursues, covers⟩ : Pursues storage txn s.history call level aim ∧
      s.db.locks.table.Covers txn aim.page aim.mode := by
    cases serves with
    | enter pursues covers loaded => exact ⟨pursues, covers⟩
  cases there : s.db.cache.residentFrame? aim.page with
  | some id =>
      have moved : s.db.step (.fetching txn level aim (.enter image)) =
          (s.db, .running (.fetching txn level aim (.use id))) := by
        simp [Database.step, Database.enterPage, there]
      rw [moved]
      exact (ok.leads_refl txn).running going asked
        (.use pursues (ok.atHand covers there (closed id)))
        fun id opened => absurd opened (closed id)
  | none =>
      have shrinks := s.db.cache.shrinks_makeRoom
      cases room : s.db.cache.makeRoom with
      | mk roomy result =>
          rw [room] at shrinks
          have shrunk := ok.leads_of_shrinks shrinks txn
          cases result with
          | error error =>
              have moved : s.db.step (.fetching txn level aim (.enter image)) =
                  ({ s.db with cache := roomy }, .finished (aim.failed level error)) := by
                simp [Database.step, Database.enterPage, there, room]
              rw [moved]
              exact shrunk.returned going (aim.isChange_failed level _)
                (aim.failed_ne_fetched level _) fun id opened => absurd opened (closed id)
          | ok =>
              have moved : s.db.step (.fetching txn level aim (.enter image)) =
                  ({ s.db with cache :=
                      (roomy.newFrame (.ofImage aim.page image)).2.bringIn roomy.nextFrame },
                    .running (.fetching txn level aim (.use roomy.nextFrame))) := by
                simp [Database.step, Database.enterPage, there, room, Cache.newFrame]
              rw [moved]
              have absent : roomy.residentFrame? aim.page = none := by
                rcases shrinks.resident aim.page with same | ⟨gone, -⟩
                · rw [same, there]
                · exact gone
              have brought := Cache.residentFrame?_bringIn
                (roomy.newFrame (.ofImage aim.page image)).2 roomy.nextFrame aim.page
              rw [Cache.frame_newFrame, if_pos rfl] at brought
              have entered := shrunk.trans (shrunk.consistent.enter busy absent)
              exact entered.running going asked
                (.use pursues (entered.consistent.atHand covers (brought.trans (if_pos rfl))
                  (closed _)))
                fun id opened => absurd opened (closed id)

/-! ### Inserts on their way -/

/-- An insert goes on with the next page, or with a new one. -/
lemma nextProbe {table : TableId} {heap : HeapFile} {record : Record} (number remaining : Nat)
    (ready : s.phase txn = .ready) (asked : allowed (.call (.insert table record)))
    (found : storage.catalog[table]? = some (.heap heap)) (room : s.db.storage.Countable) :
    Leads storage allowed txn s (s.follow txn (.insert table record)
      (s.db.nextProbe txn .database heap record number remaining)) := by
  have going : s.phase txn ≠ .gone := by simp [ready]
  have closed : ∀ id, (s.phase txn).window? ≠ some id := by simp [ready, Phase.window?]
  have found' := (ok.catalog_eq table).trans found
  cases remaining with
  | zero =>
      have appended := ok.leads_of_append asked found (room table heap found') txn
      exact appended.running going asked (.lock (.fill found))
        fun id opened => absurd opened (closed id)
  | succ remaining =>
      refine (ok.leads_refl txn).running going asked (.lock (.probe found fun fresh accesses => ?_))
        fun id opened => absurd opened (closed id)
      -- the transaction does not hold the page, so that it has not accessed it
      have live : ¬ Ended txn s.history := fun gone => going ((ok.txn txn).gone.mpr gone)
      have held := (ok.txn txn).accessed _ accesses live
      rw [LockManager.holds, LockTable.holds, ← Bool.not_eq_true,
        Std.ExtTreeSet.contains_iff_mem] at fresh
      exact fresh ((ok.sound.mem_pagesOf txn _).mpr held)

/-! ### Changing a page -/

/-- A transaction that has changed the image of a page reports it: the page is resident and the
transaction owns it, or there was no room for it. -/
lemma markDirty (changing : s.phase txn = .changing id) :
    (∃ cache, s.db.markDirty txn id = ({ s.db with cache }, .ok ()) ∧
        Leads storage allowed txn s { s with db := { s.db with cache } } ∧
        cache.residentFrame? (s.frame id).page = some id ∧
        cache.frame id = (s.frame id).mark txn) ∨
      ∃ cache error, s.db.markDirty txn id = ({ s.db with cache }, .error error) ∧
        Leads storage allowed txn s { s with db := { s.db with cache } } ∧
        ∀ page, cache.residentFrame? page ≠ some id := by
  have window : Window s txn id := ok.phaseOk changing
  cases there : s.db.cache.residentFrame? (s.frame id).page with
  | some other =>
      have same : other = id := window.alone other there
      subst same
      refine Or.inl ⟨s.db.cache.setFrame other ((s.frame other).mark txn), ?_,
        ok.setFrame changing rfl rfl (Or.inr rfl), there, ?_⟩
      · rw [Database.markDirty, Cache.markDirty_of_resident there]
      · rw [Cache.frame_setFrame, if_pos rfl]
  | none =>
      have shrinks := s.db.cache.shrinks_makeRoom
      have unlisted : ∀ page, s.db.cache.residentFrame? page ≠ some id := by
        intro page resident
        have shows : (s.frame id).page = page := ok.orderly.page page id resident
        rw [shows, resident] at there
        cases there
      cases room : s.db.cache.makeRoom with
      | mk roomy result =>
          rw [room] at shrinks
          have shrunk := ok.leads_of_shrinks shrinks txn
          cases result with
          | error error =>
              refine Or.inr ⟨roomy, error, ?_, shrunk,
                fun page resident => unlisted page (shrinks.residentFrame? resident)⟩
              rw [Database.markDirty, Cache.markDirty_of_full there room]
          | ok =>
              have marked : Leads storage allowed txn s { s with db := { s.db with
                  cache := roomy.updateFrame id fun frame => frame.mark txn } } :=
                shrunk.trans (shrunk.consistent.setFrame changing rfl rfl (Or.inr rfl))
              have done : s.db.markDirty txn id = ({ s.db with
                  cache := (roomy.updateFrame id fun frame => frame.mark txn).bringIn id },
                  .ok ()) := by
                rw [Database.markDirty, Cache.markDirty_of_absent there room]
              have frame_marked : (roomy.updateFrame id fun frame => frame.mark txn).frame id =
                  (s.frame id).mark txn := by
                rw [Cache.frame_updateFrame, if_pos rfl, shrinks.frame]
              set ours : Cache := roomy.updateFrame id fun frame => frame.mark txn
              have shows : (ours.frame id).page = (s.frame id).page := by
                rw [frame_marked]
                rfl
              have owner : (ours.frame id).owner = some txn := by
                rw [frame_marked]
                rfl
              have absent : ours.residentFrame? (ours.frame id).page = none := by
                rw [shows]
                show roomy.residentFrame? (s.frame id).page = none
                rcases shrinks.resident (s.frame id).page with same | ⟨gone, -⟩
                · rw [same, there]
                · exact gone
              refine Or.inl ⟨ours.bringIn id, done,
                marked.trans (marked.consistent.bringIn changing absent owner), ?_, frame_marked⟩
              rw [Cache.residentFrame?_bringIn, shows, if_pos rfl]

/-- An operation that has its page at hand under an exclusive lock changes it, and goes on to
report the change. -/
lemma changeFrame {level : Level} {aim : Aim} {image : Image} {change : Change}
    (busy : s.phase txn = .busy call (.fetching txn level aim (.use id)))
    (hand : AtHand storage s txn page .exclusive id)
    (whole : image.size = (s.frame id).live.size) (single : change.pages = [id])
    (effect : Effect storage txn s.history call change.succeeded page image) :
    ∃ db, s.db.changeFrame txn id image = .ok db ∧
      Leads storage allowed txn s
        (s.follow txn call (db, .running (.reporting txn change [id]))) := by
  have asked := (ok.serves busy).1
  set frame : Frame := { s.frame id with
    live := image
    owner := some txn
    same_size := (s.frame id).same_size.trans whole.symm }
  set later : Database := { s.db with cache := s.db.cache.setFrame id frame }
  refine ⟨later, ?_, ?_⟩
  · rw [Database.changeFrame, Frame.copyFrom?_of_size whole]
    rfl
  · have opened : Leads storage allowed txn s (s.setPhase txn (.changing id)) :=
      ok.setPhase (by simp [busy]) (by simp) hand.window
        fun id opened => absurd opened (window?_fetching busy id)
    have changing : (s.setPhase txn (.changing id)).phase txn = .changing id :=
      Function.update_self ..
    have changed : Leads storage allowed txn (s.setPhase txn (.changing id))
        { s.setPhase txn (.changing id) with db := later } :=
      opened.consistent.setFrame changing rfl rfl (Or.inr rfl)
    have window : Window { s.setPhase txn (.changing id) with db := later } txn id := by
      have phaseOk := (changed.consistent.txn txn).phase
      rw [show _ = _ from changing] at phaseOk
      exact phaseOk
    have same : later.cache.frame id = frame := by
      show (s.db.cache.setFrame id frame).frame id = frame
      rw [Cache.frame_setFrame, if_pos rfl]
    rw [← follow_setPhase s later txn (.changing id)]
    refine opened.trans (changed.running (by simp [changing]) asked
      (.report window single ?_) fun target there => Or.inl ?_)
    · show Effect storage txn s.history call change.succeeded (later.cache.frame id).page
        (later.cache.frame id).live
      rw [same, show frame.page = page from hand.shows]
      exact effect
    · rw [changing] at there
      rw [Phase.window?, single]
      exact there

/-! ### Using a page -/

/-- A page that was asked for is handed out. -/
lemma handOut {level : Level} {mode : LockMode}
    (busy : s.phase txn = .busy call (.fetching txn level (.hand page mode) (.use id))) :
    Leads storage allowed txn s (s.follow txn call (s.db, .finished (.fetched (.ok id)))) := by
  obtain ⟨asked, serves⟩ := ok.serves busy
  cases serves with
  | use pursues hand =>
      cases pursues with
      | hand =>
          have held : Leads storage allowed txn s (s.setPhase txn (.holding page mode id)) :=
            ok.setPhase (by simp [busy]) (by simp) hand
              fun id opened => absurd opened (window?_fetching busy id)
          exact held.trans (held.consistent.log (.unchanged rfl) rfl (fun _ => rfl)
            (fun access inside => by cases inside)
            fun call operation => by simp [System.setPhase, Event.txn])

/-- A page was looked through for a free slot. If it is full, its lock is given back unless the
transaction held it before. -/
lemma usePage_probe {level : Level} {heap : HeapFile} {record : Record}
    {number remaining : Nat} {alreadyHeld : Bool}
    (busy : s.phase txn = .busy call
      (.fetching txn level (.probe heap record number remaining alreadyHeld) (.use id)))
    (room : s.db.storage.Countable) :
    Leads storage allowed txn s (s.follow txn call
      (s.db.usePage txn level (.probe heap record number remaining alreadyHeld) id)) := by
  have going : s.phase txn ≠ .gone := by simp [busy]
  have closed := window?_fetching busy
  obtain ⟨asked, serves⟩ := ok.serves busy
  cases serves with
  | use pursues hand =>
      cases pursues with
      | @probe table _ _ _ _ _ found untouched =>
          rw [Database.usePage]
          simp only
          cases free : heap.layout.firstFree? (s.db.cache.frame id).live with
          | error fault =>
              exact (ok.leads_refl txn).returned going (Aim.isChange_failed _ _ _)
                (Aim.failed_ne_fetched _ _ _) fun id opened => absurd opened (closed id)
          | ok answer =>
              cases answer with
              | some slot =>
                  exact (ok.leads_refl txn).running going asked (.lock (.claim found))
                    fun id opened => absurd opened (closed id)
              | none =>
                  have paused : Leads storage allowed txn s (s.setPhase txn .ready) :=
                    ok.setPhase going (by simp) trivial
                      fun id opened => absurd opened (closed id)
                  have ready : (s.setPhase txn .ready).phase txn = .ready :=
                    Function.update_self ..
                  cases alreadyHeld with
                  | true =>
                      rw [← follow_setPhase s s.db txn .ready]
                      exact paused.trans (paused.consistent.nextProbe (number + 1) remaining ready
                        asked found room)
                  | false =>
                      have released : Leads storage allowed txn (s.setPhase txn .ready)
                          { s.setPhase txn .ready with
                            db := s.db.release txn (heap.page number) } :=
                        paused.consistent.release ready (untouched rfl)
                      rw [← follow_setPhase s (s.db.release txn (heap.page number)) txn .ready]
                      exact paused.trans (released.trans (released.consistent.nextProbe
                        (number + 1) remaining ready asked found room))

/-- A record is put into a page with a free slot. If the page has none after all, an insert
that may go on takes the next page. -/
lemma usePage_place {level : Level} {aim : Aim} {table : TableId} {heap : HeapFile}
    {record : Record} {number : Nat}
    (busy : s.phase txn = .busy (.insert table record) (.fetching txn level aim (.use id)))
    (found : storage.catalog[table]? = some (.heap heap)) (level_eq : level = .database)
    (hand : AtHand storage s txn (heap.page number) .exclusive id)
    (full : Database × Progress)
    (instead : Leads storage allowed txn s (s.follow txn (.insert table record) full)) :
    Leads storage allowed txn s (s.follow txn (.insert table record)
      (match s.db.tryPlace txn heap record id with
        | .error fault => (s.db, .finished (aim.failed level fault))
        | .ok (some (db, record)) => (db, (Change.insertion record [id]).next txn level)
        | .ok none => full)) := by
  have going : s.phase txn ≠ .gone := by simp [busy]
  have closed := window?_fetching busy
  subst level_eq
  have table_eq : heap.table = table :=
    ok.reliable.named table (.heap heap) ((ok.catalog_eq table).trans found)
  cases placed : heap.layout.place? (s.db.cache.frame id).live record.data with
  | error fault =>
      have failed : s.db.tryPlace txn heap record id = .error fault := by
        simp [Database.tryPlace, placed, bind, Except.bind]
      rw [failed]
      exact (ok.leads_refl txn).returned going (aim.isChange_failed _ _)
        (aim.failed_ne_fetched _ _) fun id opened => absurd opened (closed id)
  | ok answer =>
      cases answer with
      | none =>
          have nothing : s.db.tryPlace txn heap record id = .ok none := by
            simp [Database.tryPlace, placed, bind, Except.bind, pure, Except.pure]
          rw [nothing]
          exact instead
      | some pair =>
          obtain ⟨slot, image⟩ := pair
          have whole : image.size = (s.frame id).live.size := SlotLayout.size_of_place? placed
          have effect : Effect storage txn s.history (.insert table record)
              (Change.insertion (record.placed ⟨heap.page number, slot⟩) [id]).succeeded
              (heap.page number) image := by
            subst table_eq
            have found' : storage.catalog[(heap.page number).table]? = some (.heap heap) := found
            refine .inserted found' ?_
            rw [← hand.live]
            exact placed
          obtain ⟨db, changed, lead⟩ := ok.changeFrame busy hand whole rfl effect
          have shows : (s.db.cache.frame id).page = heap.page number := hand.shows
          have done : s.db.tryPlace txn heap record id =
              .ok (some (db, record.placed ⟨heap.page number, slot⟩)) := by
            simp [Database.tryPlace, placed, changed, shows, bind, Except.bind, pure, Except.pure]
          rw [done]
          exact lead

/-- A record is removed from its page. -/
lemma usePage_erase {level : Level} {heap : HeapFile} {rid : RecordId}
    (busy : s.phase txn = .busy call (.fetching txn level (.erase heap rid) (.use id))) :
    Leads storage allowed txn s
      (s.follow txn call (s.db.usePage txn level (.erase heap rid) id)) := by
  have going : s.phase txn ≠ .gone := by simp [busy]
  have closed := window?_fetching busy
  obtain ⟨asked, serves⟩ := ok.serves busy
  cases serves with
  | use pursues hand =>
      cases pursues with
      | @erase _ _ record found located =>
          unfold Database.usePage
          simp only
          cases cleared : heap.layout.clear? (s.db.cache.frame id).live rid.slot with
          | error fault =>
              exact (ok.leads_refl txn).returned going (Aim.isChange_failed _ _ _)
                (Aim.failed_ne_fetched _ _ _) fun id opened => absurd opened (closed id)
          | ok answer =>
              cases answer with
              | none =>
                  exact (ok.leads_refl txn).returned going (Aim.isChange_failed _ _ _)
                    (Aim.failed_ne_fetched _ _ _) fun id opened => absurd opened (closed id)
              | some image =>
                  have effect : Effect storage txn s.history (.delete record)
                      (Change.deletion [id]).succeeded rid.page image := by
                    have live : (s.frame id).live = visible storage txn rid.page s.history :=
                      hand.live
                    refine .deleted found located ?_
                    rw [← live]
                    exact cleared
                  obtain ⟨db, changed, lead⟩ := ok.changeFrame busy hand
                    (SlotLayout.size_of_clear? cleared) rfl effect
                  simp only [changed]
                  exact lead

/-- The records of a page are read. -/
lemma usePage_collect {level : Level} {heap : HeapFile} {number remaining : Nat}
    {found : List Record} (busy : s.phase txn = .busy call
      (.fetching txn level (.collect heap number remaining found) (.use id))) :
    Leads storage allowed txn s
      (s.follow txn call (s.db.usePage txn level (.collect heap number remaining found) id)) := by
  have going : s.phase txn ≠ .gone := by simp [busy]
  have closed := window?_fetching busy
  obtain ⟨asked, serves⟩ := ok.serves busy
  cases serves with
  | use pursues hand =>
      cases pursues with
      | collect =>
          rw [Database.usePage]
          simp only
          cases heap.layout.contents? (s.db.cache.frame id).live with
          | error fault =>
              exact (ok.leads_refl txn).returned going (Aim.isChange_failed _ _ _)
                (Aim.failed_ne_fetched _ _ _) fun id opened => absurd opened (closed id)
          | ok contents =>
              cases remaining with
              | zero =>
                  exact (ok.leads_refl txn).returned going rfl (fun _ => by simp)
                    fun id opened => absurd opened (closed id)
              | succ remaining =>
                  exact (ok.leads_refl txn).running going asked (.lock .collect)
                    fun id opened => absurd opened (closed id)

/-- The operation uses the page that it has at hand. -/
lemma usePage {level : Level} {aim : Aim}
    (busy : s.phase txn = .busy call (.fetching txn level aim (.use id)))
    (room : ∀ table record, allowed (.call (.insert table record)) → s.db.storage.Countable) :
    Leads storage allowed txn s (s.follow txn call (s.db.usePage txn level aim id)) := by
  have going : s.phase txn ≠ .gone := by simp [busy]
  have closed := window?_fetching busy
  obtain ⟨asked, serves⟩ := ok.serves busy
  cases serves with
  | use pursues hand =>
      cases pursues with
      | hand => exact ok.handOut busy
      | @probe table heap record number remaining alreadyHeld found untouched =>
          exact ok.usePage_probe busy (room table record asked)
      | @claim table heap record number remaining found =>
          have paused : Leads storage allowed txn s (s.setPhase txn .ready) :=
            ok.setPhase going (by simp) trivial fun id opened => absurd opened (closed id)
          have next := paused.consistent.nextProbe (number + 1) remaining
            (Function.update_self ..) asked found (room table record asked)
          refine ok.usePage_place busy found rfl hand _ (paused.trans ?_)
          rw [← follow_setPhase s s.db txn .ready]
          exact next
      | @fill table heap record number found =>
          exact ok.usePage_place busy found rfl hand _ ((ok.leads_refl txn).returned going
            (Aim.isChange_failed _ _ _) (Aim.failed_ne_fetched _ _ _)
            fun id opened => absurd opened (closed id))
      | erase found located => exact ok.usePage_erase busy
      | collect => exact ok.usePage_collect busy

/-! ### Reporting a page -/

/-- The image of a window has the length of its page. -/
lemma size_live (window : Window s txn id) :
    (s.frame id).live.size = (storage.initially (s.frame id).page).size := by
  rw [← (s.frame id).same_size, ok.stored _ _ window.before, size_ledger ok.admissible]

/-- The changed page is reported. -/
lemma reportPage {change : Change} {pages : List FrameId}
    (busy : s.phase txn = .busy call (.reporting txn change pages)) :
    Leads storage allowed txn s (s.follow txn call (s.db.step (.reporting txn change pages))) := by
  have going : s.phase txn ≠ .gone := by simp [busy]
  obtain ⟨asked, serves⟩ := ok.serves busy
  cases serves with
  | @report _ id window single effect =>
      have head : (s.phase txn).window? = some id := by
        rw [busy, Phase.window?, single]
        rfl
      have opened : Leads storage allowed txn s (s.setPhase txn (.changing id)) :=
        ok.setPhase going (by simp) window fun other there => Or.inl (head.symm.trans there)
      have changing : (s.setPhase txn (.changing id)).phase txn = .changing id :=
        Function.update_self ..
      have closes : ∀ other, ((s.setPhase txn (.changing id)).phase txn).window? = some other →
          other = id := by
        intro other there
        rw [changing] at there
        exact (Option.some.inj there).symm
      rcases opened.consistent.markDirty changing with
        ⟨cache, done, lead, there, marked⟩ | ⟨cache, error, failed, lead, absent⟩
      · have moved : s.db.step (.reporting txn change [id]) =
            ({ s.db with cache }, .running (.reporting txn change [])) := by
          rw [Database.step, show s.db.markDirty txn id = _ from done]
          rfl
        have window' : Window { s.setPhase txn (.changing id) with
            db := { s.db with cache } } txn id := lead.consistent.phaseOk changing
        have frame_eq : cache.frame id = (s.frame id).mark txn := marked
        rw [moved, ← follow_setPhase s { s.db with cache } txn (.changing id)]
        refine opened.trans (lead.running (by simp [changing]) asked
          (.reported window' single ?_ ?_ ?_) fun other there => Or.inl ?_)
        · show Effect storage txn s.history call change.succeeded (cache.frame id).page
            (cache.frame id).live
          rw [frame_eq]
          exact effect
        · show cache.residentFrame? (cache.frame id).page = some id
          rw [frame_eq]
          exact there
        · show (cache.frame id).owner = some txn
          rw [frame_eq]
          rfl
        · rw [closes other there, Phase.window?, single]
          rfl
      · have moved : s.db.step (.reporting txn change [id]) =
            ({ s.db with cache }, .finished (change.failed error)) := by
          rw [Database.step, show s.db.markDirty txn id = _ from failed]
          rfl
        rw [moved, ← follow_setPhase s { s.db with cache } txn (.changing id)]
        refine opened.trans (lead.returned (by simp [changing]) (change.isChange_failed error)
          (fun target => ?_) fun other there => ?_)
        · cases change <;> cases error <;> simp [Change.failed, Level.failedInsert]
        · rw [closes other there]
          exact absent
  | @reported _ id window single effect there owner =>
      have live := (ok.txn txn).live (show s.mode txn (s.frame id).page ≠ none by
        rw [window.lock]
        simp)
      have head : (s.phase txn).window? = some id := by
        rw [busy, Phase.window?, single]
        rfl
      have changed : s.db.changed change.succeeded = [((s.frame id).page, (s.frame id).live)] := by
        cases change <;> simp_all [Change.succeeded, Change.pages, Database.changed]
      have after : Phase.after call change.succeeded = .ready :=
        Phase.after_eq_ready call fun id => by cases change <;> simp [Change.succeeded]
      have moved : s.db.step (.reporting txn change []) = (s.db, .finished change.succeeded) := rfl
      rw [moved, follow, changed, after]
      refine ok.logWrite (.changed live (ok.size_live window) effect) rfl head window there owner
        (fun page => ?_) fun access inside => ?_
      · rw [Event.left?]
        by_cases same : (s.frame id).page = page
        · simp [same]
        · simp [List.lookup_cons, same, beq_eq_false_iff_ne.mpr (Ne.symm same)]
      · rw [List.mem_singleton.mp inside]
        rfl

/-! ### Any move -/

/-- Every move of an operation keeps the invariant. -/
theorem step (busy : s.phase txn = .busy call operation)
    (room : ∀ table record, allowed (.call (.insert table record)) → s.db.storage.Countable) :
    Leads storage allowed txn s (s.follow txn call (s.db.step operation)) := by
  have serves := (ok.serves busy).2
  cases serves with
  | lock pursues => exact ok.lockPage busy
  | read pursues covers => exact ok.loadPage busy
  | enter pursues covers loaded => exact ok.enterPage busy
  | use pursues hand => exact ok.usePage busy room
  | report window single effect => exact ok.reportPage busy
  | reported window single effect there owner => exact ok.reportPage busy

end Consistent

end System

end PageTxn
