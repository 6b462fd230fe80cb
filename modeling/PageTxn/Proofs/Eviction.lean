import PageTxn.Proofs.Atomicity
import PageTxn.Proofs.Isolation
import PageTxn.Proofs.Lockstep

/-!
Evictions cannot be seen.

The transactions fetch, look at, overwrite and report pages, insert, delete and scan records of
heap files, and end; nobody releases, flushes or discards pages, no store fails, and no file runs
out of page numbers, which are 32-bit words.

* `storage_commitPages`: what a commit stores depends on the dirty images of the pages alone,
  and `Consistent.unwritten?_eq` says that these are what the transaction has left.
* `Mirror.turn`: a turn tells the same in two systems that differ in their caches alone, and
  leads to such systems, unless there is no room in one of them.
* `eviction_invisible`: so the capacity of the cache cannot be told from the answers, the locks
  and the stores after every turn, as long as there is room.
-/

namespace PageTxn

open History

/-! ### What a commit stores -/

/-- Put an image into the store of its page, if there is one. -/
def Storage.put (storage : Storage) (page : PageId) : Option Image → Storage
  | some image =>
      match storage.storeOf page.table with
      | .ok store => (storage.writePage store page image).1
      | .error _ => storage
  | none => storage

namespace Database

variable {db middle : Database} {page : PageId} {pages : List PageId} {id : FrameId}

/-- A frame that is written is put into its store. -/
lemma storage_flush {flushed : Database} (there : db.cache.residentFrame? page = some id)
    (shows : (db.cache.frame id).page = page) (done : db.flush id = (flushed, .ok ())) :
    flushed.storage = db.storage.put page (db.unwritten? page) := by
  rw [unwritten?_of_resident there]
  rw [flush] at done
  split at done
  · next dirty =>
    rw [if_pos dirty, Storage.put]
    rw [shows] at done
    split at done
    · cases done
    · next store named =>
      rw [named]
      split at done
      · cases done
      · next written =>
        cases done
        simp only [written]
  · next clean =>
    cases done
    rw [if_neg clean]
    rfl

/-- A commit puts one page after the other. -/
lemma exists_put (reliable : db.storage.Reliable) (orderly : db.cache.Orderly)
    (housed : db.Housed page) :
    ∃ middle : Database, (∀ rest, db.commitPages (page :: rest) = middle.commitPages rest) ∧
      middle.storage = db.storage.put page (db.unwritten? page) ∧
      middle.storage.Reliable ∧ middle.cache.Orderly ∧
      (∀ other, db.Housed other → middle.Housed other) ∧
      ∀ other, middle.unwritten? other = if other = page then none else db.unwritten? other := by
  cases there : db.cache.residentFrame? page with
  | none =>
      have nothing := unwritten?_of_absent there
      refine ⟨db, fun rest => by rw [commitPages, there], by rw [nothing]; rfl, reliable, orderly,
        fun _ => id, fun other => ?_⟩
      split
      · next here => rw [here, nothing]
      · rfl
  | some id =>
      obtain ⟨flushed, done, cleaned⟩ := exists_flush_clean reliable orderly housed there
      have put := storage_flush there (orderly.page page id there) done
      have forced := cleaned.refresh orderly there
      exact ⟨{ flushed with cache := flushed.cache.updateFrame id Frame.refresh },
        fun rest => by rw [commitPages, there]; simp only [done], put, forced.reliable,
        forced.settled.orderly (fun _ => rfl) orderly,
        fun other => forced.housed Frame.isWrite_force,
        forced.unwritten? Frame.isWrite_force orderly⟩

/-- What a commit stores depends on the dirty images of the pages alone. -/
theorem storage_commitPages {other : Database} (reliable : db.storage.Reliable)
    (orderly : db.cache.Orderly) (orderly' : other.cache.Orderly)
    (stored : db.storage = other.storage) (housed : ∀ page ∈ pages, db.Housed page)
    (housed' : ∀ page ∈ pages, other.Housed page)
    (same : ∀ page ∈ pages, db.unwritten? page = other.unwritten? page) :
    (db.commitPages pages).1.storage = (other.commitPages pages).1.storage := by
  induction pages generalizing db other with
  | nil => exact stored
  | cons page rest ih =>
      have reliable' : other.storage.Reliable := by
        rw [← stored]
        exact reliable
      obtain ⟨middle, step, put, steady, ordered, houses, left⟩ :=
        exists_put reliable orderly (housed page List.mem_cons_self)
      obtain ⟨middle', step', put', -, ordered', houses', left'⟩ :=
        exists_put reliable' orderly' (housed' page List.mem_cons_self)
      rw [step, step']
      refine ih steady ordered ordered' ?_
        (fun next listed => houses next (housed next (List.mem_cons_of_mem _ listed)))
        (fun next listed => houses' next (housed' next (List.mem_cons_of_mem _ listed)))
        fun next listed => ?_
      · rw [put, put', stored, same page List.mem_cons_self]
      · rw [left, left', same next (List.mem_cons_of_mem _ listed)]

end Database

namespace System

variable {storage : Storage} {allowed : Act → Prop} {s t : System} {txn : TxnId} {page : PageId}
  {id target : FrameId}

/-! ### Ending -/

/-- What is dirty on a page that a free transaction has locked is what it has left there. -/
lemma Consistent.unwritten?_eq (ok : Consistent storage allowed s)
    (free : (s.phase txn).isFree = true) (held : s.mode txn page ≠ none) :
    s.db.unwritten? page = ownWrite txn page s.history := by
  have live := ok.live_of_free free
  cases there : s.db.cache.residentFrame? page with
  | none =>
      rw [Database.unwritten?_of_absent there, ok.unwritten_of_absent live there]
  | some id =>
      rw [Database.unwritten?_of_resident there]
      rcases (ok.kept page id there).state with ⟨clean, -⟩ | ⟨other, owned⟩
      · -- what the transaction has written would be dirty
        have dirty : (s.db.cache.frame id).isDirty = false := by
          rw [Frame.isDirty, show (s.db.cache.frame id).owner = none from clean]
          rfl
        rw [dirty, if_neg Bool.false_ne_true]
        by_contra written
        obtain ⟨image, wrote⟩ := Option.ne_none_iff_exists'.mp (Ne.symm written)
        obtain ⟨-, other, resident, owner⟩ := ok.exclusive_of_ownWrite wrote live
        rw [show s.resident? page = some id from there] at resident
        cases resident
        rw [clean] at owner
        cases owner
      · -- nobody else owns a page that the transaction has locked, and it has reported it
        cases eq_of_exclusive owned.lock held
        rcases owned.reason with opened | ⟨owner, wrote⟩
        · exact absurd opened (closed_of_free free id)
        · have dirty : (s.db.cache.frame id).isDirty = true := by
            rw [Frame.isDirty, show (s.db.cache.frame id).owner = some txn from owner]
            rfl
          rw [if_pos dirty]
          exact wrote.symm

/-- The changes of a free transaction can be written or undone. -/
lemma Consistent.exists_settle (ok : Consistent storage allowed s)
    (free : (s.phase txn).isFree = true) (commit : Bool) :
    ∃ later, s.db.settle txn commit = (later, .ok ()) ∧ later.locks = s.db.locks := by
  cases commit with
  | true =>
      obtain ⟨later, done, -, -, -, settled⟩ :=
        Database.exists_commitPages ok.reliable ok.orderly (ok.forceable free)
      exact ⟨later, done, settled.locks⟩
  | false => exact ⟨_, rfl, rfl⟩

/-- Two free transactions write the same when they end. -/
lemma Mirror.storage_settle (mirror : Mirror s t) (ok : Consistent storage allowed s)
    (ok' : Consistent storage allowed t) (free : (s.phase txn).isFree = true)
    (free' : (t.phase txn).isFree = true) (commit : Bool) :
    (s.db.settle txn commit).1.storage = (t.db.settle txn commit).1.storage := by
  cases commit with
  | false => exact mirror.storage
  | true =>
      show (s.db.commitPages (s.db.locks.heldPages txn)).1.storage =
        (t.db.commitPages (t.db.locks.heldPages txn)).1.storage
      have same : t.db.locks.heldPages txn = s.db.locks.heldPages txn := by rw [mirror.locks]
      have housed' := fun page listed => (ok'.forceable free' page listed).housed
      rw [same] at housed' ⊢
      refine Database.storage_commitPages ok.reliable ok.orderly ok'.orderly mirror.storage
        (fun page listed => (ok.forceable free page listed).housed) housed' fun page listed => ?_
      have held : s.mode txn page ≠ none := ok.sound.mem_heldPages.mp listed
      have held' : t.mode txn page ≠ none := by
        rw [mode, ← mirror.locks]
        exact held
      rw [ok.unwritten?_eq free held, ok'.unwritten?_eq free' held', ← ownWrite_bare,
        mirror.history, ownWrite_bare]

/-! ### Single turns -/

/-- A turn tells the same in two systems and leads to systems that differ in their caches alone,
unless one of them found no room in its cache. -/
def SameAction (s t : System) (action : Action) : Prop :=
  (s.sight action).isExhausted = true ∨ (t.sight action).isExhausted = true ∨
    s.answer action = t.answer action ∧ Mirror (s.turn action) (t.turn action)

/-- Two transactions can do the same. -/
lemma Mirror.permits_eq (mirror : Mirror s t) (txn : TxnId) (act : Act) :
    (s.phase txn).permits act = (t.phase txn).permits act := by
  have phase := mirror.phase txn
  generalize s.phase txn = first at phase
  generalize t.phase txn = second at phase
  cases phase with
  | ready => rfl
  | changing same => cases act <;> rfl
  | busy mirrors => cases act <;> rfl
  | gone => rfl
  | @holding page mode id target => cases mode <;> cases act <;> rfl

/-- What neither transaction can do tells nothing and changes nothing. -/
lemma Mirror.idle (mirror : Mirror s t) {action : Action}
    (refused : (s.phase action.txn).permits action.act = false) : SameAction s t action := by
  have refused' : (t.phase action.txn).permits action.act = false := by
    rw [← mirror.permits_eq]
    exact refused
  refine Or.inr (Or.inr ⟨by rw [answer_of_refused refused, answer_of_refused refused'], ?_⟩)
  rw [turn_of_refused refused, turn_of_refused refused']
  exact mirror

section Turns

variable (mirror : Mirror s t) (ok : Consistent storage allowed s)
  (ok' : Consistent storage allowed t)
include mirror ok ok'

/-- Ending tells the same and stores the same. -/
lemma Mirror.complete (txn : TxnId) (commit : Bool) : SameAction s t ⟨txn, .complete commit⟩ := by
  have permits := mirror.permits_eq txn (.complete commit)
  cases free : (s.phase txn).isFree with
  | false => exact mirror.idle (by simpa [Phase.permits] using free)
  | true =>
      have free' : (t.phase txn).isFree = true := by simpa [Phase.permits, free] using permits
      obtain ⟨later, done, locks⟩ := ok.exists_settle free commit
      obtain ⟨later', done', locks'⟩ := ok'.exists_settle free' commit
      have stored := mirror.storage_settle ok ok' free free' commit
      rw [done, done'] at stored
      have lead := ok.complete free commit
      have lead' := ok'.complete free' commit
      have ended : s.complete txn commit =
          ({ s with db := { later with locks := later.locks.releaseAll txn } }.setPhase txn
            .gone).log (.ended txn (if commit then .committed else .aborted)) := by
        simp [System.complete, free, Database.complete, done]
      have ended' : t.complete txn commit =
          ({ t with db := { later' with locks := later'.locks.releaseAll txn } }.setPhase txn
            .gone).log (.ended txn (if commit then .committed else .aborted)) := by
        simp [System.complete, free', Database.complete, done']
      refine Or.inr (Or.inr ⟨by simp [answer, free, free', Database.complete, done, done'], ?_⟩)
      show Mirror (s.complete txn commit) (t.complete txn commit)
      rw [ended] at lead ⊢
      rw [ended'] at lead' ⊢
      refine mirror.step_to ok ok' lead lead' ?_ stored ?_ rfl rfl .gone
      · show later.locks.releaseAll txn = later'.locks.releaseAll txn
        rw [locks, locks', mirror.locks]
      · show Event.bare _ :: s.history.map Event.bare = Event.bare _ :: t.history.map Event.bare
        rw [mirror.history]

/-- Whoever looks at the page at hand sees the same. -/
lemma Mirror.look (permitted : allowed .look) (txn : TxnId) : SameAction s t ⟨txn, .look⟩ := by
  have lead : Leads storage allowed txn s (s.look txn) := ok.look permitted
  have lead' : Leads storage allowed txn t (t.look txn) := ok'.look permitted
  have phase := mirror.phase txn
  generalize now : s.phase txn = first at phase
  generalize now' : t.phase txn = second at phase
  cases phase with
  | ready => exact mirror.idle (by rw [now]; rfl)
  | changing same => exact mirror.idle (by rw [now]; rfl)
  | busy mirrors => exact mirror.idle (by rw [now]; rfl)
  | gone => exact mirror.idle (by rw [now]; rfl)
  | @holding page mode id target =>
      have same := AtHand.sameImage (ok.phaseOk now) (ok'.phaseOk now') mirror
      refine Or.inr (Or.inr ⟨by simp [answer, now, now', same.live], ?_⟩)
      show Mirror (s.look txn) (t.look txn)
      simp only [System.look, now] at lead ⊢
      simp only [System.look, now'] at lead' ⊢
      refine mirror.step ok ok' lead lead' mirror.locks mirror.storage ?_ (mirror.phase txn)
      show Event.bare _ :: s.history.map Event.bare = Event.bare _ :: t.history.map Event.bare
      rw [mirror.history, same.live]

/-- Two transactions may overwrite the same image. -/
lemma Mirror.sameImage_of_writable (writable : (s.phase txn).writable? = some id) :
    ∃ target, (t.phase txn).writable? = some target ∧
      SameImage s.db.cache t.db.cache id target := by
  have phase := mirror.phase txn
  generalize now : s.phase txn = first at phase writable
  generalize now' : t.phase txn = second at phase
  cases phase with
  | ready => cases writable
  | busy mirrors => cases writable
  | gone => cases writable
  | changing same =>
      cases writable
      exact ⟨_, rfl, same⟩
  | @holding page mode other target =>
      cases mode with
      | shared => cases writable
      | exclusive =>
          cases writable
          exact ⟨target, rfl, AtHand.sameImage (ok.phaseOk now) (ok'.phaseOk now') mirror⟩

/-- Overwriting the page at hand tells the same. -/
lemma Mirror.overwrite (txn : TxnId) (image : Image) :
    SameAction s t ⟨txn, .overwrite image⟩ := by
  have lead : Leads storage allowed txn s (s.overwrite txn image) := ok.overwrite image
  have lead' : Leads storage allowed txn t (t.overwrite txn image) := ok'.overwrite image
  cases now : (s.phase txn).writable? with
  | none => exact mirror.idle (by simp [Phase.permits, now])
  | some id =>
      obtain ⟨target, now', same⟩ := mirror.sameImage_of_writable ok ok' now
      by_cases whole : image.size = (s.db.cache.frame id).live.size
      · have whole' : image.size = (t.db.cache.frame target).live.size := by
          rw [← same.live]
          exact whole
        refine Or.inr (Or.inr ⟨by simp [answer, now, now', Frame.copyFrom?_of_size whole,
          Frame.copyFrom?_of_size whole'], ?_⟩)
        show Mirror (s.overwrite txn image) (t.overwrite txn image)
        simp only [System.overwrite, now, Frame.copyFrom?_of_size whole] at lead ⊢
        simp only [System.overwrite, now', Frame.copyFrom?_of_size whole'] at lead' ⊢
        exact mirror.step_to ok ok' lead lead' mirror.locks mirror.storage mirror.history rfl rfl
          (.changing (sameImage_setFrame s.db.cache t.db.cache same.page rfl))
      · have whole' : image.size ≠ (t.db.cache.frame target).live.size := by
          rw [← same.live]
          exact whole
        refine Or.inr (Or.inr
          ⟨by simp [answer, now, now', Frame.copyFrom?, whole, whole'], ?_⟩)
        simpa [turn, act, System.overwrite, now, now', Frame.copyFrom?, whole, whole']
          using mirror

/-- Reporting an overwritten page tells the same, unless there is no room for it. -/
lemma Mirror.report (permitted : allowed .report) (txn : TxnId) :
    SameAction s t ⟨txn, .report⟩ := by
  have lead : Leads storage allowed txn s (s.report txn) := ok.report permitted
  have lead' : Leads storage allowed txn t (t.report txn) := ok'.report permitted
  have phase := mirror.phase txn
  generalize now : s.phase txn = first at phase
  generalize now' : t.phase txn = second at phase
  cases phase with
  | ready => exact mirror.idle (by rw [now]; rfl)
  | holding => exact mirror.idle (by rw [now]; rfl)
  | busy mirrors => exact mirror.idle (by rw [now]; rfl)
  | gone => exact mirror.idle (by rw [now]; rfl)
  | @changing id target same =>
      have window : Window s txn id := ok.phaseOk now
      have window' : Window t txn target := ok'.phaseOk now'
      rcases Cache.exists_markDirty txn window.alone with
        ⟨marked, done, -⟩ | ⟨smaller, capacity, failed, -⟩
      · rcases Cache.exists_markDirty txn window'.alone with
          ⟨marked', done', -⟩ | ⟨smaller, capacity, failed', -⟩
        · refine Or.inr (Or.inr
            ⟨by simp [answer, now, now', Database.markDirty, done, done'], ?_⟩)
          show Mirror (s.report txn) (t.report txn)
          simp only [System.report, now, Database.markDirty, done] at lead ⊢
          simp only [System.report, now', Database.markDirty, done'] at lead' ⊢
          refine mirror.step_to ok ok' lead lead' mirror.locks mirror.storage ?_ rfl rfl .ready
          show Event.bare _ :: s.history.map Event.bare = Event.bare _ :: t.history.map Event.bare
          rw [mirror.history, same.page, same.live]
        · refine Or.inr (Or.inl ?_)
          simp [sight, Sight.isExhausted, answer, now', Database.markDirty, failed',
            Session.replyOf, Turn.isExhausted, Reply.isExhausted]
      · refine Or.inl ?_
        simp [sight, Sight.isExhausted, answer, now, Database.markDirty, failed,
          Session.replyOf, Turn.isExhausted, Reply.isExhausted]

end Turns

/-! ### Turns of operations -/

/-- A turn leaves the database to which it led. -/
lemma db_settle (s : System) (txn : TxnId) (call : Call)
    (turn : Database × Turn Operation Outcome) : (s.settle txn call turn).db = turn.1 := by
  obtain ⟨later, parked | finished⟩ := turn <;> rfl

/-- Turns of operations that do the same are actions that do. -/
lemma SameTurn.sameAction {action : Action} {call : Call}
    {turn turn' : Database × Turn Operation Outcome}
    (same : SameTurn s t action.txn call turn turn')
    (answered : s.answer action = some (Database.tell action.txn turn))
    (answered' : t.answer action = some (Database.tell action.txn turn'))
    (turned : s.turn action = s.settle action.txn call turn)
    (turned' : t.turn action = t.settle action.txn call turn') : SameAction s t action := by
  rcases same with exhausted | exhausted | ⟨told, mirror⟩
  · refine Or.inl ?_
    rw [Sight.isExhausted, sight, answered]
    exact exhausted
  · refine Or.inr (Or.inl ?_)
    rw [Sight.isExhausted, sight, answered']
    exact exhausted
  · refine Or.inr (Or.inr ⟨by rw [answered, answered', told], ?_⟩)
    rw [turned, turned']
    exact mirror

section Turns

variable (mirror : Mirror s t) (ok : Consistent storage allowed s)
  (ok' : Consistent storage allowed t)
include mirror ok ok'

/-- An operation that was parked goes on alike. -/
lemma Mirror.move (txn : TxnId) (room : (s.turn ⟨txn, .move⟩).db.storage.Countable) :
    SameAction s t ⟨txn, .move⟩ := by
  have phase := mirror.phase txn
  generalize now : s.phase txn = first at phase
  generalize now' : t.phase txn = second at phase
  cases phase with
  | ready => exact mirror.idle (by rw [now]; rfl)
  | holding => exact mirror.idle (by rw [now]; rfl)
  | changing same => exact mirror.idle (by rw [now]; rfl)
  | gone => exact mirror.idle (by rw [now]; rfl)
  | @busy call operation operation' mirrors =>
      have turned : s.turn ⟨txn, .move⟩ = s.settle txn call (s.db.resume operation) := by
        simp only [turn, now]
      rw [turned, db_settle] at room
      refine (mirror.resume ok ok' now now' room).sameAction ?_ ?_ turned ?_
      · simp only [answer, now]
      · simp only [answer, now']
      · simp only [turn, now']

/-- An operation that is called does the same. -/
lemma Mirror.call (disciplined : Disciplined storage allowed) (txn : TxnId) (call : Call)
    (asked : allowed (.call call)) (room : (s.turn ⟨txn, .call call⟩).db.storage.Countable) :
    SameAction s t ⟨txn, .call call⟩ := by
  have room_now : s.db.storage.Countable := (s.grows_turn _).countable room
  have room_there : t.db.storage.Countable := by
    rw [← mirror.storage]
    exact room_now
  have lead : Leads storage allowed txn s (s.call txn call) :=
    ok.call disciplined call asked fun _ _ _ => room_now
  have lead' : Leads storage allowed txn t (t.call txn call) :=
    ok'.call disciplined call asked fun _ _ _ => room_there
  have permits := mirror.permits_eq txn (.call call)
  cases free : (s.phase txn).isFree with
  | false => exact mirror.idle (by simpa [Phase.permits] using free)
  | true =>
      have free' : (t.phase txn).isFree = true := by simpa [Phase.permits, free] using permits
      have turned : s.turn ⟨txn, .call call⟩ = s.settle txn call (s.db.perform txn call) := by
        simp only [turn, if_pos free]
      rw [System.call, if_pos free] at lead
      rw [System.call, if_pos free'] at lead'
      rw [turned, db_settle, Database.perform_eq] at room
      have agree : Database.Agree txn (s.db.start txn call) (t.db.start txn call) := by
        rw [mirror.db_eq]
        refine Database.agree_start s.db t.db.cache call ?_ ?_
        · rintro table record rfl store found
          rw [ok.tables.catalog] at found
          exact disciplined.inserts table record asked store found
        · rintro record rfl id located store found
          rw [ok.tables.catalog] at found
          exact disciplined.deletes record id asked located store found
      have same : SameTurn s t txn call (s.db.perform txn call) (t.db.perform txn call) := by
        rw [Database.perform_eq, Database.perform_eq]
        refine mirror.proceed ok ok' lead lead' agree
          fun db db' next next' moved moved' together => ?_
        rw [moved] at room lead together ⊢
        rw [moved'] at lead' together ⊢
        exact together.resume lead.consistent lead'.consistent (phase_follow ..)
          (phase_follow ..) room
      refine same.sameAction ?_ ?_ turned ?_
      · simp only [answer, if_pos free]
      · simp only [answer, if_pos free']
      · simp only [turn, if_pos free']

/-- Every allowed turn tells the same in two systems that differ in their caches alone, and leads
to such systems, unless there is no room in one of them. -/
theorem Mirror.turn (disciplined : Disciplined storage allowed) (action : Action)
    (permitted : allowed action.act) (room : (s.turn action).db.storage.Countable) :
    SameAction s t action := by
  obtain ⟨txn, act⟩ := action
  have calm := disciplined.upkeep act permitted
  cases act with
  | call call => exact mirror.call ok ok' disciplined txn call permitted room
  | move => exact mirror.move ok ok' txn room
  | look => exact mirror.look ok ok' permitted txn
  | overwrite image => exact mirror.overwrite ok ok' txn image
  | report => exact mirror.report ok ok' permitted txn
  | complete commit => exact mirror.complete ok ok' txn commit
  | release page => cases calm
  | flushPage page => cases calm
  | flushHeld => cases calm
  | flushAll => cases calm
  | discard page => cases calm

/-! ### Runs of turns -/

/-- The same can be seen after every turn, if there is room in both systems. -/
theorem Mirror.sights (disciplined : Disciplined storage allowed) (moves : allowed .move)
    (actions : List Action) (permitted : ∀ action ∈ actions, allowed action.act)
    (room : (s.turns actions).db.storage.Countable)
    (spacious : ∀ sight ∈ s.sights actions, sight.isExhausted = false)
    (spacious' : ∀ sight ∈ t.sights actions, sight.isExhausted = false) :
    s.sights actions = t.sights actions := by
  induction actions generalizing s t with
  | nil => rfl
  | cons action rest ih =>
      have permitted_now := permitted action List.mem_cons_self
      have room_now : (s.turn action).db.storage.Countable :=
        ((s.turn action).grows_turns rest).countable room
      rcases mirror.turn ok ok' disciplined action permitted_now room_now with
        exhausted | exhausted | ⟨told, later⟩
      · rw [spacious _ List.mem_cons_self] at exhausted
        cases exhausted
      · rw [spacious' _ List.mem_cons_self] at exhausted
        cases exhausted
      · have seen : s.sight action = t.sight action := by
          rw [sight, sight, told, later.locks, later.storage]
        have room_there : (t.turn action).db.storage.Countable := by
          rw [← later.storage]
          exact room_now
        rw [System.sights, System.sights, seen]
        exact congrArg _ (ih later
          (ok.turn disciplined action permitted_now moves room_now)
          (ok'.turn disciplined action permitted_now moves room_there)
          (fun action listed => permitted action (List.mem_cons_of_mem _ listed)) room
          (fun sight listed => spacious sight (List.mem_cons_of_mem _ listed))
          fun sight listed => spacious' sight (List.mem_cons_of_mem _ listed))

end Turns

end System

/-! ### Capacities -/

/-- Transactions that work on pages and records neither maintain the cache nor use memory stores
for records. -/
lemma disciplined_work (storage : Storage) :
    Disciplined storage fun act => act.isPageWork = true ∨ act.IsRecordWork storage where
  upkeep act work := work.elim ((disciplined_pageWork storage).upkeep act)
    ((disciplined_recordWork storage).upkeep act)
  inserts table record work := work.elim ((disciplined_pageWork storage).inserts table record)
    ((disciplined_recordWork storage).inserts table record)
  deletes record id work := work.elim ((disciplined_pageWork storage).deletes record id)
    ((disciplined_recordWork storage).deletes record id)

/-- **Evictions cannot be seen.** Let the same turns be taken with two capacities of the cache,
whatever the interleaving and the order in which parked operations go on. If no transaction is
told that there is no room, then after every turn the transactions were told the same, operations
are parked at the same lock, the locks and the waits are the same, and so are the stores. -/
theorem eviction_invisible {storage : Storage} (reliable : storage.Reliable) (few many : Nat)
    (few_pos : 0 < few) (many_pos : 0 < many) (actions : List Action)
    (work : ∀ action ∈ actions, action.act.isPageWork = true ∨ action.act.IsRecordWork storage)
    (room : ((System.initial storage few few_pos).turns actions).db.storage.Countable)
    (spacious : ∀ sight ∈ (System.initial storage few few_pos).sights actions,
      sight.isExhausted = false)
    (spacious' : ∀ sight ∈ (System.initial storage many many_pos).sights actions,
      sight.isExhausted = false) :
    (System.initial storage few few_pos).sights actions =
      (System.initial storage many many_pos).sights actions :=
  (System.mirror_initial storage few_pos many_pos).sights
    (System.consistent_initial reliable few few_pos)
    (System.consistent_initial reliable many many_pos) (disciplined_work storage) (Or.inl rfl)
    actions work room spacious spacious'

/-- A file with a full page: the second transaction waits for the record that the first one puts
there, the third one appends a page, and the fourth one scans both. With room for a single page,
pages have to leave; with room for two, none has to. -/
theorem eviction_invisible_append :
    let page : PageId := ⟨⟨1⟩, 0⟩
    let actions : List Action :=
      [⟨⟨1⟩, .call (.insert ⟨1⟩ (.ofData #[5]))⟩, ⟨⟨2⟩, .call (.fetch page .shared)⟩,
        ⟨⟨1⟩, .call (.insert ⟨1⟩ (.ofData #[6]))⟩, ⟨⟨1⟩, .complete true⟩, ⟨⟨2⟩, .move⟩,
        ⟨⟨2⟩, .look⟩, ⟨⟨2⟩, .complete true⟩, ⟨⟨3⟩, .call (.insert ⟨1⟩ (.ofData #[7]))⟩,
        ⟨⟨3⟩, .complete true⟩, ⟨⟨4⟩, .call (.scan ⟨⟨1⟩, ⟨1, 3⟩, ["records"]⟩)⟩]
    let few := System.initial oneHeap 1 (by decide)
    let many := System.initial oneHeap 2 (by decide)
    (few.turns actions).db.cache.stats.evictions = 3 ∧
      (many.turns actions).db.cache.stats.evictions = 0 ∧
      few.sights actions = many.sights actions := by
  intro page actions few many
  have work : ∀ action ∈ actions, action.act.isPageWork = true ∨
      action.act.IsRecordWork oneHeap := by
    have isHeap : ∀ table, oneHeap.IsHeap table := fun table store found =>
      ⟨_, catalog_oneHeap found⟩
    simp [actions, Act.isPageWork, Act.IsRecordWork, isHeap]
  have room : (few.turns actions).db.storage.Countable := by decide +kernel
  have spacious : ∀ sight ∈ few.sights actions, sight.isExhausted = false := by decide +kernel
  have spacious' : ∀ sight ∈ many.sights actions, sight.isExhausted = false := by decide +kernel
  have evictions : (few.turns actions).db.cache.stats.evictions = 3 := by decide +kernel
  have evictions' : (many.turns actions).db.cache.stats.evictions = 0 := by decide +kernel
  -- the runs need not be evaluated again
  clear_value actions
  exact ⟨evictions, evictions', eviction_invisible reliable_oneHeap 1 2 (by decide) (by decide)
    actions work room spacious spacious'⟩

end PageTxn
