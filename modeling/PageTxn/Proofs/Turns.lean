import PageTxn.Proofs.Runs
import PageTxn.Script.Session

/-!
Whole turns of transactions, and what can be seen of them.

* `Database.resume_eq`: an operation goes on until it is parked or finished; the bound on its
  moves is no restriction.
* `System.turn` lets a transaction do one thing up to its end: an operation that is called, or
  that was parked, goes on until it is parked or finished. `System.exists_acts`: a turn is a run
  of moves.
* `System.answer` is what the transaction is told, and `System.sights` lists what can be seen
  after every turn: the answer, the locks with the waits, and the stores.
* `Consistent.turn`: turns keep the invariant.
-/

namespace PageTxn

namespace Database

variable {db later : Database} {operation next : Operation}

/-! ### Operations from their start on -/

/-- Perform an operation until it is parked or finished. -/
def perform (db : Database) (txn : TxnId) : Call → Database × Turn Operation Outcome
  | .fetch page mode => db.fetch txn page mode
  | .insert table record => db.insertRecord txn table record
  | .delete record => db.deleteRecord txn record
  | .scan heap => db.scan txn heap

/-- An operation is performed from its start on. -/
lemma perform_eq (db : Database) (txn : TxnId) (call : Call) :
    db.perform txn call = (db.start txn call).1.proceed (db.start txn call).2 := by
  cases call <;> rfl

lemma exists_budget_eq (operation : Operation) : ∃ moves, operation.budget = moves + 1 := by
  refine Nat.exists_eq_succ_of_ne_zero ?_
  cases operation with
  | fetching txn level aim stage =>
      cases stage <;> simp only [Operation.budget, Stage.budget] <;> omega
  | reporting txn change pages => exact Nat.succ_ne_zero _

/-- More moves than the budget do not matter. -/
lemma advance_of_le {fuel : Nat} (enough : operation.budget ≤ fuel) :
    advance fuel db operation = db.resume operation := by
  induction fuel using Nat.strongRecOn generalizing db operation with
  | ind fuel ih =>
      obtain ⟨moves, budget⟩ := exists_budget_eq operation
      obtain ⟨fuel, rfl⟩ := Nat.exists_eq_succ_of_ne_zero (show fuel ≠ 0 by omega)
      rw [resume, budget, advance, advance]
      cases moved : db.step operation with
      | mk later progress =>
          cases progress with
          | parked next => rfl
          | finished outcome => rfl
          | running next =>
              have less := budget_of_step moved
              exact (ih fuel (by omega) (by omega)).trans (ih moves (by omega) (by omega)).symm

/-- An operation makes one move and goes on. -/
theorem resume_eq (db : Database) (operation : Operation) :
    db.resume operation = (db.step operation).1.proceed (db.step operation).2 := by
  obtain ⟨moves, budget⟩ := exists_budget_eq operation
  rw [resume, budget, advance]
  cases moved : db.step operation with
  | mk later progress =>
      cases progress with
      | parked next => rfl
      | finished outcome => rfl
      | running next =>
          have less := budget_of_step moved
          exact advance_of_le (by omega)

/-- An operation shrinks no file until it is parked or finished. -/
lemma grows_resume (db : Database) (operation : Operation) :
    (db.resume operation).1.storage.Grows db.storage := by
  induction budget : operation.budget using Nat.strongRecOn generalizing db operation with
  | ind moves ih =>
      have grown := grows_step db operation
      rw [resume_eq]
      cases moved : db.step operation with
      | mk later progress =>
          rw [moved] at grown
          cases progress with
          | parked next => exact grown
          | finished outcome => exact grown
          | running next =>
              have less := budget_of_step moved
              exact (ih next.budget (by omega) later next rfl).trans grown

/-! ### Replies -/

/-- What an operation tells the transaction that asked for it. -/
def reply (db : Database) (txn : TxnId) (outcome : Outcome) : Reply :=
  ((Session.ofDatabase db).conclude ⟨txn, .database, none⟩ outcome).2

/-- What an operation tells after its turn: that it is parked, or its result. -/
def tell (txn : TxnId) : Database × Turn Operation Outcome → Turn Operation Reply
  | (_, .parked operation) => .parked operation
  | (db, .finished outcome) => .finished (db.reply txn outcome)

end Database

/-- Whether a transaction is told that there was no room in the cache. -/
def Reply.isExhausted : Reply → Bool
  | .failed (.error (.cacheExhausted _)) | .inserted (.error (.cacheExhausted _)) _ => true
  | _ => false

/-- Whether a turn ended because there was no room in the cache. -/
def Turn.isExhausted : Turn Operation Reply → Bool
  | .finished reply => reply.isExhausted
  | .parked _ => false

/-- What can be seen after a turn: what the transaction was told, the locks together with the
waits, and the stores. -/
structure Sight where
  /-- Nothing if the transaction could not do what it was to do. -/
  answer : Option (Turn Operation Reply)
  locks : LockManager
  storage : Storage

/-- Whether the transaction was told that there was no room in the cache. -/
def Sight.isExhausted (sight : Sight) : Bool := sight.answer.any Turn.isExhausted

/-- Whether a transaction can do what it is to do. -/
def Phase.permits : Phase → Act → Bool
  | .busy .., .move | .holding .., .look | .changing _, .report => true
  | phase, .overwrite _ => phase.writable?.isSome
  | _, .move | _, .look | _, .report => false
  | phase, _ => phase.isFree

namespace System

open History

variable {storage : Storage} {allowed : Act → Prop} {s : System} {txn : TxnId} {call : Call}
  {operation : Operation} {action : Action}

/-! ### Turns -/

/-- Let one transaction do one thing up to its end. An operation that is called, or that was
parked, goes on until it is parked or finished. -/
def turn (s : System) (action : Action) : System :=
  match action.act with
  | .call call =>
      if (s.phase action.txn).isFree then
        s.settle action.txn call (s.db.perform action.txn call)
      else s
  | .move =>
      match s.phase action.txn with
      | .busy call operation => s.settle action.txn call (s.db.resume operation)
      | _ => s
  | _ => s.act action

/-- Let one turn follow the other. -/
def turns (s : System) (actions : List Action) : System := actions.foldl turn s

/-- What the transaction is told in its turn; nothing if it cannot do what it is to do. -/
def answer (s : System) (action : Action) : Option (Turn Operation Reply) :=
  match action.act with
  | .call call =>
      if (s.phase action.txn).isFree then
        some (Database.tell action.txn (s.db.perform action.txn call))
      else none
  | .move =>
      match s.phase action.txn with
      | .busy _ operation => some (Database.tell action.txn (s.db.resume operation))
      | _ => none
  | .look =>
      match s.phase action.txn with
      | .holding _ _ id => some (.finished (.image (some (s.db.cache.frame id).live)))
      | _ => none
  | .overwrite image =>
      match (s.phase action.txn).writable? with
      | some id =>
          match (s.db.cache.frame id).copyFrom? image with
          | .ok _ => some (.finished .done)
          | .error fault => some (.finished (.failed fault))
      | none => none
  | .report =>
      match s.phase action.txn with
      | .changing id => some (.finished (Session.replyOf (s.db.markDirty action.txn id).2))
      | _ => none
  | .complete commit =>
      if (s.phase action.txn).isFree then
        some (.finished (Session.replyOfError (s.db.complete action.txn commit).2))
      else none
  | .release _ | .flushPage _ | .flushHeld | .flushAll | .discard _ => none

/-- What can be seen after a turn. -/
def sight (s : System) (action : Action) : Sight :=
  ⟨s.answer action, (s.turn action).db.locks, (s.turn action).db.storage⟩

/-- What can be seen after every turn. -/
def sights (s : System) : List Action → List Sight
  | [] => []
  | action :: rest => s.sight action :: (s.turn action).sights rest

/-- What a transaction cannot do tells nothing. -/
lemma answer_of_refused (refused : (s.phase action.txn).permits action.act = false) :
    s.answer action = none := by
  obtain ⟨txn, act⟩ := action
  cases act with
  | call call => simp_all [Phase.permits, answer]
  | complete commit => simp_all [Phase.permits, answer]
  | overwrite image => simp_all [Phase.permits, answer]
  | move => cases now : s.phase txn <;> simp_all [Phase.permits, answer]
  | look => cases now : s.phase txn <;> simp_all [Phase.permits, answer]
  | report => cases now : s.phase txn <;> simp_all [Phase.permits, answer]
  | release page => rfl
  | flushPage page => rfl
  | flushHeld => rfl
  | flushAll => rfl
  | discard page => rfl

/-- What a transaction cannot do changes nothing. -/
lemma turn_of_refused (refused : (s.phase action.txn).permits action.act = false) :
    s.turn action = s := by
  obtain ⟨txn, act⟩ := action
  cases act with
  | call call => simp_all [Phase.permits, turn]
  | complete commit => simp_all [Phase.permits, turn, System.act, complete]
  | overwrite image => simp_all [Phase.permits, turn, System.act, overwrite]
  | move => cases now : s.phase txn <;> simp_all [Phase.permits, turn]
  | look => cases now : s.phase txn <;> simp_all [Phase.permits, turn, System.act, look]
  | report => cases now : s.phase txn <;> simp_all [Phase.permits, turn, System.act, report]
  | release page => simp_all [Phase.permits, turn, System.act, maintain]
  | flushPage page => simp_all [Phase.permits, turn, System.act, maintain]
  | flushHeld => simp_all [Phase.permits, turn, System.act, maintain]
  | flushAll => simp_all [Phase.permits, turn, System.act, maintain]
  | discard page => simp_all [Phase.permits, turn, System.act, maintain]

/-! ### Turns are runs -/

/-- An operation that is in progress after its start goes on in its own moves. -/
lemma exists_settle (s : System) (txn : TxnId) (call : Call) (db : Database)
    (progress : Progress) :
    ∃ moves, (s.follow txn call (db, progress)).run (List.replicate moves ⟨txn, .move⟩) =
      s.settle txn call (db.proceed progress) := by
  cases progress with
  | parked operation => exact ⟨0, rfl⟩
  | finished outcome => exact ⟨0, rfl⟩
  | running operation =>
      have busy : (s.follow txn call (db, .running operation)).phase txn =
          .busy call operation := by simp [follow, setPhase]
      obtain ⟨moves, run⟩ := exists_moves operation.budget busy
      exact ⟨moves, run.trans (settle_setPhase s db txn _ call _)⟩

/-- A turn is one act and some moves of the same transaction. -/
theorem exists_acts (s : System) (action : Action) :
    ∃ acts : List Action, s.turn action = s.run acts ∧
      ∀ act ∈ acts, act = action ∨ act = ⟨action.txn, .move⟩ := by
  have alone : ∀ act, s.act ⟨action.txn, act⟩ = s.run [⟨action.txn, act⟩] := fun _ => rfl
  obtain ⟨txn, act⟩ := action
  cases act with
  | call call =>
      by_cases free : (s.phase txn).isFree = true
      · obtain ⟨moves, run⟩ := s.exists_settle txn call (s.db.start txn call).1
          (s.db.start txn call).2
        refine ⟨⟨txn, .call call⟩ :: List.replicate moves ⟨txn, .move⟩, ?_, fun act inside => ?_⟩
        · have called : s.act ⟨txn, .call call⟩ = s.follow txn call (s.db.start txn call) := by
            simp only [act, System.call, if_pos free]
          rw [run_cons, called, run, ← Database.perform_eq]
          simp only [turn, if_pos free]
        · rcases List.mem_cons.mp inside with same | later
          · exact Or.inl same
          · exact Or.inr (List.eq_of_mem_replicate later)
      · exact ⟨[], by simp [turn, free, run], by simp⟩
  | move =>
      cases phase : s.phase txn with
      | busy call operation =>
          obtain ⟨moves, run⟩ := exists_moves operation.budget phase
          refine ⟨List.replicate moves ⟨txn, .move⟩, ?_, fun act inside =>
            Or.inr (List.eq_of_mem_replicate inside)⟩
          rw [run]
          simp only [turn, phase]
          rfl
      | ready => exact ⟨[], by simp [turn, phase, run], by simp⟩
      | holding page mode id => exact ⟨[], by simp [turn, phase, run], by simp⟩
      | changing id => exact ⟨[], by simp [turn, phase, run], by simp⟩
      | gone => exact ⟨[], by simp [turn, phase, run], by simp⟩
  | look => exact ⟨_, alone .look, by simp⟩
  | overwrite image => exact ⟨_, alone (.overwrite image), by simp⟩
  | report => exact ⟨_, alone .report, by simp⟩
  | complete commit => exact ⟨_, alone (.complete commit), by simp⟩
  | release page => exact ⟨_, alone (.release page), by simp⟩
  | flushPage page => exact ⟨_, alone (.flushPage page), by simp⟩
  | flushHeld => exact ⟨_, alone .flushHeld, by simp⟩
  | flushAll => exact ⟨_, alone .flushAll, by simp⟩
  | discard page => exact ⟨_, alone (.discard page), by simp⟩

/-- A turn shrinks no file. -/
lemma grows_turn (s : System) (action : Action) :
    (s.turn action).db.storage.Grows s.db.storage := by
  obtain ⟨acts, same, -⟩ := s.exists_acts action
  rw [same]
  exact s.grows_run acts

/-- Turns shrink no file. -/
lemma grows_turns (s : System) (actions : List Action) :
    (s.turns actions).db.storage.Grows s.db.storage := by
  induction actions generalizing s with
  | nil => exact .refl _
  | cons action rest ih => exact (ih (s.turn action)).trans (s.grows_turn action)

/-- Every allowed turn keeps the invariant. -/
theorem Consistent.turn (ok : Consistent storage allowed s)
    (disciplined : Disciplined storage allowed) (action : Action)
    (permitted : allowed action.act) (moves : allowed .move)
    (room : (s.turn action).db.storage.Countable) :
    Consistent storage allowed (s.turn action) := by
  obtain ⟨acts, same, only⟩ := s.exists_acts action
  rw [same] at room ⊢
  refine (ok.run disciplined acts (fun act inside => ?_) fun _ _ _ => room).1
  rcases only act inside with rfl | rfl
  · exact permitted
  · exact moves

end System

end PageTxn
