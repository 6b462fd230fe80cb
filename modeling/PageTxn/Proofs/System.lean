import Mathlib.Logic.Function.Basic
import Mathlib.Tactic.Common
import PageTxn.Operation.Start

/-!
Transactions that share one database.

* A `Call` is an operation that a transaction may ask for, an `Event` is what the history of
  a database records, and a `Phase` tells what a transaction is doing.
* A `System` is a database with its transactions. `System.act` lets one transaction do one
  thing: call an operation, move it by one indivisible step, look at a page that it has at
  hand, overwrite the image of one, report the change, or end. What a transaction cannot do
  in its phase changes nothing.
* `System.run` lets one thing happen after the other, by any transactions in any order.
* `System.exists_moves`: whatever an operation does in one turn, it does in some moves.
-/

namespace PageTxn

/-! ### Calls and events -/

-- the outcomes hold results of type `Except`, which the imports above let us compare
deriving instance DecidableEq for Outcome

deriving instance DecidableEq for Progress

/-- An operation that a transaction may ask the database for. -/
inductive Call where
  | fetch (page : PageId) (mode : LockMode)
  | insert (table : TableId) (record : Record)
  | delete (record : Record)
  | scan (heap : HeapFile)
  deriving DecidableEq

/-- Start the operation that is asked for. -/
def Database.start (db : Database) (txn : TxnId) : Call → Database × Progress
  | .fetch page mode => db.startFetch txn page mode
  | .insert table record => db.startInsertRecord txn table record
  | .delete record => db.startDeleteRecord txn record
  | .scan heap => db.startScan txn heap

/-- How a transaction ended. -/
inductive Ending where
  | committed
  | aborted
  /-- A store refused a page of the commit. -/
  | stuck
  deriving DecidableEq

/-- What happened. -/
inductive Event where
  /-- A transaction looked at a page that it had fetched. -/
  | looked (txn : TxnId) (page : PageId) (image : Image)
  /-- A transaction overwrote a page and reported the change. -/
  | wrote (txn : TxnId) (page : PageId) (image : Image)
  /-- An operation returned; `changed` are the pages that it changed, with their images. -/
  | returned (txn : TxnId) (call : Call) (outcome : Outcome) (changed : List (PageId × Image))
  | ended (txn : TxnId) (ending : Ending)
  deriving DecidableEq

/-- The images that a successful insert or delete has left on the pages that it reports. -/
def Database.changed (db : Database) : Outcome → List (PageId × Image)
  | .inserted (.ok ids) _ | .deleted (.ok ids) =>
      ids.map fun id => ((db.cache.frame id).page, (db.cache.frame id).live)
  | _ => []

/-! ### Phases -/

/-- What a transaction is doing. -/
inductive Phase where
  | ready
  /-- It has just fetched a page. -/
  | holding (page : PageId) (mode : LockMode) (id : FrameId)
  /-- It has overwritten the image of a page and not reported the change yet. -/
  | changing (id : FrameId)
  /-- An operation is in progress. -/
  | busy (call : Call) (operation : Operation)
  | gone
  deriving DecidableEq

namespace Phase

/-- Whether the transaction may call an operation or end. -/
def isFree : Phase → Bool
  | ready | holding .. => true
  | _ => false

/-- The frame that the transaction may overwrite. -/
def writable? : Phase → Option FrameId
  | holding _ .exclusive id | changing id => some id
  | _ => none

/-- A frame may be overwritten by a transaction that has fetched it exclusively, or overwritten it
before. -/
lemma cases_of_writable {phase : Phase} {id : FrameId} (writable : phase.writable? = some id) :
    phase = changing id ∨ ∃ page, phase = holding page .exclusive id := by
  cases phase with
  | ready => cases writable
  | busy call operation => cases writable
  | gone => cases writable
  | changing other =>
      cases writable
      exact Or.inl rfl
  | holding page mode other =>
      cases mode with
      | shared => cases writable
      | exclusive =>
          cases writable
          exact Or.inr ⟨page, rfl⟩

/-- The phase of a transaction whose operation has returned. -/
def after : Call → Outcome → Phase
  | .fetch page mode, .fetched (.ok id) => holding page mode id
  | _, _ => ready

end Phase

/-! ### Systems -/

/-- A database with its transactions. -/
structure System where
  db : Database
  phase : TxnId → Phase
  /-- What happened, the latest first. -/
  history : List Event

/-- What a transaction may do. -/
inductive Act where
  | call (call : Call)
  /-- Its operation makes one move. -/
  | move
  /-- It looks at the page that it has at hand. -/
  | look
  /-- It overwrites the page that it has at hand. -/
  | overwrite (image : Image)
  /-- It reports the page that it has overwritten. -/
  | report
  | complete (commit : Bool)
  | release (page : PageId)
  | flushPage (page : PageId)
  | flushHeld
  | flushAll
  | discard (page : PageId)

/-- One thing that one transaction does. -/
structure Action where
  txn : TxnId
  act : Act

namespace System

/-- A database with an empty cache, before anything happened. -/
def initial (storage : Storage) (capacity : Nat) (capacity_pos : 0 < capacity) : System :=
  ⟨⟨storage, .empty capacity capacity_pos, .empty⟩, fun _ => .ready, []⟩

/-- Let a transaction be in another phase. -/
def setPhase (s : System) (txn : TxnId) (phase : Phase) : System :=
  { s with phase := Function.update s.phase txn phase }

/-- Record an event. -/
def log (s : System) (event : Event) : System := { s with history := event :: s.history }

/-- What a move of an operation leaves behind. -/
def follow (s : System) (txn : TxnId) (call : Call) : Database × Progress → System
  | (db, .running operation) | (db, .parked operation) =>
      { s with db }.setPhase txn (.busy call operation)
  | (db, .finished outcome) =>
      ({ s with db }.setPhase txn (.after call outcome)).log
        (.returned txn call outcome (db.changed outcome))

/-- Call an operation. -/
def call (s : System) (txn : TxnId) (call : Call) : System :=
  if (s.phase txn).isFree then s.follow txn call (s.db.start txn call) else s

/-- Let the operation in progress make one move. -/
def move (s : System) (txn : TxnId) : System :=
  match s.phase txn with
  | .busy call operation => s.follow txn call (s.db.step operation)
  | _ => s

/-- Look at the page at hand. -/
def look (s : System) (txn : TxnId) : System :=
  match s.phase txn with
  | .holding page _ id => s.log (.looked txn page (s.db.cache.frame id).live)
  | _ => s

/-- Overwrite the page at hand by an image of the same length. -/
def overwrite (s : System) (txn : TxnId) (image : Image) : System :=
  match (s.phase txn).writable? with
  | some id =>
      match (s.db.cache.frame id).copyFrom? image with
      | .ok frame =>
          { s with db := { s.db with cache := s.db.cache.setFrame id frame } }.setPhase txn
            (.changing id)
      | .error _ => s
  | none => s

/-- Report the page that was overwritten. -/
def report (s : System) (txn : TxnId) : System :=
  match s.phase txn with
  | .changing id =>
      match s.db.markDirty txn id with
      | (db, .ok ()) =>
          ({ s with db }.setPhase txn .ready).log
            (.wrote txn (s.db.cache.frame id).page (s.db.cache.frame id).live)
      | (db, .error _) => { s with db }.setPhase txn .ready
  | _ => s

/-- End a transaction. -/
def complete (s : System) (txn : TxnId) (commit : Bool) : System :=
  if (s.phase txn).isFree then
    match s.db.complete txn commit with
    | (db, .ok ()) =>
        ({ s with db }.setPhase txn .gone).log
          (.ended txn (if commit then .committed else .aborted))
    | (db, .error _) => ({ s with db }.setPhase txn .gone).log (.ended txn .stuck)
  else s

/-- Change the database without an operation in progress. -/
def maintain (s : System) (txn : TxnId) (change : Database → Database) : System :=
  if (s.phase txn).isFree then { s with db := change s.db }.setPhase txn .ready else s

/-- Let one transaction do one thing. -/
def act (s : System) (action : Action) : System :=
  match action.act with
  | .call call => s.call action.txn call
  | .move => s.move action.txn
  | .look => s.look action.txn
  | .overwrite image => s.overwrite action.txn image
  | .report => s.report action.txn
  | .complete commit => s.complete action.txn commit
  | .release page => s.maintain action.txn fun db => db.release action.txn page
  | .flushPage page => s.maintain action.txn fun db => (db.flushPage page).1
  | .flushHeld => s.maintain action.txn fun db => (db.flushHeld action.txn).1
  | .flushAll => s.maintain action.txn fun db => db.flushAll.1
  | .discard page => s.maintain action.txn fun db => db.discard page

/-- Let one thing happen after the other. -/
def run (s : System) (actions : List Action) : System := actions.foldl act s

lemma run_cons (s : System) (action : Action) (rest : List Action) :
    s.run (action :: rest) = (s.act action).run rest := rfl

/-! ### Whole turns -/

/-- What a whole turn of an operation leaves behind. -/
def settle (s : System) (txn : TxnId) (call : Call) : Database × Turn Operation Outcome → System
  | (db, .parked operation) => s.follow txn call (db, .parked operation)
  | (db, .finished outcome) => s.follow txn call (db, .finished outcome)

/-- A phase that is overwritten does not matter. -/
lemma follow_setPhase (s : System) (db : Database) (txn : TxnId) (phase : Phase) (call : Call)
    (move : Database × Progress) :
    ({ s with db }.setPhase txn phase).follow txn call move = s.follow txn call move := by
  obtain ⟨later, running | parked | finished⟩ := move <;>
    simp [follow, setPhase, log, Function.update_idem]

lemma settle_setPhase (s : System) (db : Database) (txn : TxnId) (phase : Phase) (call : Call)
    (turn : Database × Turn Operation Outcome) :
    ({ s with db }.setPhase txn phase).settle txn call turn = s.settle txn call turn := by
  obtain ⟨later, parked | finished⟩ := turn
  · exact follow_setPhase s db txn phase call (later, .parked parked)
  · exact follow_setPhase s db txn phase call (later, .finished finished)

/-- Whatever an operation does in one turn, it does in some moves of its own. So what holds
under every interleaving of moves holds under every interleaving of turns. -/
theorem exists_moves (fuel : Nat) {s : System} {txn : TxnId} {call : Call}
    {operation : Operation} (busy : s.phase txn = .busy call operation) :
    ∃ moves, s.run (List.replicate moves ⟨txn, .move⟩) =
      s.settle txn call (Database.advance fuel s.db operation) := by
  induction fuel generalizing s operation with
  | zero =>
      refine ⟨0, ?_⟩
      have same : Function.update s.phase txn (.busy call operation) = s.phase := by
        rw [← busy, Function.update_eq_self]
      show s = { s with phase := Function.update s.phase txn (.busy call operation) }
      rw [same]
  | succ fuel ih =>
      have first : s.act ⟨txn, .move⟩ = s.follow txn call (s.db.step operation) := by
        simp only [act, move, busy]
      rw [Database.advance]
      cases moved : s.db.step operation with
      | mk db progress =>
          rw [moved] at first
          cases progress with
          | running later =>
              have busy' : (s.follow txn call (db, .running later)).phase txn =
                  .busy call later := by simp [follow, setPhase]
              obtain ⟨moves, rest⟩ := ih busy'
              refine ⟨moves + 1, ?_⟩
              rw [List.replicate_succ, run_cons, first, rest]
              exact settle_setPhase ..
          | parked later => exact ⟨1, first⟩
          | finished outcome => exact ⟨1, first⟩

end System

end PageTxn
