import PageTxn.Proofs.Course
import PageTxn.Proofs.Truthful

/-!
Calls from their start up to their outcome, while others act.

* `Database.Starts` says how a call may begin. An insert begins with everything that its file may
  refuse, as in `Database.Begins`.
* `System.Underway` says how far a call has come: it has begun, others act while it is in progress,
  and it makes its moves (`Database.Moves`), the last of which returns its outcome.
* `Underway.truthful`: until the call returns, everybody may rely on what they assume.
* `Underway.endure`: a run of incidents in which the operation moves and others act is a part of a
  call.
-/

namespace PageTxn

/-- A call begins as in the model; an insert, with everything that its file may refuse. -/
inductive Database.Starts (db : Database) (txn : TxnId) : Call → Database × Progress → Prop
  | asModelled {call : Call} : db.Starts txn call (db.start txn call)
  | insert {table : TableId} {record : Record} {moved : Database × Progress}
      (begins : db.Begins txn table record moved) : db.Starts txn (.insert table record) moved

/-- A file that takes a part of a page does not become shorter. -/
lemma Storage.grows_appendPart (storage : Storage) (heap : HeapFile) (length : Nat) :
    (storage.appendPart heap length).Grows storage := by
  refine grows_setFile (Image.size_le_splice ?_)
  have inside := (PageFile.size_lt_end (storage.disk.bytes heap.file) storage.pageSize).1
  exact Nat.le_trans (Nat.mul_le_mul_right _ (Nat.mod_le _ _)) inside

namespace Database

variable {db : Database} {txn : TxnId} {call : Call} {moved came : Database × Progress}
  {operation next : Operation}

/-! ### Growth -/

lemma Comes.grows (comes : db.Comes moved came) (grown : moved.1.storage.Grows db.storage) :
    came.1.storage.Grows db.storage := by
  cases comes with
  | asModelled => exact grown
  | unappended cause part => exact db.storage.grows_appendPart _ _

/-- No move makes a file shorter. -/
lemma Moves.grows (moves : db.Moves operation moved) : moved.1.storage.Grows db.storage := by
  cases moves with
  | step comes => exact comes.grows (db.grows_step operation)
  | unread cause => exact .refl _

lemma Starts.grows (starts : db.Starts txn call moved) : moved.1.storage.Grows db.storage := by
  cases starts with
  | asModelled => exact db.grows_start txn call
  | @insert table record moved begins =>
      cases begins with
      | unregistered named => exact .refl _
      | @registered store moved named begins =>
          cases begins with
          | uncounted cause file whole => exact .refl _
          | counted comes =>
              refine comes.grows ?_
              have grown := db.grows_start txn (.insert table record)
              rw [start, startInsertRecord, named] at grown
              exact grown

/-! ### Moves that do not return -/

/-- What is no refusal comes as in the model. -/
lemma Comes.eq_of_ne_refusal (comes : db.Comes moved came)
    (accepted : ∀ (level : Level) (record : Record) (cause : IoCause),
      came.2 ≠ .finished (level.failedInsert record (Error.io cause))) : came = moved := by
  cases comes with
  | asModelled => rfl
  | unappended cause part => exact absurd rfl (accepted _ _ cause)

/-- What goes on goes on as in the model: an operation ends with every refusal of a file. -/
lemma Comes.eq_of_going (comes : db.Comes moved came)
    (going : came.2.operation? = some operation) : came = moved := by
  refine comes.eq_of_ne_refusal fun level record cause refused => ?_
  rw [refused] at going
  cases going

lemma Moves.eq_step_of_going (moves : db.Moves operation moved)
    (going : moved.2.operation? = some next) : moved = db.step operation := by
  cases moves with
  | step comes => exact comes.eq_of_going going
  | unread cause => cases going

lemma Starts.eq_start_of_going (starts : db.Starts txn call moved)
    (going : moved.2.operation? = some operation) : moved = db.start txn call := by
  cases starts with
  | asModelled => rfl
  | insert begins =>
      cases begins with
      | unregistered named => cases going
      | registered named begins =>
          cases begins with
          | uncounted cause file whole => cases going
          | counted comes =>
              rw [comes.eq_of_going going]
              simp only [start, startInsertRecord, named]

end Database

namespace System

open Database

variable {s now later : System} {txn : TxnId} {call : Call} {progress : Progress}
  {operation : Operation} {incident : Incident}

/-- A call has come so far: it has begun, others have acted since, and its operation has moved.
Once it has returned, nothing more happens. -/
inductive Underway (s : System) (txn : TxnId) (call : Call) : Progress → System → Prop
  | starts {moved : Database × Progress} (free : (s.phase txn).isFree = true)
      (work : Incident.IsWork s.db.storage (.act ⟨txn, .call call⟩))
      (starts : s.db.Starts txn call moved) :
      Underway s txn call moved.2 (s.follow txn call moved)
  | meanwhile {progress : Progress} {operation : Operation} {now : System} {incident : Incident}
      (underway : Underway s txn call progress now) (going : progress.operation? = some operation)
      (others : incident.actor? ≠ some txn) (work : incident.IsWork s.db.storage) :
      Underway s txn call progress (now.suffer incident)
  | moves {progress : Progress} {operation : Operation} {now : System}
      {moved : Database × Progress} (underway : Underway s txn call progress now)
      (going : progress.operation? = some operation) (moves : now.db.Moves operation moved) :
      Underway s txn call moved.2 (now.follow txn call moved)

lemma suffer_call (free : (s.phase txn).isFree = true) (call : Call) :
    s.suffer (.act ⟨txn, .call call⟩) = s.follow txn call (s.db.start txn call) := if_pos free

lemma suffer_move (busy : s.phase txn = .busy call operation) :
    s.suffer (.act ⟨txn, .move⟩) = s.follow txn call (s.db.step operation) := by
  simp only [suffer, System.act, System.move, busy]

/-- A transaction that is not busy does not get on by moving. -/
lemma phase_endure_of_idle (incidents : List Incident)
    (own : ∀ incident ∈ incidents, incident.actor? = some txn → incident = .act ⟨txn, .move⟩)
    (idle : ∀ call operation, s.phase txn ≠ .busy call operation) :
    (s.endure incidents).phase txn = s.phase txn := by
  induction incidents generalizing s with
  | nil => rfl
  | cons incident rest ih =>
      have same : (s.suffer incident).phase txn = s.phase txn := by
        by_cases mine : incident.actor? = some txn
        · obtain rfl := own incident List.mem_cons_self mine
          simp only [suffer, System.act, System.move]
        · exact phase_suffer_of_ne mine
      refine (ih (fun next listed => own next (List.mem_cons_of_mem _ listed)) ?_).trans same
      rw [same]
      exact idle

namespace Underway

/-- The transaction is busy with its call until that returns. -/
lemma phase (underway : s.Underway txn call progress later) :
    later.phase txn = progress.phase call := by
  induction underway with
  | starts free work starts => exact phase_follow_self ..
  | moves underway going moves ih => exact phase_follow_self ..
  | meanwhile underway going others work ih => exact (phase_suffer_of_ne others).trans ih

lemma busy (underway : s.Underway txn call progress later)
    (going : progress.operation? = some operation) : later.phase txn = .busy call operation := by
  rw [underway.phase]
  cases progress with
  | finished outcome => cases going
  | running running =>
      cases going
      rfl
  | parked parked =>
      cases going
      rfl

/-- A call that has returned keeps its transaction busy no more. -/
lemma not_busy (underway : s.Underway txn call progress later)
    (returned : progress.operation? = none) (other : Call) (operation : Operation) :
    later.phase txn ≠ .busy other operation := by
  rw [underway.phase]
  cases progress with
  | running running => cases returned
  | parked parked => cases returned
  | finished outcome => exact Progress.phase_finished_ne call outcome other operation

/-- No file becomes shorter meanwhile. -/
lemma grows (underway : s.Underway txn call progress later) :
    later.db.storage.Grows s.db.storage := by
  induction underway with
  | starts free work starts =>
      rw [db_follow]
      exact starts.grows
  | meanwhile underway going others work ih => exact (grows_suffer _ _).trans ih
  | moves underway going moves ih =>
      rw [db_follow]
      exact moves.grows.trans ih

/-- Until a call returns, everybody may rely on what they assume. -/
theorem truthful (ok : s.Truthful) (underway : s.Underway txn call progress later)
    (going : progress.operation? = some operation) (room : later.db.storage.Countable) :
    later.Truthful := by
  induction underway generalizing operation with
  | @starts moved free work starts =>
      have called : s.suffer (.act ⟨txn, .call call⟩) = s.follow txn call moved := by
        rw [starts.eq_start_of_going going, suffer_call free]
      rw [← called] at room ⊢
      exact truthful_suffer ok work ((grows_suffer ..).countable room)
  | @meanwhile progress running now incident underway going' others work ih =>
      have room_before := (grows_suffer now incident).countable room
      refine truthful_suffer (ih going room_before) ?_ room_before
      exact (Incident.isWork_congr underway.grows.catalog incident).mpr work
  | @moves progress running now moved underway going' moves ih =>
      have moved_on : now.suffer (.act ⟨txn, .move⟩) = now.follow txn call moved := by
        rw [moves.eq_step_of_going going, suffer_move (underway.busy going')]
      rw [← moved_on] at room ⊢
      have room_before := (grows_suffer ..).countable room
      exact truthful_suffer (ih going' room_before) (Or.inl rfl) room_before

/-- What holds at the start of a call and is kept by its moves and by the others, holds up to its
outcome. -/
theorem rule {P : Progress → System → Prop} (ok : s.Truthful)
    (underway : s.Underway txn call progress later) (room : later.db.storage.Countable)
    (starts : ∀ moved, Incident.IsWork s.db.storage (.act ⟨txn, .call call⟩) →
      s.db.Starts txn call moved → s.db.storage.Countable → P moved.2 (s.follow txn call moved))
    (meanwhile : ∀ progress operation now incident, s.Underway txn call progress now →
      progress.operation? = some operation → now.Truthful → incident.actor? ≠ some txn →
        incident.IsWork now.db.storage → now.db.storage.Countable → P progress now →
          P progress (now.suffer incident))
    (moves : ∀ progress operation now moved, s.Underway txn call progress now →
      progress.operation? = some operation → now.Truthful → now.db.Moves operation moved →
        now.db.storage.Countable → P progress now → P moved.2 (now.follow txn call moved)) :
    P progress later := by
  induction underway with
  | @starts moved free work begins =>
      rw [db_follow] at room
      exact starts moved work begins (begins.grows.countable room)
  | @meanwhile progress running now incident underway going others work ih =>
      have room_before := (grows_suffer now incident).countable room
      have work_now := (Incident.isWork_congr underway.grows.catalog incident).mpr work
      exact meanwhile progress running now incident underway going
        (underway.truthful ok going room_before) others work_now room_before (ih room_before)
  | @moves progress running now moved underway going makes ih =>
      rw [db_follow] at room
      have room_before := makes.grows.countable room
      exact moves progress running now moved underway going
        (underway.truthful ok going room_before) makes room_before (ih room_before)

/-! ### Runs of incidents -/

/-- A call begins. -/
lemma called (free : (s.phase txn).isFree = true)
    (work : Incident.IsWork s.db.storage (.act ⟨txn, .call call⟩)) :
    s.Underway txn call (s.db.start txn call).2 (s.suffer (.act ⟨txn, .call call⟩)) := by
  rw [suffer_call free]
  exact .starts free work .asModelled

/-- A run of incidents in which the operation moves and others act is a part of the call, if the
transaction is busy with the call after that. -/
lemma endure (underway : s.Underway txn call progress now)
    (going : progress.operation? = some operation) (incidents : List Incident)
    (own : ∀ incident ∈ incidents, incident.actor? = some txn → incident = .act ⟨txn, .move⟩)
    (work : ∀ incident ∈ incidents, incident.IsWork s.db.storage) {next : Operation}
    (busy : (now.endure incidents).phase txn = .busy call next) :
    ∃ further : Progress, further.operation? = some next ∧
      s.Underway txn call further (now.endure incidents) := by
  induction incidents generalizing now progress operation with
  | nil =>
      cases (underway.busy going).symm.trans busy
      exact ⟨progress, going, underway⟩
  | cons incident rest ih =>
      have own_rest := fun next listed => own next (List.mem_cons_of_mem incident listed)
      have work_rest := fun next listed => work next (List.mem_cons_of_mem incident listed)
      by_cases mine : incident.actor? = some txn
      · obtain rfl := own incident List.mem_cons_self mine
        have further : s.Underway txn call (now.db.step operation).2
            (now.suffer (.act ⟨txn, .move⟩)) := by
          rw [suffer_move (underway.busy going)]
          exact .moves underway going (.step .asModelled)
        cases goes : (now.db.step operation).2.operation? with
        | some following => exact ih further goes own_rest work_rest busy
        | none =>
            -- the call has returned, so that the transaction is not busy any more
            have idle := further.not_busy goes
            refine absurd busy ?_
            rw [show now.endure (.act ⟨txn, .move⟩ :: rest) =
              (now.suffer (.act ⟨txn, .move⟩)).endure rest from rfl,
              phase_endure_of_idle rest own_rest idle]
            exact idle call next
      · exact ih (.meanwhile underway going mine (work incident List.mem_cons_self)) going own_rest
          work_rest busy

/-- The last move returns the outcome. -/
lemma returns (underway : s.Underway txn call progress now)
    (going : progress.operation? = some operation) {outcome : Outcome}
    (finished : (now.db.step operation).2 = .finished outcome) :
    s.Underway txn call (.finished outcome) (now.suffer (.act ⟨txn, .move⟩)) := by
  rw [suffer_move (underway.busy going), ← finished]
  exact .moves underway going (.step .asModelled)

/-- A call that is made, goes on while others act, and returns with its last move. -/
lemma whole (asked : System) (calls : s.suffer (.act ⟨txn, .call call⟩) = asked)
    (free : (s.phase txn).isFree = true)
    (permitted : Incident.IsWork s.db.storage (.act ⟨txn, .call call⟩)) (incidents : List Incident)
    (own : ∀ incident ∈ incidents, incident.actor? = some txn → incident = .act ⟨txn, .move⟩)
    (work : ∀ incident ∈ incidents, incident.IsWork s.db.storage) {first last : Operation}
    (going : (s.db.start txn call).2.operation? = some first)
    (busy : (asked.endure incidents).phase txn = .busy call last) {outcome : Outcome}
    (finished : ((asked.endure incidents).db.step last).2 = .finished outcome) :
    s.Underway txn call (.finished outcome)
      ((asked.endure incidents).suffer (.act ⟨txn, .move⟩)) := by
  rw [← calls] at busy finished ⊢
  obtain ⟨progress, goes, waited⟩ := (called free permitted).endure going incidents own work busy
  exact waited.returns goes finished

end Underway

end System

/-! ### A file of one page -/

/-- A record on a page of the file. -/
def onPage (number slot : Nat) (data : Image) : Record := ⟨some ⟨⟨⟨1⟩, number⟩, slot⟩, data⟩

/-- The third transaction fills the page of a file. -/
def fillPage : List Action :=
  ⟨⟨3⟩, .call (.insert ⟨1⟩ (.ofData #[5]))⟩ :: List.replicate 8 ⟨⟨3⟩, .move⟩ ++
    ⟨⟨3⟩, .call (.insert ⟨1⟩ (.ofData #[6]))⟩ :: List.replicate 8 ⟨⟨3⟩, .move⟩ ++
    [⟨⟨3⟩, .complete true⟩]

/-- A transaction that moves so often. -/
def movesOf (txn : TxnId) (moves : Nat) : List Incident :=
  List.replicate moves (.act ⟨txn, .move⟩)

/-- The page of a file is full, and the second transaction has appended a page with a record. It
goes on. -/
def appendOpenly : List Incident :=
  fillPage.map .act ++ .act ⟨⟨2⟩, .call (.insert ⟨1⟩ (.ofData #[7]))⟩ :: movesOf ⟨2⟩ 10

end PageTxn
