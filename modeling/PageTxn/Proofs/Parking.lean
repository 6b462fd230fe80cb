import PageTxn.Proofs.Blocking
import PageTxn.Proofs.LockRun

/-!
The parked requests of a lock manager, and what is recorded of them.

* `LockSystem.turn?` is the attempt that an action makes, if it makes one, and `acts` says what
  every action leaves behind.
* `LockSystem.Stalled` is the truth about the waits: a transaction has a request parked that
  another one is in the way of. `Tracked` says that the wait graph records nothing but the
  truth and has no cycle; it holds along every run (`tracked_run`).
* `LockSystem.OneAtATime` restricts a run to one request in progress for each transaction.
  Then nobody sleeps without being recorded as waiting (`attended_run`).
* `LockSystem.Fair` adds that nobody is put in the way of a sleeping request. Then the wait
  graph records the whole truth about the sleeping requests (`faithful_run`).
-/

namespace PageTxn.LockSystem

variable {system : LockSystem} {action : LockAction} {waiter holder txn : TxnId}
  {waiting : Waiting LockRequest}

/-! ### Turns -/

/-- A request that has its turn. -/
structure Attempt where
  request : LockRequest
  /-- Whether it has waited before. -/
  waited : Bool
  /-- The number of the request. -/
  step : Nat
  /-- The requests that stay parked meanwhile. -/
  others : List (Waiting LockRequest)

/-- The attempt that an action makes. -/
def turn? (system : LockSystem) : LockAction → Option Attempt
  | .acquire request => some ⟨request, false, system.asked, system.line⟩
  | .resume place =>
      match system.line[place]? with
      | none => none
      | some waiting =>
          if waiting.isWoken system.locks.signals then
            some ⟨waiting.task, true, waiting.step, system.line.eraseIdx place⟩
          else none
  | .release .. | .releaseAll _ => none

/-- What an attempt brings about in a lock table. -/
def Attempt.on (turn : Attempt) (table : LockTable) : LockTable × Verdict :=
  table.request turn.request.txn turn.request.page turn.request.mode

/-- The request parks again, or for the first time, behind the others. -/
def Attempt.parks (turn : Attempt) (signals : Nat) : Verdict → List (Waiting LockRequest)
  | .wait => turn.others ++ [⟨turn.step, turn.request, signals⟩]
  | .granted | .refused => turn.others

/-- The request that an action brings to an end, with its result. -/
def ends? (system : LockSystem) (action : LockAction) : Option (LockRequest × LockReply) :=
  match system.turn? action with
  | none => none
  | some turn =>
      match (LockScript.attempt turn.waited system.locks turn.request).2 with
      | .finished reply => some (turn.request, reply)
      | .parked _ => none

/-- What an attempt leaves behind: the answer in the lock table, and the request at the end of
the line if it has to wait. -/
structure Follows (system : LockSystem) (turn : Attempt) (later : LockSystem) : Prop where
  table : later.locks.table = (turn.on system.locks.table).1
  signals : later.locks.signals = system.locks.signals
  line : later.line = turn.parks system.locks.signals (turn.on system.locks.table).2

/-- The lock manager takes the answer from its table. -/
lemma Attempt.request_eq (turn : Attempt) (locks : LockManager) :
    locks.request turn.request.txn turn.request.page turn.request.mode turn.waited =
      ({ locks with
          table := (turn.on locks.table).1
          stats := locks.stats.count turn.waited (turn.on locks.table).2 },
        (turn.on locks.table).2) := rfl

lemma follows_attempt (system : LockSystem) (turn : Attempt) (locks : LockManager) (asked : Nat) :
    Follows ⟨locks, system.line, system.asked⟩ turn
      (follow ⟨locks, turn.others, asked⟩ turn.step
        (LockScript.attempt turn.waited locks turn.request)) := by
  rw [LockScript.attempt, turn.request_eq]
  cases answer : turn.on locks.table with
  | mk table verdict =>
      cases verdict <;> constructor <;> simp [follow, answer, Attempt.parks]

/-- A request ends as it is granted or refused, and not as long as it has to wait. -/
lemma ends?_of_turn {turn : Attempt} (takes : system.turn? action = some turn) :
    system.ends? action =
      match (turn.on system.locks.table).2 with
      | .granted => some (turn.request, .done)
      | .refused => some (turn.request, .failed (.deadlock turn.request.txn))
      | .wait => none := by
  simp only [ends?, takes, LockScript.attempt, turn.request_eq]
  cases (turn.on system.locks.table).2 <;> rfl

/-- Whoever gets a deadlock error was refused. -/
lemma refused_of_ends? {request : LockRequest}
    (refusal : system.ends? action = some (request, .failed (.deadlock txn))) :
    request.txn = txn ∧ ∃ turn : Attempt, system.turn? action = some turn ∧
      turn.request = request ∧ (turn.on system.locks.table).2 = .refused := by
  cases takes : system.turn? action with
  | none => simp [ends?, takes] at refusal
  | some turn =>
      rw [ends?_of_turn takes] at refusal
      cases answer : (turn.on system.locks.table).2 with
      | granted => simp [answer] at refusal
      | wait => simp [answer] at refusal
      | refused =>
          simp only [answer, Option.some.injEq, Prod.mk.injEq, LockReply.failed.injEq,
            Error.deadlock.injEq] at refusal
          obtain ⟨rfl, rfl⟩ := refusal
          exact ⟨rfl, turn, rfl, rfl, answer⟩

/-- An action that makes an attempt leaves behind what the attempt does. -/
lemma act_of_turn {turn : Attempt} (takes : system.turn? action = some turn) :
    Follows system turn (system.act action) := by
  cases action with
  | acquire request =>
      cases takes
      exact follows_attempt system ⟨request, false, system.asked, system.line⟩ _ _
  | resume place =>
      simp only [turn?] at takes
      cases found : system.line[place]? with
      | none => simp [found] at takes
      | some waiting =>
          by_cases woken : waiting.isWoken system.locks.signals
          · simp only [found, if_pos woken] at takes
            cases takes
            simp only [act, found, if_pos woken]
            exact follows_attempt system
              ⟨waiting.task, true, waiting.step, system.line.eraseIdx place⟩ _ _
          · simp [found, woken] at takes
  | release txn page => cases takes
  | releaseAll txn => cases takes

/-- Where nobody is parked, or somebody who was not woken, nothing happens. -/
lemma act_resume_of_no_turn {place : Nat} (idle : system.turn? (.resume place) = none) :
    system.act (.resume place) = system := by
  simp only [turn?] at idle
  cases found : system.line[place]? with
  | none => simp [act, found]
  | some waiting =>
      by_cases woken : waiting.isWoken system.locks.signals
      · simp [found, woken] at idle
      · simp [act, found, woken]

/-- Either the request is new and everybody stays parked, or it was woken and only the others
stay parked. -/
lemma others_cases {turn : Attempt} (takes : system.turn? action = some turn) :
    (action = .acquire turn.request ∧ turn.others = system.line) ∨
      ∃ waiting : Waiting LockRequest, waiting.task = turn.request ∧
        waiting.isWoken system.locks.signals = true ∧
        (waiting :: turn.others).Perm system.line := by
  cases action with
  | acquire request =>
      cases takes
      exact Or.inl ⟨rfl, rfl⟩
  | resume place =>
      simp only [turn?] at takes
      cases found : system.line[place]? with
      | none => simp [found] at takes
      | some waiting =>
          by_cases woken : waiting.isWoken system.locks.signals
          · simp only [found, if_pos woken] at takes
            cases takes
            obtain ⟨inside, here⟩ := List.getElem?_eq_some_iff.mp found
            refine Or.inr ⟨waiting, rfl, woken, ?_⟩
            rw [← here]
            exact List.getElem_cons_eraseIdx_perm inside
          · simp [found, woken] at takes
  | release txn page => cases takes
  | releaseAll txn => cases takes

/-- Whoever stays parked was parked before. -/
lemma mem_line_of_mem_others {turn : Attempt} (takes : system.turn? action = some turn)
    (stays : waiting ∈ turn.others) : waiting ∈ system.line := by
  rcases others_cases takes with ⟨-, same⟩ | ⟨first, -, -, perm⟩
  · rwa [← same]
  · exact perm.subset (List.mem_cons_of_mem _ stays)

/-- The requests of other transactions stay parked. -/
lemma mem_others {turn : Attempt} (takes : system.turn? action = some turn)
    (parked : waiting ∈ system.line) (apart : waiting.task.txn ≠ turn.request.txn) :
    waiting ∈ turn.others := by
  rcases others_cases takes with ⟨-, same⟩ | ⟨first, here, -, perm⟩
  · rwa [same]
  · rcases List.mem_cons.mp (perm.symm.subset parked) with rfl | stays
    · exact absurd (congrArg LockRequest.txn here) apart
    · exact stays

/-- Who is parked afterwards: the others, and the request itself if it has to wait. -/
lemma Attempt.mem_parks {turn : Attempt} {signals : Nat} {verdict : Verdict} :
    waiting ∈ turn.parks signals verdict ↔
      waiting ∈ turn.others ∨
        verdict = .wait ∧ waiting = ⟨turn.step, turn.request, signals⟩ := by
  cases verdict <;> simp [parks]

/-! ### Actions -/

/-- What an action can do: make an attempt, release nothing, or release something, which wakes
everybody and leaves nobody recorded as waiting for the transaction. -/
inductive Acts (system : LockSystem) (action : LockAction) (later : LockSystem) : Prop where
  | attempts (turn : Attempt) (takes : system.turn? action = some turn)
      (follows : Follows system turn later)
  | keeps (line : later.line = system.line) (signals : later.locks.signals = system.locks.signals)
      (waits : later.locks.table.waits = system.locks.table.waits)
      (modes : ∀ other wanted,
        later.locks.table.modeOf? other wanted = system.locks.table.modeOf? other wanted)
  | frees (txn : TxnId) (line : later.line = system.line)
      (signals : later.locks.signals = system.locks.signals + 1)
      (edges : ∀ waiter holder, later.locks.table.waits.Edge waiter holder →
        holder ≠ txn ∧ system.locks.table.waits.Edge waiter holder)
      (modes : ∀ other wanted, other ≠ txn →
        later.locks.table.modeOf? other wanted = system.locks.table.modeOf? other wanted)

lemma acts (system : LockSystem) (action : LockAction) :
    Acts system action (system.act action) := by
  cases action with
  | acquire request => exact .attempts _ rfl (act_of_turn rfl)
  | resume place =>
      cases takes : system.turn? (.resume place) with
      | some turn => exact .attempts turn takes (act_of_turn takes)
      | none =>
          rw [act_resume_of_no_turn takes]
          exact .keeps rfl rfl rfl fun _ _ => rfl
  | release txn page =>
      by_cases nothing : system.locks.table.modeOf? txn page = none
      · refine .keeps rfl ?_ (LockTable.waits_release_of_none nothing)
          (LockTable.modeOf?_release_of_none nothing)
        simp [act, LockManager.release, LockTable.release, nothing]
      · refine .frees txn rfl ?_ (fun waiter holder edge => ?_) (fun other wanted apart => ?_)
        · have released := Option.isSome_iff_ne_none.mpr nothing
          simp [act, LockManager.release, LockTable.release, released]
        · exact ((LockTable.edge_release nothing).mp edge).imp_left Ne.symm
        · exact LockTable.modeOf?_release_of_ne apart page wanted
  | releaseAll txn =>
      refine .frees txn rfl rfl (fun waiter holder edge => ?_) (fun other wanted apart => ?_)
      · obtain ⟨-, target, edge⟩ := LockTable.edge_releaseAll edge
        exact ⟨Ne.symm target, edge⟩
      · exact LockTable.modeOf?_releaseAll_of_ne apart wanted

/-! ### The truth about the waits -/

/-- The transactions in the way of a request. -/
def inTheWay (system : LockSystem) (request : LockRequest) : Std.ExtTreeSet TxnId :=
  system.locks.table.blockers request.txn request.page request.mode

/-- The transactions that a transaction is recorded as waiting for. -/
def waitingOn (system : LockSystem) (txn : TxnId) : List TxnId :=
  system.locks.table.waits.waitingOn txn

lemma mem_waitingOn :
    holder ∈ system.waitingOn waiter ↔ system.locks.table.waits.Edge waiter holder :=
  WaitGraph.mem_waitingOn

/-- The first transaction has a request parked that the second one is in the way of. -/
def Stalled (system : LockSystem) (waiter holder : TxnId) : Prop :=
  ∃ waiting ∈ system.line, waiting.task.txn = waiter ∧ holder ∈ system.inTheWay waiting.task

instance (system : LockSystem) (waiter holder : TxnId) : Decidable (system.Stalled waiter holder) :=
  inferInstanceAs (Decidable (∃ waiting ∈ system.line, _ ∧ _))

/-- The transaction has a request parked. -/
def IsParked (system : LockSystem) (txn : TxnId) : Prop :=
  ∃ waiting ∈ system.line, waiting.task.txn = txn

instance (system : LockSystem) (txn : TxnId) : Decidable (system.IsParked txn) :=
  inferInstanceAs (Decidable (∃ waiting ∈ system.line, _))

/-- The request is parked and was not woken. -/
def Sleeps (system : LockSystem) (waiting : Waiting LockRequest) : Prop :=
  waiting ∈ system.line ∧ waiting.isWoken system.locks.signals = false

/-- No woken request is still to have its turn. -/
def Quiet (system : LockSystem) : Prop :=
  ∀ waiting ∈ system.line, waiting.isWoken system.locks.signals = false

instance (system : LockSystem) : Decidable system.Quiet :=
  inferInstanceAs (Decidable (∀ waiting ∈ system.line, _))

/-- Whoever keeps its modes stays in the way. -/
lemma mem_inTheWay_of_modes {later : LockSystem} {request : LockRequest}
    (same : ∀ wanted,
      later.locks.table.modeOf? holder wanted = system.locks.table.modeOf? holder wanted) :
    holder ∈ later.inTheWay request ↔ holder ∈ system.inTheWay request :=
  LockTable.mem_blockers_of_modeOf?_eq (same request.page)

/-- No attempt puts anybody out of the way. -/
lemma Follows.mem_inTheWay {turn : Attempt} {later : LockSystem} {request : LockRequest}
    (follows : Follows system turn later) (blocks : holder ∈ system.inTheWay request) :
    holder ∈ later.inTheWay request := by
  rw [inTheWay, follows.table]
  exact LockTable.mem_blockers_request _ _ _ _ blocks

/-- An attempt changes what is recorded of its own transaction only. -/
lemma Follows.edge_of_ne {turn : Attempt} {later : LockSystem} (follows : Follows system turn later)
    (apart : waiter ≠ turn.request.txn) :
    later.locks.table.waits.Edge waiter holder ↔
      system.locks.table.waits.Edge waiter holder := by
  rw [follows.table]
  exact LockTable.edge_request_of_ne _ _ _ apart

/-- A request that has to wait is recorded with everybody in its way, and no other one is. -/
lemma Follows.edge_self {turn : Attempt} {later : LockSystem}
    (follows : Follows system turn later) :
    later.locks.table.waits.Edge turn.request.txn holder ↔
      (turn.on system.locks.table).2 = .wait ∧ holder ∈ system.inTheWay turn.request := by
  rw [follows.table]
  exact LockTable.edge_request_self _ _ _ _

/-! ### Nothing but the truth is recorded -/

/-- The wait graph has no cycle and records nothing but the truth, and nobody began to wait in
the future. -/
structure Tracked (system : LockSystem) : Prop where
  acyclic : system.locks.table.waits.Acyclic
  stalled : ∀ waiter holder,
    system.locks.table.waits.Edge waiter holder → system.Stalled waiter holder
  past : ∀ waiting ∈ system.line, waiting.since ≤ system.locks.signals

lemma tracked_initial : initial.Tracked where
  acyclic := WaitGraph.acyclic_empty
  stalled _ _ edge := absurd edge WaitGraph.not_edge_empty
  past _ parked := absurd parked List.not_mem_nil

/-- What an action records is the truth. -/
lemma Tracked.act (tracked : system.Tracked) (action : LockAction) :
    (system.act action).Tracked := by
  cases system.acts action with
  | attempts turn takes follows =>
      refine ⟨?_, fun waiter holder edge => ?_, fun waiting parked => ?_⟩
      · rw [follows.table]
        exact LockTable.acyclic_request tracked.acyclic _ _ _
      · by_cases own : waiter = turn.request.txn
        · subst own
          obtain ⟨waits, blocks⟩ := follows.edge_self.mp edge
          refine ⟨⟨turn.step, turn.request, system.locks.signals⟩, ?_, rfl,
            follows.mem_inTheWay blocks⟩
          rw [follows.line, Attempt.mem_parks]
          exact Or.inr ⟨waits, rfl⟩
        · obtain ⟨waiting, parked, here, blocks⟩ :=
            tracked.stalled waiter holder ((follows.edge_of_ne own).mp edge)
          refine ⟨waiting, ?_, here, follows.mem_inTheWay blocks⟩
          rw [follows.line, Attempt.mem_parks]
          exact Or.inl (mem_others takes parked (here ▸ own))
      · rw [follows.line, Attempt.mem_parks] at parked
        rw [follows.signals]
        rcases parked with stays | ⟨-, rfl⟩
        · exact tracked.past waiting (mem_line_of_mem_others takes stays)
        · exact le_refl _
  | keeps line signals waits modes =>
      refine ⟨?_, fun waiter holder edge => ?_, fun waiting parked => ?_⟩
      · rw [waits]
        exact tracked.acyclic
      · rw [waits] at edge
        obtain ⟨waiting, parked, here, blocks⟩ := tracked.stalled waiter holder edge
        exact ⟨waiting, line ▸ parked, here, (mem_inTheWay_of_modes (modes holder)).mpr blocks⟩
      · rw [signals]
        exact tracked.past waiting (line ▸ parked)
  | frees txn line signals edges modes =>
      refine ⟨?_, fun waiter holder edge => ?_, fun waiting parked => ?_⟩
      · exact tracked.acyclic.anti fun waiter holder edge => (edges waiter holder edge).2
      · -- the edges to the transaction that releases are gone, and the others stay in the way
        obtain ⟨apart, edge⟩ := edges waiter holder edge
        obtain ⟨waiting, parked, here, blocks⟩ := tracked.stalled waiter holder edge
        exact ⟨waiting, line ▸ parked, here,
          (mem_inTheWay_of_modes fun wanted => modes holder wanted apart).mpr blocks⟩
      · rw [signals]
        exact Nat.le_succ_of_le (tracked.past waiting (line ▸ parked))

/-- Along every run nothing but the truth is recorded. -/
theorem tracked_run (actions : List LockAction) : (initial.run actions).Tracked := by
  have along : ∀ system : LockSystem, system.Tracked → (system.run actions).Tracked := by
    induction actions with
    | nil => exact fun _ tracked => tracked
    | cons action rest ih => exact fun _ tracked => ih _ (tracked.act action)
  exact along _ tracked_initial

/-- After a release that releases something nobody sleeps. -/
lemma Tracked.isWoken (tracked : system.Tracked) {signals : Nat} (parked : waiting ∈ system.line)
    (raised : signals = system.locks.signals + 1) : waiting.isWoken signals = true :=
  decide_eq_true (raised ▸ Nat.lt_succ_of_le (tracked.past waiting parked))

/-! ### Runs with one request at a time -/

/-- Every action of a run is allowed where it happens. -/
def Along (allowed : LockSystem → LockAction → Prop) : LockSystem → List LockAction → Prop
  | _, [] => True
  | system, action :: rest => allowed system action ∧ Along allowed (system.act action) rest

instance decidableAlong (allowed : LockSystem → LockAction → Prop)
    [∀ system action, Decidable (allowed system action)] :
    ∀ system actions, Decidable (Along allowed system actions)
  | _, [] => inferInstanceAs (Decidable True)
  | system, action :: rest =>
      have := decidableAlong allowed (system.act action) rest
      inferInstanceAs (Decidable (allowed system action ∧ _))

/-- What every allowed action preserves holds along the run. -/
lemma Along.run {allowed : LockSystem → LockAction → Prop} {holds : LockSystem → Prop}
    (step : ∀ system action, allowed system action → holds system → holds (system.act action))
    {actions : List LockAction} (along : Along allowed system actions) (start : holds system) :
    holds (system.run actions) := by
  induction actions generalizing system with
  | nil => exact start
  | cons action rest ih => exact ih along.2 (step system action along.1 start)

/-- A new request is made only by a transaction that has none parked. -/
def Admits (system : LockSystem) : LockAction → Prop
  | .acquire request => ¬ system.IsParked request.txn
  | .resume _ | .release .. | .releaseAll _ => True

instance (system : LockSystem) (action : LockAction) : Decidable (system.Admits action) :=
  match action with
  | .acquire request => inferInstanceAs (Decidable (¬ system.IsParked request.txn))
  | .resume _ | .release .. | .releaseAll _ => inferInstanceAs (Decidable True)

/-- Each transaction has at most one request in progress. -/
abbrev OneAtATime (actions : List LockAction) : Prop := Along Admits initial actions

/-- In addition each transaction has at most one request parked, and whoever sleeps is recorded
as waiting for somebody. -/
structure Attended (system : LockSystem) : Prop extends Tracked system where
  single : (system.line.map (·.task.txn)).Nodup
  recorded : ∀ waiting, system.Sleeps waiting →
    ∃ holder, system.locks.table.waits.Edge waiting.task.txn holder

/-- While a request has its turn, no other one of its transaction is parked. -/
lemma single_turn {turn : Attempt} (single : (system.line.map (·.task.txn)).Nodup)
    (takes : system.turn? action = some turn) (admits : system.Admits action) :
    (turn.others.map (·.task.txn)).Nodup ∧
      ∀ waiting ∈ turn.others, waiting.task.txn ≠ turn.request.txn := by
  rcases others_cases takes with ⟨rfl, same⟩ | ⟨first, here, -, perm⟩
  · rw [same]
    exact ⟨single, fun waiting parked here => admits ⟨waiting, parked, here⟩⟩
  · have distinct := (perm.map (·.task.txn)).nodup_iff.mpr single
    rw [List.map_cons, List.nodup_cons, here] at distinct
    refine ⟨distinct.2, fun waiting stays own => distinct.1 ?_⟩
    exact List.mem_map.mpr ⟨waiting, stays, own⟩

/-- Afterwards each transaction has still at most one request parked. -/
lemma single_act (single : (system.line.map (·.task.txn)).Nodup) (admits : system.Admits action) :
    ((system.act action).line.map (·.task.txn)).Nodup := by
  cases system.acts action with
  | attempts turn takes follows =>
      obtain ⟨distinct, apart⟩ := single_turn single takes admits
      rw [follows.line]
      cases (turn.on system.locks.table).2 with
      | granted | refused => exact distinct
      | wait =>
          rw [Attempt.parks, List.map_append, List.nodup_append]
          refine ⟨distinct, List.nodup_singleton _, ?_⟩
          intro other listed own here same
          obtain ⟨waiting, stays, rfl⟩ := List.mem_map.mp listed
          exact apart waiting stays (same.trans (List.mem_singleton.mp here))
  | keeps line signals waits modes => rwa [line]
  | frees txn line signals edges modes => rwa [line]

/-- Who sleeps after an attempt is the request itself, or it has slept before and belongs to
another transaction. -/
lemma Follows.sleeps_cases {turn : Attempt} {later : LockSystem}
    (follows : Follows system turn later) (takes : system.turn? action = some turn)
    (single : (system.line.map (·.task.txn)).Nodup) (admits : system.Admits action)
    (sleeps : later.Sleeps waiting) :
    ((turn.on system.locks.table).2 = .wait ∧ waiting.task = turn.request) ∨
      system.Sleeps waiting ∧ waiting.task.txn ≠ turn.request.txn := by
  obtain ⟨parked, asleep⟩ := sleeps
  rw [follows.line, Attempt.mem_parks] at parked
  rw [follows.signals] at asleep
  rcases parked with stays | ⟨waits, rfl⟩
  · exact Or.inr ⟨⟨mem_line_of_mem_others takes stays, asleep⟩,
      (single_turn single takes admits).2 waiting stays⟩
  · exact Or.inl ⟨waits, rfl⟩

/-- Nobody falls asleep without being recorded. -/
lemma Attended.act (attended : system.Attended) (admits : system.Admits action) :
    (system.act action).Attended := by
  refine ⟨attended.toTracked.act action, single_act attended.single admits,
    fun waiting sleeps => ?_⟩
  cases system.acts action with
  | attempts turn takes follows =>
      rcases follows.sleeps_cases takes attended.single admits sleeps with
        ⟨waits, here⟩ | ⟨before, apart⟩
      · obtain ⟨holder, blocks⟩ := LockTable.exists_mem_blockers waits
        rw [here]
        exact ⟨holder, follows.edge_self.mpr ⟨waits, blocks⟩⟩
      · obtain ⟨holder, edge⟩ := attended.recorded waiting before
        exact ⟨holder, (follows.edge_of_ne apart).mpr edge⟩
  | keeps line signals waits modes =>
      rw [waits]
      exact attended.recorded waiting ⟨line ▸ sleeps.1, signals ▸ sleeps.2⟩
  | frees txn line signals edges modes =>
      have woken := attended.isWoken (line ▸ sleeps.1) signals
      rw [sleeps.2] at woken
      cases woken

theorem attended_run {actions : List LockAction} (single : OneAtATime actions) :
    (initial.run actions).Attended := by
  refine single.run (fun system action admits attended => Attended.act attended admits) ?_
  exact ⟨tracked_initial, List.nodup_nil, fun waiting sleeps => absurd sleeps.1 List.not_mem_nil⟩

/-- Whoever sleeps is recorded as waiting for nobody but those in its way. -/
lemma Attended.mem_inTheWay (attended : system.Attended) (parked : waiting ∈ system.line)
    (edge : system.locks.table.waits.Edge waiting.task.txn holder) :
    holder ∈ system.inTheWay waiting.task := by
  obtain ⟨other, listed, own, blocks⟩ := attended.stalled _ holder edge
  -- the transaction has only one request parked
  have same : other = waiting := List.inj_on_of_nodup_map attended.single listed parked own
  rwa [same] at blocks

/-! ### Runs in which nobody overtakes -/

/-- An action puts somebody in the way of a request that sleeps through it. -/
def Overtakes (system : LockSystem) (action : LockAction) : Prop :=
  ∃ waiting ∈ system.line, waiting.isWoken (system.act action).locks.signals = false ∧
    ∃ holder ∈ ((system.act action).inTheWay waiting.task).toList,
      holder ∉ system.inTheWay waiting.task

instance (system : LockSystem) (action : LockAction) : Decidable (system.Overtakes action) :=
  inferInstanceAs (Decidable (∃ waiting ∈ system.line, _ ∧ _))

/-- Only a shared lock is ever granted past a sleeping request, which wants the same page to
itself. -/
theorem Attended.shares_of_overtakes (attended : system.Attended)
    (overtakes : system.Overtakes action) :
    ∃ request, system.ends? action = some (request, .done) ∧ request.mode = .shared ∧
      ∃ waiting, system.Sleeps waiting ∧ waiting.task.page = request.page ∧
        waiting.task.mode = .exclusive := by
  obtain ⟨waiting, parked, asleep, holder, blocks, free⟩ := overtakes
  rw [Std.ExtTreeSet.mem_toList] at blocks
  cases system.acts action with
  | keeps line signals waits modes =>
      exact absurd ((mem_inTheWay_of_modes (modes holder)).mp blocks) free
  | frees txn line signals edges modes =>
      have woken := attended.isWoken parked signals
      rw [asleep] at woken
      cases woken
  | attempts turn takes follows =>
      have sleeps : system.Sleeps waiting := ⟨parked, follows.signals ▸ asleep⟩
      rw [inTheWay, follows.table] at blocks
      rcases system.locks.table.request_cases turn.request.txn turn.request.page
          turn.request.mode with ⟨granted, nobody, same⟩ | ⟨denied, -⟩
      · rw [Attempt.on, same] at blocks
        obtain ⟨rfl, here⟩ := (LockTable.mem_blockers_of_grant nobody blocks).resolve_left free
        -- somebody else holds the page, and shares it with the newcomer
        obtain ⟨other, edge⟩ := attended.recorded waiting sleeps
        have before := attended.mem_inTheWay parked edge
        obtain ⟨-, held, holds, conflict⟩ := LockTable.mem_blockers_iff.mp before
        have newcomer : other ≠ turn.request.txn := by
          rintro rfl
          exact free before
        have weak : ¬ (held = .exclusive ∨ turn.request.mode = .exclusive) := by
          intro strong
          have inside := LockTable.mem_blockers_iff.mpr ⟨newcomer, held, here ▸ holds, strong⟩
          rw [nobody] at inside
          exact Std.ExtTreeSet.not_mem_empty inside
        have shared : turn.request.mode = .shared := by
          cases wanted : turn.request.mode with
          | shared => rfl
          | exclusive => exact absurd (Or.inr wanted) weak
        refine ⟨turn.request, ?_, shared, waiting, sleeps, here,
          conflict.resolve_left fun strong => weak (Or.inl strong)⟩
        rw [ends?_of_turn takes, Attempt.on, granted]
      · rw [Attempt.on, LockTable.blockers_request_of_not_granted denied] at blocks
        exact absurd blocks free

/-- Each transaction has at most one request in progress, and nobody is put in the way of a
request that sleeps. -/
abbrev Fair (actions : List LockAction) : Prop :=
  Along (fun system action => system.Admits action ∧ ¬ system.Overtakes action) initial actions

/-- In addition everybody in the way of a sleeping request is recorded. -/
structure Faithful (system : LockSystem) : Prop extends Attended system where
  complete : ∀ waiting, system.Sleeps waiting → ∀ holder ∈ system.inTheWay waiting.task,
    system.locks.table.waits.Edge waiting.task.txn holder

/-- As long as nobody overtakes, everybody in the way stays recorded. -/
lemma Faithful.act (faithful : system.Faithful) (admits : system.Admits action)
    (fair : ¬ system.Overtakes action) : (system.act action).Faithful := by
  refine ⟨faithful.toAttended.act admits, fun waiting sleeps holder blocks => ?_⟩
  cases system.acts action with
  | attempts turn takes follows =>
      rcases follows.sleeps_cases takes faithful.single admits sleeps with
        ⟨waits, here⟩ | ⟨before, apart⟩
      · have same := LockTable.blockers_request_of_not_granted
          (fun granted => Verdict.noConfusion (granted.symm.trans waits))
        rw [here, inTheWay, follows.table, Attempt.on, same] at blocks
        rw [here]
        exact follows.edge_self.mpr ⟨waits, blocks⟩
      · have blocked : holder ∈ system.inTheWay waiting.task := by
          by_contra free
          exact fair ⟨waiting, before.1, sleeps.2, holder, Std.ExtTreeSet.mem_toList.mpr blocks,
            free⟩
        exact (follows.edge_of_ne apart).mpr (faithful.complete waiting before holder blocked)
  | keeps line signals waits modes =>
      rw [waits]
      exact faithful.complete waiting ⟨line ▸ sleeps.1, signals ▸ sleeps.2⟩ holder
        ((mem_inTheWay_of_modes (modes holder)).mp blocks)
  | frees txn line signals edges modes =>
      have woken := faithful.isWoken (line ▸ sleeps.1) signals
      rw [sleeps.2] at woken
      cases woken

theorem faithful_run {actions : List LockAction} (fair : Fair actions) :
    (initial.run actions).Faithful := by
  refine fair.run (fun system action allowed faithful =>
    Faithful.act faithful allowed.1 allowed.2) ?_
  exact ⟨⟨tracked_initial, List.nodup_nil, fun waiting sleeps => absurd sleeps.1 List.not_mem_nil⟩,
    fun waiting sleeps => absurd sleeps.1 List.not_mem_nil⟩

end PageTxn.LockSystem
