import Mathlib.Data.Fintype.Pigeonhole
import PageTxn.Proofs.Parking

/-!
What the deadlock detection of a lock manager does, and what it misses.

* `no_false_deadlock`: whoever is refused would have closed a cycle of transactions that really
  are in each other's way, and the refusal changes nothing for the others.
* `no_lost_wakeup`: the recorded waits have no cycle, nobody sleeps on a request that could be
  granted, and whoever follows the recorded waits comes to somebody who holds a lock and has no
  request parked.
* `undetected_deadlock`: a shared lock that is granted past a sleeping request is not recorded,
  and so transactions can block each other forever without being refused.
* `deadlock_detected`: if nobody is put in the way of a sleeping request, then every deadlock is
  detected.
-/

namespace PageTxn

open Relation

/-- A way under the later relation to the one place where steps may be new is a way under the
earlier relation. -/
lemma transGen_to_pivot {α : Type*} {earlier later : α → α → Prop} {pivot a : α}
    (same : ∀ x y, x ≠ pivot → later x y → earlier x y) (apart : a ≠ pivot)
    (way : ReflTransGen later a pivot) : TransGen earlier a pivot := by
  induction way using ReflTransGen.head_induction_on with
  | refl => exact absurd rfl apart
  | @head a middle first rest ih =>
      by_cases here : middle = pivot
      · subst here
        exact .single (same _ _ apart first)
      · exact .head (same _ _ apart first) (ih here)

namespace LockSystem

variable {system : LockSystem} {action : LockAction} {txn : TxnId}

/-! ### Refusals -/

/-- Whoever is refused is in a cycle of transactions that are in each other's way. -/
lemma Tracked.transGen_of_refused (tracked : system.Tracked) {turn : Attempt}
    (takes : system.turn? action = some turn)
    (refused : (turn.on system.locks.table).2 = .refused) :
    ∃ first ∈ (system.act action).inTheWay turn.request, first ≠ turn.request.txn ∧
      TransGen (system.act action).Stalled first turn.request.txn := by
  have later := tracked.act action
  have follows := act_of_turn takes
  obtain ⟨closes, waits⟩ := LockTable.closes_of_refused refused
  obtain ⟨first, step, rest⟩ := TransGen.head'_iff.mp (WaitGraph.hasCycleFrom_iff.mp closes)
  rw [WaitGraph.edge_setWaits, if_pos rfl] at step
  have apart := LockTable.ne_of_mem_blockers step
  refine ⟨first, follows.mem_inTheWay step, apart, transGen_to_pivot ?_ apart rest⟩
  intro waiter holder other edge
  rw [WaitGraph.edge_setWaits, if_neg (Ne.symm other)] at edge
  exact later.stalled waiter holder ((follows.edge_of_ne other).mpr edge)

end LockSystem

/-- **No false deadlocks.** After any interleaving of requests, turns of parked requests and
releases, everybody who is recorded as waiting for a transaction has a request parked that this
transaction is in the way of. Whenever a request ends in a deadlock error, somebody else is in
its way who in turn cannot go on before the requesting transaction does; the locks and the pages
of the transactions stay as they were, and so do the recorded waits of the others, while nothing
is left recorded for the requesting transaction. -/
theorem no_false_deadlock (actions : List LockAction) :
    let system := LockSystem.initial.run actions
    (∀ waiter, ∀ holder ∈ system.waitingOn waiter, system.Stalled waiter holder) ∧
    ∀ action request txn, system.ends? action = some (request, .failed (.deadlock txn)) →
      let later := system.act action
      request.txn = txn ∧
      (∃ first ∈ later.inTheWay request, first ≠ txn ∧ TransGen later.Stalled first txn) ∧
      later.locks.table.locks = system.locks.table.locks ∧
      later.locks.table.held = system.locks.table.held ∧
      (∀ other, other ≠ txn → later.waitingOn other = system.waitingOn other) ∧
      later.waitingOn txn = [] := by
  intro system
  have tracked : system.Tracked := LockSystem.tracked_run actions
  have recorded : ∀ waiter, ∀ holder ∈ system.waitingOn waiter, system.Stalled waiter holder :=
    fun waiter holder listed => tracked.stalled waiter holder (LockSystem.mem_waitingOn.mp listed)
  refine ⟨recorded, fun action request txn refusal => ?_⟩
  obtain ⟨rfl, turn, takes, rfl, refused⟩ := LockSystem.refused_of_ends? refusal
  have table : (system.act action).locks.table = (turn.on system.locks.table).1 :=
    (LockSystem.act_of_turn takes).table
  obtain ⟨-, same⟩ := LockTable.closes_of_refused refused
  rw [LockSystem.Attempt.on, same] at table
  refine ⟨rfl, tracked.transGen_of_refused takes refused, ?_, ?_, fun other apart => ?_, ?_⟩
  · rw [table]
  · rw [table]
  · rw [LockSystem.waitingOn, table, WaitGraph.waitingOn, WaitGraph.holders_clearWaits,
      WaitGraph.holders_setWaits, if_neg (Ne.symm apart), if_neg (Ne.symm apart)]
    rfl
  · rw [LockSystem.waitingOn, table, WaitGraph.waitingOn, WaitGraph.holders_clearWaits, if_pos rfl]
    rfl

/-- Two transactions hold a page each, and the first waits for the page of the second. When the
second asks for the page of the first it is refused. -/
theorem no_false_deadlock_crossing :
    let left : PageId := ⟨⟨1⟩, 0⟩
    let right : PageId := ⟨⟨1⟩, 1⟩
    let system := LockSystem.initial.run
      [.acquire ⟨⟨1⟩, left, .exclusive⟩, .acquire ⟨⟨2⟩, right, .exclusive⟩,
        .acquire ⟨⟨1⟩, right, .exclusive⟩]
    let action : LockAction := .acquire ⟨⟨2⟩, left, .exclusive⟩
    system.ends? action = some (⟨⟨2⟩, left, .exclusive⟩, .failed (.deadlock ⟨2⟩)) ∧
      TransGen (system.act action).Stalled ⟨1⟩ ⟨2⟩ := by
  intro left right system action
  have refusal : system.ends? action =
      some (⟨⟨2⟩, left, .exclusive⟩, .failed (.deadlock ⟨2⟩)) := by decide
  have cycle := ((no_false_deadlock _).2 action _ _ refusal).2.1
  obtain ⟨first, blocks, -, way⟩ := cycle
  have only : (system.act action).inTheWay ⟨⟨2⟩, left, .exclusive⟩ = {⟨1⟩} := by decide
  have same : ⟨1⟩ = first := by
    rw [only] at blocks
    simpa using blocks
  exact ⟨refusal, same ▸ way⟩

/-! ### Sleeping requests -/

namespace LockSystem

/-- Whoever follows the recorded waits as long as there are any comes to somebody who has no
request parked. -/
lemma Tracked.exists_not_isParked {system : LockSystem} (tracked : system.Tracked)
    {way : Nat → TxnId} (follows : ∀ n, system.IsParked (way n) →
      system.locks.table.waits.Edge (way n) (way (n + 1))) :
    ∃ n, ¬ system.IsParked (way n) := by
  by_contra all
  have parked : ∀ n, system.IsParked (way n) := fun n => not_not.mp (not_exists.mp all n)
  -- there are only so many parked transactions, so that the way comes back to one of them
  have inside : ∀ n, way n ∈ (system.line.map (·.task.txn)).toFinset := by
    intro n
    obtain ⟨waiting, listed, here⟩ := parked n
    exact List.mem_toFinset.mpr (List.mem_map.mpr ⟨waiting, listed, here⟩)
  obtain ⟨first, second, apart, same⟩ :=
    Finite.exists_ne_map_eq_of_infinite fun n : Nat =>
      (⟨way n, inside n⟩ : {txn // txn ∈ (system.line.map (·.task.txn)).toFinset})
  have step : ∀ n, TransGen system.locks.table.waits.Edge (way n) (way (n + 1)) :=
    fun n => .single (follows n (parked n))
  have back : way first = way second := congrArg Subtype.val same
  rcases Nat.lt_or_gt_of_ne apart with before | after
  · have cycle := Nat.rel_of_forall_rel_succ_of_lt _ step before
    rw [back] at cycle
    exact tracked.acyclic _ cycle
  · have cycle := Nat.rel_of_forall_rel_succ_of_lt _ step after
    rw [back] at cycle
    exact tracked.acyclic _ cycle

end LockSystem

/-- **No lost wakeup.** After any interleaving of requests, turns and releases in which each
transaction has at most one request in progress, the recorded waits have no cycle. Once no woken
request is still to have its turn, somebody is in the way of each parked request, and its
transaction is recorded as waiting for somebody and only for those in the way. So whoever follows
the recorded waits from a parked transaction comes to one that holds a lock and has no request
parked. -/
theorem no_lost_wakeup {actions : List LockAction} (single : LockSystem.OneAtATime actions) :
    let system := LockSystem.initial.run actions
    (∀ txn, ¬ TransGen (fun waiter holder => holder ∈ system.waitingOn waiter) txn txn) ∧
    (system.Quiet →
      (∀ waiting ∈ system.line,
        system.inTheWay waiting.task ≠ ∅ ∧ system.waitingOn waiting.task.txn ≠ [] ∧
          ∀ holder ∈ system.waitingOn waiting.task.txn, holder ∈ system.inTheWay waiting.task) ∧
      ∀ way : Nat → TxnId, system.IsParked (way 0) →
        (∀ n, system.IsParked (way n) → way (n + 1) ∈ system.waitingOn (way n)) →
        ∃ n, (∀ earlier < n, system.IsParked (way earlier)) ∧ ¬ system.IsParked (way n) ∧
          ∃ page, system.locks.table.modeOf? (way n) page ≠ none) := by
  intro system
  have attended : system.Attended := LockSystem.attended_run single
  have listing : (fun waiter holder => holder ∈ system.waitingOn waiter) =
      system.locks.table.waits.Edge := by
    funext waiter holder
    exact propext LockSystem.mem_waitingOn
  have blocking : ∀ waiting ∈ system.line, ∀ holder ∈ system.waitingOn waiting.task.txn,
      holder ∈ system.inTheWay waiting.task := fun waiting parked holder listed =>
    attended.mem_inTheWay parked (LockSystem.mem_waitingOn.mp listed)
  refine ⟨?_, fun quiet => ⟨fun waiting parked => ?_, fun way start follows => ?_⟩⟩
  · rw [listing]
    exact attended.acyclic
  · obtain ⟨holder, edge⟩ := attended.recorded waiting ⟨parked, quiet waiting parked⟩
    have listed : holder ∈ system.waitingOn waiting.task.txn := LockSystem.mem_waitingOn.mpr edge
    refine ⟨fun nobody => ?_, List.ne_nil_of_mem listed, blocking waiting parked⟩
    have blocks := blocking waiting parked holder listed
    rw [nobody] at blocks
    exact Std.ExtTreeSet.not_mem_empty blocks
  · have arrives := attended.exists_not_isParked fun n parked =>
      LockSystem.mem_waitingOn.mp (follows n parked)
    classical
    have before : ∀ earlier < Nat.find arrives, system.IsParked (way earlier) :=
      fun earlier less => not_not.mp (Nat.find_min arrives less)
    refine ⟨Nat.find arrives, before, Nat.find_spec arrives, ?_⟩
    -- the last step leads to somebody who is in the way of a parked request
    cases last : Nat.find arrives with
    | zero => exact absurd start (last ▸ Nat.find_spec arrives)
    | succ n =>
        have parked := before n (by omega)
        have next := follows n parked
        obtain ⟨waiting, listed, here⟩ := parked
        have blocks := blocking waiting listed (way (n + 1)) (here ▸ next)
        obtain ⟨-, mode, holds, -⟩ := LockTable.mem_blockers_iff.mp blocks
        exact ⟨waiting.task.page, by simp [holds]⟩

/-- A transaction waits for the page of a second one, which waits for the page of a third one. -/
def LockSystem.chain : List LockAction :=
  [.acquire ⟨⟨3⟩, ⟨⟨1⟩, 3⟩, .shared⟩, .acquire ⟨⟨2⟩, ⟨⟨1⟩, 2⟩, .exclusive⟩,
    .acquire ⟨⟨2⟩, ⟨⟨1⟩, 3⟩, .exclusive⟩, .acquire ⟨⟨1⟩, ⟨⟨1⟩, 2⟩, .shared⟩]

/-- In the chain nobody was woken, and the recorded waits lead from the first transaction to one
that is not parked. -/
theorem no_lost_wakeup_chain :
    LockSystem.OneAtATime LockSystem.chain ∧ (LockSystem.initial.run LockSystem.chain).Quiet ∧
      (LockSystem.initial.run LockSystem.chain).IsParked ⟨1⟩ ∧
      ∃ txn, ¬ (LockSystem.initial.run LockSystem.chain).IsParked txn ∧
        ∃ page, (LockSystem.initial.run LockSystem.chain).locks.table.modeOf? txn page ≠ none := by
  have single : LockSystem.OneAtATime LockSystem.chain := by decide
  have quiet : (LockSystem.initial.run LockSystem.chain).Quiet := by decide
  have first : (LockSystem.initial.run LockSystem.chain).IsParked ⟨1⟩ := by decide
  have third : ¬ (LockSystem.initial.run LockSystem.chain).IsParked ⟨3⟩ := by decide
  obtain ⟨way, zero, one, rest⟩ : ∃ way : Nat → TxnId,
      way 0 = ⟨1⟩ ∧ way 1 = ⟨2⟩ ∧ ∀ n, way (n + 2) = ⟨3⟩ :=
    ⟨fun | 0 => ⟨1⟩ | 1 => ⟨2⟩ | _ => ⟨3⟩, rfl, rfl, fun _ => rfl⟩
  have follows : ∀ n, (LockSystem.initial.run LockSystem.chain).IsParked (way n) →
      way (n + 1) ∈ (LockSystem.initial.run LockSystem.chain).waitingOn (way n) := by
    intro n here
    match n with
    | 0 =>
        rw [zero, one]
        decide
    | 1 =>
        rw [one, rest 0]
        decide
    | n + 2 => exact absurd (rest n ▸ here) third
  obtain ⟨n, -, idle, holds⟩ := ((no_lost_wakeup single).2 quiet).2 way (zero ▸ first) follows
  exact ⟨single, quiet, first, way n, idle, holds⟩

/-! ### Deadlocks that are missed, and deadlocks that are detected -/

/-- **A deadlock that is not detected.** A transaction waits to have a page to itself that another
one reads, and a third one is let in to read the page as well; that is recorded nowhere. When the
third one then asks for a page that the first one holds, it is left to wait: each is in the other's
way, and neither was refused. -/
theorem undetected_deadlock :
    let page : Nat → PageId := fun number => ⟨⟨1⟩, number⟩
    let actions : List LockAction :=
      [.acquire ⟨⟨1⟩, page 0, .shared⟩, .acquire ⟨⟨2⟩, page 1, .exclusive⟩,
        .acquire ⟨⟨2⟩, page 0, .exclusive⟩, .acquire ⟨⟨3⟩, page 0, .shared⟩,
        .acquire ⟨⟨3⟩, page 1, .shared⟩]
    let system := LockSystem.initial.run actions
    LockSystem.OneAtATime actions ∧ system.Quiet ∧ system.Stalled ⟨2⟩ ⟨3⟩ ∧ system.Stalled ⟨3⟩ ⟨2⟩ ∧
      TransGen system.Stalled ⟨2⟩ ⟨2⟩ := by
  intro page actions system
  have there : system.Stalled ⟨2⟩ ⟨3⟩ := by decide
  have back : system.Stalled ⟨3⟩ ⟨2⟩ := by decide
  exact ⟨by decide, by decide, there, back, .tail (.single there) back⟩

namespace LockSystem

variable {system : LockSystem} {action : LockAction}

/-- Where everybody in the way of a sleeping request is recorded, no sleeping requests are in each
other's way. -/
lemma Faithful.not_transGen (faithful : system.Faithful) (quiet : system.Quiet) (txn : TxnId) :
    ¬ TransGen system.Stalled txn txn := by
  have recorded : system.Stalled ≤ system.locks.table.waits.Edge := by
    rintro waiter holder ⟨waiting, parked, rfl, blocks⟩
    exact faithful.complete waiting ⟨parked, quiet waiting parked⟩ holder blocks
  exact fun cycle => faithful.acyclic txn (TransGen.mono recorded _ _ cycle)

/-- A request that has to wait overtakes nobody. -/
lemma not_overtakes_of_wait {turn : Attempt} (takes : system.turn? action = some turn)
    (waits : (turn.on system.locks.table).2 = .wait) : ¬ system.Overtakes action := by
  rintro ⟨waiting, -, -, holder, blocks, free⟩
  have denied : (turn.on system.locks.table).2 ≠ .granted := by simp [waits]
  have same := LockTable.blockers_request_of_not_granted denied
  rw [Std.ExtTreeSet.mem_toList, inTheWay, (act_of_turn takes).table, Attempt.on, same] at blocks
  exact free blocks

/-- Whoever stalled before an attempt is stalled after it, if the request has to wait. -/
lemma stalled_of_wait {turn : Attempt} (takes : system.turn? action = some turn)
    (waits : (turn.on system.locks.table).2 = .wait) :
    system.Stalled ≤ (system.act action).Stalled := by
  rintro waiter holder ⟨waiting, parked, own, blocks⟩
  have follows := act_of_turn takes
  have still := follows.mem_inTheWay blocks
  have kept : ∃ other ∈ (system.act action).line, other.task = waiting.task := by
    rw [follows.line, waits, Attempt.parks]
    rcases others_cases takes with ⟨-, same⟩ | ⟨first, here, -, perm⟩
    · exact ⟨waiting, List.mem_append_left _ (same ▸ parked), rfl⟩
    · rcases List.mem_cons.mp (perm.symm.subset parked) with rfl | stays
      · exact ⟨_, List.mem_append_right _ (List.mem_singleton_self _), here.symm⟩
      · exact ⟨waiting, List.mem_append_left _ stays, rfl⟩
  obtain ⟨other, listed, same⟩ := kept
  exact ⟨other, listed, same ▸ own, same ▸ still⟩

/-- A request whose parking would close a cycle is refused, as long as the others sleep and
everybody in their way is recorded. -/
lemma Faithful.refuses (faithful : system.Faithful) {turn : Attempt}
    (takes : system.turn? action = some turn) (admits : system.Admits action)
    (asleep : ∀ waiting ∈ turn.others, waiting.isWoken system.locks.signals = false)
    {first : TxnId} (blocks : first ∈ system.inTheWay turn.request)
    (back : ReflTransGen system.Stalled first turn.request.txn) :
    system.ends? action = some (turn.request, .failed (.deadlock turn.request.txn)) := by
  have follows := act_of_turn takes
  rw [ends?_of_turn takes]
  cases answer : (turn.on system.locks.table).2 with
  | refused => rfl
  | granted =>
      rcases system.locks.table.request_cases turn.request.txn turn.request.page
          turn.request.mode with ⟨-, nobody, -⟩ | ⟨denied, -⟩
      · rw [inTheWay, nobody] at blocks
        exact absurd blocks Std.ExtTreeSet.not_mem_empty
      · exact absurd answer denied
  | wait =>
      -- if the request were parked, the cycle would be there
      have later := faithful.act admits (not_overtakes_of_wait takes answer)
      have parked : ∀ waiting, waiting ∈ (system.act action).line ↔ waiting ∈ turn.others ∨
          waiting = ⟨turn.step, turn.request, system.locks.signals⟩ := by
        intro waiting
        rw [follows.line, Attempt.mem_parks, answer]
        simp
      have quiet : (system.act action).Quiet := by
        intro waiting listed
        rw [follows.signals]
        rcases (parked waiting).mp listed with stays | rfl
        · exact asleep waiting stays
        · simp [Waiting.isWoken]
      have step : (system.act action).Stalled turn.request.txn first :=
        ⟨_, (parked _).mpr (Or.inr rfl), rfl, follows.mem_inTheWay blocks⟩
      have rest := ReflTransGen.mono (stalled_of_wait takes answer) _ _ back
      exact absurd (TransGen.head' step rest) (later.not_transGen quiet _)

end LockSystem

/-- **Deadlock detection.** After any interleaving of requests, turns and releases in which each
transaction has at most one request in progress and nobody is put in the way of a sleeping request,
once no woken request is still to have its turn, no parked transactions are in each other's way.
A request that would complete such a cycle if it were parked ends in a deadlock error. -/
theorem deadlock_detected {actions : List LockAction} (fair : LockSystem.Fair actions) :
    let system := LockSystem.initial.run actions
    (system.Quiet → ∀ txn, ¬ TransGen system.Stalled txn txn) ∧
    ∀ action turn, system.turn? action = some turn → system.Admits action →
      (∀ waiting ∈ turn.others, waiting.isWoken system.locks.signals = false) →
      ∀ first ∈ system.inTheWay turn.request,
        ReflTransGen system.Stalled first turn.request.txn →
        system.ends? action = some (turn.request, .failed (.deadlock turn.request.txn)) := by
  intro system
  have faithful : system.Faithful := LockSystem.faithful_run fair
  exact ⟨faithful.not_transGen, fun action turn takes admits asleep first blocks back =>
    faithful.refuses takes admits asleep blocks back⟩

/-- Two transactions share a page and the first asks to have it alone. When the second asks for the
same it is refused. -/
theorem deadlock_detected_upgrade :
    let page : PageId := ⟨⟨1⟩, 0⟩
    let actions : List LockAction :=
      [.acquire ⟨⟨1⟩, page, .shared⟩, .acquire ⟨⟨2⟩, page, .shared⟩,
        .acquire ⟨⟨1⟩, page, .exclusive⟩]
    let system := LockSystem.initial.run actions
    LockSystem.Fair actions ∧ system.Stalled ⟨1⟩ ⟨2⟩ ∧ ¬ TransGen system.Stalled ⟨1⟩ ⟨1⟩ ∧
      system.ends? (.acquire ⟨⟨2⟩, page, .exclusive⟩) =
        some (⟨⟨2⟩, page, .exclusive⟩, .failed (.deadlock ⟨2⟩)) := by
  intro page actions system
  have fair : LockSystem.Fair actions := by decide
  have quiet : system.Quiet := by decide
  have back : system.Stalled ⟨1⟩ ⟨2⟩ := by decide
  have blocks : ⟨1⟩ ∈ system.inTheWay ⟨⟨2⟩, page, .exclusive⟩ := by decide
  obtain ⟨free, refuses⟩ := deadlock_detected fair
  exact ⟨fair, back, free quiet ⟨1⟩,
    refuses (.acquire ⟨⟨2⟩, page, .exclusive⟩) _ rfl (by decide) quiet ⟨1⟩ blocks (.single back)⟩

end PageTxn
