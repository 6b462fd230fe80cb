import PageTxn.Lock.Script
import PageTxn.Proofs.LockTable

/-!
Runs of a lock manager under any interleaving of its requests.

* A `LockSystem` is a lock manager together with the requests that are parked in it. Its
  actions are new requests, turns of parked requests that were woken, in any order, and
  releases, by any transaction on any page.
* `LockSystem.sound_run`: the lock table is sound after every run.
* `lock_table_integrity`: what that means for the views of the lock manager.
-/

namespace PageTxn

/-- A lock manager and the requests that are parked in it. -/
structure LockSystem where
  locks : LockManager
  line : List (Waiting LockRequest)
  /-- How many requests were made so far. -/
  asked : Nat

/-- What may happen next. -/
inductive LockAction where
  | acquire (request : LockRequest)
  /-- The request parked at this place of the line has its turn, if it was woken. -/
  | resume (place : Nat)
  | release (txn : TxnId) (page : PageId)
  | releaseAll (txn : TxnId)
  deriving DecidableEq

namespace LockSystem

/-- Nothing is locked and nobody waits. -/
def initial : LockSystem := ⟨.empty, [], 0⟩

/-- What an attempt leaves behind: a request that has to wait goes to the end of the line. -/
def follow (system : LockSystem) (step : Nat) :
    LockManager × Turn LockRequest LockReply → LockSystem
  | (locks, .parked request) =>
      { system with locks, line := system.line ++ [⟨step, request, locks.signals⟩] }
  | (locks, .finished _) => { system with locks }

/-- Let something happen. -/
def act (system : LockSystem) : LockAction → LockSystem
  | .acquire request =>
      { system with asked := system.asked + 1 }.follow system.asked
        (LockScript.attempt false system.locks request)
  | .resume place =>
      match system.line[place]? with
      | none => system
      | some waiting =>
          if waiting.isWoken system.locks.signals then
            { system with line := system.line.eraseIdx place }.follow waiting.step
              (LockScript.attempt true system.locks waiting.task)
          else system
  | .release txn page => { system with locks := system.locks.release txn page }
  | .releaseAll txn => { system with locks := system.locks.releaseAll txn }

/-- Let one thing happen after the other. -/
def run (system : LockSystem) (actions : List LockAction) : LockSystem :=
  actions.foldl act system

/-- An attempt leaves the lock table as the request does. -/
lemma table_follow_attempt (system : LockSystem) (step : Nat) (waited : Bool)
    (locks : LockManager) (request : LockRequest) :
    (system.follow step (LockScript.attempt waited locks request)).locks.table =
      (locks.table.request request.txn request.page request.mode).1 := by
  have table : (locks.request request.txn request.page request.mode waited).1.table =
      (locks.table.request request.txn request.page request.mode).1 := rfl
  rw [← table, LockScript.attempt]
  split <;> next h => rw [h]; rfl

/-- Whatever happens keeps the lock table sound. -/
lemma sound_act {system : LockSystem} (sound : system.locks.table.Sound)
    (action : LockAction) : (system.act action).locks.table.Sound := by
  cases action with
  | acquire request =>
      rw [act, table_follow_attempt]
      exact sound.request request.txn request.page request.mode
  | resume place =>
      rw [act]
      split
      · exact sound
      · next waiting _ =>
        split
        · rw [table_follow_attempt]
          exact sound.request waiting.task.txn waiting.task.page waiting.task.mode
        · exact sound
  | release txn page => exact sound.release txn page
  | releaseAll txn => exact sound.releaseAll txn

/-- The lock table is sound after every run that begins in a sound one. -/
lemma sound_run {system : LockSystem} (sound : system.locks.table.Sound)
    (actions : List LockAction) : (system.run actions).locks.table.Sound := by
  induction actions generalizing system with
  | nil => exact sound
  | cons action rest ih => exact ih (sound_act sound action)

end LockSystem

/-- **Integrity of the lock table.** After any interleaving of requests, turns of parked
requests and releases, the pages listed for a transaction are exactly those on which it has
a mode; next to an exclusive holder nobody else is listed or has a mode; and neither an empty
set of sharers nor an empty set of pages is kept. -/
theorem lock_table_integrity (actions : List LockAction) :
    let locks := (LockSystem.initial.run actions).locks
    (∀ (txn : TxnId) (page : PageId),
      (locks.holds txn page = true ↔ (locks.table.modeOf? txn page).isSome = true) ∧
      (page ∈ locks.heldPages txn ↔ (locks.table.modeOf? txn page).isSome = true)) ∧
    (∀ (txn other : TxnId) (page : PageId),
      locks.table.modeOf? txn page = some .exclusive → other ≠ txn →
        locks.holds other page = false ∧ page ∉ locks.heldPages other ∧
          locks.table.modeOf? other page = none) ∧
    (∀ (page : PageId) (holders : Std.ExtTreeSet TxnId),
      locks.table.locks[page]? = some (.shared holders) → holders ≠ ∅) ∧
    (∀ (txn : TxnId) (pages : Std.ExtTreeSet PageId),
      locks.table.held[txn]? = some pages → pages ≠ ∅) := by
  intro locks
  have sound : locks.table.Sound := LockSystem.sound_run LockTable.sound_empty actions
  have holds_iff : ∀ (txn : TxnId) (page : PageId),
      locks.holds txn page = true ↔ (locks.table.modeOf? txn page).isSome = true := by
    intro txn page
    rw [LockManager.holds, LockTable.holds, Std.ExtTreeSet.contains_iff_mem, sound.mem_pagesOf,
      Option.isSome_iff_ne_none]
  have mem_iff : ∀ (txn : TxnId) (page : PageId),
      page ∈ locks.heldPages txn ↔ (locks.table.modeOf? txn page).isSome = true := by
    intro txn page
    rw [LockManager.heldPages, sound.mem_heldPages, Option.isSome_iff_ne_none]
  refine ⟨fun txn page => ⟨holds_iff txn page, mem_iff txn page⟩, ?_, sound.sharers,
    sound.holdings⟩
  intro txn other page exclusive apart
  have nothing : locks.table.modeOf? other page = none :=
    LockTable.modeOf?_eq_none_of_exclusive exclusive apart
  refine ⟨?_, ?_, nothing⟩
  · rw [← Bool.not_eq_true, holds_iff, nothing]
    simp
  · rw [mem_iff, nothing]
    simp

/-- Two sharers of a page, of whom one waits to have it alone: once the other has released
everything, the parked request has its turn and the integrity tells that nobody else is
listed on the page. -/
theorem lock_table_integrity_after_upgrade :
    let page : PageId := ⟨⟨1⟩, 0⟩
    let locks := (LockSystem.initial.run
      [.acquire ⟨⟨1⟩, page, .shared⟩, .acquire ⟨⟨2⟩, page, .shared⟩,
        .acquire ⟨⟨1⟩, page, .exclusive⟩, .releaseAll ⟨2⟩, .resume 0]).locks
    locks.table.modeOf? ⟨1⟩ page = some .exclusive ∧ page ∉ locks.heldPages ⟨2⟩ := by
  intro page locks
  have exclusive : locks.table.modeOf? ⟨1⟩ page = some .exclusive := by decide
  exact ⟨exclusive,
    ((lock_table_integrity _).2.1 ⟨1⟩ ⟨2⟩ page exclusive (by decide)).2.1⟩

end PageTxn
