import Mathlib.Data.List.Perm.Basic
import PageTxn.Proofs.Replacement
import PageTxn.Proofs.Tally

/-!
The counters of a database at work.

* `Database.stepEvents` and `Database.startEvents` list what happens to the cache during a move and
  during the start of an operation; `balanced_step` and `balanced_start` say that the counters stay
  balanced.
* `Workload.trace` lists what happens during any deeds, and `balanced_run` says the same of them. So
  whenever no fetch is under way, the counters balance (`counters_balance`).
-/

namespace PageTxn

/-- A fetch has missed its page and not yet read it. -/
def Operation.isLoading : Operation → Bool
  | .fetching _ _ _ .read => true
  | _ => false

/-- A fetch has been granted its lock and has not returned. -/
def Operation.isFetching : Operation → Bool
  | .fetching _ _ _ (.lock _) | .reporting .. => false
  | .fetching .. => true

/-- The number of fetches that have missed their page and not yet read it, among what a move goes on
with: one or none. -/
def Progress.loading : Progress → Nat
  | .running operation | .parked operation => operation.isLoading.toNat
  | .finished _ => 0

lemma Change.loading_next (change : Change) (txn : TxnId) (level : Level) :
    (change.next txn level).loading = 0 := by
  cases level <;> rfl

namespace Database

open Cache

variable {db later : Database} {loading : Nat} {events : List CacheEvent} {txn : TxnId}
  {level : Level} {id : FrameId}

/-! ### What happens during moves and starts of operations -/

/-- An operation makes one move. -/
def stepEvents (db : Database) : Operation → List CacheEvent
  | .fetching txn _ aim (.lock waited) =>
      match (db.locks.request txn aim.page aim.mode waited).2 with
      | .granted => [.granted]
      | .refused | .wait => []
  | .fetching _ _ aim .read => db.loadEvents aim.page
  | .fetching _ _ aim (.enter _) => db.cache.admissionEvents aim.page
  | .fetching _ _ _ (.use _) => []
  | .reporting _ _ [] => []
  | .reporting _ _ (id :: _) => db.cache.reportEvents id

/-- A store reads some pages to change them, up to the first failure. -/
def changeEvents (db : Database) (store : Store) (change : Image → Image) :
    List PageId → List CacheEvent
  | [] => []
  | page :: rest =>
      db.readEvents store page ++
        match db.readPage store page with
        | (_, .error _) => []
        | (db, .ok image) =>
            let cache := (db.cache.newFrame (.ofImage page (change image))).2
            { db with cache }.changeEvents store change rest

/-- The targets of a memory store are changed. -/
def targetEvents (db : Database) (table : TableId) (id : MemoryId) (change : Image → Image) :
    List CacheEvent :=
  db.changeEvents (.memory table id) change
    ((db.storage.memory id).targets.map fun number => ⟨table, number⟩)

/-- A store starts to insert a record. -/
def insertEvents (db : Database) (record : Record) : Store → List CacheEvent
  | .heap _ => []
  | .memory table id =>
      db.targetEvents table id fun image => image.splice 0 (record.data.extract 0 image.size)

/-- A store starts to delete a record. -/
def deleteEvents (db : Database) : Store → List CacheEvent
  | .heap _ => []
  | .memory table id => db.targetEvents table id fun image => Image.zeros image.size

/-- An operation starts. -/
def startEvents (db : Database) : Call → List CacheEvent
  | .fetch .. | .scan _ => []
  | .insert table record =>
      match db.storage.storeOf table with
      | .ok store => db.insertEvents record store
      | .error _ => []
  | .delete record =>
      match record.id with
      | none => []
      | some id =>
          match db.storage.storeOf id.page.table with
          | .ok store => db.deleteEvents store
          | .error _ => []

/-- After a move the counters are balanced, where the operation that goes on may be a fetch that has
missed its page and not yet read it. -/
def BalancedAfter (loading : Nat) (events : List CacheEvent) (moved : Database × Progress) : Prop :=
  moved.1.cache.Balanced (loading + moved.2.loading) events

lemma balancedAfter_nextProbe (balanced : db.cache.Balanced loading events) (heap : HeapFile)
    (record : Record) (number remaining : Nat) :
    BalancedAfter loading events (db.nextProbe txn level heap record number remaining) := by
  cases remaining with
  | zero => exact balanced
  | succ remaining => exact balanced

lemma balanced_changeFrame (balanced : db.cache.Balanced loading events) {image : Image}
    (changed : db.changeFrame txn id image = .ok later) : later.cache.Balanced loading events := by
  rw [changeFrame] at changed
  split at changed
  · cases changed
    exact balanced.of_same rfl rfl
  · cases changed

/-- What a store changed is reported next. -/
lemma balancedAfter_next (balanced : db.cache.Balanced loading events) (change : Change) :
    BalancedAfter loading events (db, change.next txn level) := by
  rw [BalancedAfter, change.loading_next, Nat.add_zero]
  exact balanced

lemma balanced_tryPlace (balanced : db.cache.Balanced loading events) {heap : HeapFile}
    {record placed : Record} (done : db.tryPlace txn heap record id = .ok (some (later, placed))) :
    later.cache.Balanced loading events := by
  obtain ⟨slot, image, -, changed, -⟩ := changeFrame_of_tryPlace done
  exact balanced_changeFrame balanced changed

/-- The use of a page is not counted. -/
lemma balancedAfter_usePage (balanced : db.cache.Balanced loading events) (aim : Aim) :
    BalancedAfter loading events (db.usePage txn level aim id) := by
  cases aim with
  | hand page mode => exact balanced
  | probe heap record number remaining alreadyHeld =>
      simp only [usePage]
      split
      · exact balanced
      · exact balanced
      · cases alreadyHeld with
        | true => exact balancedAfter_nextProbe balanced ..
        | false =>
            have released : (db.release txn (heap.page number)).cache.Balanced loading events :=
              balanced
            exact balancedAfter_nextProbe released ..
  | claim heap record number remaining =>
      simp only [usePage]
      split
      · exact balanced
      · next placed => exact balancedAfter_next (balanced_tryPlace balanced placed) _
      · exact balancedAfter_nextProbe balanced ..
  | fill heap record number =>
      simp only [usePage]
      split
      · exact balanced
      · next placed => exact balancedAfter_next (balanced_tryPlace balanced placed) _
      · exact balanced
  | erase heap record =>
      simp only [usePage]
      split
      · exact balanced
      · exact balanced
      · split
        · exact balanced
        · next changed => exact balancedAfter_next (balanced_changeFrame balanced changed) _
  | collect heap number remaining found =>
      simp only [usePage]
      split
      · exact balanced
      · cases remaining with
        | zero => exact balanced
        | succ remaining => exact balanced

lemma balancedAfter_lockPage (balanced : db.cache.Balanced loading events) (aim : Aim)
    (waited : Bool) :
    BalancedAfter loading (events ++ db.stepEvents (.fetching txn level aim (.lock waited)))
      (db.lockPage txn level aim waited) := by
  rw [lockPage, stepEvents]
  cases db.locks.request txn aim.page aim.mode waited with
  | mk locks answer =>
      cases answer with
      | granted =>
          simp only
          cases db.cache.residentFrame? aim.page with
          | some id => exact balanced.countHit
          | none => exact balanced.countMiss
      | refused => exact balanced.idle
      | wait => exact balanced.idle

/-- Every move keeps the counters balanced. -/
theorem balanced_step {operation : Operation}
    (balanced : db.cache.Balanced (loading + operation.isLoading.toNat) events) :
    BalancedAfter loading (events ++ db.stepEvents operation) (db.step operation) := by
  cases operation with
  | fetching txn level aim stage =>
      cases stage with
      | lock waited => exact balancedAfter_lockPage balanced aim waited
      | use id => exact balancedAfter_usePage balanced.idle aim
      | read =>
          have loaded := balanced_loadPage balanced aim.page
          rw [step, stepEvents]
          cases done : db.loadPage aim.page with
          | mk middle result =>
              rw [done] at loaded
              cases result with
              | ok image => exact loaded
              | error failure => exact loaded
      | enter image =>
          have entered := balanced_enterPage balanced aim.page image
          rw [step, stepEvents]
          cases done : db.enterPage aim.page image with
          | mk middle result =>
              rw [done] at entered
              cases result with
              | ok id => exact entered
              | error error => exact entered
  | reporting txn change pages =>
      cases pages with
      | nil => exact balanced.idle
      | cons id rest =>
          have reported : (db.markDirty txn id).1.cache.Balanced loading
              (events ++ db.cache.reportEvents id) := balanced_markDirty balanced txn id
          rw [step, stepEvents]
          cases done : db.markDirty txn id with
          | mk middle result =>
              rw [done] at reported
              cases result with
              | ok => exact reported
              | error failure => exact reported

lemma balanced_changeEach (balanced : db.cache.Balanced loading events) (store : Store)
    (change : Image → Image) (pages : List PageId) :
    (db.changeEach store change pages).1.cache.Balanced loading
      (events ++ db.changeEvents store change pages) := by
  induction pages generalizing db events with
  | nil => exact balanced.idle
  | cons page rest ih =>
      have read := balanced_readPage balanced store page
      rw [changeEach, changeEvents, ← List.append_assoc]
      cases done : db.readPage store page with
      | mk middle result =>
          rw [done] at read
          cases result with
          | error failure => exact read.idle
          | ok image =>
              have made : (middle.cache.newFrame (.ofImage page (change image))).2.Balanced loading
                  (events ++ db.readEvents store page) := read.of_same rfl rfl
              have changed := @ih { middle with
                cache := (middle.cache.newFrame (.ofImage page (change image))).2 } _ made
              simp only [newFrame] at changed ⊢
              split
              · next done' =>
                rw [done'] at changed
                exact changed
              · next done' =>
                rw [done'] at changed
                exact changed

lemma balanced_of_changeTargets (balanced : db.cache.Balanced loading events) {table : TableId}
    {memory : MemoryId} {change : Image → Image} {result : Except Failure (List FrameId)}
    (changed : db.changeTargets table memory change = (later, result)) :
    later.cache.Balanced loading (events ++ db.targetEvents table memory change) := by
  have after := balanced_changeEach balanced (.memory table memory) change
    ((db.storage.memory memory).targets.map fun number => ⟨table, number⟩)
  rw [changeTargets] at changed
  rw [changed] at after
  exact after

lemma balancedAfter_startInsert (balanced : db.cache.Balanced loading events) (store : Store)
    (record : Record) :
    BalancedAfter loading (events ++ db.insertEvents record store)
      (db.startInsert txn level store record) := by
  cases store with
  | heap heap =>
      simp only [startInsert, insertEvents]
      split
      · exact balancedAfter_nextProbe balanced.idle ..
      · exact balanced.idle
  | memory table memory =>
      simp only [startInsert, insertEvents]
      split
      · next changed => exact balancedAfter_next (balanced_of_changeTargets balanced changed) _
      · next changed => exact balanced_of_changeTargets balanced changed

lemma balancedAfter_startDelete (balanced : db.cache.Balanced loading events) (store : Store)
    (record : Record) :
    BalancedAfter loading (events ++ db.deleteEvents store)
      (db.startDelete txn level store record) := by
  cases store with
  | heap heap =>
      simp only [startDelete, deleteEvents]
      split
      · exact balanced.idle
      · split
        · exact balanced.idle
        · exact balanced.idle
  | memory table memory =>
      simp only [startDelete, deleteEvents]
      split
      · next changed => exact balancedAfter_next (balanced_of_changeTargets balanced changed) _
      · next changed => exact balanced_of_changeTargets balanced changed

/-- Every start of an operation keeps the counters balanced. -/
theorem balanced_start (balanced : db.cache.Balanced loading events) (call : Call) :
    BalancedAfter loading (events ++ db.startEvents call) (db.start txn call) := by
  cases call with
  | fetch page mode => exact balanced.idle
  | insert table record =>
      rw [start, startInsertRecord, startEvents]
      cases db.storage.storeOf table with
      | ok store => exact balancedAfter_startInsert balanced store record
      | error error => exact balanced.idle
  | delete record =>
      rw [start, startDeleteRecord, startEvents]
      cases record.id with
      | none => exact balanced.idle
      | some id =>
          simp only
          cases db.storage.storeOf id.page.table with
          | ok store => exact balancedAfter_startDelete balanced store record
          | error error => exact balanced.idle
  | scan heap =>
      rw [start, startScan]
      split
      · exact balanced.idle
      · exact balanced.idle

end Database

namespace Workload

variable {w : Workload} {earlier : List CacheEvent}

/-! ### Deeds -/

/-- The number of fetches that have missed their pages and not yet read them. -/
def loading (w : Workload) : Nat := w.running.countP Operation.isLoading

/-- What happens to the cache while one thing happens. -/
def events (w : Workload) : Deed → List CacheEvent
  | .call _ call => w.db.startEvents call
  | .insertInto _ store record => w.db.insertEvents record store
  | .deleteFrom _ store _ => w.db.deleteEvents store
  | .move place =>
      match w.running[place]? with
      | some operation => w.db.stepEvents operation
      | none => []
  | .markDirty _ id => if id < w.db.cache.nextFrame then w.db.cache.reportEvents id else []
  | .flushPage page => w.db.flushPageEvents page
  | .flushHeld txn => w.db.flushEachEvents (w.db.locks.heldPages txn)
  | .flushAll => w.db.flushEachEvents w.db.cache.residentPages
  | .discard page => w.db.cache.discardEvents page
  | .complete txn commit => w.db.completeEvents txn commit
  | .make .. | .overwrite .. | .release .. | .outside _ => []

/-- What happens to the cache while one thing happens after the other. -/
def trace (w : Workload) : List Deed → List CacheEvent
  | [] => []
  | deed :: rest => w.events deed ++ (w.act deed).trace rest

lemma countP_cons (operation : Operation) (others : List Operation) :
    (operation :: others).countP Operation.isLoading =
      others.countP Operation.isLoading + operation.isLoading.toNat := by
  rw [List.countP_cons]
  cases operation.isLoading <;> rfl

lemma loading_begin (w : Workload) (moved : Database × Progress) :
    (w.begin moved).loading = w.loading + moved.2.loading := by
  have added : ∀ operation, (w.running ++ [operation]).countP Operation.isLoading =
      w.loading + operation.isLoading.toNat := by
    intro operation
    rw [List.countP_append, countP_cons, List.countP_nil, Nat.zero_add, loading]
  obtain ⟨db, progress⟩ := moved
  cases progress with
  | running operation => exact added operation
  | parked operation => exact added operation
  | finished outcome => rfl

/-- An operation that makes a move is set apart from the others. -/
lemma exists_others {place : Nat} {operation : Operation}
    (there : w.running[place]? = some operation) :
    ∃ others, w.loading = others + operation.isLoading.toNat ∧
      ∀ moved, (w.proceed place moved).loading = others + moved.2.loading := by
  obtain ⟨inside, rfl⟩ := List.getElem?_eq_some_iff.mp there
  have apart := (List.getElem_cons_eraseIdx_perm inside).symm.countP_eq Operation.isLoading
  have replaced := fun operation =>
    (List.set_perm_cons_eraseIdx inside operation).countP_eq Operation.isLoading
  simp only [countP_cons] at apart replaced
  refine ⟨(w.running.eraseIdx place).countP Operation.isLoading, apart, fun moved => ?_⟩
  obtain ⟨db, progress⟩ := moved
  cases progress with
  | running operation => exact replaced operation
  | parked operation => exact replaced operation
  | finished outcome => rfl

/-- Whatever happens keeps the counters balanced. -/
theorem balanced_act (balanced : w.db.cache.Balanced w.loading earlier) (deed : Deed) :
    (w.act deed).db.cache.Balanced (w.act deed).loading (earlier ++ w.events deed) := by
  have begins : ∀ {moved : Database × Progress} {more : List CacheEvent},
      Database.BalancedAfter w.loading (earlier ++ more) moved →
        (w.begin moved).db.cache.Balanced (w.begin moved).loading (earlier ++ more) := by
    intro moved more after
    rw [cache_begin, loading_begin]
    exact after
  cases deed with
  | call txn call => exact begins (Database.balanced_start balanced call)
  | insertInto txn store record =>
      exact begins (Database.balancedAfter_startInsert balanced store record)
  | deleteFrom txn store record =>
      exact begins (Database.balancedAfter_startDelete balanced store record)
  | move place =>
      rw [act, Workload.events]
      cases there : w.running[place]? with
      | none => exact balanced.idle
      | some operation =>
          obtain ⟨others, apart, after⟩ := exists_others there
          rw [apart] at balanced
          simp only
          rw [cache_proceed, after]
          exact Database.balanced_step balanced
  | make page image => exact balanced.idle.of_same rfl rfl
  | overwrite id image =>
      rw [act]
      split
      · exact balanced.idle.of_same rfl rfl
      · exact balanced.idle
  | markDirty txn id =>
      rw [act, Workload.events]
      split
      · exact Cache.balanced_markDirty balanced txn id
      · exact balanced.idle
  | flushPage page => exact Database.balanced_flushPage balanced page
  | flushHeld txn => exact Database.balanced_flushEach balanced _
  | flushAll => exact Database.balanced_flushEach balanced _
  | discard page => exact Cache.balanced_discard balanced page
  | release txn page => exact balanced.idle
  | complete txn commit => exact Database.balanced_complete balanced txn commit
  | outside storage => exact balanced.idle

/-- Whatever happens one after the other keeps the counters balanced. -/
theorem balanced_run (balanced : w.db.cache.Balanced w.loading earlier) (deeds : List Deed) :
    (w.run deeds).db.cache.Balanced (w.run deeds).loading (earlier ++ w.trace deeds) := by
  induction deeds generalizing w earlier with
  | nil => exact balanced.idle
  | cons deed rest ih =>
      rw [trace, ← List.append_assoc]
      exact ih (balanced_act balanced deed)

lemma loading_eq_zero (idle : ∀ operation ∈ w.running, operation.isFetching = false) :
    w.loading = 0 := by
  refine List.countP_eq_zero.mpr fun operation inside reading => ?_
  have waits := idle operation inside
  cases operation with
  | reporting txn change pages => cases reading
  | fetching txn level aim stage =>
      cases stage with
      | read => cases waits
      | lock waited => cases reading
      | enter image => cases reading
      | use id => cases reading

/-- **The counters of the cache balance.** After any deeds in any order, hits and misses are as many
as the fetches whose lock was granted, written pages as many as the images that stores have taken
over, and the resident pages as many as have come in without those that had to leave or were
dropped. If no fetch is between the grant of its lock and its return, there are as many misses more
than pages read as fetches that found no store or whose page was not read. -/
theorem counters_balance (storage : Storage) (capacity : Nat) (capacity_pos : 0 < capacity)
    (deeds : List Deed) :
    let start := initial storage capacity capacity_pos
    let w := start.run deeds
    let events := start.trace deeds
    w.db.cache.Balanced w.loading events ∧
      ((∀ operation ∈ w.running, operation.isFetching = false) →
        w.db.cache.Balanced 0 events ∧
          (.unread ∉ events → w.db.cache.stats.misses = w.db.cache.stats.read)) := by
  intro start w events
  have begins : start.db.cache.Balanced start.loading [] :=
    Cache.balanced_empty capacity capacity_pos
  have balanced : w.db.cache.Balanced w.loading events := balanced_run begins deeds
  refine ⟨balanced, fun idle => ?_⟩
  rw [loading_eq_zero idle] at balanced
  refine ⟨balanced, fun all_read => ?_⟩
  have loads := balanced.loads
  rwa [List.count_eq_zero.mpr all_read, Nat.add_zero] at loads

/-- A memory store of two pages whose first read is overtaken. -/
def overtaken : Storage :=
  ((Storage.empty ⟨2, Nat.zero_lt_two⟩).addMemory
    { MemoryStore.zeroed ⟨1⟩ 2 2 [] with race := some ⟨9⟩ }).2.register (.memory ⟨1⟩ 0)

/-- With room for a single page: the first fetch is overtaken, so that its page comes in dirty, the
second one reads its page and finds no room, and the third one finds no store. After a flush the
second page comes in and is found, and a page that is not stored is missed. In the end the page is
dropped, twice. -/
theorem counters_balance_mixed :
    let page (number : Nat) : PageId := ⟨⟨1⟩, number⟩
    let fetch (page : PageId) : Deed := .call ⟨1⟩ (.fetch page .shared)
    let deeds : List Deed :=
      [fetch (page 0), .move 0, .move 0, .move 0, .move 0, fetch (page 1), .move 0, .move 0,
        .move 0, fetch ⟨⟨7⟩, 0⟩, .move 0, .move 0, .flushPage (page 0), fetch (page 1), .move 0,
        .move 0, .move 0, .move 0, fetch (page 1), .move 0, .move 0, fetch (page 5), .move 0,
        .move 0, .discard (page 1), .discard (page 1)]
    let start := initial overtaken 1 Nat.one_pos
    let w := start.run deeds
    let events := start.trace deeds
    events = [.granted, .admitted, .granted, .granted, .unread, .wrote, .granted, .evicted,
        .admitted, .granted, .granted, .unread, .dropped] ∧
      w.db.cache.stats = ⟨1, 5, 1, 3, 1⟩ ∧ w.db.cache.size = 0 ∧
      (∀ operation ∈ w.running, operation.isFetching = false) ∧
      w.db.cache.Balanced 0 events := by
  intro page fetch deeds start w events
  have happened : events = [.granted, .admitted, .granted, .granted, .unread, .wrote, .granted,
      .evicted, .admitted, .granted, .granted, .unread, .dropped] := by decide +kernel
  have stats : w.db.cache.stats = ⟨1, 5, 1, 3, 1⟩ := by decide +kernel
  have empty : w.db.cache.size = 0 := by decide +kernel
  have nobody : w.running.length = 0 := by decide +kernel
  have idle : ∀ operation ∈ w.running, operation.isFetching = false := by
    rw [List.length_eq_zero_iff.mp nobody]
    exact fun operation inside => by cases inside
  -- the run need not be evaluated again
  clear_value deeds
  exact ⟨happened, stats, empty, idle, ((counters_balance overtaken 1 Nat.one_pos deeds).2 idle).1⟩

end Workload

end PageTxn
