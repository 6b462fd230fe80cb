import PageTxn.Proofs.Blocking
import PageTxn.Proofs.Retention
import PageTxn.Proofs.Workload

/-!
Transactions leave no trace in the lock manager.

* `LockTable.Tidy`: the lock table is sound, and the wait graph keeps no empty set of holders.
* `LockTable.Forgets` says that no lock, no set of held pages and no recorded wait mentions a
  transaction. `Tidy.forgets_releaseAll`: so it is after the transaction has given everything
  back, and `Tidy.releaseAll_of_forgets`: to give everything back once more changes nothing.
* `LockTable.Goes` lists what one deed of a workload may do to the lock table, and whose request
  it was. `goes_step` and `goes_act` say that there is nothing else.
* `completion_leaves_no_trace`: after its end a transaction is forgotten until it asks for a lock
  again, and to end it once more succeeds and changes nothing.
-/

namespace PageTxn

/-! ### Wait graphs without empty entries -/

namespace WaitGraph

variable {graph : WaitGraph} {txn waiter : TxnId}

/-- Nobody is recorded as waiting for nobody. -/
def Trim (graph : WaitGraph) : Prop :=
  ∀ (waiter : TxnId) (holders : Std.ExtTreeSet TxnId),
    graph.edges[waiter]? = some holders → holders ≠ ∅

lemma trim_empty : WaitGraph.empty.Trim := by
  intro waiter holders recorded
  simp [empty] at recorded

lemma Trim.clearWaits (trim : graph.Trim) (txn : TxnId) : (graph.clearWaits txn).Trim := by
  intro waiter holders recorded
  rw [WaitGraph.clearWaits, Std.ExtTreeMap.getElem?_erase] at recorded
  split at recorded
  · cases recorded
  · exact trim waiter holders recorded

lemma Trim.setWaits (trim : graph.Trim) (txn : TxnId) (others : Std.ExtTreeSet TxnId) :
    (graph.setWaits txn others).Trim := by
  rw [WaitGraph.setWaits]
  split
  · exact trim.clearWaits txn
  · next some_others =>
    intro waiter holders recorded
    rw [Std.ExtTreeMap.getElem?_insert] at recorded
    split at recorded
    · cases recorded
      exact fun nobody => some_others (Std.ExtTreeSet.isEmpty_iff.mpr nobody)
    · exact trim waiter holders recorded

/-- What is recorded of a waiter, after nobody waits for one transaction any more. -/
lemma getElem?_clearWaitsOn (graph : WaitGraph) (txn waiter : TxnId) :
    (graph.clearWaitsOn txn).edges[waiter]? =
      (graph.edges[waiter]?).bind fun holders =>
        if (holders.erase txn).isEmpty then none else some (holders.erase txn) := by
  rw [clearWaitsOn, Std.ExtTreeMap.getElem?_filterMap]
  cases graph.edges[waiter]? <;> rfl

lemma trim_clearWaitsOn (graph : WaitGraph) (txn : TxnId) : (graph.clearWaitsOn txn).Trim := by
  intro waiter holders recorded
  rw [getElem?_clearWaitsOn] at recorded
  obtain ⟨before, -, recorded⟩ := Option.bind_eq_some_iff.mp recorded
  split at recorded
  · cases recorded
  · next some_others =>
    cases recorded
    exact fun nobody => some_others (Std.ExtTreeSet.isEmpty_iff.mpr nobody)

/-- Who waits for nobody need not be cleared. -/
lemma clearWaits_of_none (idle : graph.edges[txn]? = none) : graph.clearWaits txn = graph := by
  have same : graph.edges.erase txn = graph.edges := by
    refine Std.ExtTreeMap.ext_getElem? fun waiter => ?_
    rw [Std.ExtTreeMap.getElem?_erase]
    split
    · next here =>
      rw [← Std.LawfulEqOrd.eq_of_compare here, idle]
    · rfl
  rw [WaitGraph.clearWaits, same]

/-- Whom nobody waits for need not be cleared. -/
lemma Trim.clearWaitsOn_of_unwaited (trim : graph.Trim)
    (unwaited : ∀ waiter, ¬ graph.Edge waiter txn) : graph.clearWaitsOn txn = graph := by
  have same : (graph.clearWaitsOn txn).edges = graph.edges := by
    refine Std.ExtTreeMap.ext_getElem? fun waiter => ?_
    rw [getElem?_clearWaitsOn]
    cases recorded : graph.edges[waiter]? with
    | none => rfl
    | some holders =>
        have outside : txn ∉ holders := by
          have nobody := unwaited waiter
          rwa [Edge, WaitGraph.holders, Std.ExtTreeMap.getD_eq_getD_getElem?, recorded] at nobody
        have rest : holders.erase txn = holders := by
          refine Std.ExtTreeSet.ext_mem fun other => ?_
          rw [Std.ExtTreeSet.mem_erase]
          refine ⟨And.right, fun inside => ⟨fun here => outside ?_, inside⟩⟩
          rwa [Std.LawfulEqOrd.eq_of_compare here]
        rw [Option.bind_some, rest, if_neg]
        exact fun nobody => trim waiter holders recorded (Std.ExtTreeSet.isEmpty_iff.mp nobody)
  cases graph
  exact congrArg WaitGraph.mk same

end WaitGraph

namespace LockTable

variable {table later : LockTable} {txn other waiter holder : TxnId} {page : PageId}

/-! ### Tables that keep nothing empty -/

/-- The lock table is sound, and so is what is recorded of the waits. -/
structure Tidy (table : LockTable) : Prop where
  sound : table.Sound
  trim : table.waits.Trim

lemma tidy_empty : LockTable.empty.Tidy := ⟨sound_empty, WaitGraph.trim_empty⟩

lemma Tidy.request (tidy : table.Tidy) (txn : TxnId) (page : PageId) (mode : LockMode) :
    (table.request txn page mode).1.Tidy := by
  refine ⟨tidy.sound.request txn page mode, ?_⟩
  have answer := table.answered txn page mode
  cases reply : table.request txn page mode with
  | mk later verdict =>
      rw [reply] at answer
      cases answer with
      | granted free => exact tidy.trim.clearWaits txn
      | refused blocked closes => exact (tidy.trim.setWaits txn _).clearWaits txn
      | waits blocked opens => exact tidy.trim.setWaits txn _

lemma Tidy.release (tidy : table.Tidy) (txn : TxnId) (page : PageId) :
    (table.release txn page).1.Tidy := by
  refine ⟨tidy.sound.release txn page, ?_⟩
  rw [LockTable.release]
  dsimp only
  split
  · exact WaitGraph.trim_clearWaitsOn _ _
  · exact tidy.trim

lemma Tidy.releaseAll (tidy : table.Tidy) (txn : TxnId) : (table.releaseAll txn).Tidy :=
  ⟨tidy.sound.releaseAll txn, WaitGraph.trim_clearWaitsOn _ _⟩

/-! ### Forgotten transactions -/

/-- No lock, no set of held pages and no recorded wait mentions the transaction. -/
structure Forgets (table : LockTable) (txn : TxnId) : Prop where
  unlocked : ∀ page, table.modeOf? txn page = none
  unlisted : table.held[txn]? = none
  idle : table.waits.edges[txn]? = none
  unwaited : ∀ waiter, ¬ table.waits.Edge waiter txn

/-- A transaction that is forgotten has no pages listed. -/
lemma Forgets.heldPages (forgets : table.Forgets txn) : table.heldPages txn = [] := by
  rw [LockTable.heldPages, pagesOf, Std.ExtTreeMap.getD_eq_getD_getElem?, forgets.unlisted]
  exact Std.ExtTreeSet.toList_eq_nil_iff.mpr rfl

/-- A release of everything leaves the other waits recorded. -/
lemma edge_releaseEach (table : LockTable) (pages : List PageId) (target : holder ≠ txn) :
    (table.releaseEach txn pages).waits.Edge waiter holder ↔ table.waits.Edge waiter holder := by
  induction pages generalizing table with
  | nil => rfl
  | cons page rest ih =>
      rw [releaseEach, ih]
      by_cases nothing : table.modeOf? txn page = none
      · rw [waits_release_of_none nothing]
      · rw [edge_release nothing]
        exact ⟨And.right, fun edge => ⟨target.symm, edge⟩⟩

lemma edge_releaseAll_iff (source : waiter ≠ txn) (target : holder ≠ txn) :
    (table.releaseAll txn).waits.Edge waiter holder ↔ table.waits.Edge waiter holder := by
  have waits : (table.releaseAll txn).waits =
      (((table.releaseEach txn (table.heldPages txn)).waits).clearWaits txn).clearWaitsOn txn := rfl
  rw [waits, WaitGraph.edge_clearWaitsOn, WaitGraph.edge_clearWaits, edge_releaseEach _ _ target]
  exact ⟨fun edge => edge.2.2, fun edge => ⟨target.symm, source.symm, edge⟩⟩

lemma pagesOf_releaseEach_of_ne (apart : other ≠ txn) (pages : List PageId) :
    (table.releaseEach txn pages).pagesOf other = table.pagesOf other := by
  induction pages generalizing table with
  | nil => rfl
  | cons page rest ih => rw [releaseEach, ih, pagesOf_release, if_neg apart.symm]

/-- A release of everything leaves the pages of others listed. -/
lemma heldPages_releaseAll_of_ne (apart : other ≠ txn) :
    (table.releaseAll txn).heldPages other = table.heldPages other := by
  have held : (table.releaseAll txn).held =
      (table.releaseEach txn (table.heldPages txn)).held.erase txn := rfl
  have listed : (table.releaseAll txn).pagesOf other =
      (table.releaseEach txn (table.heldPages txn)).pagesOf other := by
    rw [pagesOf, held, Std.ExtTreeMap.getD_erase, if_neg (by simpa using apart.symm), pagesOf]
  rw [LockTable.heldPages, listed, pagesOf_releaseEach_of_ne apart]
  rfl

/-- A transaction that has given everything back is forgotten. -/
theorem Tidy.forgets_releaseAll (tidy : table.Tidy) (txn : TxnId) :
    (table.releaseAll txn).Forgets txn where
  unlocked page := by rw [tidy.sound.modeOf?_releaseAll, if_pos rfl]
  unlisted := by simp [LockTable.releaseAll]
  idle := by
    rw [LockTable.releaseAll, WaitGraph.getElem?_clearWaitsOn, WaitGraph.clearWaits,
      Std.ExtTreeMap.getElem?_erase_self]
    rfl
  unwaited waiter edge := (edge_releaseAll edge).2.1 rfl

/-- For a transaction that is forgotten there is nothing to give back. -/
theorem Tidy.releaseAll_of_forgets (tidy : table.Tidy) (forgets : table.Forgets txn) :
    table.releaseAll txn = table := by
  have held : table.held.erase txn = table.held := by
    refine Std.ExtTreeMap.ext_getElem? fun other => ?_
    rw [Std.ExtTreeMap.getElem?_erase]
    split
    · next here =>
      rw [← Std.LawfulEqOrd.eq_of_compare here, forgets.unlisted]
    · rfl
  rw [LockTable.releaseAll, forgets.heldPages, releaseEach, held,
    WaitGraph.clearWaits_of_none forgets.idle, tidy.trim.clearWaitsOn_of_unwaited forgets.unwaited]

/-! ### What happens to the others -/

/-- What one deed of an actor may do to a lock table, and who has asked for a lock with it. -/
inductive Goes (table : LockTable) (actor : TxnId) : Option TxnId → LockTable → Prop where
  | stays : Goes table actor none table
  | requests (page : PageId) (mode : LockMode) :
      Goes table actor (some actor) (table.request actor page mode).1
  | releases (page : PageId) : Goes table actor none (table.release actor page).1
  | releasesAll : Goes table actor none (table.releaseAll actor)

variable {actor : TxnId} {asker : Option TxnId}

lemma Goes.of_eq (same : later = table) : Goes table actor none later := same ▸ .stays

/-- Whatever happens, nothing empty is kept. -/
lemma Goes.tidy (goes : table.Goes actor asker later) (tidy : table.Tidy) : later.Tidy := by
  cases goes with
  | stays => exact tidy
  | requests page mode => exact tidy.request actor page mode
  | releases page => exact tidy.release actor page
  | releasesAll => exact tidy.releaseAll actor

/-- Nobody else loses a lock or gets one. -/
lemma Goes.modeOf?_of_ne (goes : table.Goes actor asker later) (apart : other ≠ actor)
    (page : PageId) : later.modeOf? other page = table.modeOf? other page := by
  cases goes with
  | stays => rfl
  | requests wanted mode => rw [modeOf?_request, if_neg fun here => apart here.2.2.symm]
  | releases wanted => exact modeOf?_release_of_ne apart wanted page
  | releasesAll => exact modeOf?_releaseAll_of_ne apart page

/-- A transaction that is forgotten blocks nobody. -/
lemma Forgets.not_mem_blockers (forgets : table.Forgets txn) (mode : LockMode) :
    txn ∉ table.blockers other page mode := by
  intro blocks
  obtain ⟨-, held, holds, -⟩ := mem_blockers_iff.mp blocks
  rw [forgets.unlocked] at holds
  cases holds

/-- A request leaves the pages of other transactions listed as they are. -/
lemma held_request_of_ne (table : LockTable) (page : PageId) (mode : LockMode)
    (apart : other ≠ txn) :
    (table.request other page mode).1.held[txn]? = table.held[txn]? := by
  rcases table.request_cases other page mode with ⟨-, -, same⟩ | ⟨-, -, waits, same⟩
  · simp [same, grant, Std.ExtTreeMap.getElem?_insert, apart]
  · rw [same]

/-- A request leaves the waits of other transactions recorded as they are. -/
lemma edges_request_of_ne (table : LockTable) (page : PageId) (mode : LockMode)
    (apart : other ≠ txn) :
    (table.request other page mode).1.waits.edges[txn]? = table.waits.edges[txn]? := by
  have cleared : ∀ graph : WaitGraph, (graph.clearWaits other).edges[txn]? = graph.edges[txn]? := by
    intro graph
    simp [WaitGraph.clearWaits, Std.ExtTreeMap.getElem?_erase, apart]
  have set : ∀ others, (table.waits.setWaits other others).edges[txn]? =
      table.waits.edges[txn]? := by
    intro others
    rw [WaitGraph.setWaits]
    split
    · exact cleared table.waits
    · simp [Std.ExtTreeMap.getElem?_insert, apart]
  have answer := table.answered other page mode
  cases reply : table.request other page mode with
  | mk later verdict =>
      rw [reply] at answer
      cases answer with
      | granted free => exact cleared table.waits
      | refused blocked closes => exact (cleared _).trans (set _)
      | waits blocked opens => exact set _

/-- A request of another transaction does not bring a forgotten one back. -/
lemma Forgets.request (forgets : table.Forgets txn) (apart : other ≠ txn) (page : PageId)
    (mode : LockMode) : (table.request other page mode).1.Forgets txn where
  unlocked wanted := by
    rw [modeOf?_request, if_neg fun here => apart here.2.2]
    exact forgets.unlocked wanted
  unlisted := (table.held_request_of_ne page mode apart).trans forgets.unlisted
  idle := (table.edges_request_of_ne page mode apart).trans forgets.idle
  unwaited waiter edge := by
    by_cases own : waiter = other
    · subst own
      exact forgets.not_mem_blockers mode ((edge_request_self ..).mp edge).2
    · exact forgets.unwaited waiter ((edge_request_of_ne table page mode own).mp edge)

/-- A release does not bring a forgotten transaction back. -/
lemma Forgets.release (forgets : table.Forgets txn) (other : TxnId) (page : PageId) :
    (table.release other page).1.Forgets txn where
  unlocked wanted := by
    rw [modeOf?_release]
    split
    · rfl
    · exact forgets.unlocked wanted
  unlisted := by
    have none_left : table.pagesOf txn = ∅ := by
      rw [pagesOf, Std.ExtTreeMap.getD_eq_getD_getElem?, forgets.unlisted]
      rfl
    have held : (table.release other page).1.held = table.forget other page := rfl
    rw [held, forget]
    by_cases own : other = txn
    · subst own
      simp [none_left]
    · split
      · simpa [Std.ExtTreeMap.getElem?_erase, own] using forgets.unlisted
      · simpa [Std.ExtTreeMap.getElem?_insert, own] using forgets.unlisted
  idle := by
    rw [LockTable.release]
    dsimp only
    split
    · rw [WaitGraph.getElem?_clearWaitsOn, forgets.idle]
      rfl
    · exact forgets.idle
  unwaited waiter edge := forgets.unwaited waiter (edge_release_le other page _ _ edge)

lemma Forgets.releaseEach (forgets : table.Forgets txn) (other : TxnId) (pages : List PageId) :
    (table.releaseEach other pages).Forgets txn := by
  induction pages generalizing table with
  | nil => exact forgets
  | cons page rest ih => exact ih (forgets.release other page)

lemma Forgets.releaseAll (forgets : table.Forgets txn) (other : TxnId) :
    (table.releaseAll other).Forgets txn := by
  have released := forgets.releaseEach other (table.heldPages other)
  refine ⟨released.unlocked, ?_, ?_, fun waiter edge =>
    forgets.unwaited waiter (edge_releaseAll edge).2.2⟩
  · have held : (table.releaseAll other).held =
        (table.releaseEach other (table.heldPages other)).held.erase other := rfl
    rw [held, Std.ExtTreeMap.getElem?_erase]
    split
    · rfl
    · exact released.unlisted
  · rw [LockTable.releaseAll, WaitGraph.getElem?_clearWaitsOn, WaitGraph.clearWaits,
      Std.ExtTreeMap.getElem?_erase]
    split
    · rfl
    · rw [released.idle]
      rfl

/-- A transaction is forgotten until it asks for a lock again. -/
lemma Goes.forgets (goes : table.Goes actor asker later) (silent : asker ≠ some txn)
    (forgets : table.Forgets txn) : later.Forgets txn := by
  cases goes with
  | stays => exact forgets
  | requests page mode => exact forgets.request (fun same => silent (same ▸ rfl)) page mode
  | releases page => exact forgets.release actor page
  | releasesAll => exact forgets.releaseAll actor

end LockTable

/-- The transaction that asks for a lock with the next move of an operation. -/
def Operation.asker? : Operation → Option TxnId
  | fetching txn _ _ (.lock _) => some txn
  | _ => none

namespace Database

open LockTable

variable {db later : Database} {txn : TxnId} {level : Level} {pages : List PageId}

/-! ### Deeds and the lock table -/

/-- The locks are those of the database before. -/
lemma goes_of_locks_eq (same : later.locks = db.locks) :
    db.locks.table.Goes txn none later.locks.table :=
  .of_eq (by rw [same])

lemma goes_lockPage (db : Database) (txn : TxnId) (level : Level) (aim : Aim) (waited : Bool) :
    db.locks.table.Goes txn (some txn) (db.lockPage txn level aim waited).1.locks.table := by
  have table : (db.lockPage txn level aim waited).1.locks.table =
      (db.locks.table.request txn aim.page aim.mode).1 := by
    show _ = (db.locks.request txn aim.page aim.mode waited).1.table
    rw [lockPage]
    split
    · next granted =>
      rw [granted]
      split <;> rfl
    · next refused => rw [refused]
    · next parked => rw [parked]
  rw [table]
  exact .requests aim.page aim.mode

lemma locks_nextProbe (db : Database) (txn : TxnId) (level : Level) (heap : HeapFile)
    (record : Record) (number remaining : Nat) :
    (db.nextProbe txn level heap record number remaining).1.locks = db.locks := by
  cases remaining <;> rfl

/-- Only a page that turns out to be full is given back. -/
lemma goes_usePage (db : Database) (txn : TxnId) (level : Level) (aim : Aim) (id : FrameId) :
    db.locks.table.Goes txn none (db.usePage txn level aim id).1.locks.table := by
  cases aim with
  | hand page mode => exact .stays
  | probe heap record number remaining alreadyHeld =>
      rw [usePage]
      split
      · exact .stays
      · exact .stays
      · cases alreadyHeld with
        | true => exact goes_of_locks_eq (locks_nextProbe ..)
        | false =>
            dsimp only
            rw [locks_nextProbe]
            exact .releases _
  | claim heap record number remaining =>
      rw [usePage]
      split
      · exact .stays
      · next tried => exact goes_of_locks_eq (locks_tryPlace tried)
      · exact goes_of_locks_eq (locks_nextProbe ..)
  | fill heap record number =>
      rw [usePage]
      split
      · exact .stays
      · next tried => exact goes_of_locks_eq (locks_tryPlace tried)
      · exact .stays
  | erase heap record =>
      rw [usePage]
      split
      · exact .stays
      · exact .stays
      · split
        · exact .stays
        · next changed => exact goes_of_locks_eq (locks_changeFrame changed)
  | collect heap number remaining found =>
      rw [usePage]
      split
      · exact .stays
      · split <;> exact .stays

/-- A move of an operation asks for a lock, gives a lock back, or leaves all locks as they are. -/
theorem goes_step (db : Database) (operation : Operation) :
    db.locks.table.Goes operation.txn operation.asker? (db.step operation).1.locks.table := by
  cases operation with
  | fetching txn level aim stage =>
      cases stage with
      | lock waited => exact db.goes_lockPage txn level aim waited
      | use id => exact db.goes_usePage txn level aim id
      | read =>
          have same := db.locks_loadPage aim.page
          rw [step]
          split
          · next moved => exact goes_of_locks_eq (by rw [moved] at same; exact same)
          · next moved => exact goes_of_locks_eq (by rw [moved] at same; exact same)
      | enter image =>
          have same := db.locks_enterPage aim.page image
          rw [step]
          split
          · next moved => exact goes_of_locks_eq (by rw [moved] at same; exact same)
          · next moved => exact goes_of_locks_eq (by rw [moved] at same; exact same)
  | reporting txn change pages =>
      cases pages with
      | nil => exact .stays
      | cons id rest =>
          have same := db.locks_markDirty txn id
          rw [step]
          split
          · next moved => exact goes_of_locks_eq (by rw [moved] at same; exact same)
          · next moved => exact goes_of_locks_eq (by rw [moved] at same; exact same)

lemma locks_changeTargets {table : TableId} {id : MemoryId} {change : Image → Image}
    {result : Except Failure (List FrameId)}
    (changed : db.changeTargets table id change = (later, result)) : later.locks = db.locks := by
  have same := locks_changeEach (.memory table id) change
    ((db.storage.memory id).targets.map fun number => ⟨table, number⟩) db
  rw [changeTargets] at changed
  rwa [changed] at same

lemma locks_startInsert (db : Database) (txn : TxnId) (level : Level) (store : Store)
    (record : Record) : (db.startInsert txn level store record).1.locks = db.locks := by
  cases store with
  | heap heap =>
      simp only [startInsert]
      split
      · exact locks_nextProbe ..
      · rfl
  | memory table id =>
      simp only [startInsert]
      split
      · next changed => exact locks_changeTargets changed
      · next changed => exact locks_changeTargets changed

lemma locks_startDelete (db : Database) (txn : TxnId) (level : Level) (store : Store)
    (record : Record) : (db.startDelete txn level store record).1.locks = db.locks := by
  cases store with
  | heap heap =>
      simp only [startDelete]
      split
      · rfl
      · split <;> rfl
  | memory table id =>
      simp only [startDelete]
      split
      · next changed => exact locks_changeTargets changed
      · next changed => exact locks_changeTargets changed

/-- The start of an operation leaves all locks as they are. -/
lemma locks_start (db : Database) (txn : TxnId) (call : Call) :
    (db.start txn call).1.locks = db.locks := by
  cases call with
  | fetch page mode => rfl
  | insert table record =>
      rw [start, startInsertRecord]
      split
      · exact locks_startInsert ..
      · rfl
  | delete record =>
      rw [start, startDeleteRecord]
      split
      · rfl
      · split
        · exact locks_startDelete ..
        · rfl
  | scan heap =>
      rw [start, startScan]
      split <;> rfl

lemma locks_flush (db : Database) (id : FrameId) : (db.flush id).1.locks = db.locks := by
  simp only [flush]
  split
  · split
    · rfl
    · split <;> rfl
  · rfl

lemma locks_flushPage (db : Database) (page : PageId) :
    (db.flushPage page).1.locks = db.locks := by
  rw [flushPage]
  split
  · exact locks_flush ..
  · rfl

lemma locks_flushEach (db : Database) (pages : List PageId) :
    (db.flushEach pages).1.locks = db.locks := by
  induction pages generalizing db with
  | nil => rfl
  | cons page rest ih =>
      have same := db.locks_flushPage page
      rw [flushEach]
      split
      · next flushed =>
        rw [flushed] at same
        exact (ih _).trans same
      · next flushed =>
        rw [flushed] at same
        exact same

lemma locks_commitPages (db : Database) (pages : List PageId) :
    (db.commitPages pages).1.locks = db.locks := by
  induction pages generalizing db with
  | nil => rfl
  | cons page rest ih =>
      rw [commitPages]
      split
      · exact ih db
      · next id _ =>
        have same := db.locks_flush id
        split
        · next flushed =>
          rw [flushed] at same
          exact same
        · next flushed =>
          rw [flushed] at same
          exact (ih _).trans same

/-- Whether or not its pages could be settled, a transaction that ends gives everything back. -/
lemma locks_complete (db : Database) (txn : TxnId) (commit : Bool) :
    (db.complete txn commit).1.locks = db.locks.releaseAll txn := by
  have settled : (db.settle txn commit).1.locks = db.locks := by
    rw [settle]
    cases commit with
    | true => exact locks_commitPages ..
    | false => rfl
  show (db.settle txn commit).1.locks.releaseAll txn = _
  rw [settled]

/-- For a transaction that is forgotten there is nothing to settle and nothing to give back. -/
theorem complete_of_forgets (tidy : db.locks.table.Tidy) (forgets : db.locks.table.Forgets txn)
    (commit : Bool) :
    db.complete txn commit =
      ({ db with locks := { db.locks with signals := db.locks.signals + 1 } }, .ok ()) := by
  have settled : db.settle txn commit = (db, .ok ()) := by
    rw [settle, LockManager.heldPages, forgets.heldPages]
    cases commit <;> rfl
  rw [complete, settled]
  dsimp only
  rw [LockManager.releaseAll, tidy.releaseAll_of_forgets forgets]

end Database

/-! ### Workloads -/

namespace Workload

variable {w : Workload} {txn : TxnId}

/-- The transaction that asks for a lock with the next deed. -/
def asker? (w : Workload) : Deed → Option TxnId
  | .move place => w.running[place]?.bind Operation.asker?
  | _ => none

/-- The transactions that ask for locks while the deeds are done. -/
def askers (w : Workload) : List Deed → List TxnId
  | [] => []
  | deed :: rest => (w.asker? deed).toList ++ (w.act deed).askers rest

lemma db_begin (w : Workload) (moved : Database × Progress) : (w.begin moved).db = moved.1 := by
  obtain ⟨db, running | parked | finished⟩ := moved <;> rfl

lemma db_proceed (w : Workload) (place : Nat) (moved : Database × Progress) :
    (w.proceed place moved).db = moved.1 := by
  obtain ⟨db, running | parked | finished⟩ := moved <;> rfl

/-- Each deed asks for a lock, gives locks back, or leaves all locks as they are. -/
theorem goes_act (w : Workload) (deed : Deed) :
    ∃ actor, w.db.locks.table.Goes actor (w.asker? deed) (w.act deed).db.locks.table := by
  have idle : ∀ {later : Database}, later.locks = w.db.locks →
      ∃ actor, w.db.locks.table.Goes actor none later.locks.table :=
    fun same => ⟨⟨0⟩, Database.goes_of_locks_eq same⟩
  cases deed with
  | call txn call =>
      rw [act, db_begin]
      exact idle (w.db.locks_start txn call)
  | insertInto txn store record =>
      rw [act, db_begin]
      exact idle (w.db.locks_startInsert txn .store store record)
  | deleteFrom txn store record =>
      rw [act, db_begin]
      exact idle (w.db.locks_startDelete txn .store store record)
  | move place =>
      rw [act, asker?]
      cases w.running[place]? with
      | none => exact idle rfl
      | some operation =>
          dsimp only
          rw [db_proceed]
          exact ⟨operation.txn, w.db.goes_step operation⟩
  | make page image => exact idle rfl
  | overwrite id image =>
      rw [act]
      split <;> exact idle rfl
  | markDirty txn id =>
      rw [act]
      split <;> exact idle rfl
  | flushPage page => exact idle (w.db.locks_flushPage page)
  | flushHeld txn => exact idle (w.db.locks_flushEach _)
  | flushAll => exact idle (w.db.locks_flushEach _)
  | discard page => exact idle rfl
  | release txn page => exact ⟨txn, .releases page⟩
  | complete txn commit =>
      rw [act, Database.locks_complete]
      exact ⟨txn, .releasesAll⟩
  | outside storage => exact idle rfl

lemma tidy_act (tidy : w.db.locks.table.Tidy) (deed : Deed) :
    (w.act deed).db.locks.table.Tidy := by
  obtain ⟨actor, goes⟩ := w.goes_act deed
  exact goes.tidy tidy

lemma tidy_run (tidy : w.db.locks.table.Tidy) (deeds : List Deed) :
    (w.run deeds).db.locks.table.Tidy := by
  induction deeds generalizing w with
  | nil => exact tidy
  | cons deed rest ih => exact ih (tidy_act tidy deed)

lemma forgets_run (forgets : w.db.locks.table.Forgets txn) {deeds : List Deed}
    (silent : txn ∉ w.askers deeds) : (w.run deeds).db.locks.table.Forgets txn := by
  induction deeds generalizing w with
  | nil => exact forgets
  | cons deed rest ih =>
      rw [askers, List.mem_append, not_or, Option.mem_toList] at silent
      obtain ⟨actor, goes⟩ := w.goes_act deed
      exact ih (goes.forgets silent.1 forgets) silent.2

/-- **The end of a transaction leaves no trace.** After any deeds in any order, whether the
transaction commits or aborts, and also if a store refuses one of its pages: no lock, no set of
held pages and no recorded wait mentions it any more, and the locks, the listed pages and the
recorded waits of the others are what they were. As long as the transaction asks for no lock, to
end it once more succeeds, and changes neither stores nor page objects nor locks nor waits;
only the waiters are woken. -/
theorem completion_leaves_no_trace (storage : Storage) (capacity : Nat)
    (capacity_pos : 0 < capacity) (deeds : List Deed) (txn : TxnId) (commit : Bool) :
    let w := (initial storage capacity capacity_pos).run deeds
    let left := w.act (.complete txn commit)
    left.db.locks.table.Forgets txn ∧
    (∀ other, other ≠ txn →
      (∀ page, left.db.locks.table.modeOf? other page = w.db.locks.table.modeOf? other page) ∧
      left.db.locks.heldPages other = w.db.locks.heldPages other ∧
      ∀ holder, holder ≠ txn →
        (left.db.locks.table.waits.Edge other holder ↔
          w.db.locks.table.waits.Edge other holder)) ∧
    ∀ (later : List Deed) (again : Bool), txn ∉ left.askers later →
      let db := (left.run later).db
      db.complete txn again =
        ({ db with locks := { db.locks with signals := db.locks.signals + 1 } }, .ok ()) := by
  intro w left
  have tidy : w.db.locks.table.Tidy := tidy_run LockTable.tidy_empty deeds
  have released : left.db.locks = w.db.locks.releaseAll txn := w.db.locks_complete txn commit
  have forgets : left.db.locks.table.Forgets txn := by
    rw [released]
    exact tidy.forgets_releaseAll txn
  refine ⟨forgets, fun other apart => ⟨fun page => ?_, ?_, fun holder target => ?_⟩,
    fun later again silent => ?_⟩
  · rw [released]
    exact LockTable.modeOf?_releaseAll_of_ne apart page
  · rw [released]
    exact LockTable.heldPages_releaseAll_of_ne apart
  · rw [released]
    exact LockTable.edge_releaseAll_iff apart target
  · have tidy_left : left.db.locks.table.Tidy := tidy_act tidy (.complete txn commit)
    exact Database.complete_of_forgets (tidy_run tidy_left later) (forgets_run forgets silent) again

/-- The store refuses the page of a transaction that commits, while another one is parked for the
page. The other one gets its lock, and reads the page that stayed dirty; to abort the first
transaction after that changes nothing. -/
theorem completion_leaves_no_trace_refused :
    let page : PageId := ⟨⟨1⟩, 0⟩
    let storage := ((Storage.empty ⟨2, by decide⟩).addMemory
      { MemoryStore.zeroed ⟨1⟩ 2 2 [] with writesLeft := some 0 }).2.register (.memory ⟨1⟩ 0)
    let deeds : List Deed :=
      [.call ⟨1⟩ (.fetch page .exclusive), .move 0, .move 0, .move 0, .move 0,
        .overwrite 0 #[7, 9], .markDirty ⟨1⟩ 0, .call ⟨2⟩ (.fetch page .shared), .move 0]
    let w := (initial storage 1 (by decide)).run deeds
    let left := w.act (.complete ⟨1⟩ true)
    let db := (left.run [.move 0, .move 0]).db
    (w.db.complete ⟨1⟩ true).2 = .error (.io .diskFull) ∧
      left.db.locks.table.Forgets ⟨1⟩ ∧
      db.locks.table.modeOf? ⟨2⟩ page = some .shared ∧
      (db.cache.frame 0).owner = some ⟨1⟩ ∧
      db.complete ⟨1⟩ false =
        ({ db with locks := { db.locks with signals := db.locks.signals + 1 } }, .ok ()) := by
  intro page storage deeds w left db
  have refused : (w.db.complete ⟨1⟩ true).2 = .error (.io .diskFull) := by decide +kernel
  have granted : db.locks.table.modeOf? ⟨2⟩ page = some .shared := by decide +kernel
  have dirty : (db.cache.frame 0).owner = some ⟨1⟩ := by decide +kernel
  have silent : (⟨1⟩ : TxnId) ∉ left.askers [.move 0, .move 0] := by decide +kernel
  -- the run need not be evaluated again
  clear_value deeds
  obtain ⟨forgets, -, again⟩ :=
    completion_leaves_no_trace storage 1 (by decide) deeds ⟨1⟩ true
  exact ⟨refused, forgets, granted, dirty, again [.move 0, .move 0] false silent⟩

end Workload

end PageTxn
