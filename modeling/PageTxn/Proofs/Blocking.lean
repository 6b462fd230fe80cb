import PageTxn.Proofs.CycleSearch
import PageTxn.Proofs.LockTable

/-!
Who is in the way of a request, and how that changes.

* `LockTable.mem_blockers_iff`: the blockers of a request are the other transactions that hold
  the page in a mode which does not go together with the wanted one.
* `Answered` lists the ways in which a request is answered, with the wait graph that each leaves
  behind; `answered` says that there are no others.
* `mem_blockers_request`: nobody stops being in the way when a request is answered.
* `modeOf?_release_of_ne` and `modeOf?_releaseAll_of_ne`: only the transaction that gives pages
  back loses modes, and `edge_release` and `edge_releaseAll` say that nobody is recorded as
  waiting for it afterwards.
-/

namespace PageTxn.LockTable

variable {table later : LockTable} {txn other waiter holder : TxnId} {page wanted : PageId}
  {mode asked : LockMode}

/-! ### Blockers -/

/-- The blockers of a request are the other holders of the page, unless both locks are shared. -/
lemma mem_blockers_iff :
    other ∈ table.blockers txn page mode ↔
      other ≠ txn ∧ ∃ held, table.modeOf? other page = some held ∧
        (held = .exclusive ∨ mode = .exclusive) := by
  cases found : table.locks[page]? with
  | none => simp [blockers, modeOf?, found]
  | some state =>
      cases state with
      | exclusive owner =>
          by_cases own : owner = txn
          · subst own
            by_cases same : owner = other
            · simp [blockers, modeOf?, found, same]
            · simp [blockers, modeOf?, found, same]
          · by_cases same : owner = other
            · subst same
              simp [blockers, modeOf?, found, own]
            · simp [blockers, modeOf?, found, own, same]
      | shared sharers =>
          have swap : txn ≠ other ↔ other ≠ txn := ⟨Ne.symm, Ne.symm⟩
          cases mode with
          | shared => by_cases inside : other ∈ sharers <;> simp [blockers, modeOf?, found, inside]
          | exclusive =>
              by_cases inside : other ∈ sharers <;>
                simp [blockers, modeOf?, found, Std.ExtTreeSet.mem_erase, inside, swap]

/-- A transaction is never in its own way. -/
lemma ne_of_mem_blockers (blocks : other ∈ table.blockers txn page mode) : other ≠ txn :=
  (mem_blockers_iff.mp blocks).1

/-- Whoever keeps its mode on the page stays in the way. -/
lemma mem_blockers_of_modeOf?_eq (same : later.modeOf? other page = table.modeOf? other page) :
    other ∈ later.blockers txn page mode ↔ other ∈ table.blockers txn page mode := by
  rw [mem_blockers_iff, mem_blockers_iff, same]

/-- A grant puts nobody out of the way. -/
lemma mem_blockers_grant (free : table.blockers txn page mode = ∅)
    (blocks : other ∈ table.blockers waiter wanted asked) :
    other ∈ (table.grant txn page mode).blockers waiter wanted asked := by
  obtain ⟨apart, held, holds, conflict⟩ := mem_blockers_iff.mp blocks
  rw [mem_blockers_iff, modeOf?_grant free]
  refine ⟨apart, ?_⟩
  split
  · next here =>
    obtain ⟨rfl, rfl⟩ := here
    refine ⟨_, rfl, conflict.imp_left ?_⟩
    rintro rfl
    rw [holds, LockMode.joined, if_pos rfl]
  · exact ⟨held, holds, conflict⟩

/-- Only a transaction that is granted a page comes into the way on that page. -/
lemma mem_blockers_of_grant (free : table.blockers txn page mode = ∅)
    (blocks : other ∈ (table.grant txn page mode).blockers waiter wanted asked) :
    other ∈ table.blockers waiter wanted asked ∨ other = txn ∧ wanted = page := by
  by_cases here : page = wanted ∧ txn = other
  · exact Or.inr ⟨here.2.symm, here.1.symm⟩
  · refine Or.inl ((mem_blockers_of_modeOf?_eq ?_).mp blocks)
    rw [modeOf?_grant free, if_neg here]

/-! ### Requests -/

/-- How a request is answered: nobody was in the way; or the blockers were recorded and that
closed a cycle, so that the record was taken back; or they were recorded and it waits. -/
inductive Answered (table : LockTable) (txn : TxnId) (page : PageId) (mode : LockMode) :
    LockTable × Verdict → Prop where
  | granted (free : table.blockers txn page mode = ∅) :
      Answered table txn page mode (table.grant txn page mode, .granted)
  | refused (blocked : table.blockers txn page mode ≠ ∅)
      (closes : (table.waits.setWaits txn (table.blockers txn page mode)).hasCycleFrom txn =
        true) :
      Answered table txn page mode
        ({ table with
            waits := (table.waits.setWaits txn (table.blockers txn page mode)).clearWaits txn },
          .refused)
  | waits (blocked : table.blockers txn page mode ≠ ∅)
      (opens : (table.waits.setWaits txn (table.blockers txn page mode)).hasCycleFrom txn =
        false) :
      Answered table txn page mode
        ({ table with waits := table.waits.setWaits txn (table.blockers txn page mode) }, .wait)

lemma answered (table : LockTable) (txn : TxnId) (page : PageId) (mode : LockMode) :
    Answered table txn page mode (table.request txn page mode) := by
  simp only [request]
  split
  · next free => exact .granted (Std.ExtTreeSet.isEmpty_iff.mp free)
  · next taken =>
    have blocked : table.blockers txn page mode ≠ ∅ :=
      fun free => taken (Std.ExtTreeSet.isEmpty_iff.mpr free)
    split
    · next closes => exact .refused blocked closes
    · next opens => exact .waits blocked (Bool.not_eq_true _ ▸ opens)

/-- Nobody stops being in the way when a request is answered. -/
lemma mem_blockers_request (table : LockTable) (txn : TxnId) (page : PageId) (mode : LockMode)
    (blocks : other ∈ table.blockers waiter wanted asked) :
    other ∈ (table.request txn page mode).1.blockers waiter wanted asked := by
  have answer := table.answered txn page mode
  cases reply : table.request txn page mode with
  | mk later verdict =>
      rw [reply] at answer
      cases answer with
      | granted free => exact mem_blockers_grant free blocks
      | refused blocked closes => exact blocks
      | waits blocked opens => exact blocks

/-- The edges of other waiters are left alone when a request is answered. -/
lemma edge_request_of_ne (table : LockTable) (page : PageId) (mode : LockMode)
    (apart : waiter ≠ txn) :
    (table.request txn page mode).1.waits.Edge waiter holder ↔ table.waits.Edge waiter holder := by
  have answer := table.answered txn page mode
  cases reply : table.request txn page mode with
  | mk later verdict =>
      rw [reply] at answer
      cases answer with
      | granted free => simp [grant, WaitGraph.edge_clearWaits, Ne.symm apart]
      | refused blocked closes =>
          simp [WaitGraph.edge_clearWaits, WaitGraph.edge_setWaits, Ne.symm apart]
      | waits blocked opens => simp [WaitGraph.edge_setWaits, Ne.symm apart]

/-- After the answer a transaction is recorded as waiting exactly if it has to wait, for all its
blockers. -/
lemma edge_request_self (table : LockTable) (txn : TxnId) (page : PageId) (mode : LockMode) :
    (table.request txn page mode).1.waits.Edge txn holder ↔
      (table.request txn page mode).2 = .wait ∧ holder ∈ table.blockers txn page mode := by
  have answer := table.answered txn page mode
  cases reply : table.request txn page mode with
  | mk later verdict =>
      rw [reply] at answer
      cases answer with
      | granted free => simp [grant, WaitGraph.edge_clearWaits]
      | refused blocked closes => simp [WaitGraph.edge_clearWaits]
      | waits blocked opens => simp [WaitGraph.edge_setWaits]

/-- Whoever has to wait has somebody in its way. -/
lemma exists_mem_blockers (waits : (table.request txn page mode).2 = .wait) :
    ∃ holder, holder ∈ table.blockers txn page mode := by
  have answer := table.answered txn page mode
  cases reply : table.request txn page mode with
  | mk later verdict =>
      rw [reply] at answer waits
      cases answer with
      | granted free => cases waits
      | refused blocked closes => cases waits
      | waits blocked opens =>
          by_contra nobody
          exact blocked (Std.ExtTreeSet.eq_empty_iff_forall_not_mem.mpr (not_exists.mp nobody))

/-- Whoever is refused would have closed a cycle, and only its own waits are taken back. -/
lemma closes_of_refused (refused : (table.request txn page mode).2 = .refused) :
    (table.waits.setWaits txn (table.blockers txn page mode)).hasCycleFrom txn = true ∧
      (table.request txn page mode).1 =
        { table with
          waits := (table.waits.setWaits txn (table.blockers txn page mode)).clearWaits txn } := by
  have answer := table.answered txn page mode
  cases reply : table.request txn page mode with
  | mk later verdict =>
      rw [reply] at answer refused
      cases answer with
      | granted free => cases refused
      | refused blocked closes => exact ⟨closes, rfl⟩
      | waits blocked opens => cases refused

/-- A request that is not granted puts nobody in the way. -/
lemma blockers_request_of_not_granted (denied : (table.request txn page mode).2 ≠ .granted) :
    (table.request txn page mode).1.blockers = table.blockers := by
  rcases table.request_cases txn page mode with ⟨granted, -, -⟩ | ⟨-, -, waits, same⟩
  · exact absurd granted denied
  · rw [same]
    rfl

/-- An answer closes no cycle. -/
lemma acyclic_request (acyclic : table.waits.Acyclic) (txn : TxnId) (page : PageId)
    (mode : LockMode) : (table.request txn page mode).1.waits.Acyclic := by
  have answer := table.answered txn page mode
  cases reply : table.request txn page mode with
  | mk later verdict =>
      rw [reply] at answer
      cases answer with
      | granted free => exact acyclic.clearWaits txn
      | refused blocked closes =>
          -- the recorded edges are gone again, and the others were there before
          refine acyclic.anti fun waiter holder edge => ?_
          obtain ⟨apart, edge⟩ := WaitGraph.edge_clearWaits.mp edge
          rwa [WaitGraph.edge_setWaits, if_neg apart] at edge
      | waits blocked opens => exact acyclic.setWaits opens

/-! ### Releases -/

/-- A release that releases nothing changes no mode. -/
lemma modeOf?_release_of_none (nothing : table.modeOf? txn page = none) (other : TxnId)
    (wanted : PageId) :
    (table.release txn page).1.modeOf? other wanted = table.modeOf? other wanted := by
  rw [modeOf?_release]
  split
  · next here => rw [← here.1, ← here.2, nothing]
  · rfl

/-- A release that releases nothing leaves the wait graph alone. -/
lemma waits_release_of_none (nothing : table.modeOf? txn page = none) :
    (table.release txn page).1.waits = table.waits := by
  simp [release, nothing]

/-- A release takes nothing from others. -/
lemma modeOf?_release_of_ne (apart : other ≠ txn) (page wanted : PageId) :
    (table.release txn page).1.modeOf? other wanted = table.modeOf? other wanted := by
  rw [modeOf?_release, if_neg]
  exact fun here => apart here.2.symm

/-- After a release that releases something nobody is recorded as waiting for the transaction. -/
lemma edge_release (held : table.modeOf? txn page ≠ none) :
    (table.release txn page).1.waits.Edge waiter holder ↔
      txn ≠ holder ∧ table.waits.Edge waiter holder := by
  have some := Option.isSome_iff_ne_none.mpr held
  simp [release, some, WaitGraph.edge_clearWaitsOn]

lemma edge_release_le (txn : TxnId) (page : PageId) :
    (table.release txn page).1.waits.Edge ≤ table.waits.Edge := by
  intro waiter holder edge
  by_cases nothing : table.modeOf? txn page = none
  · rwa [waits_release_of_none nothing] at edge
  · exact ((edge_release nothing).mp edge).2

lemma edge_releaseEach_le (txn : TxnId) (pages : List PageId) :
    (table.releaseEach txn pages).waits.Edge ≤ table.waits.Edge := by
  induction pages generalizing table with
  | nil => exact fun _ _ edge => edge
  | cons page rest ih => exact fun _ _ edge => edge_release_le txn page _ _ (ih _ _ edge)

/-- A release of everything takes nothing from others. -/
lemma modeOf?_releaseAll_of_ne (apart : other ≠ txn) (wanted : PageId) :
    (table.releaseAll txn).modeOf? other wanted = table.modeOf? other wanted := by
  have locks : (table.releaseAll txn).modeOf? other wanted =
      (table.releaseEach txn (table.heldPages txn)).modeOf? other wanted := rfl
  rw [locks, modeOf?_releaseEach, if_neg]
  exact fun here => apart here.2.symm

/-- After a release of everything the transaction is taken out of the wait graph. -/
lemma edge_releaseAll (edge : (table.releaseAll txn).waits.Edge waiter holder) :
    txn ≠ waiter ∧ txn ≠ holder ∧ table.waits.Edge waiter holder := by
  obtain ⟨target, edge⟩ := WaitGraph.edge_clearWaitsOn.mp edge
  obtain ⟨source, edge⟩ := WaitGraph.edge_clearWaits.mp edge
  exact ⟨source, target, edge_releaseEach_le txn _ _ _ edge⟩

end PageTxn.LockTable
