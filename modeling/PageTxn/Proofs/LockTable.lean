import Mathlib.Tactic.Common
import PageTxn.Lock.Manager

/-!
The integrity of the lock table.

* `LockTable.Sound` is the invariant: the pages of a transaction are those that it holds in
  some mode, and neither a page nor a transaction is listed without a partner.
* `modeOf?_eq_none_of_exclusive`: an exclusive holder is the only holder.
* `modeOf?_grant`, `modeOf?_request`, `modeOf?_releaseAll` say how each operation changes the
  modes; a request and a release never touch the modes of other transactions.
* `Sound.request`, `Sound.release` and `Sound.releaseAll` preserve the invariant.
-/

namespace PageTxn

/-- The mode in which a page is held once a wanted mode is granted on top of what is held. -/
def LockMode.joined (wanted : LockMode) (held : Option LockMode) : LockMode :=
  if held = some .exclusive then .exclusive else wanted

namespace LockTable

/-- The locks and the pages of the transactions agree, and nothing empty is kept. -/
structure Sound (table : LockTable) : Prop where
  mem_pagesOf : ∀ (txn : TxnId) (page : PageId),
    page ∈ table.pagesOf txn ↔ table.modeOf? txn page ≠ none
  sharers : ∀ (page : PageId) (holders : Std.ExtTreeSet TxnId),
    table.locks[page]? = some (.shared holders) → holders ≠ ∅
  holdings : ∀ (txn : TxnId) (pages : Std.ExtTreeSet PageId),
    table.held[txn]? = some pages → pages ≠ ∅

/-- Nothing is locked at the beginning. -/
lemma sound_empty : LockTable.empty.Sound where
  mem_pagesOf txn page := by simp [empty, pagesOf, modeOf?]
  sharers page holders h := by simp [empty] at h
  holdings txn pages h := by simp [empty] at h

/-! ### Exclusive holders -/

/-- A page is held exclusively by the transaction that its lock names. -/
lemma modeOf?_eq_exclusive_iff {table : LockTable} {txn : TxnId} {page : PageId} :
    table.modeOf? txn page = some .exclusive ↔ table.locks[page]? = some (.exclusive txn) := by
  rw [modeOf?]
  cases found : table.locks[page]? with
  | none => simp
  | some state =>
      cases state with
      | shared holders => simp
      | exclusive holder => by_cases own : holder = txn <;> simp [own]

/-- An exclusive holder is the only holder. -/
lemma modeOf?_eq_none_of_exclusive {table : LockTable} {txn other : TxnId} {page : PageId}
    (h : table.modeOf? txn page = some .exclusive) (apart : other ≠ txn) :
    table.modeOf? other page = none := by
  have lock := modeOf?_eq_exclusive_iff.mp h
  simp [modeOf?, lock, Ne.symm apart]

/-! ### Grants -/

/-- Whoever is not blocked from an exclusive lock finds no other holder. -/
lemma modeOf?_eq_none_of_blockers {table : LockTable} {txn other : TxnId} {page : PageId}
    (free : table.blockers txn page .exclusive = ∅) (apart : other ≠ txn) :
    table.modeOf? other page = none := by
  simp only [blockers] at free
  cases found : table.locks[page]? with
  | none => simp [modeOf?, found]
  | some state =>
      cases state with
      | exclusive holder =>
          by_cases own : holder = txn
          · subst own
            simp [modeOf?, found, Ne.symm apart]
          · simp [found, own] at free
      | shared holders =>
          have outside : other ∉ holders := by
            intro inside
            have still : other ∈ holders.erase txn :=
              Std.ExtTreeSet.mem_erase.mpr ⟨by simpa using Ne.symm apart, inside⟩
            simp only [found] at free
            rw [free] at still
            exact Std.ExtTreeSet.not_mem_empty still
          simp [modeOf?, found, outside]

/-- Whoever is not blocked from a shared lock meets no exclusive holder but itself. -/
lemma eq_of_blockers_shared {table : LockTable} {txn holder : TxnId} {page : PageId}
    (free : table.blockers txn page .shared = ∅)
    (found : table.locks[page]? = some (.exclusive holder)) : holder = txn := by
  by_contra other
  simp [blockers, found, other] at free

/-- A transaction that is alone with its locks is not blocked from a shared one. -/
lemma blockers_eq_empty {table : LockTable} {txn : TxnId} (page : PageId)
    (alone : ∀ other, other ≠ txn → table.modeOf? other page = none) :
    table.blockers txn page .shared = ∅ := by
  simp only [blockers]
  cases found : table.locks[page]? with
  | none => rfl
  | some state =>
      cases state with
      | shared holders => rfl
      | exclusive holder =>
          refine if_pos ?_
          by_contra apart
          have nothing := alone holder apart
          rw [modeOf?_eq_exclusive_iff.mpr found] at nothing
          cases nothing

/-- A grant to a transaction that nobody blocks strengthens its mode on the page and changes
no other mode. -/
lemma modeOf?_grant {table : LockTable} {txn : TxnId} {page : PageId} {mode : LockMode}
    (free : table.blockers txn page mode = ∅) (other : TxnId) (q : PageId) :
    (table.grant txn page mode).modeOf? other q =
      if page = q ∧ txn = other then some (mode.joined (table.modeOf? txn page))
      else table.modeOf? other q := by
  cases mode with
  | exclusive =>
      rw [modeOf?_grant_exclusive]
      by_cases here : page = q
      · subst here
        by_cases own : txn = other
        · simp [own, LockMode.joined]
        · simp [own, modeOf?_eq_none_of_blockers free (Ne.symm own)]
      · simp [here]
  | shared =>
      by_cases taken : ∃ holder, table.locks[page]? = some (.exclusive holder)
      · -- the transaction itself holds the page exclusively, and keeps it so
        obtain ⟨holder, found⟩ := taken
        have own := eq_of_blockers_shared free found
        subst own
        have mode : table.modeOf? holder page = some .exclusive :=
          modeOf?_eq_exclusive_iff.mpr found
        have same : (table.grant holder page .shared).locks = table.locks := by
          simp [grant, found]
        rw [modeOf?, same, ← modeOf?]
        split
        · next h => rw [← h.1, ← h.2, mode]; rfl
        · rfl
      · have open_page : ∀ holder, table.locks[page]? ≠ some (.exclusive holder) :=
          fun holder found => taken ⟨holder, found⟩
        have weak : table.modeOf? txn page ≠ some .exclusive :=
          fun h => open_page txn (modeOf?_eq_exclusive_iff.mp h)
        rw [modeOf?_grant_shared open_page]
        simp [LockMode.joined, weak]

/-- A grant to a transaction that nobody blocks keeps the table sound. -/
lemma Sound.grant {table : LockTable} {txn : TxnId} {page : PageId} {mode : LockMode}
    (sound : table.Sound) (free : table.blockers txn page mode = ∅) :
    (table.grant txn page mode).Sound where
  mem_pagesOf other q := by
    rw [pagesOf_grant, modeOf?_grant free]
    by_cases own : txn = other
    · subst own
      by_cases here : page = q
      · simp [here]
      · simp [here, sound.mem_pagesOf]
    · simp [own, sound.mem_pagesOf]
  sharers q holders h := by
    cases mode with
    | exclusive =>
        simp only [LockTable.grant, Std.ExtTreeMap.getElem?_insert] at h
        split at h
        · cases h
        · exact sound.sharers q holders h
    | shared =>
        cases found : table.locks[page]? with
        | none =>
            simp only [LockTable.grant, found, Std.ExtTreeMap.getElem?_insert] at h
            split at h
            · cases h
              simp
            · exact sound.sharers q holders h
        | some state =>
            cases state with
            | exclusive holder =>
                simp only [LockTable.grant, found] at h
                exact sound.sharers q holders h
            | shared others =>
                simp only [LockTable.grant, found, Std.ExtTreeMap.getElem?_insert] at h
                split at h
                · cases h
                  exact Std.ExtTreeSet.insert_ne_empty
                · exact sound.sharers q holders h
  holdings other pages h := by
    simp only [LockTable.grant, Std.ExtTreeMap.getElem?_insert] at h
    split at h
    · cases h
      exact Std.ExtTreeSet.insert_ne_empty
    · exact sound.holdings other pages h

/-! ### Requests -/

/-- A request that is not granted changes at most who waits for whom; a granted one is a
grant that nobody blocks. -/
lemma request_cases (table : LockTable) (txn : TxnId) (page : PageId) (mode : LockMode) :
    ((table.request txn page mode).2 = .granted ∧ table.blockers txn page mode = ∅ ∧
        (table.request txn page mode).1 = table.grant txn page mode) ∨
      ((table.request txn page mode).2 ≠ .granted ∧ table.blockers txn page mode ≠ ∅ ∧
        ∃ waits, (table.request txn page mode).1 = { table with waits }) := by
  simp only [request]
  split
  · next free => exact Or.inl ⟨rfl, Std.ExtTreeSet.isEmpty_iff.mp free, rfl⟩
  · next blocked =>
    have blocked' : table.blockers txn page mode ≠ ∅ :=
      fun h => blocked (Std.ExtTreeSet.isEmpty_iff.mpr h)
    split
    · exact Or.inr ⟨by simp, blocked', _, rfl⟩
    · exact Or.inr ⟨by simp, blocked', _, rfl⟩

/-- A request strengthens at most the mode of its transaction on its page, exactly if it is
granted. -/
lemma modeOf?_request (table : LockTable) (txn other : TxnId) (page q : PageId)
    (mode : LockMode) :
    (table.request txn page mode).1.modeOf? other q =
      if (table.request txn page mode).2 = .granted ∧ page = q ∧ txn = other then
        some (mode.joined (table.modeOf? txn page))
      else table.modeOf? other q := by
  rcases table.request_cases txn page mode with ⟨granted, free, same⟩ | ⟨denied, -, waits, same⟩
  · rw [same, modeOf?_grant free]
    simp [granted]
  · rw [same]
    simp [denied, modeOf?]

/-- A request keeps the table sound. -/
lemma Sound.request {table : LockTable} (sound : table.Sound) (txn : TxnId) (page : PageId)
    (mode : LockMode) : (table.request txn page mode).1.Sound := by
  rcases table.request_cases txn page mode with ⟨-, free, same⟩ | ⟨-, -, waits, same⟩
  · rw [same]
    exact sound.grant free
  · rw [same]
    exact ⟨sound.mem_pagesOf, sound.sharers, sound.holdings⟩

/-! ### Releases -/

/-- A release keeps the table sound. -/
lemma Sound.release {table : LockTable} (sound : table.Sound) (txn : TxnId) (page : PageId) :
    (table.release txn page).1.Sound where
  mem_pagesOf other q := by
    rw [pagesOf_release, modeOf?_release]
    by_cases own : txn = other
    · subst own
      by_cases here : page = q
      · simp [here]
      · simp [here, sound.mem_pagesOf]
    · simp [own, sound.mem_pagesOf]
  sharers q holders h := by
    by_cases here : page = q
    · subst here
      have locks : (table.release txn page).1.locks = table.unlock txn page := rfl
      rw [locks, unlock] at h
      split at h
      · next holder found =>
        split at h
        · simp at h
        · rw [found] at h
          cases h
      · next others found =>
        simp only at h
        split at h
        · simp at h
        · next rest =>
          rw [Std.ExtTreeMap.getElem?_insert_self] at h
          cases h
          exact fun none_left => rest (Std.ExtTreeSet.isEmpty_iff.mpr none_left)
      · exact sound.sharers page holders h
    · rw [show (table.release txn page).1.locks[q]? = table.locks[q]? from
        getElem?_unlock_of_ne here] at h
      exact sound.sharers q holders h
  holdings other pages h := by
    have held : (table.release txn page).1.held = table.forget txn page := rfl
    rw [held, forget] at h
    split at h
    · rw [Std.ExtTreeMap.getElem?_erase] at h
      split at h
      · cases h
      · exact sound.holdings other pages h
    · next rest =>
      rw [Std.ExtTreeMap.getElem?_insert] at h
      split at h
      · cases h
        exact fun none_left => rest (Std.ExtTreeSet.isEmpty_iff.mpr none_left)
      · exact sound.holdings other pages h

/-- Giving back some pages takes exactly these from the transaction. -/
lemma modeOf?_releaseEach (table : LockTable) (txn other : TxnId) (pages : List PageId)
    (q : PageId) :
    (table.releaseEach txn pages).modeOf? other q =
      if q ∈ pages ∧ txn = other then none else table.modeOf? other q := by
  induction pages generalizing table with
  | nil => simp [releaseEach]
  | cons page rest ih =>
      rw [releaseEach, ih, modeOf?_release]
      by_cases own : txn = other
      · by_cases later : q ∈ rest
        · simp [own, later]
        · by_cases here : page = q
          · simp [own, here]
          · simp [own, later, here, Ne.symm here]
      · simp [own]

/-- Giving back some pages keeps the table sound. -/
lemma Sound.releaseEach {table : LockTable} (sound : table.Sound) (txn : TxnId)
    (pages : List PageId) : (table.releaseEach txn pages).Sound := by
  induction pages generalizing table with
  | nil => exact sound
  | cons page rest ih => exact ih (sound.release txn page)

/-- Exactly the pages that a transaction holds in some mode are listed for it. -/
lemma Sound.mem_heldPages {table : LockTable} (sound : table.Sound) {txn : TxnId}
    {page : PageId} : page ∈ table.heldPages txn ↔ table.modeOf? txn page ≠ none := by
  rw [heldPages, Std.ExtTreeSet.mem_toList, sound.mem_pagesOf]

/-- Giving everything back leaves the transaction without locks, and the others with theirs. -/
lemma Sound.modeOf?_releaseAll {table : LockTable} (sound : table.Sound) (txn other : TxnId)
    (q : PageId) :
    (table.releaseAll txn).modeOf? other q =
      if txn = other then none else table.modeOf? other q := by
  have locks : (table.releaseAll txn).modeOf? other q =
      (table.releaseEach txn (table.heldPages txn)).modeOf? other q := rfl
  rw [locks, modeOf?_releaseEach]
  by_cases own : txn = other
  · subst own
    by_cases listed : q ∈ table.heldPages txn
    · simp [listed]
    · have nothing : table.modeOf? txn q = none := by
        by_contra held
        exact listed (sound.mem_heldPages.mpr held)
      simp [nothing]
  · simp [own]

/-- Giving everything back keeps the table sound. -/
lemma Sound.releaseAll {table : LockTable} (sound : table.Sound) (txn : TxnId) :
    (table.releaseAll txn).Sound where
  mem_pagesOf other q := by
    have rest := sound.releaseEach txn (table.heldPages txn)
    have held : (table.releaseAll txn).held =
        (table.releaseEach txn (table.heldPages txn)).held.erase txn := rfl
    rw [sound.modeOf?_releaseAll, pagesOf, held, Std.ExtTreeMap.getD_erase]
    by_cases own : txn = other
    · simp [own]
    · have same := modeOf?_releaseEach table txn other (table.heldPages txn) q
      simp only [own, and_false, if_false] at same
      simpa [own, ← same, pagesOf] using rest.mem_pagesOf other q
  sharers := (sound.releaseEach txn (table.heldPages txn)).sharers
  holdings other pages h := by
    have held : (table.releaseAll txn).held =
        (table.releaseEach txn (table.heldPages txn)).held.erase txn := rfl
    rw [held, Std.ExtTreeMap.getElem?_erase] at h
    split at h
    · cases h
    · exact (sound.releaseEach txn (table.heldPages txn)).holdings other pages h

end LockTable

end PageTxn
