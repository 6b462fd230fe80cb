import PageTxn.Proofs.Guard

/-!
Locks that stay until their transaction ends.

An insert gives back the lock of a full page, if the transaction did not hold the page before.
No other lock goes before its transaction ends.

* `Operation.givesBack?` is the page that an operation in progress may give back.
* `Database.Keeps` says that a transaction holds a page and will not give it back. Every move of
  an operation keeps it so (`keeps_step`), and every start of one (`keeps_start`).
-/

namespace PageTxn

/-- The page that is given back if it is full. -/
def Aim.givesBack? : Aim → Option PageId
  | probe heap _ number _ false => some (heap.page number)
  | _ => none

/-- The page that an operation may give back. -/
def Operation.givesBack? : Operation → Option PageId
  | fetching _ _ aim _ => aim.givesBack?
  | reporting .. => none

/-- The page that a transaction may give back before it ends. -/
def Phase.givesBack? : Phase → Option PageId
  | busy _ operation => operation.givesBack?
  | _ => none

/-- Whose operation it is. -/
def Operation.txn : Operation → TxnId
  | fetching txn .. | reporting txn .. => txn

lemma Phase.givesBack?_after (call : Call) (outcome : Outcome) :
    (Phase.after call outcome).givesBack? = none := by
  unfold Phase.after
  split <;> rfl

namespace Database

/-- The transaction holds the page, and will do so until it ends. -/
structure Keeps (db : Database) (txn : TxnId) (page : PageId) (phase : Phase) : Prop where
  held : db.locks.table.modeOf? txn page ≠ none
  stays : phase.givesBack? ≠ some page

variable {db later : Database} {txn : TxnId} {page : PageId} {call : Call} {level : Level}

/-- An operation that has returned gives nothing back. -/
lemma keeps_finished {outcome : Outcome} (held : later.locks.table.modeOf? txn page ≠ none) :
    later.Keeps txn page (Progress.phase call (.finished outcome)) :=
  ⟨held, by rw [Progress.phase, Phase.givesBack?_after]; simp⟩

/-! ### Moves of an operation -/

/-- The transaction keeps the page after a move of an operation. -/
def KeepsAfter (txn : TxnId) (page : PageId) (call : Call) (moved : Database × Progress) : Prop :=
  moved.1.Keeps txn page (moved.2.phase call)

/-- A granted request adds a lock, and takes none. -/
lemma keeps_lockPage (held : db.locks.table.modeOf? txn page ≠ none) {aim : Aim}
    (stays : aim.givesBack? ≠ some page) (waited : Bool) :
    KeepsAfter txn page call (db.lockPage txn level aim waited) := by
  have locked : (db.locks.request txn aim.page aim.mode waited).1.table.modeOf? txn page ≠
      none := by
    show (db.locks.table.request txn aim.page aim.mode).1.modeOf? txn page ≠ none
    rw [LockTable.modeOf?_request]
    split
    · simp
    · exact held
  rw [lockPage]
  split
  · next granted =>
    rw [granted] at locked
    split <;> exact ⟨locked, stays⟩
  · next refused =>
    rw [refused] at locked
    exact keeps_finished locked
  · next parked =>
    rw [parked] at locked
    exact ⟨locked, stays⟩

/-- The next page is not given back if the transaction holds it already. -/
lemma keeps_nextProbe (sound : db.locks.table.Sound)
    (held : db.locks.table.modeOf? txn page ≠ none) (heap : HeapFile) (record : Record)
    (number remaining : Nat) :
    KeepsAfter txn page call (db.nextProbe txn level heap record number remaining) := by
  cases remaining with
  | zero => exact ⟨held, by simp [nextProbe, Aim.start, Progress.phase, Phase.givesBack?,
      Operation.givesBack?, Aim.givesBack?]⟩
  | succ remaining =>
      refine ⟨held, ?_⟩
      show (Aim.probe heap record number remaining
        (db.locks.holds txn (heap.page number))).givesBack? ≠ some page
      cases known : db.locks.holds txn (heap.page number) with
      | true => simp [Aim.givesBack?]
      | false =>
          intro here
          rw [← Option.some.inj here] at held
          rw [LockManager.holds, LockTable.holds, ← Bool.not_eq_true,
            Std.ExtTreeSet.contains_iff_mem] at known
          exact known ((sound.mem_pagesOf txn _).mpr held)

lemma locks_changeFrame {id : FrameId} {image : Image}
    (changed : db.changeFrame txn id image = .ok later) : later.locks = db.locks := by
  rw [changeFrame] at changed
  split at changed
  · cases changed
    rfl
  · cases changed

lemma locks_tryPlace {heap : HeapFile} {record placed : Record} {id : FrameId}
    (tried : db.tryPlace txn heap record id = .ok (some (later, placed))) :
    later.locks = db.locks := by
  obtain ⟨slot, image, -, changed, -⟩ := changeFrame_of_tryPlace tried
  exact locks_changeFrame changed

/-- After a change of a page, nothing is given back. -/
lemma keeps_next (held : db.locks.table.modeOf? txn page ≠ none) (same : later.locks = db.locks)
    (change : Change) : KeepsAfter txn page call (later, change.next txn level) := by
  have held' : later.locks.table.modeOf? txn page ≠ none := by
    rw [same]
    exact held
  cases level with
  | store => exact keeps_finished held'
  | database => exact ⟨held', by simp [Change.next, Progress.phase, Phase.givesBack?,
      Operation.givesBack?]⟩

lemma keeps_usePage (sound : db.locks.table.Sound)
    (held : db.locks.table.modeOf? txn page ≠ none) {aim : Aim}
    (stays : aim.givesBack? ≠ some page) (id : FrameId) :
    KeepsAfter txn page call (db.usePage txn level aim id) := by
  cases aim with
  | hand other mode => exact keeps_finished held
  | probe heap record number remaining alreadyHeld =>
      rw [usePage]
      split
      · exact keeps_finished held
      · exact ⟨held, by simp [Aim.start, Progress.phase, Phase.givesBack?,
          Operation.givesBack?, Aim.givesBack?]⟩
      · cases alreadyHeld with
        | true => exact keeps_nextProbe sound held ..
        | false =>
            -- another page is given back
            refine keeps_nextProbe (sound.release txn _) ?_ ..
            show (db.locks.table.release txn (heap.page number)).1.modeOf? txn page ≠ none
            rw [LockTable.modeOf?_release, if_neg fun here => stays (congrArg some here.1)]
            exact held
  | claim heap record number remaining =>
      rw [usePage]
      split
      · exact keeps_finished held
      · next tried => exact keeps_next held (locks_tryPlace tried) _
      · exact keeps_nextProbe sound held ..
  | fill heap record number =>
      rw [usePage]
      split
      · exact keeps_finished held
      · next tried => exact keeps_next held (locks_tryPlace tried) _
      · exact keeps_finished held
  | erase heap record =>
      rw [usePage]
      split
      · exact keeps_finished held
      · exact keeps_finished held
      · split
        · exact keeps_finished held
        · next changed => exact keeps_next held (locks_changeFrame changed) _
  | collect heap number remaining found =>
      rw [usePage]
      split
      · exact keeps_finished held
      · split
        · exact keeps_finished held
        · exact ⟨held, by simp [Aim.start, Progress.phase, Phase.givesBack?,
            Operation.givesBack?, Aim.givesBack?]⟩

lemma locks_readPage (db : Database) (store : Store) (page : PageId) :
    (db.readPage store page).1.locks = db.locks := by
  rw [readPage]
  split
  · rfl
  · rfl
  · dsimp only
    split <;> rfl

lemma locks_loadPage (db : Database) (page : PageId) :
    (db.loadPage page).1.locks = db.locks := by
  rw [loadPage]
  split
  · rfl
  · next store _ =>
    have same := db.locks_readPage store page
    split
    · next read => rw [read] at same; exact same
    · next read => rw [read] at same; exact same

lemma locks_enterPage (db : Database) (page : PageId) (image : Image) :
    (db.enterPage page image).1.locks = db.locks := by
  rw [enterPage]
  split
  · rfl
  · split <;> rfl

lemma locks_markDirty (db : Database) (txn : TxnId) (id : FrameId) :
    (db.markDirty txn id).1.locks = db.locks := rfl

/-- A transaction keeps its pages at every move of its operation. -/
theorem keeps_step (sound : db.locks.table.Sound) {operation : Operation}
    (own : operation.txn = txn) (keeps : db.Keeps txn page (.busy call operation)) :
    KeepsAfter txn page call (db.step operation) := by
  obtain ⟨held, stays⟩ := keeps
  cases operation with
  | fetching other level aim stage =>
      obtain rfl : other = txn := own
      cases stage with
      | lock waited => exact keeps_lockPage held stays waited
      | read =>
          have same := db.locks_loadPage aim.page
          rw [step]
          split
          · next loaded =>
            rw [loaded] at same
            exact ⟨by rw [same]; exact held, stays⟩
          · next loaded =>
            rw [loaded] at same
            exact keeps_finished (by rw [same]; exact held)
      | enter image =>
          have same := db.locks_enterPage aim.page image
          rw [step]
          split
          · next entered =>
            rw [entered] at same
            exact ⟨by rw [same]; exact held, stays⟩
          · next entered =>
            rw [entered] at same
            exact keeps_finished (by rw [same]; exact held)
      | use id => exact keeps_usePage sound held stays id
  | reporting other change pages =>
      cases pages with
      | nil => exact keeps_finished held
      | cons id rest =>
          have same := db.locks_markDirty other id
          rw [step]
          split
          · next marked =>
            rw [marked] at same
            exact ⟨by rw [same]; exact held, by simp [Progress.phase, Phase.givesBack?,
              Operation.givesBack?]⟩
          · next marked =>
            rw [marked] at same
            exact keeps_finished (by rw [same]; exact held)

/-! ### Calls -/

lemma locks_changeEach (store : Store) (change : Image → Image) (pages : List PageId)
    (db : Database) : (db.changeEach store change pages).1.locks = db.locks := by
  induction pages generalizing db with
  | nil => rfl
  | cons page rest ih =>
      have same := db.locks_readPage store page
      rw [changeEach]
      split
      · next read => rw [read] at same; exact same
      · next read =>
        rw [read] at same
        dsimp only
        split
        · next changed =>
          have rest_eq := congrArg (fun result => result.1.locks) changed
          exact rest_eq.symm.trans ((ih _).trans same)
        · next changed =>
          have rest_eq := congrArg (fun result => result.1.locks) changed
          exact rest_eq.symm.trans ((ih _).trans same)

/-- A transaction keeps its pages when it calls an operation. -/
theorem keeps_start (sound : db.locks.table.Sound)
    (held : db.locks.table.modeOf? txn page ≠ none) (call : Call) :
    KeepsAfter txn page call (db.start txn call) := by
  have begins : ∀ {aim : Aim} {level : Level}, aim.givesBack? = none →
      KeepsAfter txn page call (db, aim.start txn level) := by
    intro aim level nothing
    refine ⟨held, ?_⟩
    show aim.givesBack? ≠ some page
    rw [nothing]
    simp
  have changes : ∀ {table : TableId} {id : MemoryId} {change : Image → Image} {after : Database}
      {result : Except Failure (List FrameId)},
      db.changeTargets table id change = (after, result) → after.locks = db.locks := by
    intro table id change after result changed
    have same := locks_changeEach (.memory table id) change
      ((db.storage.memory id).targets.map fun number => ⟨table, number⟩) db
    rw [changeTargets] at changed
    rw [changed] at same
    exact same
  cases call with
  | fetch other mode => exact begins rfl
  | insert table record =>
      show KeepsAfter txn page _ (db.startInsertRecord txn table record)
      rw [startInsertRecord]
      split
      · next store _ =>
        cases store with
        | heap heap =>
            simp only [startInsert]
            split
            · exact keeps_nextProbe sound held ..
            · exact keeps_finished held
        | memory table id =>
            simp only [startInsert]
            split
            · next changed => exact keeps_next held (changes changed) _
            · next changed =>
              exact keeps_finished (by rw [changes changed]; exact held)
      · exact keeps_finished held
  | delete record =>
      show KeepsAfter txn page _ (db.startDeleteRecord txn record)
      rw [startDeleteRecord]
      split
      · exact keeps_finished held
      · split
        · next store _ =>
          cases store with
          | heap heap =>
              simp only [startDelete]
              split
              · exact keeps_finished held
              · split
                · exact begins rfl
                · exact keeps_finished held
          | memory table id =>
              simp only [startDelete]
              split
              · next changed => exact keeps_next held (changes changed) _
              · next changed =>
                exact keeps_finished (by rw [changes changed]; exact held)
        · exact keeps_finished held
  | scan heap =>
      show KeepsAfter txn page _ (db.startScan txn heap)
      rw [startScan]
      split
      · exact keeps_finished held
      · exact begins rfl

end Database

end PageTxn
