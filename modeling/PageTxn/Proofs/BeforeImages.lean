import PageTxn.Proofs.Handling

/-!
The before-images of pages that may be flushed at any time.

* A flush, a commit and an abort keep the invariant `System.Accurate`: the pages that they write or
  undo fit afterwards (`Accurate.flushed`, `Accurate.forced`, `Accurate.undone`), and the other
  transactions can rely on what they relied on.
* `Accurate.act`, `Accurate.run`: so every act and every run keeps the invariant, and every act
  except a commit leaves page objects their before-images.
* `before_image_currency`: the before-image of a resident page is the stored image as long as the
  page is current, and a clean page shows the stored image until it is returned to a before-image
  that was older. Without flushes every page is current.
* `stale_before_image`: a flush leaves a clean page with an older before-image, and the next abort
  returns to that one.
-/

namespace PageTxn

/-! ### What flushes and ends leave to others -/

namespace Database

variable {db later : Database} {currency currency' : FrameId → Currency} {pages : List PageId}
  {txn : TxnId} {id : FrameId}

/-- What is known of page objects after a flush of the pages. -/
structure Knows (currency currency' : FrameId → Currency) (pages : List PageId) (db : Database) :
    Prop where
  idle : ∀ id, db.Idle pages id → currency' id = currency id
  written : ∀ id, ¬ db.Idle pages id → currency' id = .flushed

/-- A page with a frame that is idle is not written, if no other frame of it is resident. -/
lemma Written.image_of_idle (written : Written Frame.clean pages db later)
    (alone : ∀ other, db.cache.residentFrame? (db.cache.frame id).page = some other → other = id)
    (idle : db.Idle pages id) :
    later.storage.image? (db.cache.frame id).page =
      db.storage.image? (db.cache.frame id).page := by
  refine written.image_of_clean fun listed other there => ?_
  obtain rfl : other = id := alone other there
  exact idle listed there

/-- A flush leaves to everyone what they rely on. What it has written is no longer current. -/
lemma Written.leaves (written : Written Frame.clean pages db later)
    (known : Knows currency currency' pages db) (txn : TxnId) :
    Leaves txn currency currency' db later where
  resident page id _ there := (written.settled.resident page).symm.trans there
  based id _ _ grips := by
    by_cases idle : db.Idle pages id
    · rw [known.idle id idle, written.frame_of_idle idle, written.image_of_idle grips.alone idle]
      exact grips.based
    · rw [known.written id idle]
      rintro ⟨⟩
  calm page _ calm := by
    refine ⟨fun id there => ?_, written.image_of_clean fun _ => calm⟩
    by_cases idle : db.Idle pages id
    · rw [written.frame_of_idle idle]
      exact calm id ((written.settled.resident page).symm.trans there)
    · rw [written.frame_of_not_idle idle]
      rfl

/-- A transaction that ends leaves to the others what they rely on. -/
lemma leaves_of_settled {change : Frame → Frame} (sound : db.locks.table.Sound)
    (settled : Settled change (db.locks.heldPages txn) db later)
    (clean : ∀ frame : Frame, frame.owner = none → (change frame).owner = none)
    (same : ∀ id, db.locks.table.modeOf? txn (db.cache.frame id).page = none →
      currency' id = currency id)
    (images : ∀ page, db.locks.table.modeOf? txn page = none ∨ db.Calm page →
      later.storage.image? page = db.storage.image? page)
    {other : TxnId} (apart : other ≠ txn) (locks : LockManager) :
    Leaves other currency currency' db { later with locks } where
  resident page id _ there := (settled.resident page).symm.trans there
  based id _ lock grips := by
    have unlocked : db.locks.table.modeOf? txn (db.cache.frame id).page = none :=
      LockTable.modeOf?_eq_none_of_exclusive lock apart.symm
    rw [same id unlocked, images _ (Or.inl unlocked), settled.frame, if_neg]
    · exact grips.based
    · exact fun listed => sound.mem_heldPages.mp listed.1 unlocked
  calm page _ calm := by
    refine ⟨fun id there => ?_, images page (Or.inr calm)⟩
    have before := calm id ((settled.resident page).symm.trans there)
    rw [settled.frame]
    split
    · exact clean _ before
    · exact before

end Database

namespace System

open Database

variable {s : System} {currency currency' : FrameId → Currency} {txn : TxnId} {page : PageId}
  {pages : List PageId} {id : FrameId}

section Acts

variable (ok : Accurate currency s)
include ok

/-! ### Flushes -/

omit ok in
/-- Flushes and ends leave the system alone if they come while an operation is in progress. -/
lemma reassess_of_same {action : Action} (same : s.act action = s)
    (ongoing : (s.phase action.txn).isFree ≠ true) :
    s.reassess action currency = currency := by
  funext id
  obtain ⟨txn, act⟩ := action
  rw [reassess, same]
  cases act with
  | complete commit => cases commit <;> simp_all
  | _ => simp

omit ok in
/-- What a flush makes clean has been written by it. -/
lemma reassess_flush {action : Action} (flushes : action.act.isFlush = true) (id : FrameId) :
    s.reassess action currency id =
      if (s.frame id).isDirty && !((s.act action).frame id).isDirty then .flushed
      else currency id := by
  obtain ⟨txn, act⟩ := action
  cases act with
  | flushPage page => rfl
  | flushHeld => rfl
  | flushAll => rfl
  | _ => cases flushes

/-- A page fits after a flush. -/
lemma Accurate.flushed {later : System} (there : s.resident? page = some id)
    (written : Written Frame.clean pages s.db later.db)
    (known : Knows currency currency' pages s.db)
    (opened : ∀ txn, s.phase txn = .changing id → later.phase txn = .changing id) :
    Fits currency' later page id := by
  have shows : (s.db.cache.frame id).page = page := ok.guarded.db.orderly.page page id there
  by_cases idle : s.db.Idle pages id
  · have image := written.image_of_idle (ok.grips there).alone idle
    rw [shows] at image
    exact (ok.fits page id there).kept (written.frame_of_idle idle) image (known.idle id idle)
      opened
  · have live : (later.frame id).live = (s.frame id).live := by
      rw [System.frame, written.frame_of_not_idle idle]
      rfl
    have flushed := known.written id idle
    rw [Database.Idle, shows] at idle
    push Not at idle
    have stored := written.image_of_dirty idle.1 there idle.2.2
    refine ⟨?_, fun _ _ => ?_⟩
    · rw [flushed]
      rintro ⟨⟩
    · rw [flushed]
      exact stored.trans (congrArg some live.symm)

/-- A transaction flushes pages. -/
lemma Accurate.flush {action : Action} (flushes : action.act.isFlush = true)
    (pages : List PageId)
    (acts : s.act action = s.maintain action.txn fun db => (db.flushEach pages).1) :
    Passes currency (s.reassess action currency) s (s.act action) := by
  by_cases free : (s.phase action.txn).isFree = true
  · have orderly := ok.guarded.db.orderly
    have obeys := obeys_flushEach ok.guarded.db action.txn pages
    obtain ⟨flushed, done, written⟩ :=
      exists_flushEach ok.reliable orderly ok.guarded.db.housed pages
    rw [maintain, if_pos free, done] at acts
    rw [done] at obeys
    have known : Knows currency (s.reassess action currency) pages s.db := by
      have frame : (s.act action).frame = flushed.cache.frame := by
        rw [acts]
        rfl
      refine ⟨fun id idle => ?_, fun id busy => ?_⟩
      · rw [reassess_flush flushes, frame, written.frame_of_idle idle]
        simp
      · have dirty : (s.frame id).isDirty = true :=
          Option.isSome_iff_ne_none.mpr fun clean => busy fun _ _ => clean
        rw [reassess_flush flushes, frame, written.frame_of_not_idle busy, dirty]
        rfl
    rw [acts]
    refine ⟨ok.step (suffers_of_obeys ok.guarded .ready obeys rfl trivial).guarded
      written.reliable ok.going (fun id made => ?_) (fun page id there => ?_) (fun id _ => ?_) rfl
      trivial fun other _ => written.leaves known other, fun id _ => ?_⟩
    · -- a frame that was not made yet is not resident
      have young : s.db.cache.nextFrame ≤ id := by
        rw [← written.settled.nextFrame]
        exact made
      rw [known.idle id fun _ there =>
        absurd (orderly.made _ id there) (Nat.not_lt_of_le young)]
      exact ok.fresh id young
    · have resident : s.resident? page = some id :=
        (written.settled.resident page).symm.trans there
      refine ok.flushed resident written known fun other changing => ?_
      refine (Function.update_of_ne ?_ ..).trans changing
      rintro rfl
      exact ne_changing_of_free free id changing
    · exact (congrArg Frame.page (written.settled.frame id)).trans (by split <;> rfl)
    · exact (congrArg Frame.before (written.settled.frame id)).trans (by split <;> rfl)
  · have same : s.act action = s := by rw [acts, maintain, if_neg free]
    rw [reassess_of_same same free, same]
    exact ok.refl

/-! ### Ends -/

/-- A transaction ends. What it has locked must fit then. -/
lemma Accurate.ended {change : Frame → Frame} {ending : Ending}
    {later : Database} (free : (s.phase txn).isFree = true) (fine : ending ≠ .stuck)
    (guarded : (s.close txn ending later).Guarded) (reliable : later.storage.Reliable)
    (settled : Settled change (s.db.locks.heldPages txn) s.db later)
    (shows : ∀ frame, (change frame).page = frame.page)
    (clean : ∀ frame : Frame, frame.owner = none → (change frame).owner = none)
    (elsewhere : ∀ id, (s.mode txn (s.frame id).page ≠ none →
      s.resident? (s.frame id).page ≠ some id) → currency' id = currency id)
    (images : ∀ page, s.mode txn page = none ∨ s.db.Calm page →
      later.storage.image? page = s.stored? page)
    (held : ∀ page id, s.mode txn page ≠ none → s.resident? page = some id →
      Fits currency' (s.close txn ending later) page id) :
    Accurate currency' (s.close txn ending later) := by
  have sound := ok.guarded.db.sound
  have orderly := ok.guarded.db.orderly
  refine ok.step guarded reliable (ok.going_cons (fun other same => fine ?_) rfl)
    (fun id made => ?_) (fun page id there => ?_) (fun id _ => ?_) rfl trivial fun other apart =>
      leaves_of_settled sound settled clean (fun id unlocked => ?_) images apart _
  · cases same
    rfl
  · -- a frame that was not made yet is not resident
    have young : s.db.cache.nextFrame ≤ id := by
      rw [← settled.nextFrame]
      exact made
    rw [elsewhere id fun _ there => absurd (orderly.made _ id there) (Nat.not_lt_of_le young)]
    exact ok.fresh id young
  · have resident : s.resident? page = some id := (settled.resident page).symm.trans there
    by_cases locked : s.mode txn page = none
    · have unlocked : s.mode txn (s.frame id).page = none := by
        rw [show (s.frame id).page = page from orderly.page page id resident]
        exact locked
      refine (ok.fits page id resident).kept ?_ (images page (Or.inl locked))
        (elsewhere id fun held => absurd unlocked held) fun other changing => ?_
      · exact (settled.frame id).trans
          (if_neg fun listed => sound.mem_heldPages.mp listed.1 unlocked)
      · refine (Function.update_of_ne ?_ ..).trans changing
        rintro rfl
        exact ne_changing_of_free free id changing
    · exact held page id locked resident
  · exact (congrArg Frame.page (settled.frame id)).trans (by split <;> simp [shows])
  · exact elsewhere id fun held => absurd unlocked held

omit ok in
/-- The dirty pages of a commit are written, and the flushed ones get a before-image of their
own. -/
lemma reassess_commit (free : (s.phase txn).isFree = true)
    (held : s.mode txn (s.frame id).page ≠ none)
    (there : s.resident? (s.frame id).page = some id)
    (clean : ((s.act ⟨txn, .complete true⟩).frame id).owner = none) :
    s.reassess ⟨txn, .complete true⟩ currency id =
      if (s.frame id).owner ≠ none ∨ currency id = .flushed then .current else currency id := by
  have cleaned : ((s.frame id).isDirty && !((s.act ⟨txn, .complete true⟩).frame id).isDirty) =
      (s.frame id).isDirty := by
    rw [Frame.isDirty, Frame.isDirty, clean]
    simp
  rw [reassess, cleaned]
  simp [free, held, there, Frame.isDirty, Option.isSome_iff_ne_none]

/-- A page fits after a commit has forced it. -/
lemma Accurate.forced {later : System}
    (free : (s.phase txn).isFree = true) (held : s.mode txn page ≠ none)
    (there : s.resident? page = some id) (frame : later.frame id = (s.frame id).force)
    (written : (s.frame id).owner ≠ none → later.stored? page = some (s.frame id).live)
    (spared : (s.frame id).owner = none → later.stored? page = s.stored? page)
    (known : currency' id =
      if (s.frame id).owner ≠ none ∨ currency id = .flushed then .current else currency id) :
    Fits currency' later page id := by
  have same : (later.frame id).live = (later.frame id).before := by
    rw [frame]
    rfl
  have before : (later.frame id).before = (s.frame id).live := by
    rw [frame]
    rfl
  cases owner : (s.frame id).owner with
  | some other =>
      have dirty : (s.frame id).owner ≠ none := by
        rw [owner]
        simp
      rw [if_pos (Or.inl dirty)] at known
      refine .of_current known ?_ same
      rw [before]
      exact written dirty
  | none =>
      have closed := ok.closed_of_held held there (ne_changing_of_free free id)
      have shown := (ok.fits page id there).shown owner closed
      have based := (ok.fits page id there).based
      cases fact : currency id with
      | current =>
          rw [fact] at shown based
          refine .of_current (by simpa [owner, fact] using known) ?_ same
          rw [before, spared owner, based rfl]
          exact congrArg some shown.symm
      | flushed =>
          rw [fact] at shown
          refine .of_current (by simpa [fact] using known) ?_ same
          rw [before, spared owner]
          exact shown
      | reverted => exact .of_reverted (by simpa [owner, fact] using known) same

/-- A transaction commits. -/
lemma Accurate.commit (txn : TxnId) :
    Accurate (s.reassess ⟨txn, .complete true⟩ currency) (s.act ⟨txn, .complete true⟩) := by
  by_cases free : (s.phase txn).isFree = true
  · have orderly := ok.guarded.db.orderly
    have sound := ok.guarded.db.sound
    obtain ⟨forced, done, written⟩ :=
      exists_forceEach ok.reliable orderly (s.db.locks.heldPages txn) fun page _ =>
        ok.guarded.db.housed page
    have acts : s.act ⟨txn, .complete true⟩ = s.close txn .committed forced := by
      simp [act, System.complete, free, Database.complete, Database.settle, done, close]
    have guarded : (s.act ⟨txn, .complete true⟩).Guarded :=
      (suffers_complete ok.guarded txn fun guarded => obeys_commit guarded txn).guarded
    have known : ∀ page id, s.mode txn page ≠ none → s.resident? page = some id →
        (forced.cache.frame id) = (s.frame id).force ∧
          s.reassess ⟨txn, .complete true⟩ currency id =
            if (s.frame id).owner ≠ none ∨ currency id = .flushed then .current
            else currency id := by
      intro page id held there
      have shows : (s.frame id).page = page := orderly.page page id there
      have frame : forced.cache.frame id = (s.frame id).force := by
        refine (written.settled.frame id).trans (if_pos ?_)
        rw [shows]
        exact ⟨sound.mem_heldPages.mpr held, there⟩
      refine ⟨frame, reassess_commit free (by rw [shows]; exact held)
        (by rw [shows]; exact there) ?_⟩
      rw [acts]
      exact congrArg Frame.owner frame
    rw [acts] at guarded
    have result : Accurate (s.reassess ⟨txn, .complete true⟩ currency)
        (s.close txn .committed forced) := by
      refine ok.ended free (by simp) guarded written.reliable written.settled (fun _ => rfl)
        (fun _ _ => rfl) (fun id outside => ?_) (fun page spared => ?_) fun page id held there => ?_
      · simp only [reassess]
        exact if_neg fun all => outside all.2.1 all.2.2.1
      · refine written.image_of_clean fun listed id there => ?_
        exact spared.resolve_left (sound.mem_heldPages.mp listed) id there
      · obtain ⟨frame, known⟩ := known page id held there
        have listed : page ∈ s.db.locks.heldPages txn := sound.mem_heldPages.mpr held
        refine ok.forced free held there frame (written.image_of_dirty listed there)
          (fun clean => written.image_of_clean fun _ other another => ?_) known
        rw [← Option.some.inj (there.symm.trans another)]
        exact clean
    rw [acts]
    exact result
  · have same : s.act ⟨txn, .complete true⟩ = s := if_neg free
    rw [reassess_of_same same free, same]
    exact ok

omit ok in
/-- A flushed page that an abort makes clean has been returned to an older image. -/
lemma reassess_abort (txn : TxnId) (id : FrameId) :
    s.reassess ⟨txn, .complete false⟩ currency id =
      if (s.frame id).owner ≠ none ∧ ((s.act ⟨txn, .complete false⟩).frame id).owner = none ∧
          currency id = .flushed then .reverted
      else currency id := by
  simp [reassess, Frame.isDirty, Option.isSome_iff_ne_none, and_assoc]

/-- A page fits after an abort has undone it. -/
lemma Accurate.undone {later : System}
    (free : (s.phase txn).isFree = true) (there : s.resident? page = some id)
    (phases : ∀ other, other ≠ txn → later.phase other = s.phase other)
    (frame : later.frame id = (s.frame id).undo txn) (spared : later.stored? page = s.stored? page)
    (known : currency' id = if (s.frame id).owner ≠ none ∧ (later.frame id).owner = none ∧
      currency id = .flushed then .reverted else currency id) :
    Fits currency' later page id := by
  by_cases own : (s.frame id).owner = some txn
  · rw [Frame.undo, if_pos own] at frame
    have dirty : (s.frame id).owner ≠ none := by
      rw [own]
      simp
    have clean : (later.frame id).owner = none := by
      rw [frame]
      rfl
    have same : (later.frame id).live = (later.frame id).before := by
      rw [frame]
      rfl
    cases fact : currency id with
    | current =>
        have based := (ok.fits page id there).based
        rw [fact] at based
        refine .of_current (by simpa [fact] using known) ?_ same
        rw [spared, frame]
        exact based rfl
    | flushed => exact .of_reverted (by rw [known, if_pos ⟨dirty, clean, fact⟩]) same
    | reverted => exact .of_reverted (by simpa [fact] using known) same
  · -- changes of others and clean pages stay as they are
    rw [Frame.undo, if_neg own] at frame
    have known' : currency' id = currency id := by
      rw [known, frame, if_neg]
      exact fun all => all.1 all.2.1
    refine (ok.fits page id there).kept frame spared known' fun other changing => ?_
    rw [phases other, changing]
    rintro rfl
    exact ne_changing_of_free free id changing

omit ok in
lemma act_abort (free : (s.phase txn).isFree = true) :
    s.act ⟨txn, .complete false⟩ =
      s.close txn .aborted (s.db.rollbackPages txn (s.db.locks.heldPages txn)) := by
  simp [act, System.complete, free, Database.complete, Database.settle, close]

/-- An abort returns what the transaction owns to its before-image, and writes nothing. -/
lemma Accurate.returned (free : (s.phase txn).isFree = true) (there : s.resident? page = some id)
    (dirty : (s.frame id).owner = some txn) :
    (s.act ⟨txn, .complete false⟩).frame id = (s.frame id).restore ∧
      (s.act ⟨txn, .complete false⟩).stored? page = s.stored? page := by
  have shows : (s.db.cache.frame id).page = page := ok.guarded.db.orderly.page page id there
  have held : s.mode txn page ≠ none := by
    rw [ok.lock_of_owner there dirty]
    simp
  have settled :=
    settled_rollbackPages ok.guarded.db.orderly txn (s.db.locks.heldPages txn)
  rw [act_abort free]
  refine ⟨(settled.frame id).trans ?_, rfl⟩
  rw [if_pos]
  · exact if_pos dirty
  · rw [shows]
    exact ⟨ok.guarded.db.sound.mem_heldPages.mpr held, there⟩

/-- A transaction aborts. -/
lemma Accurate.abort (txn : TxnId) :
    Passes currency (s.reassess ⟨txn, .complete false⟩ currency) s
      (s.act ⟨txn, .complete false⟩) := by
  by_cases free : (s.phase txn).isFree = true
  · have orderly := ok.guarded.db.orderly
    have sound := ok.guarded.db.sound
    have settled := settled_rollbackPages orderly txn (s.db.locks.heldPages txn)
    have acts := act_abort free
    set undone := s.db.rollbackPages txn (s.db.locks.heldPages txn)
    have guarded : (s.act ⟨txn, .complete false⟩).Guarded :=
      (suffers_complete ok.guarded txn fun guarded _ => obeys_abort guarded txn).guarded
    have known : ∀ id, s.reassess ⟨txn, .complete false⟩ currency id = _ := reassess_abort txn
    rw [acts] at guarded ⊢
    simp only [acts] at known
    refine ⟨ok.ended free (by simp) guarded ok.reliable settled (fun frame => ?_)
      (fun frame clean => ?_) (fun id outside => ?_) (fun page spared => rfl)
      fun page id held there => ?_, fun id _ => ?_⟩
    · rw [Frame.undo]
      split <;> rfl
    · rw [Frame.undo_of_clean clean]
      exact clean
    · have frame : (s.close txn .aborted undone).frame id = s.frame id :=
        (settled.frame id).trans
          (if_neg fun listed => outside (sound.mem_heldPages.mp listed.1) listed.2)
      rw [known, frame, if_neg]
      exact fun all => all.1 all.2.1
    · have shows : (s.db.cache.frame id).page = page := orderly.page page id there
      refine ok.undone free there (fun other apart => Function.update_of_ne apart ..) ?_ rfl
        (known id)
      refine (settled.frame id).trans (if_pos ?_)
      rw [shows]
      exact ⟨sound.mem_heldPages.mpr held, there⟩
    · refine (congrArg Frame.before (settled.frame id)).trans ?_
      split
      · rw [Frame.undo]
        split <;> rfl
      · rfl
  · have same : s.act ⟨txn, .complete false⟩ = s := if_neg free
    rw [reassess_of_same same free, same]
    exact ok.refl

/-! ### Acts and runs -/

/-- Work on pages and flushes keep the invariant, and all but commits keep the before-images. -/
theorem Accurate.act {action : Action}
    (work : action.act.isPageWork = true ∨ action.act.isFlush = true) :
    Accurate (s.reassess action currency) (s.act action) ∧
      (action.act ≠ .complete true → ∀ id < s.db.cache.nextFrame,
        ((s.act action).frame id).before = (s.frame id).before) := by
  have passed : ∀ {currency' : FrameId → Currency} {later : System},
      Passes currency currency' s later → Accurate currency' later ∧
        (action.act ≠ .complete true → ∀ id < s.db.cache.nextFrame,
          (later.frame id).before = (s.frame id).before) :=
    fun passes => ⟨passes.accurate, fun _ => passes.before⟩
  obtain ⟨txn, act⟩ := action
  cases act with
  | call call =>
      cases call with
      | fetch page mode => exact passed (ok.fetch txn page mode)
      | insert table record => rcases work with paged | flushes <;> contradiction
      | delete record => rcases work with paged | flushes <;> contradiction
      | scan heap => rcases work with paged | flushes <;> contradiction
  | move => exact passed (ok.move txn)
  | look => exact passed (ok.look txn)
  | overwrite image => exact passed (ok.overwrite txn image)
  | report => exact passed (ok.report txn)
  | complete commit =>
      cases commit with
      | true => exact ⟨ok.commit txn, fun other => absurd rfl other⟩
      | false => exact passed (ok.abort txn)
  | release page => rcases work with paged | flushes <;> contradiction
  | flushPage page =>
      refine passed (ok.flush rfl [page] ?_)
      simp only [System.act, flushEach_singleton]
  | flushHeld => exact passed (ok.flush rfl (s.db.locks.heldPages txn) rfl)
  | flushAll => exact passed (ok.flush rfl s.db.cache.residentPages rfl)
  | discard page => rcases work with paged | flushes <;> contradiction

end Acts

/-- Every run of work on pages and flushes keeps the invariant. -/
theorem Accurate.run (ok : Accurate currency s) (actions : List Action)
    (work : ∀ action ∈ actions, action.act.isPageWork = true ∨ action.act.isFlush = true) :
    Accurate (s.currencies currency actions) (s.run actions) := by
  induction actions generalizing s currency with
  | nil => exact ok
  | cons action rest ih =>
      exact ih (ok.act (work action List.mem_cons_self)).1 fun next later =>
        work next (List.mem_cons_of_mem _ later)

/-- Without flushes every page is current. -/
lemma currencies_of_unflushed (actions : List Action)
    (unflushed : ∀ action ∈ actions, action.act.isFlush = false) :
    s.currencies (fun _ => .current) actions = fun _ => .current := by
  induction actions generalizing s with
  | nil => rfl
  | cons action rest ih =>
      have same : s.reassess action (fun _ => .current) = fun _ => .current := by
        have first := unflushed action List.mem_cons_self
        funext id
        obtain ⟨txn, act⟩ := action
        cases act with
        | complete commit => cases commit <;> simp [reassess]
        | flushPage page => cases first
        | flushHeld => cases first
        | flushAll => cases first
        | _ => rfl
      rw [currencies, same]
      exact ih fun next later => unflushed next (List.mem_cons_of_mem _ later)

end System

/-! ### Before-images -/

/-- **What a before-image is.** Let transactions fetch, overwrite and report pages and end, and let
anybody flush pages at any time. The before-image of a resident page is the stored image if the
page is current; a clean page that nobody is changing shows its before-image, or the stored image if
it was flushed. Only a commit takes a new before-image, and an abort returns a page to the one it
has, whatever is stored. Without flushes every page is current, so that all three images agree. -/
theorem before_image_currency {storage : Storage} (reliable : storage.Reliable) (capacity : Nat)
    (capacity_pos : 0 < capacity) (actions : List Action)
    (work : ∀ action ∈ actions, action.act.isPageWork = true ∨ action.act.isFlush = true) :
    let start := System.initial storage capacity capacity_pos
    let s := start.run actions
    let currency := start.currencies (fun _ => .current) actions
    (∀ (page : PageId) (id : FrameId), s.resident? page = some id →
      (currency id).Based (s.frame id) (s.stored? page) ∧
        ((s.frame id).owner = none → (∀ txn, s.phase txn ≠ .changing id) →
          (currency id).Shown (s.frame id) (s.stored? page))) ∧
      (∀ action : Action, action.act.isPageWork = true ∨ action.act.isFlush = true →
        action.act ≠ .complete true → ∀ (page : PageId) (id : FrameId),
          s.resident? page = some id → ((s.act action).frame id).before = (s.frame id).before) ∧
      (∀ (txn : TxnId) (page : PageId) (id : FrameId), (s.phase txn).isFree = true →
        s.resident? page = some id → (s.frame id).owner = some txn →
          let later := s.act ⟨txn, .complete false⟩
          later.frame id = (s.frame id).restore ∧ later.stored? page = s.stored? page) ∧
      ((∀ action ∈ actions, action.act.isFlush = false) → ∀ id, currency id = .current) := by
  intro start s currency
  have ok : s.Accurate currency :=
    (System.accurate_initial reliable capacity capacity_pos).run actions work
  refine ⟨fun page id there => ?_, fun action next keeps page id there => ?_,
    fun txn page id free there dirty => ok.returned free there dirty, fun unflushed id => ?_⟩
  · have fits := ok.fits page id there
    exact ⟨fits.based, fits.shown⟩
  · exact (ok.act next).2 keeps id (ok.guarded.db.orderly.made page id there)
  · exact congrFun (System.currencies_of_unflushed actions unflushed) id

/-- With room for a single page: a transaction changes a page, and another one flushes it. -/
def overwriteAndFlush : List Action :=
  let page : PageId := ⟨⟨1⟩, 0⟩
  [⟨⟨1⟩, .call (.fetch page .exclusive)⟩, ⟨⟨1⟩, .move⟩, ⟨⟨1⟩, .move⟩, ⟨⟨1⟩, .move⟩, ⟨⟨1⟩, .move⟩,
    ⟨⟨1⟩, .overwrite #[7, 9]⟩, ⟨⟨1⟩, .report⟩, ⟨⟨2⟩, .flushPage page⟩]

/-- The transaction changes the page again. -/
def overwriteAgain : List Action :=
  [⟨⟨1⟩, .call (.fetch ⟨⟨1⟩, 0⟩ .exclusive)⟩, ⟨⟨1⟩, .move⟩, ⟨⟨1⟩, .move⟩,
    ⟨⟨1⟩, .overwrite #[8, 8]⟩, ⟨⟨1⟩, .report⟩]

/-- An abort returns the flushed page to its image before the flush, and the flushed image stays
stored. -/
theorem before_image_currency_flushed :
    let start := System.initial twoPages 1 (by decide)
    let actions := overwriteAndFlush ++ overwriteAgain
    let later := (start.run actions).act ⟨⟨1⟩, .complete false⟩
    (∀ action ∈ actions, action.act.isPageWork = true ∨ action.act.isFlush = true) ∧
      start.currencies (fun _ => .current) actions 0 = .flushed ∧
      (later.frame 0).live = #[0, 0] ∧ later.stored? ⟨⟨1⟩, 0⟩ = some #[7, 9] := by
  intro start actions later
  have work : ∀ action ∈ actions, action.act.isPageWork = true ∨ action.act.isFlush = true := by
    decide
  have flushed : start.currencies (fun _ => .current) actions 0 = .flushed := by decide +kernel
  have there : (start.run actions).resident? ⟨⟨1⟩, 0⟩ = some 0 := by decide +kernel
  have dirty : ((start.run actions).frame 0).owner = some ⟨1⟩ := by decide +kernel
  have free : ((start.run actions).phase ⟨1⟩).isFree = true := by decide +kernel
  have before : ((start.run actions).frame 0).before = #[0, 0] := by decide +kernel
  have stored : (start.run actions).stored? ⟨⟨1⟩, 0⟩ = some #[7, 9] := by decide +kernel
  clear_value actions
  obtain ⟨-, -, returned, -⟩ :=
    before_image_currency reliable_twoPages 1 (by decide) actions work
  obtain ⟨frame, same⟩ := returned ⟨1⟩ ⟨⟨1⟩, 0⟩ 0 free there dirty
  exact ⟨work, flushed, (congrArg Frame.live frame).trans before, same.trans stored⟩

/-- A flush leaves a clean page whose before-image is not the stored image, and the next abort shows
that older image again. -/
theorem stale_before_image :
    let s := (System.initial twoPages 1 (by decide)).run overwriteAndFlush
    let later := s.run (overwriteAgain ++ [⟨⟨1⟩, .complete false⟩])
    let page : PageId := ⟨⟨1⟩, 0⟩
    (s.resident? page = some 0 ∧ (s.frame 0).owner = none ∧ (∀ txn, s.phase txn ≠ .changing 0) ∧
      s.stored? page = some #[7, 9] ∧ (s.frame 0).live = #[7, 9] ∧
      (s.frame 0).before = #[0, 0]) ∧
      later.resident? page = some 0 ∧ (later.frame 0).owner = none ∧
        (later.frame 0).live = #[0, 0] ∧ later.stored? page = some #[7, 9] := by
  intro s later page
  have there : s.resident? page = some 0 := by decide +kernel
  have held : s.mode ⟨1⟩ page ≠ none := by decide +kernel
  have ready : s.phase ⟨1⟩ = .ready := rfl
  have ok : s.Accurate _ :=
    (System.accurate_initial reliable_twoPages 1 (by decide)).run overwriteAndFlush (by decide)
  refine ⟨⟨there, by decide +kernel, ?_, by decide +kernel, by decide +kernel, by decide +kernel⟩,
    by decide +kernel, by decide +kernel, by decide +kernel, by decide +kernel⟩
  -- nobody but the first transaction has locked the page
  exact ok.closed_of_held held there (by rw [ready]; simp)

end PageTxn
