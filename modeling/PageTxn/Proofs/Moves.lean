import PageTxn.Proofs.Consistency

/-!
The elementary changes of a system.

* `System.Leads` says that a step of one transaction keeps the invariant and spares all other
  transactions; steps that lead on can be put together (`Leads.trans`).
* The lemmas of this module say so for each elementary change: another phase, one more event,
  a request for a lock, a cache that shrinks, a page that is brought in, appended, given back,
  changed, admitted or reported.
-/

namespace PageTxn.System

open History

/-- A step of one transaction keeps the invariant and spares all others. -/
structure Leads (storage : Storage) (allowed : Act → Prop) (txn : TxnId) (s later : System) :
    Prop where
  consistent : Consistent storage allowed later
  spares : ∀ other : TxnId, other ≠ txn → Spares storage other s later

variable {storage : Storage} {allowed : Act → Prop} {s middle later : System} {txn : TxnId}
  {page : PageId} {id : FrameId} {call : Call} {operation : Operation}

lemma Leads.trans (first : Leads storage allowed txn s middle)
    (second : Leads storage allowed txn middle later) : Leads storage allowed txn s later where
  consistent := second.consistent
  spares other apart := (first.spares other apart).trans (second.spares other apart)

/-- What an operation relies on does not depend on the phases. -/
lemma Serves.setPhase (serves : Serves storage s txn call operation) (other : TxnId)
    (phase : Phase) : Serves storage (s.setPhase other phase) txn call operation := by
  cases serves with
  | lock pursues => exact .lock pursues
  | read pursues covers => exact .read pursues covers
  | enter pursues covers loaded => exact .enter pursues covers loaded
  | use pursues hand => exact .use pursues { hand with }
  | report window single effect => exact .report { window with } single effect
  | reported window single effect there owner =>
      exact .reported { window with } single effect there owner

/-! ### Who is spared -/

/-- A transaction is spared when another one goes on to its next phase. -/
lemma spares_setPhase {other : TxnId} (apart : other ≠ txn) (phase : Phase) :
    Spares storage other s (s.setPhase txn phase) :=
  { (Spares.refl other s : Spares storage other s s) with
    phase := Function.update_of_ne apart .. }

/-- A transaction is spared when something else than an end happens to another one. -/
lemma spares_log {event : Event} {other : TxnId} (apart : other ≠ event.txn)
    (still : event.isEnd = false) : Spares storage other s (s.log event) :=
  { (Spares.refl other s : Spares storage other s s) with
    own := fun _ => ownWrite_cons_of_ne apart.symm
    ledger := fun _ _ => ledger_cons still
    accesses := fun _ accesses => (accesses_cons_of_ne apart.symm).mp accesses
    ended := ended_cons_of_still still }

/-- When a page is brought in, other pages stay resident. -/
lemma resident?_of_brought {brought : FrameId} (absent : s.resident? page = none)
    (residents : ∀ other, later.resident? other =
      if page = other then some brought else s.resident? other)
    {other : PageId} (there : s.resident? other = some id) : later.resident? other = some id := by
  rw [residents, if_neg]
  · exact there
  · rintro rfl
    rw [absent] at there
    cases there

namespace Consistent

variable (ok : Consistent storage allowed s)
include ok

lemma leads_refl (txn : TxnId) : Leads storage allowed txn s s :=
  ⟨ok, fun other _ => .refl other s⟩

/-- All transactions are fine after a step if its own one is and the others are spared. -/
lemma txn_of_spares (own : TxnOk storage later txn allowed)
    (others : ∀ other, other ≠ txn → Spares storage other s later) (other : TxnId) :
    TxnOk storage later other allowed := by
  by_cases mine : other = txn
  · rw [mine]
    exact own
  · exact TxnOk.spared (others other mine) ok.orderly (ok.txn other)

/-! ### Phases and events -/

/-- A transaction can go on to a phase whose conditions it meets, but it keeps an image that it
has changed in view as long as the page is resident. -/
lemma setPhase {phase : Phase} (going : s.phase txn ≠ .gone) (still : phase ≠ .gone)
    (phaseOk : PhaseOk storage s txn allowed phase)
    (closes : ∀ id, (s.phase txn).window? = some id →
      phase.window? = some id ∨ ∀ page, s.resident? page ≠ some id) :
    Leads storage allowed txn s (s.setPhase txn phase) := by
  have self : (s.setPhase txn phase).phase txn = phase := Function.update_self ..
  have others : ∀ other, other ≠ txn → Spares storage other s (s.setPhase txn phase) :=
    fun other apart => spares_setPhase apart phase
  have own : TxnOk storage (s.setPhase txn phase) txn allowed := by
    have before := ok.txn txn
    refine ⟨?_, before.owned, before.accessed, ?_⟩
    · rw [self]
      cases phase with
      | ready => trivial
      | holding page mode id => exact { (phaseOk : AtHand storage s txn page mode id) with }
      | changing id => exact { (phaseOk : Window s txn id) with }
      | busy call operation =>
          exact ⟨phaseOk.1, phaseOk.2.setPhase txn _⟩
      | gone => exact absurd rfl still
    · rw [self]
      exact ⟨fun gone => absurd gone still, fun ended => absurd (before.gone.mpr ended) going⟩
  refine ⟨{ ok with kept := fun page id there => ?_, txn := ok.txn_of_spares own others }, others⟩
  refine (ok.kept page id there).spared ok.orderly there others (ok.kept page id there).before rfl
    fun owned => ⟨owned.lock, owned.owner, ?_⟩
  rw [self]
  rcases owned.reason with opened | wrote
  · rcases closes id opened with stays | gone
    · exact Or.inl stays
    · exact absurd there (gone page)
  · exact Or.inr wrote

/-- An event that leaves no image can be recorded, if the pages that were looked at are
locked. -/
lemma log {event : Event} (admits : Admits storage allowed s.history event)
    (still : event.isEnd = false) (blank : ∀ page, event.left? page = none)
    (locked : ∀ access ∈ event.accesses, s.mode event.txn access.page ≠ none)
    (idle : ∀ call operation, s.phase event.txn ≠ .busy call operation) :
    Leads storage allowed event.txn s (s.log event) := by
  have own_same : ∀ (other : TxnId) (page : PageId),
      ownWrite other page (event :: s.history) = ownWrite other page s.history := by
    intro other page
    rw [ownWrite_cons, blank, Option.none_or, ite_self]
  have others : ∀ other, other ≠ event.txn → Spares storage other s (s.log event) :=
    fun other apart => spares_log apart still
  have own : TxnOk storage (s.log event) event.txn allowed := by
    have before := ok.txn event.txn
    refine ⟨?_, fun page image wrote live => ?_, fun page accesses live => ?_, ?_⟩
    · have phaseOk := before.phase
      show PhaseOk storage (s.log event) event.txn allowed (s.phase event.txn)
      cases phase : s.phase event.txn with
      | ready => trivial
      | holding page mode id =>
          rw [phase] at phaseOk
          have hand : AtHand storage s event.txn page mode id := phaseOk
          refine { hand with live := ?_ }
          show _ = visible storage event.txn page (event :: s.history)
          rw [visible, own_same, ledger_cons still]
          exact hand.live
      | changing id =>
          rw [phase] at phaseOk
          exact { (phaseOk : Window s event.txn id) with }
      | busy call operation => exact absurd phase (idle call operation)
      | gone =>
          rw [phase] at phaseOk
          exact phaseOk
    · exact before.owned page image ((own_same event.txn page).symm.trans wrote)
        fun ended => live ((ended_cons_of_still still).mpr ended)
    · rcases accesses_cons.mp accesses with ⟨-, access, inside, rfl⟩ | earlier
      · exact locked access inside
      · exact before.accessed page earlier
          fun ended => live ((ended_cons_of_still still).mpr ended)
    · exact before.gone.trans (ended_cons_of_still still).symm
  refine ⟨{ ok with
    admissible := ⟨admits, ok.admissible⟩
    stored := fun page image stored =>
      (ok.stored page image stored).trans (ledger_cons still).symm
    missing := fun page absent => ?_
    kept := fun page id there => ?_
    txn := ok.txn_of_spares own others }, others⟩
  · exact ⟨(committedWrite_cons still).trans (ok.missing page absent).1,
      (ok.missing page absent).2⟩
  · refine (ok.kept page id there).spared ok.orderly there others (ok.kept page id there).before
      rfl fun owned => ⟨owned.lock, owned.owner, ?_⟩
    rcases owned.reason with opened | ⟨owner, wrote⟩
    · exact Or.inl opened
    · exact Or.inr ⟨owner, (own_same event.txn page).trans wrote⟩

/-- A transaction that has changed the image of a page, which is resident and its own by now,
can record the image and be ready. -/
lemma logWrite {event : Event} (admits : Admits storage allowed s.history event)
    (still : event.isEnd = false) (opened : (s.phase event.txn).window? = some id)
    (window : Window s event.txn id) (there : s.resident? (s.frame id).page = some id)
    (owner : (s.frame id).owner = some event.txn)
    (left : ∀ page, event.left? page =
      if (s.frame id).page = page then some (s.frame id).live else none)
    (inside : ∀ access ∈ event.accesses, access.page = (s.frame id).page) :
    Leads storage allowed event.txn s ((s.setPhase event.txn .ready).log event) := by
  have self : (s.setPhase event.txn .ready).phase event.txn = .ready := Function.update_self ..
  have held : s.mode event.txn (s.frame id).page ≠ none := by
    rw [window.lock]
    simp
  have live : ¬ Ended event.txn s.history := (ok.txn event.txn).live held
  have own_write : ∀ page, ownWrite event.txn page (event :: s.history) =
      if (s.frame id).page = page then some (s.frame id).live
      else ownWrite event.txn page s.history := by
    intro page
    rw [ownWrite_cons, if_pos rfl, left]
    split <;> simp
  have others : ∀ other, other ≠ event.txn →
      Spares storage other s ((s.setPhase event.txn .ready).log event) :=
    fun other apart => (spares_setPhase apart .ready).trans (spares_log apart still)
  have own : TxnOk storage ((s.setPhase event.txn .ready).log event) event.txn allowed := by
    have before := ok.txn event.txn
    refine ⟨?_, fun page image wrote _ => ?_, fun page accesses _ => ?_, ?_⟩
    · show PhaseOk storage _ event.txn allowed ((s.setPhase event.txn .ready).phase event.txn)
      rw [self]
      trivial
    · by_cases here : (s.frame id).page = page
      · subst here
        exact ⟨id, there, owner⟩
      · have earlier : ownWrite event.txn page s.history = some image := by
          rw [← wrote]
          exact ((own_write page).trans (if_neg here)).symm
        exact before.owned page image earlier live
    · rcases accesses_cons.mp accesses with ⟨-, access, listed, rfl⟩ | earlier
      · rw [inside access listed]
        exact held
      · exact before.accessed page earlier live
    · show (s.setPhase event.txn .ready).phase event.txn = .gone ↔ _
      rw [self]
      exact ⟨fun gone => (nomatch gone), fun ended =>
        absurd ((ended_cons_of_still still).mp ended) live⟩
  refine ⟨{ ok with
    admissible := ⟨admits, ok.admissible⟩
    stored := fun page image stored =>
      (ok.stored page image stored).trans (ledger_cons still).symm
    missing := fun page absent => ?_
    kept := fun page other resident => ?_
    txn := ok.txn_of_spares own others }, others⟩
  · exact ⟨(committedWrite_cons still).trans (ok.missing page absent).1,
      (ok.missing page absent).2⟩
  · refine (ok.kept page other resident).spared ok.orderly resident others
      (ok.kept page other resident).before rfl fun owned => ⟨owned.lock, owned.owner, Or.inr ?_⟩
    by_cases here : (s.frame id).page = page
    · -- the page that is reported
      subst here
      have same : other = id := window.alone other resident
      subst same
      exact ⟨owner, (own_write _).trans (if_pos rfl)⟩
    · rcases owned.reason with other_opened | ⟨owner, wrote⟩
      · rw [opened] at other_opened
        cases other_opened
        exact absurd (ok.orderly.page page id resident) here
      · exact ⟨owner, ((own_write page).trans (if_neg here)).trans wrote⟩

/-! ### Locks -/

/-- A request for a lock at most strengthens what the transaction holds. -/
lemma request {level : Level} {aim : Aim} {waited : Bool}
    (asks : s.phase txn = .busy call (.fetching txn level aim (.lock waited))) :
    Leads storage allowed txn s { s with db := { s.db with
      locks := (s.db.locks.request txn aim.page aim.mode waited).1 } } := by
  set later : System := { s with db := { s.db with
    locks := (s.db.locks.request txn aim.page aim.mode waited).1 } }
  have modes : ∀ (other : TxnId) (page : PageId), later.mode other page =
      if (s.db.locks.table.request txn aim.page aim.mode).2 = .granted ∧ aim.page = page ∧
        txn = other then some (aim.mode.joined (s.mode txn aim.page)) else s.mode other page :=
    fun other page => LockTable.modeOf?_request ..
  have others : ∀ other, other ≠ txn → Spares storage other s later := by
    intro other apart
    refine { (Spares.refl other s : Spares storage other s s) with mode := fun page => ?_ }
    rw [modes, if_neg]
    exact fun granted => apart granted.2.2.symm
  have own : TxnOk storage later txn allowed := by
    have before := ok.txn txn
    refine ⟨?_, before.owned, fun page accesses live => ?_, before.gone⟩
    · have phaseOk := before.phase
      show PhaseOk storage later txn allowed (s.phase txn)
      rw [asks] at phaseOk ⊢
      obtain ⟨asked, serves⟩ := phaseOk
      cases serves with
      | lock pursues => exact ⟨asked, .lock pursues⟩
    · rw [modes]
      split
      · simp
      · exact before.accessed page accesses live
  refine ⟨{ ok with
    sound := ok.sound.request txn aim.page aim.mode
    kept := fun page id there => ?_
    txn := ok.txn_of_spares own others }, others⟩
  refine (ok.kept page id there).spared ok.orderly there others (ok.kept page id there).before rfl
    fun owned => ⟨?_, owned.owner, owned.reason⟩
  rw [modes]
  split
  · next granted =>
    obtain ⟨-, rfl, -⟩ := granted
    rw [owned.lock]
    rfl
  · exact owned.lock

/-- A lock on a page that a transaction has not accessed can be given back. -/
lemma release (ready : s.phase txn = .ready) (untouched : ¬ Accesses txn page s.history) :
    Leads storage allowed txn s { s with db := s.db.release txn page } := by
  set later : System := { s with db := s.db.release txn page }
  have modes : ∀ (other : TxnId) (q : PageId), later.mode other q =
      if page = q ∧ txn = other then none else s.mode other q :=
    fun other q => LockTable.modeOf?_release ..
  have others : ∀ other, other ≠ txn → Spares storage other s later := by
    intro other apart
    refine { (Spares.refl other s : Spares storage other s s) with mode := fun q => ?_ }
    rw [modes, if_neg]
    exact fun released => apart released.2.symm
  have own : TxnOk storage later txn allowed := by
    have before := ok.txn txn
    refine ⟨?_, before.owned, fun q accesses live => ?_, before.gone⟩
    · show PhaseOk storage later txn allowed (s.phase txn)
      rw [ready]
      trivial
    · rw [modes, if_neg]
      · exact before.accessed q accesses live
      · rintro ⟨rfl, -⟩
        exact untouched accesses
  refine ⟨{ ok with
    sound := ok.sound.release txn page
    kept := fun q id there => ?_
    txn := ok.txn_of_spares own others }, others⟩
  refine (ok.kept q id there).spared ok.orderly there others (ok.kept q id there).before rfl
    fun owned => ⟨?_, owned.owner, owned.reason⟩
  rcases owned.reason with opened | ⟨-, wrote⟩
  · rw [ready] at opened
    cases opened
  · rw [modes, if_neg]
    · exact owned.lock
    · rintro ⟨rfl, -⟩
      exact untouched (accesses_of_ownWrite wrote)

/-! ### Clean pages and stores -/

/-- Everyone is spared when clean pages leave. -/
lemma leads_of_shrinks {cache : Cache} (shrinks : cache.Shrinks s.db.cache) (txn : TxnId) :
    Leads storage allowed txn s { s with db := { s.db with cache } } := by
  have spared : ∀ other, Spares storage other s { s with db := { s.db with cache } } := by
    intro other
    exact { (Spares.refl other s : Spares storage other s s) with
      made := Nat.le_of_eq shrinks.nextFrame.symm
      frame := fun id _ _ => shrinks.frame id
      stays := fun id _ _ owner there => shrinks.residentFrame?_of_dirty there owner
      alone := fun page id _ there => shrinks.residentFrame? there }
  refine ⟨{ ok with
    orderly := shrinks.orderly ok.orderly
    kept := fun page id there => ?_
    txn := fun other => TxnOk.spared (spared other) ok.orderly (ok.txn other) },
    fun other _ => spared other⟩
  have before : s.resident? page = some id := shrinks.residentFrame? there
  have same : cache.frame id = s.frame id := shrinks.frame id
  refine (ok.kept page id before).spared ok.orderly before (fun other _ => spared other) ?_ same
    (OwnedBy.spared (spared txn) ok.orderly before)
  show s.stored? page = some (cache.frame id).before
  rw [same]
  exact (ok.kept page id before).before

/-- Everyone is spared when a page is read. -/
lemma leads_of_alike {stored : Storage} (alike : stored.Alike s.db.storage) (txn : TxnId) :
    Leads storage allowed txn s { s with db := { s.db with storage := stored } } := by
  have spared : ∀ other, Spares storage other s
      { s with db := { s.db with storage := stored } } := by
    intro other
    exact { (Spares.refl other s : Spares storage other s s) with
      stored := fun page image _ found => (alike.image page).trans found }
  refine ⟨{ ok with
    reliable := alike.reliable ok.reliable
    tables := alike.toSameTables.trans ok.tables
    stored := fun page image found => ok.stored page image ((alike.image page).symm.trans found)
    missing := fun page absent => ok.missing page ((alike.image page).symm.trans absent)
    grown := fun page there => ok.grown page fun absent => there ((alike.image page).trans absent)
    kept := fun page id there => ?_
    txn := fun other => TxnOk.spared (spared other) ok.orderly (ok.txn other) },
    fun other _ => spared other⟩
  exact (ok.kept page id there).spared ok.orderly there (fun other _ => spared other)
    ((alike.image page).trans (ok.kept page id there).before) rfl
    (OwnedBy.spared (spared txn) ok.orderly there)

/-- Everyone is spared when a zeroed page is appended to a heap file. -/
lemma leads_of_append {table : TableId} {heap : HeapFile} {record : Record}
    (asked : allowed (.call (.insert table record)))
    (found : storage.catalog[table]? = some (.heap heap))
    (room : PageFile.wholePages (s.db.storage.disk.bytes heap.file) s.db.storage.pageSize <
      UInt32.size) (txn : TxnId) :
    Leads storage allowed txn s { s with db := { s.db with
      storage := (s.db.storage.appendPage heap).2 } } := by
  obtain ⟨stored, appended, reliable, tables, absent, images⟩ :=
    Storage.exists_appendPage ok.reliable.apart ((ok.catalog_eq table).trans found) room
  replace reliable := reliable ok.reliable
  rw [appended]
  set fresh : PageId := ⟨table, s.db.storage.heapPages heap⟩
  have nothing : s.stored? fresh = none := absent
  have kept_image : ∀ (page : PageId) (image : Image), s.stored? page = some image →
      stored.image? page = some image := by
    intro page image there
    rw [images, if_neg]
    · exact there
    · rintro rfl
      rw [nothing] at there
      cases there
  have spared : ∀ other, Spares storage other s
      { s with db := { s.db with storage := stored } } := by
    intro other
    exact { (Spares.refl other s : Spares storage other s s) with
      stored := fun page image _ there => kept_image page image there }
  refine ⟨{ ok with
    reliable := reliable
    tables := tables.trans ok.tables
    stored := fun page image there => ?_
    missing := fun page gone => ?_
    grown := fun page there => Or.inr ⟨table, record, asked⟩
    kept := fun page id there => ?_
    txn := fun other => TxnOk.spared (spared other) ok.orderly (ok.txn other) },
    fun other _ => spared other⟩
  · by_cases here : fresh = page
    · -- the appended page is zeroed, as a page that does not exist should be
      obtain ⟨uncommitted, unstored⟩ := ok.missing fresh nothing
      have zeros : some (Image.zeros s.db.storage.pageSize.bytes) = some image := by
        rw [← there]
        exact ((images page).trans (if_pos here)).symm
      cases zeros
      rw [← here, ledger, uncommitted, Option.getD_none, Storage.initially, unstored,
        Option.getD_none, ok.tables.pageSize]
    · exact ok.stored page image (((images page).trans (if_neg here)).symm.trans there)
  · by_cases here : fresh = page
    · have zeros := (images page).trans (if_pos here)
      rw [show stored.image? page = none from gone] at zeros
      cases zeros
    · exact ok.missing page (((images page).trans (if_neg here)).symm.trans gone)
  · exact (ok.kept page id there).spared ok.orderly there (fun other _ => spared other)
      (kept_image page _ (ok.kept page id there).before) rfl
      (OwnedBy.spared (spared txn) ok.orderly there)

/-! ### Frames -/

/-- A page that was read and is not resident can be brought in. -/
lemma enter {level : Level} {aim : Aim} {image : Image}
    (entering : s.phase txn = .busy call (.fetching txn level aim (.enter image)))
    (absent : s.resident? aim.page = none) :
    Leads storage allowed txn s { s with db := { s.db with
      cache := (s.db.cache.newFrame (.ofImage aim.page image)).2.bringIn
        s.db.cache.nextFrame } } := by
  set cache := (s.db.cache.newFrame (.ofImage aim.page image)).2.bringIn s.db.cache.nextFrame
  set later : System := { s with db := { s.db with cache } }
  obtain ⟨asked, serves⟩ := ok.phaseOk entering
  obtain ⟨pursues, covers, loaded⟩ : Pursues storage txn s.history call level aim ∧
      s.db.locks.table.Covers txn aim.page aim.mode ∧ s.stored? aim.page = some image := by
    cases serves with
    | enter pursues covers loaded => exact ⟨pursues, covers, loaded⟩
  have frames : ∀ id, later.frame id =
      if s.db.cache.nextFrame = id then .ofImage aim.page image else s.frame id :=
    fun id => Cache.frame_newFrame ..
  have fresh : later.frame s.db.cache.nextFrame = .ofImage aim.page image := by
    rw [frames, if_pos rfl]
  have old : ∀ id, id < s.db.cache.nextFrame → later.frame id = s.frame id :=
    fun id made => (frames id).trans (if_neg (Nat.ne_of_gt made))
  have residents : ∀ page, later.resident? page =
      if aim.page = page then some s.db.cache.nextFrame else s.resident? page := by
    intro page
    have brought := Cache.residentFrame?_bringIn
      (s.db.cache.newFrame (.ofImage aim.page image)).2 s.db.cache.nextFrame page
    rw [Cache.frame_newFrame, if_pos rfl] at brought
    exact brought
  have others : ∀ other, other ≠ txn → Spares storage other s later := by
    intro other apart
    exact { (Spares.refl other s : Spares storage other s s) with
      made := Nat.le_succ _
      frame := fun id made _ => old id made
      stays := fun id _ _ _ there => resident?_of_brought absent residents there
      alone := fun page id exclusive there => by
        rw [residents, if_neg] at there
        · exact there
        · rintro rfl
          exact apart (eq_of_exclusive exclusive covers.1).symm }
  have own : TxnOk storage later txn allowed := by
    have before := ok.txn txn
    refine ⟨?_, fun page written wrote live => ?_, before.accessed, before.gone⟩
    · show PhaseOk storage later txn allowed (s.phase txn)
      rw [entering]
      exact ⟨asked, .enter pursues covers loaded⟩
    · obtain ⟨id, there, owner⟩ := before.owned page written wrote live
      refine ⟨id, resident?_of_brought absent residents there, ?_⟩
      rw [old id (ok.orderly.made page id there)]
      exact owner
  refine ⟨{ ok with
    orderly := (ok.orderly.newFrame _).bringIn (Nat.lt_succ_self _)
    kept := fun page id there => ?_
    txn := ok.txn_of_spares own others }, others⟩
  rw [residents] at there
  split at there
  · next here =>
    -- the new frame shows the stored image
    cases there
    subst here
    refine ⟨?_, Or.inl ?_⟩
    · rw [fresh]
      exact loaded
    · rw [fresh]
      exact ⟨rfl, rfl⟩
  · have same := old id (ok.orderly.made page id there)
    refine (ok.kept page id there).spared ok.orderly there others ?_ same
      fun owned => owned.of_same same rfl rfl rfl
    rw [same]
    exact (ok.kept page id there).before

/-- A transaction that changes the image of a page can replace the frame, and mark it as its
own. -/
lemma setFrame {frame : Frame} (changing : s.phase txn = .changing id)
    (shows : frame.page = (s.frame id).page) (before : frame.before = (s.frame id).before)
    (owner : frame.owner = (s.frame id).owner ∨ frame.owner = some txn) :
    Leads storage allowed txn s { s with db := { s.db with
      cache := s.db.cache.setFrame id frame } } := by
  set later : System := { s with db := { s.db with cache := s.db.cache.setFrame id frame } }
  have window : Window s txn id := ok.phaseOk changing
  have held : s.mode txn (s.frame id).page ≠ none := by
    rw [window.lock]
    simp
  have frames : ∀ other, later.frame other = if id = other then frame else s.frame other :=
    fun other => Cache.frame_setFrame ..
  have self : later.frame id = frame := by rw [frames, if_pos rfl]
  have others : ∀ other, other ≠ txn → Spares storage other s later := by
    intro other apart
    refine { (Spares.refl other s : Spares storage other s s) with
      frame := fun target _ locked => ?_ }
    rw [frames, if_neg]
    rintro rfl
    exact apart (eq_of_exclusive window.lock locked)
  have own : TxnOk storage later txn allowed := by
    have earlier := ok.txn txn
    refine ⟨?_, fun page image wrote live => ?_, earlier.accessed, earlier.gone⟩
    · show PhaseOk storage later txn allowed (s.phase txn)
      rw [changing]
      refine ⟨?_, window.made, ?_, ?_⟩
      · rw [self, shows]
        exact window.lock
      · rw [self, shows, before]
        exact window.before
      · rw [self, shows]
        exact window.alone
    · obtain ⟨target, there, mine⟩ := earlier.owned page image wrote live
      refine ⟨target, there, ?_⟩
      rw [frames]
      split
      · next here =>
        subst here
        rcases owner with same | marked
        · rw [same]
          exact mine
        · exact marked
      · exact mine
  refine ⟨{ ok with
    orderly := ok.orderly.setFrame shows
    kept := fun page target there => ?_
    txn := ok.txn_of_spares own others }, others⟩
  have there_before : s.resident? page = some target := there
  by_cases here : id = target
  · -- the frame that is replaced is resident
    subst here
    have page_eq : (s.frame id).page = page := ok.orderly.page page id there_before
    have kept := ok.kept page id there_before
    refine ⟨?_, Or.inr ⟨txn, ?_, ?_, Or.inl ?_⟩⟩
    · rw [self, before]
      exact kept.before
    · rw [← page_eq]
      exact window.lock
    · rw [self]
      rcases owner with same | marked
      · rw [same]
        rcases kept.state with ⟨clean, -⟩ | ⟨other, owned⟩
        · exact Or.inl clean
        · have mine : other = txn := by
            rw [← page_eq] at owned
            exact eq_of_exclusive window.lock (by rw [owned.lock]; simp)
          subst mine
          exact owned.owner
      · exact Or.inr marked
    · show (s.phase txn).window? = some id
      rw [changing]
      rfl
  · have same : later.frame target = s.frame target := by rw [frames, if_neg here]
    refine (ok.kept page target there_before).spared ok.orderly there_before others ?_ same
      fun owned => owned.of_same same rfl rfl rfl
    rw [same]
    exact (ok.kept page target there_before).before

/-- A transaction that has changed the image of a page and marked the frame as its own can
bring the page in, if it is not resident. -/
lemma bringIn (changing : s.phase txn = .changing id)
    (absent : s.resident? (s.frame id).page = none) (owner : (s.frame id).owner = some txn) :
    Leads storage allowed txn s { s with db := { s.db with cache := s.db.cache.bringIn id } } := by
  set later : System := { s with db := { s.db with cache := s.db.cache.bringIn id } }
  have window : Window s txn id := ok.phaseOk changing
  have residents : ∀ page, later.resident? page =
      if (s.frame id).page = page then some id else s.resident? page :=
    fun page => Cache.residentFrame?_bringIn ..
  have others : ∀ other, other ≠ txn → Spares storage other s later := by
    intro other apart
    exact { (Spares.refl other s : Spares storage other s s) with
      stays := fun target _ _ _ there => resident?_of_brought absent residents there
      alone := fun page target exclusive there => by
        rw [residents, if_neg] at there
        · exact there
        · rintro rfl
          exact apart (eq_of_exclusive window.lock (by rw [exclusive]; simp)) }
  have own : TxnOk storage later txn allowed := by
    have earlier := ok.txn txn
    refine ⟨?_, fun page image wrote live => ?_, earlier.accessed, earlier.gone⟩
    · show PhaseOk storage later txn allowed (s.phase txn)
      rw [changing]
      refine ⟨window.lock, window.made, window.before, fun other there => ?_⟩
      rw [residents] at there
      split at there
      · cases there
        rfl
      · exact window.alone other there
    · obtain ⟨target, there, mine⟩ := earlier.owned page image wrote live
      exact ⟨target, resident?_of_brought absent residents there, mine⟩
  refine ⟨{ ok with
    orderly := ok.orderly.bringIn window.made
    kept := fun page target there => ?_
    txn := ok.txn_of_spares own others }, others⟩
  rw [residents] at there
  split at there
  · next here =>
    cases there
    subst here
    refine ⟨window.before, Or.inr ⟨txn, window.lock, Or.inr owner, Or.inl ?_⟩⟩
    show (s.phase txn).window? = some id
    rw [changing]
    rfl
  · exact (ok.kept page target there).spared ok.orderly there others
      (ok.kept page target there).before rfl fun owned => ⟨owned.lock, owned.owner, owned.reason⟩

end Consistent

end PageTxn.System
