import PageTxn.Proofs.Turns

/-!
Two systems that differ in their caches alone.

* `Mirror` relates two systems with the same locks and the same stores, in which the same
  happened and the transactions are doing the same. Frames may differ, and so may the pages that
  are resident; only the images that transactions have changed and not reported yet are the same.
* `Mirror.step`: two systems stay related if the steps of a transaction do the same to locks,
  stores and history and leave the transaction doing the same; the others are spared.
* `Database.Agree` says so of the moves of two operations, and `Mirror.follow` that it suffices.
-/

namespace PageTxn

open History

/-! ### Histories without frames -/

/-- An outcome without the frames that it names. -/
def Outcome.bare : Outcome → Outcome
  | .fetched (.ok _) => .fetched (.ok 0)
  | .inserted (.ok _) record => .inserted (.ok []) record
  | .deleted (.ok _) => .deleted (.ok [])
  | outcome => outcome

/-- What hands out a page up to frames hands out one. -/
lemma Outcome.exists_fetched {outcome : Outcome} {id : FrameId}
    (bare : (Outcome.fetched (.ok id)).bare = outcome.bare) :
    ∃ target, outcome = .fetched (.ok target) := by
  cases outcome with
  | fetched result =>
      cases result with
      | error failure => cases bare
      | ok target => exact ⟨target, rfl⟩
  | inserted result record => cases result <;> cases bare
  | deleted result => cases result <;> cases bare
  | scanned result => cases bare

/-- An event without the frames that it names. -/
def Event.bare : Event → Event
  | .returned txn call outcome changed => .returned txn call outcome.bare changed
  | event => event

/-- Frames do not matter for what a transaction has left on a page. -/
lemma History.ownWrite_bare (txn : TxnId) (page : PageId) (history : List Event) :
    ownWrite txn page (history.map Event.bare) = ownWrite txn page history := by
  induction history with
  | nil => rfl
  | cons event history ih =>
      rw [List.map_cons, ownWrite_cons, ownWrite_cons, ih]
      cases event <;> rfl

/-- Frames do not matter for what was committed. -/
lemma History.committedWrite_bare (page : PageId) (history : List Event) :
    committedWrite page (history.map Event.bare) = committedWrite page history := by
  induction history with
  | nil => rfl
  | cons event history ih =>
      cases event with
      | looked txn other image => exact ih
      | wrote txn other image => exact ih
      | returned txn call outcome changed => exact ih
      | ended txn ending =>
          cases ending with
          | aborted => exact ih
          | stuck => exact ih
          | committed =>
              show (ownWrite txn page (history.map Event.bare)).or
                (committedWrite page (history.map Event.bare)) = _
              rw [ownWrite_bare, ih]
              rfl

/-- Frames do not matter for what a transaction should see. -/
lemma History.visible_congr {storage : Storage} {history other : List Event}
    (same : history.map Event.bare = other.map Event.bare) (txn : TxnId) (page : PageId) :
    visible storage txn page history = visible storage txn page other := by
  rw [visible, visible, ledger, ledger, ← ownWrite_bare, ← committedWrite_bare, same,
    ownWrite_bare, committedWrite_bare]

/-! ### Phases that mirror each other -/

/-- Two frames show the same image of the same page. -/
structure SameImage (cache other : Cache) (id target : FrameId) : Prop where
  page : (cache.frame id).page = (other.frame target).page
  live : (cache.frame id).live = (other.frame target).live

/-- Frames that are replaced by ones with the same image show the same image. -/
lemma sameImage_setFrame (cache other : Cache) {id target : FrameId} {first second : Frame}
    (page : first.page = second.page) (live : first.live = second.live) :
    SameImage (cache.setFrame id first) (other.setFrame target second) id target := by
  constructor
  · rw [Cache.frame_setFrame, Cache.frame_setFrame, if_pos rfl, if_pos rfl]
    exact page
  · rw [Cache.frame_setFrame, Cache.frame_setFrame, if_pos rfl, if_pos rfl]
    exact live

/-- Whether the lock for a fetch was granted. -/
def Stage.isGranted : Stage → Bool
  | .lock _ => false
  | .read | .enter _ | .use _ => true

/-- The record that was inserted. -/
def Change.record? : Change → Option Record
  | .insertion record _ => some record
  | .deletion _ => none

/-- Two operations ask for the same lock, or fetch the same page for the same purpose, be it
resident or not, or report the same change. -/
inductive Operation.Mirrors (cache other : Cache) : Operation → Operation → Prop where
  | asking {txn : TxnId} {level : Level} {aim : Aim} {waited : Bool} :
      Mirrors cache other (.fetching txn level aim (.lock waited))
        (.fetching txn level aim (.lock waited))
  | granted {txn : TxnId} {level : Level} {aim : Aim} {stage stage' : Stage}
      (here : stage.isGranted = true) (there : stage'.isGranted = true) :
      Mirrors cache other (.fetching txn level aim stage) (.fetching txn level aim stage')
  | reporting {txn : TxnId} {change change' : Change} {pages pages' : List FrameId}
      (record : change.record? = change'.record?) (length : pages.length = pages'.length)
      (same : ∀ id ∈ change.pages, ∀ target ∈ change'.pages, SameImage cache other id target) :
      Mirrors cache other (.reporting txn change pages) (.reporting txn change' pages')

/-- Two transactions are doing the same. -/
inductive Phase.Mirrors (cache other : Cache) : Phase → Phase → Prop where
  | ready : Mirrors cache other .ready .ready
  | holding {page : PageId} {mode : LockMode} {id target : FrameId} :
      Mirrors cache other (.holding page mode id) (.holding page mode target)
  | changing {id target : FrameId} (same : SameImage cache other id target) :
      Mirrors cache other (.changing id) (.changing target)
  | busy {call : Call} {operation operation' : Operation}
      (mirrors : operation.Mirrors cache other operation') :
      Mirrors cache other (.busy call operation) (.busy call operation')
  | gone : Mirrors cache other .gone .gone

/-! ### Moves that agree -/

namespace Database

/-- Two outcomes are the same up to frames, and tell the same. -/
structure SameOutcome (txn : TxnId) (db other : Database) (outcome outcome' : Outcome) : Prop where
  bare : outcome.bare = outcome'.bare
  changed : db.changed outcome = other.changed outcome'
  reply : db.reply txn outcome = other.reply txn outcome'

/-- Two moves came as far. -/
inductive SameProgress (txn : TxnId) (db other : Database) : Progress → Progress → Prop where
  | running {operation operation' : Operation}
      (mirrors : operation.Mirrors db.cache other.cache operation') :
      SameProgress txn db other (.running operation) (.running operation')
  | parked {level : Level} {aim : Aim} {waited : Bool} :
      SameProgress txn db other (.parked (.fetching txn level aim (.lock waited)))
        (.parked (.fetching txn level aim (.lock waited)))
  | finished {outcome outcome' : Outcome} (same : SameOutcome txn db other outcome outcome') :
      SameProgress txn db other (.finished outcome) (.finished outcome')

/-- Two moves did the same to locks and stores, and came as far. -/
structure Agree (txn : TxnId) (move move' : Database × Progress) : Prop where
  locks : move.1.locks = move'.1.locks
  storage : move.1.storage = move'.1.storage
  progress : SameProgress txn move.1 move'.1 move.2 move'.2

end Database

namespace System

variable {storage : Storage} {allowed : Act → Prop} {s t later later' : System} {txn : TxnId}
  {page : PageId} {id target : FrameId} {call : Call} {operation operation' : Operation}

/-- Two systems that differ in their caches alone. -/
structure Mirror (s t : System) : Prop where
  locks : s.db.locks = t.db.locks
  storage : s.db.storage = t.db.storage
  history : s.history.map Event.bare = t.history.map Event.bare
  phase : ∀ txn, (s.phase txn).Mirrors s.db.cache t.db.cache (t.phase txn)

/-- Before anything happened, two systems differ in their caches alone. -/
lemma mirror_initial (storage : Storage) {few many : Nat} (few_pos : 0 < few)
    (many_pos : 0 < many) : Mirror (initial storage few few_pos) (initial storage many many_pos) :=
  ⟨rfl, rfl, rfl, fun _ => .ready⟩

/-- What two transactions have at hand is the same image. -/
lemma AtHand.sameImage {mode mode' : LockMode} (hand : AtHand storage s txn page mode id)
    (hand' : AtHand storage t txn page mode' target) (mirror : Mirror s t) :
    SameImage s.db.cache t.db.cache id target :=
  ⟨hand.shows.trans hand'.shows.symm,
    hand.live.trans ((visible_congr mirror.history txn page).trans hand'.live.symm)⟩

/-! ### Steps -/

/-- The frame that a transaction is changing is left to it by others. -/
lemma Spares.frame_of_window (ok : Consistent storage allowed s)
    (spares : Spares storage txn s later) (opened : (s.phase txn).window? = some id) :
    later.frame id = s.frame id := by
  cases phase : s.phase txn with
  | ready => simp [phase, Phase.window?] at opened
  | holding page mode other => simp [phase, Phase.window?] at opened
  | gone => simp [phase, Phase.window?] at opened
  | changing other =>
      rw [phase, Phase.window?] at opened
      cases opened
      exact Window.same_frame spares (ok.phaseOk phase)
  | busy call operation =>
      obtain ⟨-, serves⟩ := ok.serves phase
      rw [phase] at opened
      cases serves with
      | lock pursues => simp [Phase.window?] at opened
      | read pursues covers => simp [Phase.window?] at opened
      | enter pursues covers loaded => simp [Phase.window?] at opened
      | use pursues hand => simp [Phase.window?] at opened
      | report window single effect =>
          rw [Phase.window?, single] at opened
          cases opened
          exact window.same_frame spares
      | reported window single effect there owner =>
          rw [Phase.window?, single] at opened
          cases opened
          exact window.same_frame spares

/-- An operation reports a single page. -/
lemma Consistent.pages_eq (ok : Consistent storage allowed s) {change : Change}
    {pages : List FrameId} {other : TxnId}
    (busy : s.phase txn = .busy call (.reporting other change pages)) (listed : id ∈ change.pages) :
    change.pages = [id] := by
  obtain ⟨-, serves⟩ := ok.serves busy
  cases serves with
  | report window single effect =>
      rw [single, List.mem_singleton] at listed
      rw [single, listed]
  | reported window single effect there owner =>
      rw [single, List.mem_singleton] at listed
      rw [single, listed]

/-- Two transactions that are spared go on to do the same. -/
lemma Phase.Mirrors.spared (ok : Consistent storage allowed s) (ok' : Consistent storage allowed t)
    (spares : Spares storage txn s later) (spares' : Spares storage txn t later')
    (mirrors : (s.phase txn).Mirrors s.db.cache t.db.cache (t.phase txn)) :
    (later.phase txn).Mirrors later.db.cache later'.db.cache (later'.phase txn) := by
  -- only frames with an open window are compared, and these are left to their transaction
  have kept : ∀ id target, (s.phase txn).window? = some id → (t.phase txn).window? = some target →
      SameImage s.db.cache t.db.cache id target →
      SameImage later.db.cache later'.db.cache id target := by
    intro id target opened opened' same
    have first : later.db.cache.frame id = s.db.cache.frame id :=
      spares.frame_of_window ok opened
    have second : later'.db.cache.frame target = t.db.cache.frame target :=
      spares'.frame_of_window ok' opened'
    constructor
    · rw [first, second]
      exact same.page
    · rw [first, second]
      exact same.live
  rw [spares.phase, spares'.phase]
  generalize first : s.phase txn = phase at mirrors kept
  generalize second : t.phase txn = phase' at mirrors kept
  cases mirrors with
  | ready => exact .ready
  | holding => exact .holding
  | gone => exact .gone
  | changing same => exact .changing (kept _ _ rfl rfl same)
  | busy mirrors =>
      refine .busy ?_
      cases mirrors with
      | asking => exact .asking
      | granted here there => exact .granted here there
      | reporting record length same =>
          refine .reporting record length fun id listed target listed' => ?_
          refine kept id target ?_ ?_ (same id listed target listed')
          · rw [Phase.window?, ok.pages_eq first listed]
            rfl
          · rw [Phase.window?, ok'.pages_eq second listed']
            rfl

/-- Two systems stay related if a transaction does the same to locks, stores and history in both,
goes on to do the same, and spares the others. -/
lemma Mirror.step (mirror : Mirror s t) (ok : Consistent storage allowed s)
    (ok' : Consistent storage allowed t) (lead : Leads storage allowed txn s later)
    (lead' : Leads storage allowed txn t later') (locks : later.db.locks = later'.db.locks)
    (stored : later.db.storage = later'.db.storage)
    (history : later.history.map Event.bare = later'.history.map Event.bare)
    (own : (later.phase txn).Mirrors later.db.cache later'.db.cache (later'.phase txn)) :
    Mirror later later' := by
  refine ⟨locks, stored, history, fun other => ?_⟩
  by_cases mine : other = txn
  · subst mine
    exact own
  · exact Phase.Mirrors.spared ok ok' (lead.spares other mine) (lead'.spares other mine)
      (mirror.phase other)

/-- Two systems stay related if, moreover, the transaction goes on to phases that are the same. -/
lemma Mirror.step_to (mirror : Mirror s t) (ok : Consistent storage allowed s)
    (ok' : Consistent storage allowed t) (lead : Leads storage allowed txn s later)
    (lead' : Leads storage allowed txn t later') (locks : later.db.locks = later'.db.locks)
    (stored : later.db.storage = later'.db.storage)
    (history : later.history.map Event.bare = later'.history.map Event.bare)
    {phase phase' : Phase} (next : later.phase = Function.update s.phase txn phase)
    (next' : later'.phase = Function.update t.phase txn phase')
    (own : phase.Mirrors later.db.cache later'.db.cache phase') : Mirror later later' := by
  refine mirror.step ok ok' lead lead' locks stored history ?_
  rw [next, next', Function.update_self, Function.update_self]
  exact own

/-! ### Going on alike -/

/-- After two outcomes that are the same up to frames, a transaction is doing the same. -/
lemma mirrors_after {cache other : Cache} {outcome outcome' : Outcome} (call : Call)
    (bare : outcome.bare = outcome'.bare) :
    (Phase.after call outcome).Mirrors cache other (Phase.after call outcome') := by
  by_cases fetched : ∃ id, outcome = .fetched (.ok id)
  · obtain ⟨id, rfl⟩ := fetched
    obtain ⟨target, rfl⟩ := Outcome.exists_fetched bare
    cases call with
    | fetch page mode => exact .holding
    | insert table record => exact .ready
    | delete record => exact .ready
    | scan heap => exact .ready
  · have elsewhere : ¬ ∃ target, outcome' = .fetched (.ok target) := by
      rintro ⟨target, rfl⟩
      exact fetched (Outcome.exists_fetched bare.symm)
    rw [Phase.after_eq_ready call (not_exists.mp fetched),
      Phase.after_eq_ready call (not_exists.mp elsewhere)]
    exact .ready

/-- Moves that agree keep two systems related. -/
lemma Mirror.follow (mirror : Mirror s t) (ok : Consistent storage allowed s)
    (ok' : Consistent storage allowed t) {move move' : Database × Progress}
    (lead : Leads storage allowed txn s (s.follow txn call move))
    (lead' : Leads storage allowed txn t (t.follow txn call move'))
    (agree : Database.Agree txn move move') :
    Mirror (s.follow txn call move) (t.follow txn call move') := by
  obtain ⟨db, progress⟩ := move
  obtain ⟨db', progress'⟩ := move'
  obtain ⟨locks, stored, same⟩ := agree
  cases same with
  | running mirrors =>
      exact mirror.step_to ok ok' lead lead' locks stored mirror.history rfl rfl (.busy mirrors)
  | parked =>
      exact mirror.step_to ok ok' lead lead' locks stored mirror.history rfl rfl (.busy .asking)
  | finished same =>
      refine mirror.step_to ok ok' lead lead' locks stored ?_ rfl rfl (mirrors_after call same.bare)
      show Event.bare _ :: s.history.map Event.bare = Event.bare _ :: t.history.map Event.bare
      rw [mirror.history, Event.bare, Event.bare, same.bare, same.changed]

end System

end PageTxn
