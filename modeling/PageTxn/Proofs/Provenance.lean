import PageTxn.Proofs.Plain

/-!
Where the image of a page comes from, also if stores fail.

* `History.Accounted` says of an image that the page had it at first, or that a transaction has left
  it there and has ended since, not by an abort.
* `System.Works` says of a resident page object that it is what a transaction is leaving on its
  page, which may or may not be on record yet.
* `System.Traced` is the invariant: the stored image is accounted for, and the resident one too,
  unless somebody works on it. It holds of a page that was just appended (`traced_appended`), and
  incidents keep it (`Traced.suffer`).
* `Traced.accounted`: so who has locked the page, and has not changed it, finds an image that is
  accounted for.
-/

namespace PageTxn

/-! ### Images that were delivered -/

namespace History

variable {page : PageId} {base image : Image} {events new : List Event} {txn : TxnId}

/-- A transaction has left the image on the page and has ended since in this way. -/
def Delivered (page : PageId) (image : Image) (ending : Ending) (events : List Event) : Prop :=
  ∃ newer other older, events = newer ++ .ended other ending :: older ∧
    ownWrite other page older = some image

/-- The page had the image at first, or the image was delivered, not with an abort. -/
def Accounted (page : PageId) (base : Image) (events : List Event) (image : Image) : Prop :=
  image = base ∨ ∃ ending, ending ≠ .aborted ∧ Delivered page image ending events

lemma Accounted.append (accounted : Accounted page base events image) (new : List Event) :
    Accounted page base (new ++ events) image := by
  refine accounted.imp_right ?_
  rintro ⟨ending, kept, newer, other, older, rfl, wrote⟩
  exact ⟨ending, kept, new ++ newer, other, older, (List.append_assoc ..).symm, wrote⟩

lemma accounted_ended {ending : Ending} (kept : ending ≠ .aborted)
    (wrote : ownWrite txn page events = some image) :
    Accounted page base (.ended txn ending :: events) image :=
  .inr ⟨ending, kept, [], txn, events, rfl, wrote⟩

lemma ownWrite_cons_of_left {event : Event} (own : event.txn = txn)
    (left : event.left? page = some image) : ownWrite txn page (event :: events) = some image := by
  rw [ownWrite_cons, if_pos own, left, Option.some_or]

end History

/-! ### Page objects in work -/

/-- The database was told of the page object that an operation has changed. -/
def Phase.isTold : Phase → Bool
  | busy _ (.reporting _ _ []) => true
  | _ => false

namespace System

open Database History

variable {s later : System} {txn : TxnId} {call : Call} {own : TxnId} {incident : Incident}
  {actor : TxnId} {page : PageId} {base : Image} {events new : List Event} {id source : FrameId}
  {moved : Database × Progress}

/-- The page object is what the transaction is leaving on its page. Either this is not on record
yet; then the database may or may not have been told. Or it is on record, and the transaction goes
on. -/
inductive Works (s : System) (page : PageId) (events : List Event) (txn : TxnId) (id : FrameId) :
    Prop
  | unrecorded {source : FrameId} (window : (s.phase txn).window? = some source)
      (shows : (s.frame source).page = page)
      (told : (s.phase txn).isTold = true →
        (s.frame id).owner = some txn ∧ (s.frame id).live = (s.frame source).live) :
      Works s page events txn id
  | recorded (going : s.phase txn ≠ .gone)
      (elsewhere : ∀ source, (s.phase txn).window? = some source → (s.frame source).page ≠ page)
      (owner : (s.frame id).owner = some txn)
      (wrote : ownWrite txn page events = some (s.frame id).live) : Works s page events txn id

section Works

variable (ok : s.Truthful) (plain : s.Plain)
include plain

/-- A page object that a transaction has changed was overwritten, or an operation reports it. -/
lemma Plain.cases_of_window (window : (s.phase txn).window? = some source) :
    s.phase txn = .changing source ∨ ∃ call own change ids, source < s.db.cache.nextFrame ∧
      s.phase txn = .busy call (.reporting own change ids) ∧ (ids = [source] ∨ ids = []) := by
  cases now : s.phase txn with
  | ready => rw [now] at window; cases window
  | gone => rw [now] at window; cases window
  | holding page mode id => rw [now] at window; cases window
  | changing id =>
      rw [now] at window
      cases window
      exact .inl rfl
  | busy call operation =>
      rw [now] at window
      cases operation with
      | fetching own level aim stage => cases window
      | reporting own change ids =>
          obtain ⟨id, made, single, ids⟩ := plain _ _ _ now
          rw [Phase.window?, single] at window
          cases window
          exact .inr ⟨call, own, change, _, made, rfl, ids⟩

include ok

lemma Truthful.made_of_window (window : (s.phase txn).window? = some source) :
    source < s.db.cache.nextFrame := by
  rcases plain.cases_of_window window with changing | ⟨call, own, change, ids, made, -⟩
  · have grasps := ok.restorable.grasps txn
    rw [changing] at grasps
    exact Claims.made grasps
  · exact made

/-- Who works on a page has locked it exclusively. -/
lemma Works.lock (works : s.Works page events txn id) (there : s.resident? page = some id) :
    s.mode txn page = some .exclusive := by
  have of_owner : s.phase txn ≠ .gone → (s.frame id).owner = some txn →
      s.mode txn page = some .exclusive := fun going owner =>
    (ok.guarded.db.owned page id txn there owner).resolve_right fun stuck =>
      going (ok.departed txn stuck)
  cases works with
  | recorded going elsewhere owner wrote => exact of_owner going owner
  | @unrecorded source window shows told =>
      have respects := ok.guarded.phase txn
      rcases plain.cases_of_window window with
        changing | ⟨call, own, change, ids, made, now, rfl | rfl⟩
      · rw [changing] at respects
        rw [← shows]
        exact Claims.lock respects
      · rw [now] at respects
        rw [← shows]
        exact (respects.2 source List.mem_cons_self).lock
      · rw [now] at told
        exact of_owner (by simp [now]) (told rfl).1

end Works

/-! ### What a step leaves to the others -/

/-- Somebody has acted, or nobody, and these events have happened. -/
structure Acts (s : System) (actor? : Option TxnId) (new : List Event) (later : System) : Prop where
  truthful : later.Truthful
  phase : ∀ txn, actor? ≠ some txn → later.phase txn = s.phase txn
  shows : ∀ id < s.db.cache.nextFrame, (later.frame id).page = (s.frame id).page
  history : later.history = new ++ s.history
  own : ∀ event ∈ new, actor? = some event.txn

/-- What an incident leaves. -/
lemma Truthful.acts (ok : s.Truthful) (work : incident.IsWork s.db.storage)
    (room : s.db.storage.Countable) :
    ∃ new, s.Acts incident.actor? new (s.suffer incident) := by
  have truthful := truthful_suffer ok work room
  have phase := fun txn (apart : incident.actor? ≠ some txn) =>
    phase_suffer_of_ne apart (s := s)
  have shows := (ok.defers_suffer work room).page
  cases acts : incident.actor? with
  | none =>
      rw [acts] at phase
      have same : (s.suffer incident).history = s.history := by
        cases incident with
        | act action => cases acts
        | interrupt actor accepted => cases acts
        | outage store failReads writesLeft => rfl
      exact ⟨[], truthful, phase, shows, same, List.forall_mem_nil _⟩
  | some actor =>
      rw [acts] at phase
      have acted := acted_suffer acts (s := s)
      generalize s.suffer incident = later at acted truthful phase shows ⊢
      cases acted with
      | idle => exact ⟨[], truthful, phase, shows, rfl, List.forall_mem_nil _⟩
      | silent db phase' => exact ⟨[], truthful, phase, shows, rfl, List.forall_mem_nil _⟩
      | recorded db phase' event own gone =>
          refine ⟨[event], truthful, phase, shows, rfl, fun other listed => ?_⟩
          rw [List.mem_singleton.mp listed, own]

/-! ### The invariant -/

/-- The page exists, its stored image is accounted for, and the resident one too unless somebody
works on it. -/
structure Traced (s : System) (page : PageId) (base : Image) (events : List Event) : Prop where
  stored : ∃ image, s.stored? page = some image ∧ Accounted page base events image
  resident : ∀ id, s.resident? page = some id →
    Accounted page base events (s.frame id).live ∨ ∃ txn, s.Works page events txn id

section Steps

variable {actor? : Option TxnId}

/-- A page object in work is left alone by what others do. -/
lemma Works.carried (works : s.Works page events txn id) (ok : s.Truthful) (plain : s.Plain)
    (acts : s.Acts actor? new later) (alone : LeavesAlone page s.db later.db)
    (same : later.frame id = s.frame id) (phase : later.phase txn = s.phase txn)
    (blank : ∀ event ∈ new, event.txn = txn → event.left? page = none) :
    later.Works page (new ++ events) txn id := by
  have made : ∀ source, (s.phase txn).window? = some source → source < s.db.cache.nextFrame :=
    fun source => ok.made_of_window plain
  cases works with
  | @unrecorded source window shows told =>
      have kept : later.frame source = s.frame source :=
        alone.frame source (made source window) shows
      refine .unrecorded (phase ▸ window) (by rw [kept]; exact shows) fun was => ?_
      rw [same, kept]
      exact told (phase ▸ was)
  | recorded going elsewhere owner wrote =>
      refine .recorded (phase ▸ going) (fun source window => ?_) (by rw [same]; exact owner) ?_
      · rw [phase] at window
        rw [acts.shows source (made source window)]
        exact elsewhere source window
      · rw [same, ownWrite_append_of_blank blank]
        exact wrote

/-- A page that is left alone is traced still, if what the actor has worked on is in order. -/
lemma Traced.spared (traced : s.Traced page base events) (ok : s.Truthful) (plain : s.Plain)
    (acts : s.Acts actor? new later) (alone : LeavesAlone page s.db later.db)
    (own : ∀ actor id, actor? = some actor → later.frame id = s.frame id →
      s.Works page events actor id → s.resident? page = some id →
        later.Works page (new ++ events) actor id) :
    later.Traced page base (new ++ events) := by
  obtain ⟨image, stored, accounted⟩ := traced.stored
  have kept : later.stored? page = some image := alone.stored image stored
  refine ⟨⟨image, kept, accounted.append new⟩, fun id there => ?_⟩
  rcases alone.resident id there with ⟨before, same⟩ | ⟨clean, fresh⟩
  · refine (traced.resident id before).imp (fun accounted => ?_) ?_
    · rw [frame, same]
      exact accounted.append new
    · rintro ⟨txn, works⟩
      by_cases mine : actor? = some txn
      · exact ⟨txn, own txn id mine same works before⟩
      · exact ⟨txn, works.carried ok plain acts alone same (acts.phase txn mine)
          fun event listed its => absurd (its ▸ acts.own event listed) mine⟩
  · -- the page has been read again
    have rooted := acts.truthful.grounded page id there
    rw [Rooted, acts.truthful.guarded.db.orderly.page page id there, ← fresh] at rooted
    cases kept.symm.trans rooted
    exact .inl (accounted.append new)

/-- What is on record stays so while the transaction works on another page, or on none. -/
lemma Works.aside (works : s.Works page events txn id)
    (before : ∀ source, (s.phase txn).window? = some source → (s.frame source).page ≠ page)
    (after : ∀ source, (later.phase txn).window? = some source → (later.frame source).page ≠ page)
    (going : later.phase txn ≠ .gone) (same : later.frame id = s.frame id)
    (blank : ∀ event ∈ new, event.left? page = none) :
    later.Works page (new ++ events) txn id := by
  cases works with
  | @unrecorded source window shows told => exact absurd shows (before source window)
  | recorded _ elsewhere owner wrote =>
      refine .recorded going after (by rw [same]; exact owner) ?_
      rw [same, ownWrite_append_of_blank fun event listed _ => blank event listed]
      exact wrote

/-- A page that has just been appended is traced. -/
lemma traced_appended (ok : s.Truthful) (ok' : later.Truthful)
    (alone : LeavesAlone page s.db later.db) (absent : s.stored? page = none)
    (stored : later.stored? page = some base) : later.Traced page base [] := by
  refine ⟨⟨base, stored, .inl rfl⟩, fun id there => .inl (.inl ?_)⟩
  rcases alone.resident id there with ⟨before, -⟩ | ⟨-, fresh⟩
  · obtain ⟨image, found, -⟩ := ok.guarded.db.backed id (ok.guarded.db.orderly.made page id before)
    rw [ok.guarded.db.orderly.page page id before] at found
    cases absent.symm.trans found
  · have rooted := ok'.grounded page id there
    rw [Rooted, ok'.guarded.db.orderly.page page id there, ← fresh] at rooted
    exact Option.some.inj (rooted.symm.trans stored)

/-- A page of which a transaction has changed the resident page object. -/
lemma Traced.changed (traced : s.Traced page base events) (txn : TxnId) (new : List Event)
    (stored : later.stored? page = s.stored? page)
    (works : ∀ id, later.resident? page = some id → later.Works page (new ++ events) txn id) :
    later.Traced page base (new ++ events) := by
  obtain ⟨image, there, accounted⟩ := traced.stored
  exact ⟨⟨image, stored.trans there, accounted.append new⟩,
    fun id there => .inr ⟨txn, works id there⟩⟩

end Steps

/-- The exclusive lock on the page of a page object. -/
def only (s : System) (source : FrameId) (page : PageId) : Option LockMode :=
  if page = (s.frame source).page then some .exclusive else none

section Cases

variable (traced : s.Traced page base events) (ok : s.Truthful) (plain : s.Plain)
include traced ok plain

/-- A quiet operation begins or goes on. -/
lemma Traced.quiet (acts : s.Acts (some txn) new (s.follow txn call moved))
    (before : (s.phase txn).window? = none) (quiet : moved.2.Quiet)
    (alone : LeavesAlone page s.db moved.1) :
    (s.follow txn call moved).Traced page base (new ++ events) := by
  obtain ⟨after, going⟩ := window?_of_quiet quiet call
  rw [← phase_follow_self s] at after going
  refine traced.spared ok plain acts (by rw [db_follow]; exact alone) ?_
  rintro actor id mine same works -
  cases mine
  refine works.aside (fun source window => ?_) (fun source window => ?_) going same
    (blank_of_quiet quiet acts.history)
  · cases before.symm.trans window
  · cases after.symm.trans window

/-- The transaction does something about a page object of another page, which is in hand before and
after that, if any is. -/
lemma Traced.elsewhere (acts : s.Acts (some txn) new later) (made : source < s.db.cache.nextFrame)
    (apart : (s.frame source).page ≠ page)
    (defers : Defers (s.only source) s.db later.db)
    (before : ∀ other, (s.phase txn).window? = some other → other = source)
    (after : ∀ other, (later.phase txn).window? = some other → other = source)
    (going : later.phase txn ≠ .gone) (blank : ∀ event ∈ new, event.left? page = none) :
    later.Traced page base (new ++ events) := by
  refine traced.spared ok plain acts (defers.leaves page (if_neg (Ne.symm apart))) ?_
  rintro actor id mine same works -
  cases mine
  refine works.aside (fun other window => ?_) (fun other window => ?_) going same blank
  · rw [before other window]
    exact apart
  · rw [after other window, acts.shows source made]
    exact apart

/-- An operation or an overwrite changes a page object. -/
lemma Traced.opens (acts : s.Acts (some txn) [] later) (made : source < s.db.cache.nextFrame)
    (defers : Defers (s.only source) s.db later.db) (stored : later.stored? page = s.stored? page)
    (before : ∀ other, (s.phase txn).window? = some other → other = source) {phase : Phase}
    (now : later.phase txn = phase) (window : phase.window? = some source)
    (untold : phase.isTold = false) : later.Traced page base events := by
  subst now
  by_cases here : (s.frame source).page = page
  · refine traced.changed txn [] stored fun id there => ?_
    exact .unrecorded window ((acts.shows source made).trans here) fun told => by
      cases untold.symm.trans told
  · refine traced.elsewhere ok plain acts made here defers before (fun other opened => ?_) ?_
      (List.forall_mem_nil _)
    · exact Option.some.inj (opened.symm.trans window)
    · intro gone
      rw [gone] at window
      cases window

/-- The database is told of a page object: it refuses to bring back the page, or shows the image of
the page object then. -/
lemma Traced.reports (acts : s.Acts (some txn) new later) (claims : s.db.Claims txn source)
    (rooted : s.db.Rooted source) (marked : later.db = (s.db.markDirty txn source).1)
    (before : ∀ other, (s.phase txn).window? = some other → other = source)
    {phase : Phase} (now : later.phase txn = phase)
    (after : ∀ other, phase.window? = some other → other = source) (going : phase ≠ .gone)
    (blank : (s.frame source).page ≠ page → ∀ event ∈ new, event.left? page = none)
    (works : (s.frame source).page = page → (s.db.markDirty txn source).2 = .ok () →
      ∀ id, (later.frame id).owner = some txn → (later.frame id).live = (s.frame source).live →
        later.Works page (new ++ events) txn id) :
    later.Traced page base (new ++ events) := by
  subst now
  by_cases here : (s.frame source).page = page
  · refine traced.changed txn new ?_ fun id there => ?_
    · rw [System.stored?, marked]
      rfl
    cases told : (s.db.markDirty txn source).2 with
    | ok =>
        have done : s.db.cache.markDirty txn source = (later.db.cache, .ok ()) := by
          rw [marked]
          exact Prod.ext rfl told
        obtain ⟨resident, owner, live, -⟩ := Cache.of_markDirty done
        rw [show s.db.cache.frame source = s.frame source from rfl, here] at resident
        cases resident.symm.trans there
        exact works here told _ owner live
    | error failure =>
        have absent := (Cache.exhausted_of_markDirty
          (fun other resident => ok.guarded.db.size_eq claims.made resident) told).2
        rw [resident?, marked, ← here] at there
        cases absent.symm.trans there
  · refine traced.elsewhere ok plain acts claims.made here ?_ before after going (blank here)
    rw [marked]
    exact defers_markDirty txn ok.guarded.db.orderly rooted (if_pos rfl)

/-- An operation tells the database of the page object that it has changed. -/
lemma Traced.tells {change : Change} (single : change.pages = [source])
    (busy : s.phase txn = .busy call (.reporting txn change [source]))
    (acts : s.Acts (some txn) new
      (s.follow txn call (s.db.step (.reporting txn change [source])))) :
    (s.follow txn call (s.db.step (.reporting txn change [source]))).Traced page base
      (new ++ events) := by
  have claims := ok.guarded.phase txn
  have rooted := ok.assumes txn
  have window : (s.phase txn).window? = some source := by
    rw [busy, Phase.window?, single]
    rfl
  have before : ∀ other, (s.phase txn).window? = some other → other = source :=
    fun other opened => Option.some.inj (opened.symm.trans window)
  rw [busy] at claims rooted
  replace claims := claims.2 source List.mem_cons_self
  replace rooted := rooted source List.mem_cons_self
  cases told : s.db.markDirty txn source with
  | mk marked result =>
      have db : marked = (s.db.markDirty txn source).1 := by rw [told]
      cases result with
      | ok =>
          have step : s.db.step (.reporting txn change [source]) =
              (marked, .running (.reporting txn change [])) := by rw [Database.step, told]
          rw [step] at acts ⊢
          have now := phase_follow_self s txn call (marked, .running (.reporting txn change []))
          have after : (Phase.busy call (.reporting txn change [])).window? = some source := by
            rw [Phase.window?, single]
            rfl
          obtain rfl : new = [] := List.self_eq_append_left.mp acts.history
          refine traced.reports ok plain acts claims rooted db before now
            (fun other opened => Option.some.inj (opened.symm.trans after))
            (fun gone => by cases gone) (fun _ => List.forall_mem_nil _) fun here _ id owner live =>
              .unrecorded (by rw [now]; exact after) ?_ fun _ => ⟨owner, ?_⟩
          · exact (acts.shows source claims.made).trans here
          · rw [live, frame, frame, db_follow, db]
            exact (Cache.live_markDirty s.db.cache txn source).symm
      | error failure =>
          have step : s.db.step (.reporting txn change [source]) =
              (marked, .finished (change.failed failure)) := by rw [Database.step, told]
          have quiet : Progress.Quiet (.finished (change.failed failure)) :=
            change.isChange_failed failure
          rw [step] at acts ⊢
          obtain ⟨after, going⟩ := window?_after call (change.failed failure)
          refine traced.reports ok plain acts claims rooted db before (phase_follow_self ..)
            (fun other opened => ?_) going (fun _ => blank_of_quiet quiet acts.history)
            fun _ done => ?_
          · cases after.symm.trans opened
          · rw [told] at done
            cases done

/-- A transaction reports the page object that it has overwritten. -/
lemma Traced.recorded {history : List Event} (changing : s.phase txn = .changing source)
    (tells : (∃ failure, (s.db.markDirty txn source).2 = .error failure) ∧ history = s.history ∨
      (s.db.markDirty txn source).2 = .ok () ∧
        history = .wrote txn (s.frame source).page (s.frame source).live :: s.history)
    (acts : s.Acts (some txn) new
      ({ s with db := (s.db.markDirty txn source).1, history }.setPhase txn .ready)) :
    ({ s with db := (s.db.markDirty txn source).1, history }.setPhase txn .ready).Traced page base
      (new ++ events) := by
  have claims := ok.restorable.grasps txn
  have rooted := ok.assumes txn
  rw [changing] at claims rooted
  have before : ∀ other, (s.phase txn).window? = some other → other = source := by
    intro other opened
    rw [changing] at opened
    exact (Option.some.inj opened).symm
  have reports := traced.reports ok plain acts claims rooted rfl before (Function.update_self ..)
    nofun nofun
  rcases tells with ⟨⟨failure, refused⟩, rfl⟩ | ⟨-, rfl⟩
  · obtain rfl : new = [] := List.self_eq_append_left.mp acts.history
    exact reports (fun _ => List.forall_mem_nil _) fun _ done => by cases refused.symm.trans done
  · have one : [.wrote txn (s.frame source).page (s.frame source).live] = new :=
      (List.append_left_inj s.history).mp acts.history
    subst one
    refine reports (fun apart event listed => ?_) fun here _ id owner live => ?_
    · rw [List.mem_singleton.mp listed, Event.left?, if_neg apart]
    · have now := Function.update_self txn Phase.ready s.phase
      refine .recorded (fun gone => ?_) (fun other opened => ?_) owner ?_
      · cases now.symm.trans gone
      · cases (congrArg Phase.window? now).symm.trans opened
      · rw [live]
        exact ownWrite_cons_of_left rfl (by rw [Event.left?, if_pos here])

/-- An operation that has reported the page object that it has changed returns. -/
lemma Traced.returns {change : Change}
    (busy : s.phase txn = .busy call (.reporting own change []))
    (acts : s.Acts (some txn) new (s.follow txn call (s.db, .finished change.succeeded))) :
    (s.follow txn call (s.db, .finished change.succeeded)).Traced page base (new ++ events) := by
  obtain ⟨source, made, single, -⟩ := plain _ _ _ busy
  have window : (s.phase txn).window? = some source := by
    rw [busy, Phase.window?, single]
    rfl
  have changed :
      s.db.changed change.succeeded = [((s.frame source).page, (s.frame source).live)] := by
    cases change <;> cases single <;> rfl
  have one : [.returned txn call change.succeeded (s.db.changed change.succeeded)] = new :=
    (List.append_left_inj s.history).mp acts.history
  rw [changed] at one
  subst one
  have now : (s.follow txn call (s.db, .finished change.succeeded)).phase txn =
      .after call change.succeeded := phase_follow_self ..
  have after := window?_after call change.succeeded
  rw [← now] at after
  by_cases here : (s.frame source).page = page
  · refine traced.spared ok plain acts (.refl page s.db) ?_
    rintro actor id mine same (⟨opened, shows, told⟩ | ⟨-, elsewhere, -, -⟩) -
    · cases mine
      cases window.symm.trans opened
      rw [busy] at told
      obtain ⟨owner, live⟩ := told rfl
      refine .recorded after.2 (fun other window => ?_) (by rw [same]; exact owner) ?_
      · cases after.1.symm.trans window
      · rw [same, live]
        exact ownWrite_cons_of_left rfl (by rw [Event.left?, here, List.lookup_cons_self])
    · cases mine
      exact absurd here (elsewhere source window)
  · refine traced.elsewhere ok plain acts made here (.refl _ _) (fun other opened => ?_)
      (fun other opened => ?_) after.2 ?_
    · exact Option.some.inj (opened.symm.trans window)
    · cases after.1.symm.trans opened
    · rintro event listed
      rw [List.mem_singleton.mp listed, Event.left?, List.lookup_cons,
        beq_false_of_ne (Ne.symm here)]
      rfl

/-! ### Ends -/

omit traced ok plain in
lemma exists_of_unwritten {image : Image} (written : s.db.unwritten? page = some image) :
    ∃ id, s.resident? page = some id ∧ (s.frame id).live = image := by
  cases there : s.resident? page with
  | none => cases (unwritten?_of_absent there).symm.trans written
  | some id =>
      rw [unwritten?_of_resident there] at written
      split at written
      · exact ⟨id, rfl, Option.some.inj written⟩
      · cases written

variable (free : (s.phase txn).isFree = true) (held : s.mode txn page ≠ none)
include free held

/-- If a transaction that may end has locked the page, then nobody else works on it. -/
lemma Traced.of_free (there : s.resident? page = some id) :
    Accounted page base events (s.frame id).live ∨
      (s.frame id).owner = some txn ∧ ownWrite txn page events = some (s.frame id).live := by
  refine (traced.resident id there).imp_right ?_
  rintro ⟨other, works⟩
  obtain rfl := eq_of_exclusive (works.lock ok plain there) held
  cases works with
  | unrecorded window shows told => cases (window?_of_free free).symm.trans window
  | recorded going elsewhere owner wrote => exact ⟨owner, wrote⟩

/-- A transaction that forces some of its pages and then ends. -/
lemma Traced.forces {ending : Ending} (kept : ending ≠ .aborted) {pages : List PageId}
    (cache : later.db.cache = (s.db.commitPages pages).1.cache)
    (storage : later.db.storage = (s.db.commitPages pages).1.storage) :
    later.Traced page base (.ended txn ending :: events) := by
  obtain ⟨front, -, stores⟩ := ok.guarded.db.stores_commitPages pages
  have accounted : ∀ id, s.resident? page = some id →
      Accounted page base (.ended txn ending :: events) (s.frame id).live := fun id there =>
    (traced.of_free ok plain free held there).elim (fun before => before.append [_])
      fun wrote => accounted_ended kept wrote.2
  obtain ⟨image, there, before⟩ := traced.stored
  constructor
  · rw [stored?, storage, stores.image, show s.db.storage.image? page = some image from there]
    split
    · cases written : s.db.unwritten? page with
      | none => exact ⟨image, rfl, before.append [_]⟩
      | some image =>
          obtain ⟨id, resident, rfl⟩ := exists_of_unwritten written
          exact ⟨_, rfl, accounted id resident⟩
    · exact ⟨image, rfl, before.append [_]⟩
  · intro id resident
    rw [resident?, cache, stores.settled.resident] at resident
    refine .inl ?_
    rw [frame, cache, stores.settled.live]
    exact accounted id resident

/-- A transaction that undoes its changes and then ends. -/
lemma Traced.undoes
    (cache : later.db.cache = (s.db.rollbackPages txn (s.db.locks.heldPages txn)).cache)
    (storage : later.db.storage = s.db.storage) :
    later.Traced page base (.ended txn .aborted :: events) := by
  have settled := settled_rollbackPages ok.guarded.db.orderly txn (s.db.locks.heldPages txn)
  obtain ⟨image, there, before⟩ := traced.stored
  refine ⟨⟨image, by rw [stored?, storage]; exact there, before.append [_]⟩, fun id resident => ?_⟩
  rw [resident?, cache, settled.resident] at resident
  have shows := ok.guarded.db.orderly.page page id resident
  have undone : later.frame id = (s.frame id).undo txn := by
    rw [frame, cache, settled.frame, shows]
    exact if_pos ⟨ok.guarded.db.sound.mem_heldPages.mpr held, resident⟩
  refine .inl ?_
  rw [undone, Frame.undo]
  split
  · have rooted := ok.grounded page id resident
    rw [Rooted, shows] at rooted
    cases there.symm.trans rooted
    exact before.append [_]
  · next other =>
    refine ((traced.of_free ok plain free held resident).resolve_right ?_).append [_]
    exact fun own => other own.1

end Cases

/-- An operation makes a move. -/
lemma Traced.moves (traced : s.Traced page base events) (ok : s.Truthful) (plain : s.Plain)
    (room : s.db.storage.Countable) {operation : Operation}
    (busy : s.phase txn = .busy call operation)
    (acts : s.Acts (some txn) new (s.follow txn call (s.db.step operation))) :
    (s.follow txn call (s.db.step operation)).Traced page base (new ++ events) := by
  have respects := ok.guarded.phase txn
  have assumes := ok.assumes txn
  have shape := plain txn call operation busy
  rw [busy] at respects assumes
  cases operation with
  | fetching own level aim stage =>
      obtain ⟨rfl, -, reaches⟩ := respects
      have turns := ok.turns_move room busy shape
      have window : (s.phase own).window? = none := by
        rw [busy]
        rfl
      generalize s.db.step _ = moved at turns acts ⊢
      cases turns with
      | quiet leaves quiet => exact traced.quiet ok plain acts window quiet (leaves page)
      | @changes later source image change uses changed single =>
          subst uses
          obtain rfl : new = [] := List.self_eq_append_left.mp acts.history
          refine traced.opens ok plain acts (Holds.made reaches) ?_ ?_ (fun other opened => ?_)
            (phase_follow_self ..) ?_ rfl
          · exact (defers_changeFrame ok.guarded.db.orderly (if_pos rfl) changed).1
          · exact congrArg (fun storage => storage.image? page) (storage_changeFrame changed)
          · cases window.symm.trans opened
          · show change.pages.head? = some source
            rw [single]
            rfl
  | reporting own change ids =>
      obtain ⟨rfl, claims⟩ := respects
      obtain ⟨source, made, single, rfl | rfl⟩ := shape
      · exact traced.tells ok plain single busy acts
      · exact traced.returns ok plain busy acts

/-- Incidents that are work keep the invariant. -/
theorem Traced.suffer (traced : s.Traced page base events) (ok : s.Truthful) (plain : s.Plain)
    (work : incident.IsWork s.db.storage) (room : s.db.storage.Countable)
    (acts : s.Acts incident.actor? new (s.suffer incident)) :
    (s.suffer incident).Traced page base (new ++ events) := by
  have defers := ok.defers_suffer work room
  cases actor : incident.actor? with
  | none =>
      rw [actor] at acts
      exact traced.spared ok plain acts (defers.leaves page (by rw [System.own, actor]; rfl))
        fun actor id mine => by cases mine
  | some txn =>
      have does := does_suffer actor work (s := s)
      rw [actor] at acts
      by_cases held : s.mode txn page = none
      · refine traced.spared ok plain acts (defers.leaves page ?_) ?_
        · rw [System.own, actor]
          exact held
        · rintro other id mine same works there
          cases mine
          cases held.symm.trans (works.lock ok plain there)
      · generalize s.suffer incident = later at does acts ⊢
        cases does with
        | nothing =>
            obtain rfl : new = [] := List.self_eq_append_left.mp acts.history
            exact traced
        | @looks seen mode source holding =>
            have one : [.looked txn seen (s.frame source).live] = new :=
              (List.append_left_inj s.history).mp acts.history
            subst one
            refine traced.spared ok plain acts (.refl page s.db)
              fun actor id mine same works _ => ?_
            refine works.carried ok plain acts (.refl page s.db) same rfl fun event listed _ => ?_
            rw [List.mem_singleton.mp listed]
            rfl
        | @calls call free =>
            have proceeds : Database.Proceeds (fun _ => none) call s.db (s.db.start txn call) :=
              ok.proceeds_call work room
            exact traced.quiet ok plain acts (window?_of_free free) (quiet_start work)
              (proceeds.defers.leaves page rfl)
        | moves busy => exact traced.moves ok plain room busy acts
        | @overwrites image source frame writable copied =>
            have claims := ok.restorable.claims_of_writable writable
            obtain rfl : new = [] := List.self_eq_append_left.mp acts.history
            refine traced.opens ok plain acts claims.made ?_ rfl (fun other window => ?_)
              (Function.update_self ..) rfl rfl
            · exact defers_setFrame (Frame.page_of_copyFrom? copied)
                (Frame.before_of_copyFrom? copied) (if_pos rfl) ok.guarded.db.orderly
            · rcases Phase.cases_of_writable writable with changing | ⟨other, holding⟩
              · rw [changing] at window
                exact (Option.some.inj window).symm
              · rw [holding] at window
                cases window
        | @reports source history changing tells =>
            exact traced.recorded ok plain changing tells acts
        | @ends commit history free tells =>
            obtain ⟨ending, rfl, way⟩ := tells
            have one : [.ended txn ending] = new := (List.append_left_inj s.history).mp acts.history
            subst one
            cases commit with
            | true =>
                exact traced.forces ok plain free held (fun aborts => by cases way.mp aborts) rfl
                  rfl
            | false =>
                obtain rfl := way.mpr rfl
                exact traced.undoes ok plain free held rfl rfl
        | stops free =>
            have one : [.ended txn .stuck] = new := (List.append_left_inj s.history).mp acts.history
            subst one
            exact traced.forces ok plain free held (fun aborts => by cases aborts) rfl rfl

/-- **Who has locked a page and has not changed it, finds what is accounted for**: the image that
the page had at first, or one that a transaction has left there that has ended since, not by an
abort. -/
theorem Traced.accounted (traced : s.Traced page base events) (ok : s.Truthful) (plain : s.Plain)
    (held : s.mode txn page ≠ none) (idle : (s.phase txn).window? = none)
    (unwritten : ownWrite txn page events = none) {image : Image}
    (shown : s.db.shown? page = some image) : Accounted page base events image := by
  cases there : s.resident? page with
  | none =>
      obtain ⟨stored, found, accounted⟩ := traced.stored
      rw [shown?_of_absent there] at shown
      cases found.symm.trans shown
      exact accounted
  | some id =>
      rw [shown?_of_resident there] at shown
      cases shown
      refine (traced.resident id there).resolve_right ?_
      rintro ⟨other, works⟩
      obtain rfl := eq_of_exclusive (works.lock ok plain there) held
      cases works with
      | unrecorded window shows told => cases idle.symm.trans window
      | recorded going elsewhere owner wrote => cases unwritten.symm.trans wrote

end System

end PageTxn
