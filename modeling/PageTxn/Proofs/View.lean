import PageTxn.Proofs.Underway

/-!
Scans show one moment.

* `System.Beholds` says that a transaction keeps a page, which shows an image;
  `Truthful.beholds_suffer` and `Truthful.beholds_endure`: so it is until the transaction itself
  changes the page or ends (`System.Alters`).
* `Database.Collects` lists what one move of a scan can come to.
* `System.Sees` says that a list has the records that the first pages of a heap file show, all of
  which a transaction keeps. A scan has such a list at every point (`views_of_underway`), and it
  stays the list of these pages as long as they stay as they are (`Truthful.sees_endure`).
* `scan_is_view`: so the list that a scan returns has exactly the records of one moment.
-/

namespace PageTxn

/-! ### Moves of a scan -/

/-- The records of a page that shows an image. -/
def HeapFile.recordsOn (heap : HeapFile) (number : Nat) (image : Image) :
    Except Fault (List Record) :=
  match heap.layout.contents? image with
  | .ok contents => .ok (contents.map fun (slot, data) => ⟨some ⟨heap.page number, slot⟩, data⟩)
  | .error fault => .error fault

namespace Database

variable {db : Database} {txn : TxnId} {heap : HeapFile} {number remaining : Nat}
  {found : List Record} {stage : Stage}

/-- What a move of a scan comes to: it goes on to fetch its page, it fails, or it has read the
records of the page, which is the last one or not. -/
inductive Collects (db : Database) (txn : TxnId) (heap : HeapFile) (number remaining : Nat)
    (found : List Record) (stage : Stage) : Progress → Prop where
  | running {next : Stage} : Collects db txn heap number remaining found stage
      (.running (.fetching txn .store (.collect heap number remaining found) next))
  | parked {next : Stage} : Collects db txn heap number remaining found stage
      (.parked (.fetching txn .store (.collect heap number remaining found) next))
  | failed {failure : Failure} : Collects db txn heap number remaining found stage
      (.finished (.scanned (.error failure)))
  | last {id : FrameId} {records : List Record} (use : stage = .use id)
      (read : heap.recordsOn number (db.cache.frame id).live = .ok records)
      (final : remaining = 0) : Collects db txn heap number remaining found stage
        (.finished (.scanned (.ok (found ++ records))))
  | next {id : FrameId} {records : List Record} {rest : Nat} (use : stage = .use id)
      (read : heap.recordsOn number (db.cache.frame id).live = .ok records)
      (more : remaining = rest + 1) : Collects db txn heap number remaining found stage
        (.running (.fetching txn .store (.collect heap (number + 1) rest (found ++ records))
          (.lock false)))

lemma collects_usePage (id : FrameId) :
    Collects db txn heap number remaining found (.use id)
      (db.usePage txn .store (.collect heap number remaining found) id).2 := by
  rw [usePage]
  cases read : heap.layout.contents? (db.cache.frame id).live with
  | error fault => exact .failed
  | ok contents =>
      cases remaining with
      | zero => exact .last rfl (by rw [HeapFile.recordsOn, read]) rfl
      | succ rest => exact .next rfl (by rw [HeapFile.recordsOn, read]) rfl

theorem collects_step (db : Database) (txn : TxnId) (heap : HeapFile) (number remaining : Nat)
    (found : List Record) (stage : Stage) :
    Collects db txn heap number remaining found stage
      (db.step (.fetching txn .store (.collect heap number remaining found) stage)).2 := by
  cases stage with
  | lock waited =>
      rw [step, lockPage]
      split
      · split <;> exact .running
      · exact .failed
      · exact .parked
  | read =>
      rw [step]
      split
      · exact .running
      · exact .failed
  | enter image =>
      rw [step]
      split
      · exact .running
      · exact .failed
  | use id => exact collects_usePage id

/-- A move of a scan appends no page, and so it comes to what it comes to in the model. -/
lemma Comes.eq_of_collect {moved : Database × Progress}
    (comes : db.Comes (db.step (.fetching txn .store (.collect heap number remaining found) stage))
      moved) :
    moved = db.step (.fetching txn .store (.collect heap number remaining found) stage) := by
  have collects := db.collects_step txn heap number remaining found stage
  refine comes.eq fun txn level heap record number filled => ?_
  rw [filled] at collects
  cases collects

end Database

namespace System

open Database

variable {s later : System} {txn : TxnId} {page : PageId} {image : Image} {incident : Incident}
  {heap : HeapFile} {count number : Nat} {list : List Record}

/-! ### Pages that a transaction keeps -/

/-- With this incident the transaction itself may change the page, or it ends. -/
inductive Alters (s : System) (txn : TxnId) (page : PageId) : Incident → Prop
  | overwrites {id : FrameId} (image : Image) (writable : (s.phase txn).writable? = some id)
      (here : (s.frame id).page = page) : Alters s txn page (.act ⟨txn, .overwrite image⟩)
  | moves {call : Call} {operation : Operation} {id : FrameId}
      (busy : s.phase txn = .busy call operation) (changes : operation.changed? = some id)
      (here : (s.frame id).page = page) : Alters s txn page (.act ⟨txn, .move⟩)
  | ends (commit : Bool) : Alters s txn page (.act ⟨txn, .complete commit⟩)
  | stops (accepted : Nat) : Alters s txn page (.interrupt txn accepted)

lemma Alters.actor (alters : s.Alters txn page incident) : incident.actor? = some txn := by
  cases alters <;> rfl

lemma reported_follow (s : System) (txn : TxnId) (call : Call) (moved : Database × Progress)
    (page : PageId) : (s.follow txn call moved).Reported txn page := by
  intro id changing
  rw [phase_follow_self] at changing
  obtain ⟨db, running | parked | outcome⟩ := moved
  · cases changing
  · cases changing
  · rw [Progress.phase] at changing
    unfold Phase.after at changing
    split at changing <;> cases changing

/-- A transaction keeps a page, which it has not overwritten without a report, and which shows this
image. -/
structure Beholds (s : System) (txn : TxnId) (page : PageId) (image : Image) : Prop where
  keeps : s.db.Keeps txn page (s.phase txn)
  reported : s.Reported txn page
  shown : s.db.shown? page = some image

section Steps

variable (ok : s.Truthful)
include ok

/-- A step that defers to a lock on the page, and after which the transaction keeps the page. -/
lemma Truthful.beholds_of_defers {own : PageId → Option LockMode}
    (beholds : s.Beholds txn page image) (defers : Defers own s.db later.db)
    (weak : own page ≠ some .exclusive) (keeps : later.db.Keeps txn page (later.phase txn))
    (reported : later.Reported txn page) : later.Beholds txn page image :=
  ⟨keeps, reported, defers.shown page image weak ok.grounded
    (ok.closed beholds.keeps.held beholds.reported) beholds.shown⟩

/-- A call or a move of the transaction itself, after which it keeps the page. -/
lemma Truthful.beholds_follow {own : PageId → Option LockMode} {call : Call}
    {moved : Database × Progress} (beholds : s.Beholds txn page image)
    (proceeds : Database.Proceeds own call s.db moved) (weak : own page ≠ some .exclusive)
    (keeps : Database.KeepsAfter txn page call moved) :
    (s.follow txn call moved).Beholds txn page image := by
  have defers : Defers own s.db (s.follow txn call moved).db := by
    rw [db_follow]
    exact proceeds.defers
  refine ok.beholds_of_defers beholds defers weak ?_ (s.reported_follow txn call moved page)
  rw [db_follow, phase_follow_self]
  exact keeps

variable (work : incident.IsWork s.db.storage) (room : s.db.storage.Countable)
include work room

/-- Others leave a transaction the page as it is. -/
lemma Truthful.beholds_of_others (apart : incident.actor? ≠ some txn)
    (beholds : s.Beholds txn page image) : (s.suffer incident).Beholds txn page image := by
  have phase := phase_suffer_of_ne (s := s) apart
  have held := beholds.keeps.held
  refine ⟨⟨?_, ?_⟩, fun id changing => ?_,
    ok.shown_of_held apart work room held beholds.reported beholds.shown⟩
  · rw [← mode, ok.mode_suffer apart work]
    exact held
  · rw [phase]
    exact beholds.keeps.stays
  · rw [phase] at changing
    have claims := ok.guarded.phase txn
    rw [changing] at claims
    rw [frame, (ok.defers_suffer work room).page id (Claims.made claims)]
    exact beholds.reported id changing

/-- A transaction leaves the page as it is, unless it changes the page or ends. -/
lemma Truthful.beholds_of_own (acts : incident.actor? = some txn)
    (spares : ¬ s.Alters txn page incident) (beholds : s.Beholds txn page image) :
    (s.suffer incident).Beholds txn page image := by
  -- it may change any page but this one
  let own (other : PageId) : Option LockMode := if other = page then none else some .exclusive
  have weak : own page ≠ some .exclusive := by simp [own]
  have orderly := ok.guarded.db.orderly
  have does := does_suffer acts work (s := s)
  generalize s.suffer incident = later at does ⊢
  cases does with
  | nothing => exact beholds
  | looks holding => exact ⟨beholds.keeps, beholds.reported, beholds.shown⟩
  | @calls call free =>
      exact ok.beholds_follow beholds (ok.proceeds_call work room) weak
        (Database.keeps_start ok.guarded.db.sound beholds.keeps.held call)
  | @moves call operation busy =>
      have elsewhere : ∀ id, operation.changed? = some id →
          own (s.frame id).page = some .exclusive := fun id changes =>
        if_neg fun here => spares (.moves busy changes here)
      have grasps := ok.restorable.grasps txn
      have keeps := beholds.keeps
      rw [busy] at grasps keeps
      exact ok.beholds_follow beholds (ok.proceeds_move busy elsewhere room) weak
        (Database.keeps_step ok.guarded.db.sound grasps.1 keeps)
  | @overwrites image id frame writable copied =>
      have apart : (s.frame id).page ≠ page := fun here => spares (.overwrites image writable here)
      have elsewhere : own (s.frame id).page = some .exclusive := if_neg apart
      have same_page := Frame.page_of_copyFrom? copied
      have same_before := Frame.before_of_copyFrom? copied
      refine ok.beholds_of_defers beholds
        (defers_setFrame same_page same_before elsewhere orderly) weak
        ⟨beholds.keeps.held, by simp [setPhase, Phase.givesBack?]⟩ fun other changing => ?_
      simp only [setPhase, Function.update_self] at changing
      cases changing
      simp only [System.frame, setPhase, Cache.frame_setFrame, if_true, same_page]
      exact apart
  | @reports id history changing tells =>
      have rooted := ok.assumes txn
      rw [changing] at rooted
      have elsewhere : own (s.frame id).page = some .exclusive :=
        if_neg (beholds.reported id changing)
      have held := beholds.keeps.held
      rw [← s.db.locks_markDirty txn id] at held
      refine ok.beholds_of_defers beholds (defers_markDirty txn orderly rooted elsewhere) weak
        ⟨held, by simp [setPhase, Phase.givesBack?]⟩ fun other changing => ?_
      simp only [setPhase, Function.update_self] at changing
      cases changing
  | ends free tells => exact absurd (.ends _) spares
  | stops free => exact absurd (.stops _) spares

/-- Every incident leaves the transaction the page as it is, unless the transaction changes the page
itself or ends. -/
theorem Truthful.beholds_suffer (spares : ¬ s.Alters txn page incident)
    (beholds : s.Beholds txn page image) : (s.suffer incident).Beholds txn page image := by
  by_cases acts : incident.actor? = some txn
  · exact ok.beholds_of_own work room acts spares beholds
  · exact ok.beholds_of_others work room acts beholds

end Steps

/-- Along a run, the transaction neither changes the page nor ends. -/
def KeepsOff (s : System) (txn : TxnId) (page : PageId) : List Incident → Prop
  | [] => True
  | incident :: rest => ¬ s.Alters txn page incident ∧ (s.suffer incident).KeepsOff txn page rest

/-- What others do is none of it. -/
lemma keepsOff_of_others {incidents : List Incident}
    (others : ∀ incident ∈ incidents, incident.actor? ≠ some txn) :
    s.KeepsOff txn page incidents := by
  induction incidents generalizing s with
  | nil => trivial
  | cons incident rest ih =>
      exact ⟨fun alters => others incident List.mem_cons_self alters.actor,
        ih fun next later => others next (List.mem_cons_of_mem _ later)⟩

/-- A transaction keeps a page as it is until it changes the page itself or ends. -/
theorem Truthful.beholds_endure (ok : s.Truthful) (incidents : List Incident)
    (work : ∀ incident ∈ incidents, incident.IsWork s.db.storage)
    (room : (s.endure incidents).db.storage.Countable) (off : s.KeepsOff txn page incidents)
    (beholds : s.Beholds txn page image) : (s.endure incidents).Beholds txn page image := by
  induction incidents generalizing s with
  | nil => exact beholds
  | cons incident rest ih =>
      have work_first := work incident List.mem_cons_self
      have room_first := (s.grows_endure (incident :: rest)).countable room
      have tables := (s.grows_suffer incident).catalog
      refine ih (truthful_suffer ok work_first room_first) (fun next later => ?_) room off.2
        (ok.beholds_suffer work_first room_first off.1 beholds)
      exact (Incident.isWork_congr tables next).mpr (work next (List.mem_cons_of_mem _ later))

/-! ### Lists of records -/

/-- The transaction keeps the first pages of a heap file, and these are the records that they
show. -/
structure Sees (s : System) (txn : TxnId) (heap : HeapFile) (count : Nat) (list : List Record) :
    Prop where
  beholds : ∀ number < count, ∃ image, s.Beholds txn (heap.page number) image
  list : list = (firstRecords s.db.records heap count).map Record.listed

lemma firstRecords_congr {records others : RecordId → Option Image}
    (same : ∀ number < count, ∀ slot,
      records ⟨heap.page number, slot⟩ = others ⟨heap.page number, slot⟩) :
    firstRecords records heap count = firstRecords others heap count :=
  List.flatMap_congr fun number before => by
    rw [pageRecords, pageRecords]
    simp only [same number (List.mem_range.mp before)]

/-- The list stays the same as long as the pages stay as they are. -/
lemma Sees.carried (sees : s.Sees txn heap count list)
    (tables : later.db.storage.catalog = s.db.storage.catalog)
    (beholds : ∀ number < count, ∀ image, s.Beholds txn (heap.page number) image →
      later.Beholds txn (heap.page number) image) : later.Sees txn heap count list := by
  refine ⟨fun number before => ?_, ?_⟩
  · obtain ⟨image, here⟩ := sees.beholds number before
    exact ⟨image, beholds number before image here⟩
  · rw [sees.list]
    refine congrArg (List.map Record.listed) (firstRecords_congr fun number before slot => ?_)
    obtain ⟨image, here⟩ := sees.beholds number before
    rw [Database.records, Database.records, here.shown, (beholds number before image here).shown,
      Option.bind_some, Option.bind_some, Storage.payloadIn, Storage.payloadIn, tables]

/-- So it is while the transaction neither changes the pages nor ends. -/
lemma Truthful.sees_endure (ok : s.Truthful) (incidents : List Incident)
    (work : ∀ incident ∈ incidents, incident.IsWork s.db.storage)
    (room : (s.endure incidents).db.storage.Countable)
    (off : ∀ number < count, s.KeepsOff txn (heap.page number) incidents)
    (sees : s.Sees txn heap count list) : (s.endure incidents).Sees txn heap count list :=
  sees.carried (s.grows_endure incidents).catalog fun number inside _ beholds =>
    ok.beholds_endure incidents work room (off number inside) beholds

/-- The records of a page that is shown. -/
lemma eq_of_recordsOn {db : Database} {records : List Record}
    (found : db.storage.catalog[heap.table]? = some (.heap heap))
    (shown : db.shown? (heap.page number) = some image)
    (read : heap.recordsOn number image = .ok records) :
    records = (pageRecords db.records heap.layout.slots (heap.page number)).map Record.listed := by
  have found' : db.storage.catalog[(heap.page number).table]? = some (.heap heap) := found
  rw [HeapFile.recordsOn] at read
  split at read
  · next contents told =>
    cases read
    rw [SlotLayout.eq_of_contentsAmong told, pageRecords, List.map_filterMap, List.map_filterMap]
    refine congrArg (fun f => List.filterMap f _) (funext fun slot => ?_)
    rw [Database.records, shown, Option.bind_some, Storage.payloadIn_heap found', Option.map_map,
      Option.map_map]
    rfl
  · cases read

/-- One more page is read. -/
lemma Sees.add {records : List Record} (sees : s.Sees txn heap number list)
    (found : s.db.storage.catalog[heap.table]? = some (.heap heap))
    (beholds : s.Beholds txn (heap.page number) image)
    (read : heap.recordsOn number image = .ok records) :
    s.Sees txn heap (number + 1) (list ++ records) := by
  refine ⟨fun other before => ?_, ?_⟩
  · rcases Nat.lt_succ_iff_lt_or_eq.mp before with inside | rfl
    · exact sees.beholds other inside
    · exact ⟨image, beholds⟩
  · rw [sees.list, eq_of_recordsOn found beholds.shown read, ← List.map_append, firstRecords,
      firstRecords, List.range_succ, List.flatMap_append]
    simp

/-! ### Scans -/

/-- A scan in progress that will read so many pages has the records that the pages before show. -/
inductive Viewing (s : System) (txn : TxnId) (heap : HeapFile) (count : Nat) : Operation → Prop
  | collect {number remaining : Nat} {list : List Record} {stage : Stage}
      (whole : number + remaining + 1 = count) (sees : s.Sees txn heap number list) :
      Viewing s txn heap count (.fetching txn .store (.collect heap number remaining list) stage)

/-- What a scan has, at whatever point it is. -/
def Views (s : System) (txn : TxnId) (heap : HeapFile) (count : Nat) : Progress → Prop
  | .running operation | .parked operation => s.Viewing txn heap count operation
  | .finished (.scanned (.ok list)) => s.Sees txn heap count list
  | .finished _ => True

lemma views_of_going {progress : Progress} {operation : Operation}
    (going : progress.operation? = some operation) :
    s.Views txn heap count progress ↔ s.Viewing txn heap count operation := by
  cases progress with
  | finished outcome => cases going
  | running running =>
      cases going
      rfl
  | parked parked =>
      cases going
      rfl

section Moves

variable (ok : s.Truthful) (room : s.db.storage.Countable)
  (found : s.db.storage.catalog[heap.table]? = some (.heap heap))
include ok

/-- The page that a scan has at hand shows the image that the scan reads. -/
lemma Truthful.beholds_of_collect {remaining : Nat} {id : FrameId}
    (busy : s.phase txn =
      .busy (.scan heap) (.fetching txn .store (.collect heap number remaining list) (.use id))) :
    s.Beholds txn (heap.page number) (s.frame id).live := by
  have allows := ok.guarded.phase txn
  have trusts := ok.assumes txn
  rw [busy] at allows trusts
  refine ⟨⟨Holds.covers allows.2.2 |>.1, ?_⟩, reported_of_busy busy, trusts.1⟩
  rw [busy]
  simp [Phase.givesBack?, Operation.givesBack?, Aim.givesBack?]

include room

/-- A move of a scan changes no page. -/
lemma Truthful.sees_collect {remaining more : Nat} {stage : Stage} {others : List Record}
    (busy : s.phase txn =
      .busy (.scan heap) (.fetching txn .store (.collect heap number remaining list) stage))
    (sees : s.Sees txn heap more others) :
    (s.suffer (.act ⟨txn, .move⟩)).Sees txn heap more others := by
  refine sees.carried (s.grows_suffer _).catalog fun number _ image beholds => ?_
  refine ok.beholds_suffer (Or.inl rfl) room (fun alters => ?_) beholds
  cases alters with
  | moves busy' changes here =>
      cases busy.symm.trans busy'
      cases changes

include found

/-- A move of a scan reads one more page, or leaves the list as it is. -/
lemma Truthful.views_move {operation : Operation} {moved : Database × Progress}
    (busy : s.phase txn = .busy (.scan heap) operation)
    (viewing : s.Viewing txn heap count operation) (moves : s.db.Moves operation moved) :
    (s.follow txn (.scan heap) moved).Views txn heap count moved.2 := by
  cases viewing with
  | @collect number remaining list stage whole sees =>
      cases moves with
      | unread cause => trivial
      | step comes =>
          have collects := s.db.collects_step txn heap number remaining list stage
          obtain rfl := comes.eq_of_collect
          rw [← suffer_move busy]
          generalize (s.db.step _).2 = progress at collects ⊢
          cases collects with
          | running => exact .collect whole (ok.sees_collect room busy sees)
          | parked => exact .collect whole (ok.sees_collect room busy sees)
          | failed => trivial
          | last use read final =>
              subst use final
              have more := sees.add found (ok.beholds_of_collect busy) read
              rw [← whole, Nat.add_zero]
              exact ok.sees_collect room busy more
          | next use read more =>
              subst use more
              have more := sees.add found (ok.beholds_of_collect busy) read
              exact .collect (by omega) (ok.sees_collect room busy more)

end Moves

/-- A scan has at every point the records that the pages show which it has read. -/
theorem views_of_underway (ok : s.Truthful)
    (found : s.db.storage.catalog[heap.table]? = some (.heap heap)) {progress : Progress}
    (underway : s.Underway txn (.scan heap) progress later)
    (room : later.db.storage.Countable) :
    later.Views txn heap (s.db.storage.heapPages heap) progress := by
  refine underway.rule (P := fun progress now =>
    now.Views txn heap (s.db.storage.heapPages heap) progress) ok room ?_ ?_ ?_
  · rintro moved - starts -
    cases starts with
    | asModelled =>
        rw [start, startScan]
        split
        · next none =>
          rw [none]
          exact ⟨fun _ before => absurd before (Nat.not_lt_zero _), rfl⟩
        · next remaining more =>
          rw [more]
          exact .collect (by omega) ⟨fun _ before => absurd before (Nat.not_lt_zero _), rfl⟩
  · intro progress operation now incident underway going truthful others work room views
    rw [views_of_going going] at views ⊢
    cases views with
    | collect whole sees =>
        refine .collect whole (sees.carried (now.grows_suffer _).catalog ?_)
        exact fun number _ image beholds => truthful.beholds_of_others work room others beholds
  · intro progress operation now moved underway going truthful moves room views
    rw [views_of_going going] at views
    refine truthful.views_move room ?_ (underway.busy going) views moves
    rw [underway.grows.catalog]
    exact found

/-- A scan that returns a list has met no refusal. -/
lemma Truthful.of_scanned (ok : s.Truthful)
    (underway : s.Underway txn (.scan heap) (.finished (.scanned (.ok list))) later)
    (room : later.db.storage.Countable) : later.Truthful := by
  generalize told : Progress.finished (.scanned (.ok list)) = progress at underway
  cases underway with
  | meanwhile underway going others work =>
      rw [← told] at going
      cases going
  | starts free work starts =>
      cases starts with
      | asModelled =>
          rw [← suffer_call free] at room ⊢
          exact truthful_suffer ok work ((s.grows_suffer _).countable room)
  | @moves progress operation now moved underway going moves =>
      have same : moved = now.db.step operation := by
        cases moves with
        | @unread own level aim cause => cases aim <;> cases level <;> cases told
        | step comes =>
            refine comes.eq_of_ne_refusal fun level record cause refused => ?_
            rw [refused] at told
            cases level <;> cases told
      rw [same, ← suffer_move (underway.busy going)] at room ⊢
      have room_before := (now.grows_suffer _).countable room
      exact truthful_suffer (underway.truthful ok going room_before) (Or.inl rfl) room_before

/-- What a list of seen records tells. -/
lemma Sees.mem_iff (sees : s.Sees txn heap count list)
    (found : s.db.storage.catalog[heap.table]? = some (.heap heap)) (record : Record) :
    record ∈ list ↔ ∃ id data, record = ⟨some id, data⟩ ∧ id.page.table = heap.table ∧
      id.page.number < count ∧ s.db.records id = some data := by
  rw [sees.list, List.mem_map]
  constructor
  · rintro ⟨⟨id, data⟩, listed, rfl⟩
    obtain ⟨here, before, -, there⟩ := mem_firstRecords.mp listed
    exact ⟨id, data, rfl, here, before, there⟩
  · rintro ⟨⟨⟨table, number⟩, slot⟩, data, rfl, here, before, there⟩
    cases here
    obtain ⟨image, shown, payload⟩ := Option.bind_eq_some_iff.mp there
    rw [Storage.payloadIn_heap found] at payload
    refine ⟨⟨_, data⟩, mem_firstRecords.mpr ⟨rfl, before, ?_, there⟩, rfl⟩
    by_contra absent
    rw [SlotLayout.payload?_eq_none absent] at payload
    cases payload

lemma Sees.pairwise (sees : s.Sees txn heap count list) :
    list.Pairwise fun record next => ∀ id ∈ record.id, ∀ other ∈ next.id, id.Precedes other := by
  rw [sees.list]
  refine List.pairwise_map.mpr ((pairwise_firstRecords ..).imp ?_)
  intro entry other precedes id here another there
  cases here
  cases there
  exact precedes

end System

/-- When a scan has returned, and as long as its transaction neither changes the pages nor ends,
the transaction sees the list of the scan. -/
lemma sees_of_scanned {storage : Storage} (separate : storage.Separate) (capacity : Nat)
    (capacity_pos : 0 < capacity) (before after : List Incident)
    (work : ∀ incident ∈ before ++ after, incident.IsWork storage) {heap : HeapFile}
    (found : storage.catalog[heap.table]? = some (.heap heap)) {txn : TxnId} {list : List Record}
    {returned : System} :
    let s := (System.initial storage capacity capacity_pos).endure before
    let count := s.db.storage.heapPages heap
    let later := returned.endure after
    s.Underway txn (.scan heap) (.finished (.scanned (.ok list))) returned →
    later.db.storage.Countable →
    (∀ number < count, returned.KeepsOff txn (heap.page number) after) →
      later.Truthful ∧ later.db.storage.catalog = storage.catalog ∧
        later.Sees txn heap count list := by
  intro s count later underway room off
  have room_returned := (returned.grows_endure after).countable room
  have room_before := underway.grows.countable room_returned
  obtain ⟨ok, tables⟩ := System.truthful_endure
    (System.truthful_initial separate capacity capacity_pos) before
    (fun incident listed => work incident (List.mem_append_left _ listed)) room_before
  have tables_returned : returned.db.storage.catalog = storage.catalog :=
    underway.grows.catalog.trans tables
  have work_after : ∀ incident ∈ after, incident.IsWork returned.db.storage :=
    fun incident listed => (Incident.isWork_congr tables_returned incident).mpr
      (work incident (List.mem_append_right _ listed))
  have truthful := ok.of_scanned underway room_returned
  have sees : returned.Sees txn heap count list :=
    System.views_of_underway ok (by rw [tables]; exact found) underway room_returned
  exact ⟨(System.truthful_endure truthful after work_after room).1,
    (returned.grows_endure after).catalog.trans tables_returned,
    truthful.sees_endure after work_after room off sees⟩

/-- **A scan shows one moment.** Whatever the others do between its moves, however often it waits,
and also if stores fail: when a scan returns, its list has exactly the records that the database
shows at that moment on the pages that the file had when the scan began, by pages and slots; and
the transaction has locked all these pages. So it is at every later moment, as long as the
transaction itself neither changes these pages nor ends. -/
theorem scan_is_view {storage : Storage} (separate : storage.Separate) (capacity : Nat)
    (capacity_pos : 0 < capacity) (before after : List Incident)
    (work : ∀ incident ∈ before ++ after, incident.IsWork storage) {heap : HeapFile}
    (found : storage.catalog[heap.table]? = some (.heap heap)) {txn : TxnId} {list : List Record}
    {returned : System} :
    let s := (System.initial storage capacity capacity_pos).endure before
    let count := s.db.storage.heapPages heap
    let later := returned.endure after
    s.Underway txn (.scan heap) (.finished (.scanned (.ok list))) returned →
    later.db.storage.Countable →
    (∀ number < count, returned.KeepsOff txn (heap.page number) after) →
      list.Pairwise (fun record next => ∀ id ∈ record.id, ∀ other ∈ next.id, id.Precedes other) ∧
      (∀ record, record ∈ list ↔ ∃ id data, record = ⟨some id, data⟩ ∧
        id.page.table = heap.table ∧ id.page.number < count ∧ later.db.records id = some data) ∧
      ∀ number < count, later.mode txn (heap.page number) ≠ none := by
  intro s count later underway room off
  obtain ⟨-, tables, sees⟩ := sees_of_scanned separate capacity capacity_pos before after work found
    underway room off
  refine ⟨sees.pairwise, sees.mem_iff (by rw [tables]; exact found), fun number inside => ?_⟩
  obtain ⟨image, beholds⟩ := sees.beholds number inside
  exact beholds.keeps.held

/-- A scan of the first transaction waits for the second one, which commits. -/
def scanWaits : List Incident :=
  movesOf ⟨1⟩ 3 ++ .act ⟨⟨2⟩, .complete true⟩ :: movesOf ⟨1⟩ 1

/-- The fourth transaction wants to insert a record. -/
def insertWaits : List Incident :=
  .act ⟨⟨4⟩, .call (.insert ⟨1⟩ (.ofData #[8]))⟩ :: movesOf ⟨4⟩ 10

/-- The scan of the first transaction has waited, and the insert of the fourth one has to. The list
has the record that the second one has inserted. -/
theorem scan_is_view_wait :
    let heap : HeapFile := ⟨⟨1⟩, ⟨1, 3⟩, ["records"]⟩
    let s := (System.initial oneHeap 2 (by decide)).endure appendOpenly
    let called := s.suffer (.act ⟨⟨1⟩, .call (.scan heap)⟩)
    let returned := (called.endure scanWaits).suffer (.act ⟨⟨1⟩, .move⟩)
    let later := returned.endure insertWaits
    let list := [onPage 0 0 #[9], onPage 0 1 #[5], onPage 0 2 #[6], onPage 1 0 #[7]]
    s.Underway ⟨1⟩ (.scan heap) (.finished (.scanned (.ok list))) returned ∧
      later.db.records ⟨⟨⟨1⟩, 1⟩, 0⟩ = some #[7] ∧ later.mode ⟨1⟩ ⟨⟨1⟩, 1⟩ ≠ none := by
  intro heap s called returned later list
  have isHeap : ∀ table, oneHeap.IsHeap table := fun table store found =>
    ⟨_, catalog_oneHeap found⟩
  have work : ∀ incident ∈ appendOpenly ++ insertWaits, incident.IsWork oneHeap := by
    simp [appendOpenly, insertWaits, movesOf, fillPage, Incident.IsWork, Act.isPageWork,
      Act.IsRecordWork, isHeap]
  have found : oneHeap.catalog[heap.table]? = some (.heap heap) := rfl
  have pages : s.db.storage.heapPages heap = 2 := by decide +kernel
  have room : (returned.endure insertWaits).db.storage.Countable := by decide +kernel
  -- the scan is called, waits, goes on and returns
  have free : (s.phase ⟨1⟩).isFree = true := by decide +kernel
  have going : (s.db.start ⟨1⟩ (.scan heap)).2.operation? =
      some (.fetching ⟨1⟩ .store (.collect heap 0 1 []) (.lock false)) := by decide +kernel
  let first := [onPage 0 0 #[9], onPage 0 1 #[5], onPage 0 2 #[6]]
  let last : Operation := .fetching ⟨1⟩ .store (.collect heap 1 0 first) (.use 1)
  have busy : (called.endure scanWaits).phase ⟨1⟩ = .busy (.scan heap) last := by decide +kernel
  have finished : ((called.endure scanWaits).db.step last).2 = .finished (.scanned (.ok list)) := by
    decide +kernel
  have waits : ∀ incident ∈ scanWaits, incident.IsWork s.db.storage := by
    simp [scanWaits, movesOf, Incident.IsWork, Act.isPageWork, Act.IsRecordWork]
  have own : ∀ incident ∈ scanWaits, incident.actor? = some ⟨1⟩ →
      incident = .act ⟨⟨1⟩, .move⟩ := by
    simp [scanWaits, movesOf, Incident.actor?]
  have underway : s.Underway ⟨1⟩ (.scan heap) (.finished (.scanned (.ok list))) returned :=
    .whole called rfl free (Or.inr trivial) scanWaits own waits going busy finished
  clear_value returned
  have off : ∀ number < s.db.storage.heapPages heap,
      returned.KeepsOff ⟨1⟩ (heap.page number) insertWaits := fun _ _ =>
    System.keepsOff_of_others (by simp [insertWaits, movesOf, Incident.actor?])
  obtain ⟨-, listed, held⟩ := scan_is_view reliable_oneHeap.separate 2 (by decide) appendOpenly
    insertWaits work found underway room off
  rw [pages] at held
  refine ⟨underway, ?_, held 1 (by decide)⟩
  obtain ⟨id, data, same, -, -, there⟩ := (listed (onPage 1 0 #[7])).mp (by simp [list])
  cases same
  exact there

end PageTxn
