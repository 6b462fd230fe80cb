import PageTxn.Proofs.Operations
import PageTxn.Proofs.Refusals
import PageTxn.Proofs.Residency
import PageTxn.Proofs.Settling

/-!
Locks guard the dirty pages, also if stores fail.

* `Database.Guarded` is the invariant of a database: the owner of a dirty page has locked it
  exclusively, or it is one of the transactions that got stuck in their commits.
* `Database.Respects` says what a transaction may rely on in its phase if all transactions lock
  pages before they use them.
* `Database.Obeys` says what a step of one transaction does: the invariant holds on, others keep
  their locks, frames stay those of their pages, and only some pages are written. Elementary
  steps have one lemma each, and can be put together (`Obeys.trans`).
* `complies_step`, `complies_start`: an operation obeys at every move and at its start, and
  writes no page that exists.
* `obeys_commitPages`: a commit writes at most the pages that it goes through; those are clean
  afterwards, unless a store refuses one.
-/

namespace PageTxn

/-- The phase after a move of an operation. -/
def Progress.phase (call : Call) : Progress → Phase
  | .running operation | .parked operation => .busy call operation
  | .finished outcome => .after call outcome

/-- A transaction whose operation has returned is not busy. -/
lemma Progress.phase_finished_ne (asked : Call) (outcome : Outcome) (call : Call)
    (operation : Operation) : (finished outcome).phase asked ≠ .busy call operation := by
  rw [phase, Phase.after.eq_def]
  split <;> exact nofun

lemma Progress.of_phase_busy {progress : Progress} {asked call : Call} {operation : Operation}
    (busy : progress.phase asked = .busy call operation) :
    asked = call ∧ (progress = .running operation ∨ progress = .parked operation) := by
  cases progress with
  | running running =>
      cases busy
      exact ⟨rfl, .inl rfl⟩
  | parked parked =>
      cases busy
      exact ⟨rfl, .inr rfl⟩
  | finished outcome => exact (phase_finished_ne _ _ _ _ busy).elim

lemma System.db_follow (s : System) (txn : TxnId) (call : Call) (moved : Database × Progress) :
    (s.follow txn call moved).db = moved.1 := by
  obtain ⟨db, running | parked | finished⟩ := moved <;> rfl

/-- A move of an operation brings its transaction into another phase. -/
lemma System.phase_follow_eq (s : System) (txn : TxnId) (call : Call)
    (moved : Database × Progress) :
    (s.follow txn call moved).phase = Function.update s.phase txn (moved.2.phase call) := by
  obtain ⟨db, running | parked | finished⟩ := moved <;> rfl

lemma System.phase_follow_self (s : System) (txn : TxnId) (call : Call)
    (moved : Database × Progress) :
    (s.follow txn call moved).phase txn = moved.2.phase call := by
  rw [phase_follow_eq, Function.update_self]

namespace Database

variable {stuck : TxnId → Prop} {db middle later : Database} {txn other : TxnId} {page : PageId}
  {pages : List PageId} {id : FrameId} {call : Call} {level : Level} {aim : Aim}

/-! ### The invariant -/

/-- Page objects have the length of their stored pages, and the owner of a dirty page has locked
it exclusively, or got stuck in its commit. -/
structure Guarded (stuck : TxnId → Prop) (db : Database) : Prop where
  sound : db.locks.table.Sound
  orderly : db.cache.Orderly
  separate : db.storage.Separate
  backed : ∀ id < db.cache.nextFrame,
    db.Backed (db.cache.frame id).page (db.cache.frame id).live.size
  owned : ∀ (page : PageId) (id : FrameId) (txn : TxnId),
    db.cache.residentFrame? page = some id → (db.cache.frame id).owner = some txn →
      db.locks.table.modeOf? txn page = some .exclusive ∨ stuck txn

/-- All page objects of a page have one length. -/
lemma Guarded.size_eq (guarded : db.Guarded stuck) {source : FrameId}
    (made : source < db.cache.nextFrame)
    (there : db.cache.residentFrame? (db.cache.frame source).page = some id) :
    (db.cache.frame source).live.size = (db.cache.frame id).live.size := by
  obtain ⟨image, stored, size⟩ := guarded.backed source made
  obtain ⟨same, stored', size'⟩ := guarded.backed id (guarded.orderly.made _ id there)
  rw [guarded.orderly.page _ id there] at stored'
  cases stored.symm.trans stored'
  exact size.symm.trans size'

/-- More transactions may be stuck. -/
lemma Guarded.mono {more : TxnId → Prop} (guarded : db.Guarded stuck)
    (le : ∀ txn, stuck txn → more txn) : db.Guarded more :=
  { guarded with owned := fun page id txn there owner =>
      (guarded.owned page id txn there owner).imp_right (le txn) }

/-! ### What a transaction relies on -/

/-- The transaction has a frame of a page at hand that it has locked. -/
structure Holds (db : Database) (txn : TxnId) (page : PageId) (mode : LockMode) (id : FrameId) :
    Prop where
  covers : db.locks.table.Covers txn page mode
  made : id < db.cache.nextFrame
  shows : (db.cache.frame id).page = page

/-- The transaction has locked the page of a frame exclusively. -/
structure Claims (db : Database) (txn : TxnId) (id : FrameId) : Prop where
  made : id < db.cache.nextFrame
  lock : db.locks.table.modeOf? txn (db.cache.frame id).page = some .exclusive

lemma Holds.claims (hand : db.Holds txn page .exclusive id) : db.Claims txn id :=
  ⟨hand.made, by rw [hand.shows]; exact hand.covers.2 rfl⟩

/-- A file is registered. -/
def Registered (db : Database) (heap : HeapFile) : Prop :=
  ∃ table : TableId, db.storage.catalog[table]? = some (.heap heap)

/-- The purposes of the operations. An insert that may give a page back has not locked it
exclusively. -/
def Pursues (db : Database) (txn : TxnId) (call : Call) : Aim → Prop
  | .hand page mode => call = .fetch page mode
  | .probe heap _ number _ alreadyHeld => db.Registered heap ∧
      (alreadyHeld = false → db.locks.table.modeOf? txn (heap.page number) ≠ some .exclusive)
  | .claim heap .. => db.Registered heap
  | _ => True

/-- How far the fetch of a page has come. -/
def Reaches (db : Database) (txn : TxnId) (aim : Aim) : Stage → Prop
  | .lock _ => True
  | .read => db.locks.table.Covers txn aim.page aim.mode
  | .enter image => db.locks.table.Covers txn aim.page aim.mode ∧ db.Backed aim.page image.size
  | .use id => db.Holds txn aim.page aim.mode id

/-- An operation in progress locks pages before it uses them. -/
def Allows (db : Database) (txn : TxnId) (call : Call) : Operation → Prop
  | .fetching own _ aim stage => own = txn ∧ db.Pursues txn call aim ∧ db.Reaches txn aim stage
  | .reporting own _ pages => own = txn ∧ ∀ id ∈ pages, db.Claims txn id

/-- What a transaction relies on in its phase. -/
def Respects (db : Database) (txn : TxnId) : Phase → Prop
  | .ready | .gone => True
  | .holding page mode id => db.Holds txn page mode id
  | .changing id => db.Claims txn id
  | .busy call operation => db.Allows txn call operation

/-- Everything on which a transaction relies is as before. -/
structure Carries (txn : TxnId) (db later : Database) : Prop where
  mode : ∀ page : PageId, later.locks.table.modeOf? txn page = db.locks.table.modeOf? txn page
  made : db.cache.nextFrame ≤ later.cache.nextFrame
  shows : ∀ id < db.cache.nextFrame, (later.cache.frame id).page = (db.cache.frame id).page
  tables : later.storage.catalog = db.storage.catalog
  backed : ∀ (page : PageId) (size : Nat), db.Backed page size → later.Backed page size

section Carried

variable (carries : Carries txn db later)
include carries

lemma Carries.covers {mode : LockMode} (covers : db.locks.table.Covers txn page mode) :
    later.locks.table.Covers txn page mode := by
  rw [LockTable.Covers, carries.mode]
  exact covers

lemma Holds.carried {mode : LockMode} (hand : db.Holds txn page mode id) :
    later.Holds txn page mode id :=
  ⟨carries.covers hand.covers, Nat.lt_of_lt_of_le hand.made carries.made,
    (carries.shows id hand.made).trans hand.shows⟩

lemma Claims.carried (claims : db.Claims txn id) : later.Claims txn id :=
  ⟨Nat.lt_of_lt_of_le claims.made carries.made,
    by rw [carries.shows id claims.made, carries.mode]; exact claims.lock⟩

lemma Registered.carried {heap : HeapFile} (registered : db.Registered heap) :
    later.Registered heap := by
  obtain ⟨table, found⟩ := registered
  exact ⟨table, by rw [carries.tables]; exact found⟩

lemma Pursues.carried (pursues : db.Pursues txn call aim) : later.Pursues txn call aim := by
  cases aim with
  | hand page mode => exact pursues
  | probe heap record number remaining alreadyHeld =>
      refine ⟨pursues.1.carried carries, fun fresh => ?_⟩
      rw [carries.mode]
      exact pursues.2 fresh
  | claim heap record number remaining => exact Registered.carried carries pursues
  | fill heap record number => trivial
  | erase heap id => trivial
  | collect heap number remaining found => trivial

lemma Respects.carried {phase : Phase} (respects : db.Respects txn phase) :
    later.Respects txn phase := by
  cases phase with
  | ready => trivial
  | gone => trivial
  | holding page mode id => exact Holds.carried carries respects
  | changing id => exact Claims.carried carries respects
  | busy call operation =>
      cases operation with
      | reporting own change pages =>
          exact ⟨respects.1, fun id listed => (respects.2 id listed).carried carries⟩
      | fetching own level aim stage =>
          obtain ⟨own, pursues, reaches⟩ := respects
          refine ⟨own, pursues.carried carries, ?_⟩
          cases stage with
          | lock waited => trivial
          | read => exact carries.covers reaches
          | enter image => exact ⟨carries.covers reaches.1, carries.backed _ _ reaches.2⟩
          | use id => exact Holds.carried carries reaches

end Carried

/-! ### Steps that obey the locks -/

/-- A step of one transaction keeps the invariant, leaves the others their locks, and writes no
other pages than the listed ones. -/
structure Obeys (stuck : TxnId → Prop) (txn : TxnId) (pages : List PageId) (db later : Database) :
    Prop where
  guarded : later.Guarded stuck
  mode : ∀ other : TxnId, other ≠ txn → ∀ page : PageId,
    later.locks.table.modeOf? other page = db.locks.table.modeOf? other page
  made : db.cache.nextFrame ≤ later.cache.nextFrame
  shows : ∀ id < db.cache.nextFrame, (later.cache.frame id).page = (db.cache.frame id).page
  writes : Storage.Writes pages later.storage db.storage

namespace Obeys

lemma refl (guarded : db.Guarded stuck) : Obeys stuck txn pages db db :=
  ⟨guarded, fun _ _ _ => rfl, Nat.le_refl _, fun _ _ => rfl, .refl _⟩

lemma trans (first : Obeys stuck txn pages db middle)
    (second : Obeys stuck txn pages middle later) : Obeys stuck txn pages db later where
  guarded := second.guarded
  mode other apart page := (second.mode other apart page).trans (first.mode other apart page)
  made := Nat.le_trans first.made second.made
  shows id made := (second.shows id (Nat.lt_of_lt_of_le made first.made)).trans
    (first.shows id made)
  writes := second.writes.trans first.writes

/-- What a step writes may be bounded by a longer list. -/
lemma widen {more : List PageId} (obeys : Obeys stuck txn pages db later)
    (listed : ∀ page ∈ pages, page ∈ more) : Obeys stuck txn more db later :=
  { obeys with writes := obeys.writes.mono listed }

/-- Another transaction relies on nothing that the step has changed. -/
lemma carries (obeys : Obeys stuck txn pages db later) (apart : other ≠ txn) :
    Carries other db later where
  mode := obeys.mode other apart
  made := obeys.made
  shows := obeys.shows
  tables := obeys.writes.catalog
  backed page size backed := by
    obtain ⟨image, there, same⟩ := backed
    obtain ⟨written, found, same'⟩ := obeys.writes.kept page image there
    exact ⟨written, found, same'.trans same⟩

/-- The transaction itself relies on nothing that the step has changed, if it has its locks
still. -/
lemma carries_self (obeys : Obeys stuck txn pages db later)
    (mode : ∀ page : PageId,
      later.locks.table.modeOf? txn page = db.locks.table.modeOf? txn page) :
    Carries txn db later where
  mode := mode
  made := obeys.made
  shows := obeys.shows
  tables := obeys.writes.catalog
  backed page size backed := by
    obtain ⟨image, there, same⟩ := backed
    obtain ⟨written, found, same'⟩ := obeys.writes.kept page image there
    exact ⟨written, found, same'.trans same⟩

end Obeys

section Elementary

variable (guarded : db.Guarded stuck)
include guarded

/-- A request strengthens at most a lock of its own transaction. -/
lemma obeys_request (txn : TxnId) (page : PageId) (mode : LockMode) (waited : Bool) :
    Obeys stuck txn pages db { db with locks := (db.locks.request txn page mode waited).1 } := by
  have modes := LockTable.modeOf?_request db.locks.table txn
  refine ⟨{ guarded with
    sound := guarded.sound.request txn page mode
    owned := fun other id owner there dirty => ?_ }, fun other apart q => ?_, Nat.le_refl _,
    fun _ _ => rfl, .refl _⟩
  · refine (guarded.owned other id owner there dirty).imp_left fun lock => ?_
    show (db.locks.table.request txn page mode).1.modeOf? owner other = _
    rw [modes]
    split
    · next granted =>
      obtain ⟨-, rfl, rfl⟩ := granted
      rw [LockMode.joined, if_pos lock]
    · exact lock
  · show (db.locks.table.request txn page mode).1.modeOf? other q = _
    rw [modes, if_neg fun granted => apart granted.2.2.symm]

/-- A change of the stores that writes some pages. -/
lemma obeys_of_writes {stored : Storage} (writes : stored.Writes pages db.storage) :
    Obeys stuck txn pages db { db with storage := stored } := by
  refine ⟨{ guarded with
    separate := writes.separate guarded.separate
    backed := fun id made => ?_ }, fun _ _ _ => rfl, Nat.le_refl _, fun _ _ => rfl, writes⟩
  obtain ⟨image, there, same⟩ := guarded.backed id made
  obtain ⟨written, found, same'⟩ := writes.kept _ image there
  exact ⟨written, found, same'.trans same⟩

/-- A change of the cache that keeps pages and lengths of the frames, and lets nobody own a page
without a lock. -/
lemma obeys_of_cache {cache : Cache} (orderly : cache.Orderly)
    (made : db.cache.nextFrame ≤ cache.nextFrame)
    (shows : ∀ id < db.cache.nextFrame, (cache.frame id).page = (db.cache.frame id).page)
    (size : ∀ id < db.cache.nextFrame,
      (cache.frame id).live.size = (db.cache.frame id).live.size)
    (fresh : ∀ id, db.cache.nextFrame ≤ id → id < cache.nextFrame →
      db.Backed (cache.frame id).page (cache.frame id).live.size)
    (owned : ∀ (page : PageId) (id : FrameId) (owner : TxnId),
      cache.residentFrame? page = some id → (cache.frame id).owner = some owner →
        db.locks.table.modeOf? owner page = some .exclusive ∨ stuck owner) :
    Obeys stuck txn pages db { db with cache } := by
  refine ⟨⟨guarded.sound, orderly, guarded.separate, fun id there => ?_, owned⟩,
    fun _ _ _ => rfl, made, shows, .refl _⟩
  by_cases old : id < db.cache.nextFrame
  · show db.Backed (cache.frame id).page (cache.frame id).live.size
    rw [shows id old, size id old]
    exact guarded.backed id old
  · exact fresh id (Nat.le_of_not_lt old) there

/-- Clean pages may leave. -/
lemma obeys_of_shrinks {cache : Cache} (shrinks : cache.Shrinks db.cache) :
    Obeys stuck txn pages db { db with cache } := by
  refine obeys_of_cache guarded (shrinks.orderly guarded.orderly)
    (Nat.le_of_eq shrinks.nextFrame.symm) (fun id _ => by rw [shrinks.frame])
    (fun id _ => by rw [shrinks.frame]) (fun id old new => ?_) fun page id owner there dirty => ?_
  · rw [shrinks.nextFrame] at new
    exact absurd new (Nat.not_lt_of_le old)
  · rw [shrinks.frame] at dirty
    exact guarded.owned page id owner (shrinks.residentFrame? there) dirty

/-- A frame may be replaced by one of its page and length, whose owner is the same or has the
page locked exclusively. -/
lemma obeys_setFrame {frame : Frame} (shows : frame.page = (db.cache.frame id).page)
    (size : frame.live.size = (db.cache.frame id).live.size)
    (owner : frame.owner = (db.cache.frame id).owner ∨ frame.owner = none ∨
      frame.owner = some txn ∧
        db.locks.table.modeOf? txn (db.cache.frame id).page = some .exclusive) :
    Obeys stuck txn pages db { db with cache := db.cache.setFrame id frame } := by
  have frames := fun target => Cache.frame_setFrame db.cache id target frame
  refine obeys_of_cache guarded (guarded.orderly.setFrame shows) (Nat.le_refl _)
    (fun target _ => ?_) (fun target _ => ?_)
    (fun target old new => absurd old (Nat.not_le_of_lt new))
    fun page target other there dirty => ?_
  · rw [frames]
    split
    · next here => rw [← here, shows]
    · rfl
  · rw [frames]
    split
    · next here => rw [← here, size]
    · rfl
  · have resident : db.cache.residentFrame? page = some target := there
    rw [frames] at dirty
    split at dirty
    · next here =>
      subst here
      rcases owner with same | clean | ⟨own, lock⟩
      · rw [same] at dirty
        exact guarded.owned page id other resident dirty
      · rw [clean] at dirty
        cases dirty
      · rw [own] at dirty
        cases dirty
        rw [guarded.orderly.page page id resident] at lock
        exact Or.inl lock
    · exact guarded.owned page target other resident dirty

/-- A page that was read can be brought in. -/
lemma obeys_enter {image : Image} (backed : db.Backed page image.size) :
    Obeys stuck txn pages db { db with
      cache := (db.cache.newFrame (.ofImage page image)).2.bringIn db.cache.nextFrame } := by
  have frames : ∀ target,
      ((db.cache.newFrame (.ofImage page image)).2.bringIn db.cache.nextFrame).frame target =
        if db.cache.nextFrame = target then .ofImage page image else db.cache.frame target :=
    fun target => Cache.frame_newFrame ..
  have old : ∀ target, target < db.cache.nextFrame →
      ((db.cache.newFrame (.ofImage page image)).2.bringIn db.cache.nextFrame).frame target =
        db.cache.frame target :=
    fun target made => (frames target).trans (if_neg (Nat.ne_of_gt made))
  refine obeys_of_cache guarded ((guarded.orderly.newFrame _).bringIn (Nat.lt_succ_self _))
    (Nat.le_succ _) (fun target made => by rw [old target made])
    (fun target made => by rw [old target made]) (fun target least most => ?_)
    fun other target owner there dirty => ?_
  · have same : db.cache.nextFrame = target :=
      Nat.le_antisymm least (Nat.le_of_lt_succ most)
    rw [frames, if_pos same]
    exact backed
  · rw [Cache.residentFrame?_bringIn] at there
    split at there
    · cases there
      rw [frames, if_pos rfl] at dirty
      cases dirty
    · rw [old target (guarded.orderly.made other target there)] at dirty
      exact guarded.owned other target owner there dirty

/-- The frame of a page that its owner has locked exclusively can be brought in. -/
lemma obeys_bringIn (claims : db.Claims txn id) (owner : (db.cache.frame id).owner = some txn) :
    Obeys stuck txn pages db { db with cache := db.cache.bringIn id } := by
  refine obeys_of_cache guarded (guarded.orderly.bringIn claims.made) (Nat.le_refl _)
    (fun _ _ => rfl) (fun _ _ => rfl)
    (fun target old new => absurd old (Nat.not_le_of_lt new))
    fun page target other there dirty => ?_
  have frame_eq : (db.cache.bringIn id).frame target = db.cache.frame target := rfl
  rw [frame_eq] at dirty
  rw [Cache.residentFrame?_bringIn] at there
  split at there
  · next here =>
    cases there
    rw [owner] at dirty
    cases dirty
    rw [← here]
    exact Or.inl claims.lock
  · exact guarded.owned page target other there dirty

/-- A page that is not locked exclusively can be given back. -/
lemma obeys_release (weak : db.locks.table.modeOf? txn page ≠ some .exclusive) :
    Obeys stuck txn pages db (db.release txn page) := by
  have modes := LockTable.modeOf?_release db.locks.table txn
  refine ⟨{ guarded with
    sound := guarded.sound.release txn page
    owned := fun other id owner there dirty => ?_ }, fun other apart q => ?_, Nat.le_refl _,
    fun _ _ => rfl, .refl _⟩
  · refine (guarded.owned other id owner there dirty).imp_left fun lock => ?_
    show (db.locks.table.release txn page).1.modeOf? owner other = _
    rw [modes, if_neg]
    · exact lock
    · rintro ⟨rfl, rfl⟩
      exact weak lock
  · show (db.locks.table.release txn page).1.modeOf? other q = _
    rw [modes, if_neg fun released => apart released.2.symm]

/-! ### Single pages -/

/-- A page that the transaction has locked exclusively is reported dirty, unless there is no
room for it. -/
lemma obeys_markDirty (claims : db.Claims txn id) :
    Obeys stuck txn [] db (db.markDirty txn id).1 := by
  rw [markDirty, Cache.markDirty.eq_def]
  dsimp only
  split
  · -- the resident frame of the page takes over the image
    next resident there =>
    have shows := guarded.orderly.page _ _ there
    split
    · next copied taken =>
      have same_page := Frame.page_of_copyFrom? taken
      have same_size := Frame.size_of_copyFrom? taken
      refine obeys_setFrame guarded same_page same_size (Or.inr (Or.inr ⟨rfl, ?_⟩))
      rw [shows]
      exact claims.lock
    · exact .refl guarded
  · have shrinks := db.cache.shrinks_makeRoom
    split
    · next roomy room =>
      rw [room] at shrinks
      have roomed : Obeys stuck txn [] db { db with cache := roomy } :=
        obeys_of_shrinks guarded shrinks
      have claims' : Claims { db with cache := roomy } txn id :=
        claims.carried (roomed.carries_self fun _ => rfl)
      have marked : Obeys stuck txn [] { db with cache := roomy }
          { db with cache := roomy.updateFrame id fun frame => frame.mark txn } :=
        obeys_setFrame roomed.guarded rfl rfl (Or.inr (Or.inr ⟨rfl, claims'.lock⟩))
      have claims'' := claims'.carried (marked.carries_self fun _ => rfl)
      have owner : ((roomy.updateFrame id fun frame => frame.mark txn).frame id).owner =
          some txn := by
        rw [Cache.frame_updateFrame, if_pos rfl]
        rfl
      exact roomed.trans (marked.trans (obeys_bringIn marked.guarded claims'' owner))
    · next full error room =>
      rw [room] at shrinks
      exact obeys_of_shrinks guarded shrinks

/-- The image of a page that the transaction has locked exclusively is replaced. -/
lemma obeys_changeFrame (claims : db.Claims txn id) {image : Image}
    (changed : db.changeFrame txn id image = .ok later) :
    Obeys stuck txn [] db later ∧ later.locks = db.locks := by
  rw [changeFrame] at changed
  split at changed
  · next copied taken =>
    cases changed
    have same_page := Frame.page_of_copyFrom? taken
    have same_size := Frame.size_of_copyFrom? taken
    exact ⟨obeys_setFrame guarded same_page same_size (Or.inr (Or.inr ⟨rfl, claims.lock⟩)), rfl⟩
  · cases changed

end Elementary

end Database

end PageTxn
