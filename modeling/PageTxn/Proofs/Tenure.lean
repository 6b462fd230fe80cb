import PageTxn.Proofs.Parking

/-!
How long a lock is held.

* `LockMode.strength` orders the ways in which a page can be held: not at all, for reading, for
  writing. A granted request joins the wanted mode to the one held before (`strength_joined`).
* `LockSystem.Regulates` lists what an action can do to the modes, and `regulates` says that there
  is nothing else; `LockSystem.actor?` is the transaction whose step the action is.
* `strength_le_run`: along a run the mode of a transaction on a page does not become weaker unless
  the transaction itself gives the page back.
* `locks_stay_until_released`: what every step does to the locks of all transactions.
-/

namespace PageTxn

namespace LockMode

/-- How much a transaction may do with a page: nothing, read it, or write it as well. -/
def strength : Option LockMode → Nat
  | none => 0
  | some shared => 1
  | some exclusive => 2

/-- Ways of holding a page that allow as much are the same. -/
lemma strength_injective : Function.Injective strength := by
  intro first second same
  rcases first with _ | (_ | _) <;> rcases second with _ | (_ | _) <;> simp_all [strength]

/-- A wanted mode that is joined to a held one gives the stronger of the two. -/
lemma strength_joined (wanted : LockMode) (held : Option LockMode) :
    strength (some (wanted.joined held)) = max (strength held) (strength (some wanted)) := by
  rcases held with _ | (_ | _) <;> cases wanted <;> rfl

end LockMode

namespace LockSystem

variable {system later : LockSystem} {action : LockAction} {txn other : TxnId}
  {page wanted : PageId}

/-- How a transaction holds a page. -/
def mode? (system : LockSystem) (txn : TxnId) (page : PageId) : Option LockMode :=
  system.locks.table.modeOf? txn page

/-- The transaction whose step an action is, `none` if nobody is parked at the place of the
turn. -/
def actor? (system : LockSystem) : LockAction → Option TxnId
  | .acquire request => some request.txn
  | .resume place => system.line[place]?.map fun waiting => waiting.task.txn
  | .release txn _ | .releaseAll txn => some txn

/-- The action gives the page back for the transaction, alone or with all others. -/
def GivesBack (txn : TxnId) (page : PageId) (action : LockAction) : Prop :=
  action = .release txn page ∨ action = .releaseAll txn

instance (txn : TxnId) (page : PageId) (action : LockAction) :
    Decidable (GivesBack txn page action) :=
  inferInstanceAs (Decidable (_ ∨ _))

/-- A turn is a step of the transaction that asks. -/
lemma actor?_of_turn {turn : Attempt} (takes : system.turn? action = some turn) :
    system.actor? action = some turn.request.txn := by
  cases action with
  | acquire request =>
      cases takes
      rfl
  | resume place =>
      simp only [turn?] at takes
      cases found : system.line[place]? with
      | none => simp [found] at takes
      | some waiting =>
          simp only [found] at takes
          split at takes
          · cases takes
            simp [actor?, found]
          · cases takes
  | release txn page => cases takes
  | releaseAll txn => cases takes

/-! ### What an action does to the modes -/

/-- What an action can do to the modes: a request is granted, one page or every page of a
transaction is given back, or all modes stay. -/
inductive Regulates (system : LockSystem) (action : LockAction) (later : LockSystem) : Prop where
  | grants (request : LockRequest) (actor : system.actor? action = some request.txn)
      (ends : system.ends? action = some (request, .done))
      (modes : ∀ other wanted, later.mode? other wanted =
        if request.page = wanted ∧ request.txn = other then
          some (request.mode.joined (system.mode? request.txn request.page))
        else system.mode? other wanted)
  | releases (txn : TxnId) (page : PageId) (release : action = .release txn page)
      (modes : ∀ other wanted, later.mode? other wanted =
        if page = wanted ∧ txn = other then none else system.mode? other wanted)
  | releasesAll (txn : TxnId) (release : action = .releaseAll txn)
      (modes : ∀ other wanted, later.mode? other wanted =
        if txn = other then none else system.mode? other wanted)
  | keeps (denied : ∀ request, system.ends? action ≠ some (request, .done))
      (holds : ∀ txn page, ¬ GivesBack txn page action)
      (modes : ∀ other wanted, later.mode? other wanted = system.mode? other wanted)

/-- An attempt changes modes only if its request is granted. -/
lemma regulates_of_turn {turn : Attempt} (takes : system.turn? action = some turn) :
    Regulates system action (system.act action) := by
  have modes : ∀ other wanted, (system.act action).mode? other wanted =
      if (turn.on system.locks.table).2 = .granted ∧ turn.request.page = wanted ∧
          turn.request.txn = other then
        some (turn.request.mode.joined (system.mode? turn.request.txn turn.request.page))
      else system.mode? other wanted := by
    intro other wanted
    rw [mode?, (act_of_turn takes).table]
    exact LockTable.modeOf?_request _ _ _ _ _ _
  have ends := ends?_of_turn takes
  have attempts : ∀ txn page, ¬ GivesBack txn page action := by
    rintro txn page (rfl | rfl) <;> cases takes
  cases answer : (turn.on system.locks.table).2 with
  | granted =>
      rw [answer] at ends
      exact .grants turn.request (actor?_of_turn takes) ends (by simpa [answer] using modes)
  | refused =>
      rw [answer] at ends
      exact .keeps (by simp [ends]) attempts (by simpa [answer] using modes)
  | wait =>
      rw [answer] at ends
      exact .keeps (by simp [ends]) attempts (by simpa [answer] using modes)

/-- What the release of a page does to the modes. -/
lemma mode?_release (system : LockSystem) (txn : TxnId) (page : PageId) (other : TxnId)
    (wanted : PageId) : (system.act (.release txn page)).mode? other wanted =
      if page = wanted ∧ txn = other then none else system.mode? other wanted :=
  LockTable.modeOf?_release system.locks.table txn other page wanted

/-- What the release of everything does to the modes. -/
lemma mode?_releaseAll (sound : system.locks.table.Sound) (txn other : TxnId) (wanted : PageId) :
    (system.act (.releaseAll txn)).mode? other wanted =
      if txn = other then none else system.mode? other wanted :=
  sound.modeOf?_releaseAll txn other wanted

lemma regulates (sound : system.locks.table.Sound) (action : LockAction) :
    Regulates system action (system.act action) := by
  cases action with
  | acquire request => exact regulates_of_turn rfl
  | resume place =>
      cases takes : system.turn? (.resume place) with
      | some turn => exact regulates_of_turn takes
      | none =>
          rw [act_resume_of_no_turn takes]
          exact .keeps (by simp [ends?, takes]) (by simp [GivesBack]) fun _ _ => rfl
  | release txn page => exact .releases txn page rfl (mode?_release system txn page)
  | releaseAll txn => exact .releasesAll txn rfl (mode?_releaseAll sound txn)

/-- Only the transaction whose step it is gains or loses anything. -/
lemma Regulates.mode?_of_ne (regulates : Regulates system action later)
    (apart : system.actor? action ≠ some other) (wanted : PageId) :
    later.mode? other wanted = system.mode? other wanted := by
  cases regulates with
  | grants request actor ends modes =>
      rw [modes, if_neg]
      rintro ⟨-, rfl⟩
      exact apart actor
  | releases txn page release modes =>
      rw [modes, if_neg]
      rintro ⟨-, rfl⟩
      exact apart (release ▸ rfl)
  | releasesAll txn release modes =>
      rw [modes, if_neg]
      rintro rfl
      exact apart (release ▸ rfl)
  | keeps denied holds modes => exact modes other wanted

/-- What a granted request does to the modes. -/
lemma Regulates.mode?_of_granted (regulates : Regulates system action later) {request : LockRequest}
    (ends : system.ends? action = some (request, .done)) (other : TxnId) (wanted : PageId) :
    later.mode? other wanted =
      if request.page = wanted ∧ request.txn = other then
        some (request.mode.joined (system.mode? request.txn request.page))
      else system.mode? other wanted := by
  cases regulates with
  | grants granted actor ends' modes =>
      have same : granted = request := by
        rw [ends] at ends'
        cases ends'
        rfl
      exact same ▸ modes other wanted
  | releases txn page release modes =>
      rw [release] at ends
      cases ends
  | releasesAll txn release modes =>
      rw [release] at ends
      cases ends
  | keeps denied holds modes => exact absurd ends (denied request)

/-- If nothing is granted and nothing is given back, all modes stay. -/
lemma Regulates.mode?_of_denied (regulates : Regulates system action later)
    (denied : ∀ request, system.ends? action ≠ some (request, .done))
    (holds : ∀ txn page, ¬ GivesBack txn page action) (other : TxnId) (wanted : PageId) :
    later.mode? other wanted = system.mode? other wanted := by
  cases regulates with
  | grants request actor ends modes => exact absurd ends (denied request)
  | releases txn page release modes => exact absurd (Or.inl release) (holds txn page)
  | releasesAll txn release modes => exact absurd (Or.inr release) (holds txn ⟨⟨0⟩, 0⟩)
  | keeps denied holds modes => exact modes other wanted

/-- A mode does not become weaker unless the transaction gives the page back. -/
lemma Regulates.strength_le (regulates : Regulates system action later)
    (kept : ¬ GivesBack txn page action) :
    LockMode.strength (system.mode? txn page) ≤ LockMode.strength (later.mode? txn page) := by
  cases regulates with
  | grants request actor ends modes =>
      rw [modes]
      split
      · next here =>
        rw [LockMode.strength_joined, here.1, here.2]
        exact Nat.le_max_left _ _
      · exact Nat.le_refl _
  | releases owner place release modes =>
      rw [modes, if_neg]
      rintro ⟨rfl, rfl⟩
      exact kept (Or.inl release)
  | releasesAll owner release modes =>
      rw [modes, if_neg]
      rintro rfl
      exact kept (Or.inr release)
  | keeps denied holds modes => rw [modes]

/-- Along a run a mode does not become weaker unless the transaction gives the page back. -/
theorem strength_le_run (sound : system.locks.table.Sound) {actions : List LockAction}
    (kept : ∀ action ∈ actions, ¬ GivesBack txn page action) :
    LockMode.strength (system.mode? txn page) ≤
      LockMode.strength ((system.run actions).mode? txn page) := by
  induction actions generalizing system with
  | nil => exact Nat.le_refl _
  | cons action rest ih =>
      have step := (regulates sound action).strength_le (kept action List.mem_cons_self)
      exact step.trans (ih (sound_act sound action) fun next later =>
        kept next (List.mem_cons_of_mem _ later))

end LockSystem

/-- **Locks are never taken away.** After any interleaving of requests, turns and releases, let one
more thing happen. No mode of any transaction other than the one whose step it is changes. If a
request is granted, its transaction holds the page in the stronger of the wanted mode and the one it
had, and its other pages as before; if the request is refused or parked, no mode changes. A release
takes that page from its transaction and nothing else, and a release of everything takes all pages
of its transaction. So a mode becomes weaker only if its transaction gives the page back, and that
is true of every run that goes on from there. -/
theorem locks_stay_until_released (actions : List LockAction) (action : LockAction) :
    let system := LockSystem.initial.run actions
    let later := system.act action
    (∀ other, system.actor? action ≠ some other →
      ∀ page, later.mode? other page = system.mode? other page) ∧
    (∀ request, system.ends? action = some (request, .done) →
      LockMode.strength (later.mode? request.txn request.page) =
        max (LockMode.strength (system.mode? request.txn request.page))
          (LockMode.strength (some request.mode)) ∧
      ∀ page, page ≠ request.page →
        later.mode? request.txn page = system.mode? request.txn page) ∧
    ((∀ request, system.ends? action ≠ some (request, .done)) →
      (∀ txn page, ¬ LockSystem.GivesBack txn page action) →
      ∀ txn page, later.mode? txn page = system.mode? txn page) ∧
    (∀ txn page, action = .release txn page → later.mode? txn page = none ∧
      ∀ other, other ≠ page → later.mode? txn other = system.mode? txn other) ∧
    (∀ txn, action = .releaseAll txn → ∀ page, later.mode? txn page = none) ∧
    (∀ txn page, LockMode.strength (later.mode? txn page) <
      LockMode.strength (system.mode? txn page) → LockSystem.GivesBack txn page action) ∧
    ∀ (txn : TxnId) (page : PageId) (further : List LockAction),
      (∀ next ∈ further, ¬ LockSystem.GivesBack txn page next) →
      LockMode.strength (later.mode? txn page) ≤
        LockMode.strength ((later.run further).mode? txn page) := by
  intro system later
  have sound : system.locks.table.Sound := LockSystem.sound_run LockTable.sound_empty actions
  have regulates : LockSystem.Regulates system action later := LockSystem.regulates sound action
  refine ⟨fun other apart => regulates.mode?_of_ne apart, fun request ends => ?_,
    regulates.mode?_of_denied, ?_, ?_, fun txn page weaker => ?_, fun txn page further kept => ?_⟩
  · have modes := regulates.mode?_of_granted ends request.txn
    refine ⟨?_, fun page apart => ?_⟩
    · rw [modes, if_pos ⟨rfl, rfl⟩, LockMode.strength_joined]
    · rw [modes, if_neg fun here => apart here.1.symm]
  · rintro txn page rfl
    have modes := LockSystem.mode?_release system txn page txn
    refine ⟨?_, fun other apart => ?_⟩
    · rw [modes, if_pos ⟨rfl, rfl⟩]
    · rw [modes, if_neg fun here => apart here.1.symm]
  · rintro txn rfl page
    rw [LockSystem.mode?_releaseAll sound, if_pos rfl]
  · by_contra kept
    exact absurd (regulates.strength_le kept) (Nat.not_le_of_lt weaker)
  · exact LockSystem.strength_le_run (LockSystem.sound_act sound action) kept

/-- Two transactions share a page and one of them waits to have it alone, while a third one reads
another page. When the second one has given the page back, the turn of the first one makes its mode
the stronger one, which it keeps whatever the third one does. -/
theorem locks_stay_until_released_upgrade :
    let page : Nat → PageId := fun number => ⟨⟨1⟩, number⟩
    let system := LockSystem.initial.run
      [.acquire ⟨⟨1⟩, page 0, .shared⟩, .acquire ⟨⟨2⟩, page 0, .shared⟩,
        .acquire ⟨⟨3⟩, page 1, .shared⟩, .acquire ⟨⟨1⟩, page 0, .exclusive⟩,
        .release ⟨2⟩ (page 0)]
    let later := system.act (.resume 0)
    let further : List LockAction := [.acquire ⟨⟨3⟩, page 0, .shared⟩, .releaseAll ⟨3⟩]
    system.ends? (.resume 0) = some (⟨⟨1⟩, page 0, .exclusive⟩, .done) ∧
      later.mode? ⟨1⟩ (page 0) = some .exclusive ∧ later.mode? ⟨3⟩ (page 1) = some .shared ∧
      2 ≤ LockMode.strength ((later.run further).mode? ⟨1⟩ (page 0)) := by
  intro page system later further
  obtain ⟨others, granted, -, -, -, -, goes⟩ := locks_stay_until_released
    [.acquire ⟨⟨1⟩, page 0, .shared⟩, .acquire ⟨⟨2⟩, page 0, .shared⟩,
      .acquire ⟨⟨3⟩, page 1, .shared⟩, .acquire ⟨⟨1⟩, page 0, .exclusive⟩,
      .release ⟨2⟩ (page 0)] (.resume 0)
  have ends : system.ends? (.resume 0) = some (⟨⟨1⟩, page 0, .exclusive⟩, .done) := by decide
  have held : system.mode? ⟨1⟩ (page 0) = some .shared := by decide
  have stronger : LockMode.strength (later.mode? ⟨1⟩ (page 0)) =
      max (LockMode.strength (system.mode? ⟨1⟩ (page 0)))
        (LockMode.strength (some .exclusive)) := (granted _ ends).1
  rw [held] at stronger
  have exclusive : later.mode? ⟨1⟩ (page 0) = some .exclusive :=
    LockMode.strength_injective stronger
  have reads : system.mode? ⟨3⟩ (page 1) = some .shared := by decide
  have kept := goes ⟨1⟩ (page 0) further (by decide)
  refine ⟨ends, exclusive, (others ⟨3⟩ (by decide) (page 1)).trans reads, ?_⟩
  exact (congrArg LockMode.strength exclusive).symm.trans_le kept

end PageTxn
