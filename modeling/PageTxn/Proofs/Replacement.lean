import Mathlib.Data.List.Induction
import PageTxn.Proofs.Admission

/-!
Which page has to leave.

* `shifts_act`: a deed lists one page at most, unless it drops one, and dirty pages stay
  (`residentFrame?_of_dirty`).
* `Workload.ResidentSince` reads off a history with which deed the residency of a page has begun.
  The queue lists the resident pages in the order in which their residencies have begun
  (`sorted_run`), however often they were handed out, reported or overwritten meanwhile.
* `clean_pages_leave_in_turn`: so the clean page that leaves is the one whose residency has begun
  first, a dirty page never leaves, and an admission fails exactly if the cache is full of dirty
  pages.
-/

namespace PageTxn

/-! ### Deeds -/

namespace Workload

open Cache

variable {w : Workload} {deeds : List Deed} {page other : PageId} {n m : Nat}

lemma cache_begin (w : Workload) (moved : Database × Progress) :
    (w.begin moved).db.cache = moved.1.cache := by
  obtain ⟨db, progress⟩ := moved
  cases progress with
  | running operation => rfl
  | parked operation => rfl
  | finished outcome => rfl

lemma cache_proceed (w : Workload) (place : Nat) (moved : Database × Progress) :
    (w.proceed place moved).db.cache = moved.1.cache := by
  obtain ⟨db, progress⟩ := moved
  cases progress with
  | running operation => rfl
  | parked operation => rfl
  | finished outcome => rfl

/-- A deed lists one page at most, unless it drops a page. -/
theorem shifts_act (exact : w.db.cache.Exact) {deed : Deed}
    (keeps : ∀ page, deed ≠ .discard page) : (w.act deed).db.cache.Shifts w.db.cache := by
  cases deed with
  | call txn call =>
      rw [act, cache_begin]
      exact Database.shifts_start exact call
  | insertInto txn store record =>
      rw [act, cache_begin]
      exact Database.shifts_startInsert exact store record
  | deleteFrom txn store record =>
      rw [act, cache_begin]
      exact Database.shifts_startDelete exact store record
  | move place =>
      rw [act]
      split
      · rw [cache_proceed]
        exact Database.shifts_step exact _
      · exact .steady (.refl _)
  | make page image => exact .steady ⟨rfl, rfl⟩
  | overwrite id image =>
      rw [act]
      split
      · exact .steady ⟨rfl, rfl⟩
      · exact .steady (.refl _)
  | markDirty txn id =>
      rw [act]
      split
      · exact shifts_markDirty exact txn id
      · exact .steady (.refl _)
  | flushPage page => exact .steady (w.db.steady_flushPage page)
  | flushHeld txn => exact .steady (w.db.steady_flushEach _)
  | flushAll => exact .steady (w.db.steady_flushEach _)
  | discard page => exact absurd rfl (keeps page)
  | release txn page => exact .steady (.refl _)
  | complete txn commit => exact .steady (w.db.steady_complete txn commit)
  | outside storage => exact .steady (.refl _)

/-- A deed takes pages out of the queue, and one page that was not queued may be put last. -/
lemma exists_order_act (exact : w.db.cache.Exact) (deed : Deed) :
    ∃ (keeps : PageId → Bool) (fresh : Option PageId),
      (w.act deed).db.cache.queue.order = w.db.cache.queue.order.filter keeps ++ fresh.toList ∧
        ∀ page, fresh = some page → page ∉ w.db.cache.queue.order := by
  have kept : ∀ {order : List PageId}, order = w.db.cache.queue.order →
      order = w.db.cache.queue.order.filter (fun _ => true) ++ (none : Option PageId).toList := by
    intro order same
    rw [same, Option.toList_none, List.append_nil]
    exact (List.filter_eq_self.mpr fun _ _ => rfl).symm
  by_cases drops : ∃ page, deed = .discard page
  · obtain ⟨page, rfl⟩ := drops
    by_cases there : w.db.cache.isResident page = true
    · refine ⟨(· ≠ page), none, ?_, fun _ same => by cases same⟩
      simp [act, Database.discard, Cache.discard, there, AdmissionQueue.remove]
    · refine ⟨fun _ => true, none, kept ?_, fun _ same => by cases same⟩
      simp [act, Database.discard, Cache.discard, there]
  · push Not at drops
    cases shifts_act exact drops with
    | steady same =>
        exact ⟨fun _ => true, none, kept (congrArg _ same.queue), fun _ same => by cases same⟩
    | @lists leaver page id lists =>
        refine ⟨_, some page, lists.order, fun other same => ?_⟩
        cases same
        exact fun listed => exact.resident _ listed lists.absent

/-- A dirty page stays resident, unless it is dropped. -/
lemma residentFrame?_of_dirty (exact : w.db.cache.Exact) {deed : Deed} {id : FrameId}
    (keeps : deed ≠ .discard page) (there : w.db.cache.residentFrame? page = some id)
    (dirty : (w.db.cache.frame id).isDirty = true) :
    (w.act deed).db.cache.residentFrame? page = some id := by
  by_cases drops : ∃ other, deed = .discard other
  · obtain ⟨other, rfl⟩ := drops
    have apart : other ≠ page := fun same => keeps (congrArg Deed.discard same)
    show (w.db.cache.discard other).residentFrame? page = some id
    rw [residentFrame?_discard, if_neg apart, there]
  · push Not at drops
    exact (shifts_act exact drops).residentFrame?_of_dirty there dirty

/-! ### Since when a page is resident -/

/-- The residency of a page has begun with one of some deeds: the page was not resident before this
deed, and has been resident after it and after each later one. -/
structure ResidentSince (w : Workload) (deeds : List Deed) (page : PageId) (n : Nat) : Prop where
  within : n < deeds.length
  before : (w.run (deeds.take n)).db.cache.isResident page = false
  after : ∀ m, n < m → m ≤ deeds.length → (w.run (deeds.take m)).db.cache.isResident page = true

namespace ResidentSince

/-- There is one such deed at most. -/
lemma eq (first : w.ResidentSince deeds page n) (second : w.ResidentSince deeds page m) :
    n = m := by
  rcases Nat.lt_trichotomy n m with less | same | less
  · have there := first.after m less (Nat.le_of_lt second.within)
    rw [second.before] at there
    cases there
  · exact same
  · have there := second.after n less (Nat.le_of_lt first.within)
    rw [first.before] at there
    cases there

/-- A page that stays resident has been so since the same deed. -/
lemma concat (since : w.ResidentSince deeds page n) {deed : Deed}
    (stays : (w.run (deeds ++ [deed])).db.cache.isResident page = true) :
    w.ResidentSince (deeds ++ [deed]) page n where
  within := by
    rw [List.length_append]
    exact Nat.lt_add_right _ since.within
  before := by
    rw [List.take_append_of_le_length (Nat.le_of_lt since.within)]
    exact since.before
  after m later last := by
    rw [List.length_append, List.length_singleton] at last
    rcases Nat.le_succ_iff.mp last with old | rfl
    · rw [List.take_append_of_le_length old]
      exact since.after m later old
    · have whole : (deeds ++ [deed]).length ≤ deeds.length.succ :=
        Nat.le_of_eq List.length_append
      rw [List.take_of_length_le whole]
      exact stays

end ResidentSince

/-- A page that becomes resident is resident since the last deed. -/
lemma residentSince_last {deed : Deed}
    (absent : (w.run deeds).db.cache.isResident page = false)
    (comes : (w.run (deeds ++ [deed])).db.cache.isResident page = true) :
    w.ResidentSince (deeds ++ [deed]) page deeds.length where
  within := by
    rw [List.length_append, List.length_singleton]
    exact Nat.lt_succ_self _
  before := by rw [List.take_left, absent]
  after m later last := by
    have whole : (deeds ++ [deed]).length ≤ m := by
      rw [List.length_append]
      exact later
    rw [List.take_of_length_le whole, comes]

/-- The residency of one page has begun before that of another. -/
def Precedes (w : Workload) (deeds : List Deed) (page other : PageId) : Prop :=
  ∃ n m, w.ResidentSince deeds page n ∧ w.ResidentSince deeds other m ∧ n < m

/-- The queue lists the resident pages in the order in which their residencies have begun. -/
theorem sorted_run (storage : Storage) (capacity : Nat) (capacity_pos : 0 < capacity)
    (deeds : List Deed) :
    let w := initial storage capacity capacity_pos
    (∀ page ∈ (w.run deeds).db.cache.queue.order, ∃ n, w.ResidentSince deeds page n) ∧
      (w.run deeds).db.cache.queue.order.Pairwise (w.Precedes deeds) := by
  intro w
  have exact : ∀ deeds, (w.run deeds).db.cache.Exact := fun deeds =>
    ((sane_initial storage capacity capacity_pos).run deeds).exact
  induction deeds using List.reverseRecOn with
  | nil => exact ⟨fun page listed => (by cases listed), .nil⟩
  | append_singleton deeds deed ih =>
      obtain ⟨known, sorted⟩ := ih
      obtain ⟨keeps, fresh, order, unlisted⟩ := exists_order_act (exact deeds) deed
      have last : w.run (deeds ++ [deed]) = (w.run deeds).act deed := by
        rw [run, List.foldl_append]
        rfl
      rw [← last] at order
      have resident : ∀ page ∈ (w.run (deeds ++ [deed])).db.cache.queue.order,
          (w.run (deeds ++ [deed])).db.cache.isResident page = true := fun page =>
        (exact _).mem_order_iff.mp
      -- pages that stay have been resident since the same deed as before
      have stays : ∀ page ∈ (w.run deeds).db.cache.queue.order.filter keeps, ∀ n,
          w.ResidentSince deeds page n → w.ResidentSince (deeds ++ [deed]) page n := by
        intro page listed n since
        refine since.concat (resident page ?_)
        rw [order]
        exact List.mem_append_left _ listed
      have comes : ∀ page, fresh = some page →
          w.ResidentSince (deeds ++ [deed]) page deeds.length := by
        intro page new
        refine residentSince_last ?_ (resident page ?_)
        · have absent := unlisted page new
          rw [(exact deeds).mem_order_iff, Bool.not_eq_true] at absent
          exact absent
        · rw [order, new]
          exact List.mem_append_right _ (List.mem_singleton.mpr rfl)
      rw [order]
      refine ⟨fun page listed => ?_,
        List.pairwise_append.mpr ⟨?_, ?_, fun page listed other new => ?_⟩⟩
      · rcases List.mem_append.mp listed with old | new
        · obtain ⟨n, since⟩ := known page (List.mem_filter.mp old).1
          exact ⟨n, stays page old n since⟩
        · exact ⟨_, comes page (Option.mem_toList.mp new)⟩
      · refine (sorted.filter keeps).imp_of_mem fun first second earlier => ?_
        obtain ⟨n, m, since, later, less⟩ := earlier
        exact ⟨n, m, stays _ first n since, stays _ second m later, less⟩
      · cases fresh with
        | none => exact .nil
        | some page => exact List.pairwise_singleton _ _
      · obtain ⟨n, since⟩ := known page (List.mem_filter.mp listed).1
        have begins := comes other (Option.mem_toList.mp new)
        exact ⟨n, _, stays page listed n since, begins, since.within⟩

/-! ### Which page leaves -/

/-- What is promised to a page object that is to be admitted, where `since` tells since which deed a
page is resident. -/
structure Admitted (since : PageId → Nat → Prop) (id : FrameId) (frame : Frame)
    (earlier later : Cache) (result : Except Error Unit) : Prop where
  /-- If the cache is not full, the page object is admitted and nothing leaves. -/
  roomy : earlier.size < earlier.capacity → result = .ok () ∧ Admits none id frame earlier later
  /-- If it is full and some page is clean, exactly one page leaves: the clean one that became
  resident first. -/
  oldest : earlier.size = earlier.capacity → (∃ page, earlier.isClean page = true) →
    result = .ok () ∧ ∃ victim n, Admits (some victim) id frame earlier later ∧ since victim n ∧
      ∀ other m, earlier.isClean other = true → since other m → other = victim ∨ n < m
  /-- The admission fails exactly if the cache is full and every resident page is dirty. -/
  exhausted : result = .error (.cacheExhausted earlier.capacity) ↔
    earlier.size = earlier.capacity ∧ ∀ page target,
      earlier.residentFrame? page = some target → (earlier.frame target).isDirty = true
  /-- It fails in no other way, and nothing is changed then. -/
  unchanged : ∀ error, result = .error error →
    error = .cacheExhausted earlier.capacity ∧ later = earlier

/-- What is promised of the pages of a cache. -/
structure InTurn (since : PageId → Nat → Prop) (w : Workload) : Prop where
  /-- Every resident page is resident since one deed. -/
  begun : ∀ page, w.db.cache.isResident page = true → ∃! n, since page n
  /-- The pages are queued in the order in which their residencies have begun. -/
  sorted : w.db.cache.queue.order.Pairwise fun page other =>
    ∃ n m, since page n ∧ since other m ∧ n < m
  /-- A fetch that brings a page in. -/
  fetched : ∀ txn level aim image, w.db.cache.residentFrame? aim.page = none → ∃ result,
    (w.db.step (.fetching txn level aim (.enter image))).2 =
        (match result with
        | .ok () => .running (.fetching txn level aim (.use w.db.cache.nextFrame))
        | .error error => .finished (aim.failed level error)) ∧
      Admitted since w.db.cache.nextFrame (.ofImage aim.page image) w.db.cache
        (w.db.step (.fetching txn level aim (.enter image))).1.cache result
  /-- A report of a page that is not resident. -/
  reported : ∀ txn id, w.db.cache.residentFrame? (w.db.cache.frame id).page = none → ∃ result,
    (w.db.markDirty txn id).2 = result.mapError .error ∧
      Admitted since id ((w.db.cache.frame id).mark txn) w.db.cache (w.db.markDirty txn id).1.cache
        result
  /-- A dirty page stays resident, whatever happens, unless it is dropped. -/
  dirty : ∀ deed page id, deed ≠ .discard page → w.db.cache.residentFrame? page = some id →
    (w.db.cache.frame id).isDirty = true → (w.act deed).db.cache.residentFrame? page = some id

/-- The first clean page of a queue became resident before the other clean ones. -/
lemma precedes_of_find? {cache : Cache} {start : Workload} {victim : PageId}
    (sorted : cache.queue.order.Pairwise (start.Precedes deeds))
    (found : cache.queue.order.find? cache.isClean = some victim)
    (listed : other ∈ cache.queue.order) (clean : cache.isClean other = true) :
    other = victim ∨ start.Precedes deeds victim other := by
  obtain ⟨-, front, back, order, passed⟩ := List.find?_eq_some_iff_append.mp found
  rw [order] at listed sorted
  rcases List.mem_append.mp listed with before | here
  · have dirty := passed other before
    rw [clean] at dirty
    cases dirty
  · rcases List.mem_cons.mp here with same | behind
    · exact .inl same
    · exact .inr ((List.pairwise_cons.mp (List.pairwise_append.mp sorted).2.1).1 other behind)

/-- An attempt of an admission keeps what is promised. -/
lemma admitted_of_admission {cache later : Cache} {start : Workload} {id : FrameId} {frame : Frame}
    {result : Except Error Unit} (exact : cache.Exact)
    (sorted : cache.queue.order.Pairwise (start.Precedes deeds))
    (known : ∀ page ∈ cache.queue.order, ∃ n, start.ResidentSince deeds page n)
    (admission : Admission id frame cache later result) :
    Admitted (start.ResidentSince deeds) id frame cache later result := by
  have bounded : cache.size ≤ cache.capacity := exact.bounded
  cases admission with
  | roomy room admits =>
      have open_ : cache.size ≠ cache.capacity := Nat.ne_of_lt room
      exact ⟨fun _ => ⟨rfl, admits⟩, fun full => absurd full open_,
        ⟨fun same => (by cases same), fun full => absurd full.1 open_⟩, fun error same => by
          cases same⟩
  | @evicting victim full oldest admits =>
      have clean := List.find?_some oldest
      have listed : ∀ other, cache.isClean other = true → other ∈ cache.queue.order := by
        intro other clean
        obtain ⟨target, there, -⟩ := isClean_iff.mp clean
        exact exact.listed other target there
      obtain ⟨n, since⟩ := known victim (listed victim clean)
      refine ⟨fun room => absurd room full, fun _ _ => ⟨rfl, victim, n, admits, since, ?_⟩,
        ⟨fun same => (by cases same), fun refuses => ?_⟩, fun error same => by cases same⟩
      · intro other m clean since_other
        refine (precedes_of_find? sorted oldest (listed other clean) clean).imp_right
          fun earlier => ?_
        obtain ⟨n', m', first, second, less⟩ := earlier
        rwa [since.eq first, since_other.eq second]
      · obtain ⟨target, there, owner⟩ := isClean_iff.mp clean
        have marked := refuses.2 victim target there
        rw [Frame.isDirty, owner] at marked
        cases marked
  | exhausted full dirty same =>
      have none_clean : ∀ other, cache.isClean other ≠ true := by
        intro other clean
        obtain ⟨target, there, -⟩ := isClean_iff.mp clean
        rw [dirty other (exact.listed other target there)] at clean
        cases clean
      refine ⟨fun room => absurd room full,
        fun _ found => found.elim fun page clean => absurd clean (none_clean page),
        ⟨fun _ => ⟨Nat.le_antisymm bounded (Nat.le_of_not_lt full), fun page target there => ?_⟩,
          fun _ => rfl⟩, fun error refused => ?_⟩
      · rw [Frame.isDirty, Option.isSome_iff_ne_none]
        exact fun owner => none_clean page (isClean_iff.mpr ⟨target, there, owner⟩)
      · cases refused
        exact ⟨rfl, same⟩

/-- After any deeds the pages of the cache leave in turn: one at a time, only when the cache is
full, the clean one first that became resident first, and never a dirty one. -/
theorem clean_pages_leave_in_turn (storage : Storage) (capacity : Nat) (capacity_pos : 0 < capacity)
    (deeds : List Deed) :
    ((initial storage capacity capacity_pos).run deeds).InTurn
      ((initial storage capacity capacity_pos).ResidentSince deeds) := by
  obtain ⟨known, sorted⟩ := sorted_run storage capacity capacity_pos deeds
  have exact := ((sane_initial storage capacity capacity_pos).run deeds).exact
  set start := initial storage capacity capacity_pos
  set w := start.run deeds
  refine ⟨fun page there => ?_, sorted, fun txn level aim image absent => ?_,
    fun txn id absent => ?_,
    fun deed page id keeps there dirty => residentFrame?_of_dirty exact keeps there dirty⟩
  · obtain ⟨n, since⟩ := known page (exact.mem_order_iff.mpr there)
    exact ⟨n, since, fun m other => other.eq since⟩
  · obtain ⟨result, entered, admission⟩ := Database.admission_enterPage exact absent image
    have promised := admitted_of_admission exact sorted known admission
    refine ⟨result, ?_⟩
    rw [Database.step]
    cases moved : w.db.enterPage aim.page image with
    | mk later answer =>
        rw [moved] at entered promised
        cases result with
        | ok =>
            cases entered
            exact ⟨rfl, promised⟩
        | error error =>
            cases entered
            exact ⟨rfl, promised⟩
  · obtain ⟨result, reported, admission⟩ := Cache.admission_markDirty exact absent txn
    exact ⟨result, reported, admitted_of_admission exact sorted known admission⟩

/-- With room for two pages: the first page is handed out once more and the second one is dirty when
a third one comes in, and it is the first one that leaves. When that one comes back, the third one
leaves, as it is the only clean page. -/
theorem clean_pages_leave_in_turn_reaccess :
    let page (number : Nat) : PageId := ⟨⟨1⟩, number⟩
    let storage := ((Storage.empty ⟨2, by decide⟩).addMemory (.zeroed ⟨1⟩ 3 2 [])).2.register
      (.memory ⟨1⟩ 0)
    let fetch (number : Nat) : List Deed :=
      [.call ⟨1⟩ (.fetch (page number) .shared), .move 0, .move 0, .move 0, .move 0]
    let hit (number : Nat) : List Deed :=
      [.call ⟨1⟩ (.fetch (page number) .shared), .move 0, .move 0]
    let deeds := fetch 0 ++ fetch 1 ++ hit 0 ++ [.markDirty ⟨1⟩ 1] ++ fetch 2
    let start := initial storage 2 (by decide)
    let w := start.run deeds
    w.db.cache.queue.order = [page 1, page 2] ∧
      (w.run (fetch 0)).db.cache.queue.order = [page 1, page 0] ∧
      w.InTurn (start.ResidentSince deeds) := by
  intro page storage fetch hit deeds start w
  have first : w.db.cache.queue.order = [page 1, page 2] := by decide +kernel
  have second : (w.run (fetch 0)).db.cache.queue.order = [page 1, page 0] := by decide +kernel
  -- the run need not be evaluated again
  clear_value deeds
  exact ⟨first, second, clean_pages_leave_in_turn storage 2 (by decide) deeds⟩

end Workload

end PageTxn
