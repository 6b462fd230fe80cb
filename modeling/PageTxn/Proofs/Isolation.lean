import PageTxn.Proofs.Runs
import PageTxn.Proofs.SerialOrder

/-!
Transactions that read and write pages are isolated from each other.

The transactions fetch pages, look at them, overwrite and report them, and end, in any
interleaving of their moves; nobody releases, flushes or discards pages, and no store fails.

* `page_serializability`: every look shows what the transaction itself last wrote, or else what
  the last committed writer of the page has left; and the committed transactions form a serial
  execution in the order of their commits.
* `no_steal_force`: the stores hold the committed images and nothing else. Clean pages show
  them, and dirty pages are locked exclusively by their owners and stay resident.
-/

namespace PageTxn

open History

/-- Whether an act belongs to a transaction that reads and writes whole pages. -/
def Act.isPageWork : Act → Bool
  | call (.fetch ..) | move | look | overwrite _ | report | complete _ => true
  | _ => false

/-- Transactions that read and write pages neither maintain the cache nor touch records. -/
lemma disciplined_pageWork (storage : Storage) :
    Disciplined storage fun act => act.isPageWork = true where
  upkeep act paged := by
    cases act with
    | release page => cases paged
    | flushPage page => cases paged
    | flushHeld => cases paged
    | flushAll => cases paged
    | discard page => cases paged
    | call call => rfl
    | move => rfl
    | look => rfl
    | overwrite image => rfl
    | report => rfl
    | complete commit => rfl
  inserts table record paged := by cases paged
  deletes record id paged := by cases paged

namespace System

variable {storage : Storage}

/-- The invariant holds after every run of transactions that read and write pages. -/
lemma consistent_pageWork (reliable : storage.Reliable) (capacity : Nat)
    (capacity_pos : 0 < capacity) (actions : List Action)
    (paged : ∀ action ∈ actions, action.act.isPageWork = true) :
    Consistent storage (fun act => act.isPageWork = true)
      ((initial storage capacity capacity_pos).run actions) :=
  ((consistent_initial reliable capacity capacity_pos).run (disciplined_pageWork storage) actions
    paged fun table record asked => by cases asked).1

namespace Consistent

variable {s : System}

/-- No page is added to the stores. -/
lemma stored?_eq (ok : Consistent storage (fun act => act.isPageWork = true) s) (page : PageId) :
    s.stored? page = (committedWrite page s.history).or (storage.image? page) := by
  cases there : s.stored? page with
  | none =>
      obtain ⟨uncommitted, absent⟩ := ok.missing page there
      rw [uncommitted, absent]
      rfl
  | some image =>
      have image_eq := ok.stored page image there
      rw [ledger] at image_eq
      cases committed : committedWrite page s.history with
      | some written =>
          rw [committed, Option.getD_some] at image_eq
          rw [image_eq, Option.some_or]
      | none =>
          rw [committed, Option.getD_none, Storage.initially] at image_eq
          rcases ok.grown page (by rw [there]; simp) with existing | ⟨table, record, asked⟩
          · obtain ⟨before, before_eq⟩ := Option.ne_none_iff_exists'.mp existing
            rw [before_eq, Option.getD_some] at image_eq
            rw [image_eq, before_eq, Option.none_or]
          · cases asked

/-- A window is only open between the overwriting of an image and the report. -/
lemma changing_of_window (ok : Consistent storage (fun act => act.isPageWork = true) s)
    {txn : TxnId} {id : FrameId} (opened : (s.phase txn).window? = some id) :
    s.phase txn = .changing id := by
  cases phase : s.phase txn with
  | ready => simp [phase, Phase.window?] at opened
  | holding page mode other => simp [phase, Phase.window?] at opened
  | gone => simp [phase, Phase.window?] at opened
  | changing other =>
      rw [phase, Phase.window?] at opened
      cases opened
      rfl
  | busy call operation =>
      -- only inserts and deletes report pages
      obtain ⟨asked, serves⟩ := ok.serves phase
      cases serves with
      | lock pursues => simp [phase, Phase.window?] at opened
      | read pursues covers => simp [phase, Phase.window?] at opened
      | enter pursues covers loaded => simp [phase, Phase.window?] at opened
      | use pursues hand => simp [phase, Phase.window?] at opened
      | report window single effect =>
          rcases effect.asks with ⟨table, record, rfl⟩ | ⟨record, rfl⟩ <;> cases asked
      | reported window single effect there owner =>
          rcases effect.asks with ⟨table, record, rfl⟩ | ⟨record, rfl⟩ <;> cases asked

end Consistent

end System

/-- A transaction that has reported a page has left an image on it. -/
lemma History.exists_ownWrite {history : List Event} {txn : TxnId} {page : PageId} {image : Image}
    (reported : .wrote txn page image ∈ history) :
    ∃ last, ownWrite txn page history = some last := by
  induction history with
  | nil => cases reported
  | cons event history ih =>
      rw [ownWrite_cons]
      rcases List.mem_cons.mp reported with here | earlier
      · subst here
        exact ⟨image, by simp [Event.txn, Event.left?]⟩
      · obtain ⟨last, wrote⟩ := ih earlier
        rw [wrote]
        split
        · cases event.left? page with
          | none => exact ⟨last, rfl⟩
          | some written => exact ⟨written, rfl⟩
        · exact ⟨last, rfl⟩

/-! ### Serializability -/

/-- What a look shows in an admissible history in which no record is inserted. -/
lemma History.looked_eq {storage : Storage} {allowed : Act → Prop} {later earlier : List Event}
    {txn : TxnId} {page : PageId} {image : Image}
    (fixed : ∀ table record, ¬ allowed (.call (.insert table record)))
    (admissible : Admissible storage allowed (later ++ .looked txn page image :: earlier)) :
    some image = (ownWrite txn page earlier).or
      ((committedWrite page earlier).or (storage.image? page)) := by
  induction later with
  | cons event later ih => exact ih admissible.2
  | nil =>
      obtain ⟨admits, -⟩ := admissible
      cases admits with
      | looked permitted live seen existing =>
          rcases existing with existing | ⟨table, record, asked⟩
          · obtain ⟨before, before_eq⟩ := Option.ne_none_iff_exists'.mp existing
            rw [seen, visible, ledger, Storage.initially, before_eq]
            cases ownWrite txn page earlier <;> cases committedWrite page earlier <;> rfl
          · exact absurd asked (fixed table record)

/-- **Strict serializability of page transactions.** Whatever the capacity and however the
transactions interleave: every look shows the image that the transaction itself last wrote to
the page, or else the one that its last committed writer has left, or else the stored one; the
accesses of the committed transactions, in the order of their commits, form a serial execution
from the stored images on; and the stores hold what this execution leaves. -/
theorem page_serializability {storage : Storage} (reliable : storage.Reliable) (capacity : Nat)
    (capacity_pos : 0 < capacity) (actions : List Action)
    (paged : ∀ action ∈ actions, action.act.isPageWork = true) :
    let s := (System.initial storage capacity capacity_pos).run actions
    (∀ later txn page image earlier, s.history = later ++ .looked txn page image :: earlier →
      some image = (ownWrite txn page earlier).or
        ((committedWrite page earlier).or (storage.image? page))) ∧
    Access.Legal storage.initially (serial s.history) ∧
    (∀ page image, s.db.storage.image? page = some image →
      image = Access.after storage.initially (serial s.history) page) := by
  intro s
  have ok := System.consistent_pageWork reliable capacity capacity_pos actions paged
  obtain ⟨legal, left⟩ := legal_serial ok.admissible
  refine ⟨fun later txn page image earlier split => ?_, legal, fun page image there => ?_⟩
  · have admissible := ok.admissible
    rw [show _ = _ from split] at admissible
    exact looked_eq (fun table record asked => by cases asked) admissible
  · rw [left]
    exact ok.stored page image there

/-- Two zeroed pages of two bytes in a memory store. -/
def twoPages : Storage :=
  ((Storage.empty ⟨2, by decide⟩).addMemory (.zeroed ⟨1⟩ 2 2 [])).2.register (.memory ⟨1⟩ 0)

lemma reliable_twoPages : twoPages.Reliable := by
  refine Storage.Reliable.register (Storage.reliable_of_empty rfl) (fun table other found => ?_)
    fun name id same => ?_
  · simp [Storage.addMemory, Storage.setMemory, Storage.empty] at found
  · cases same
    decide

/-- With room for a single page: the second transaction waits for the first one, and then sees
what the first one has committed. -/
theorem page_serializability_handover :
    let page : PageId := ⟨⟨1⟩, 0⟩
    let actions : List Action :=
      [⟨⟨1⟩, .call (.fetch page .exclusive)⟩, ⟨⟨1⟩, .move⟩, ⟨⟨2⟩, .call (.fetch page .shared)⟩,
        ⟨⟨2⟩, .move⟩, ⟨⟨1⟩, .move⟩, ⟨⟨1⟩, .move⟩, ⟨⟨1⟩, .move⟩, ⟨⟨1⟩, .overwrite #[7, 9]⟩,
        ⟨⟨2⟩, .move⟩, ⟨⟨1⟩, .report⟩, ⟨⟨1⟩, .complete true⟩, ⟨⟨2⟩, .move⟩, ⟨⟨2⟩, .move⟩,
        ⟨⟨2⟩, .look⟩, ⟨⟨2⟩, .complete true⟩]
    let s := (System.initial twoPages 1 (by decide)).run actions
    serial s.history = [.write page #[7, 9], .read page #[7, 9]] ∧
      Access.Legal twoPages.initially (serial s.history) := by
  intro page actions s
  have paged : ∀ action ∈ actions, action.act.isPageWork = true := by decide
  have accesses : serial s.history = [.write page #[7, 9], .read page #[7, 9]] := by
    decide +kernel
  -- the run need not be evaluated again
  clear_value actions
  exact ⟨accesses, (page_serializability reliable_twoPages 1 (by decide) actions paged).2.1⟩

/-! ### Stores, cache and locks -/

/-- **No steal, force.** After every run the stored image of a page is the one that its last
committed writer has left, or else the one stored at the beginning. A clean resident page whose
image is not being overwritten shows the stored image, which is also its before-image. A dirty
resident page has the stored image as its before-image, and its owner has locked it
exclusively. What a transaction has reported stays resident, and its own, until it ends. -/
theorem no_steal_force {storage : Storage} (reliable : storage.Reliable) (capacity : Nat)
    (capacity_pos : 0 < capacity) (actions : List Action)
    (paged : ∀ action ∈ actions, action.act.isPageWork = true) :
    let s := (System.initial storage capacity capacity_pos).run actions
    (∀ page, s.stored? page =
      (committedWrite page s.history).or (storage.image? page)) ∧
    (∀ page id, s.resident? page = some id → (s.frame id).owner = none →
      (∀ txn, s.phase txn ≠ .changing id) →
        (s.frame id).live = (s.frame id).before ∧ s.stored? page = some (s.frame id).before) ∧
    (∀ page id txn, s.resident? page = some id → (s.frame id).owner = some txn →
      s.stored? page = some (s.frame id).before ∧ s.mode txn page = some .exclusive) ∧
    (∀ txn page image, .wrote txn page image ∈ s.history → ¬ Ended txn s.history →
      ∃ id, s.resident? page = some id ∧ (s.frame id).owner = some txn) := by
  intro s
  have ok := System.consistent_pageWork reliable capacity capacity_pos actions paged
  refine ⟨ok.stored?_eq, fun page id there clean closed => ?_, fun page id txn there dirty => ?_,
    fun txn page image reported live => ?_⟩
  · obtain ⟨before, ⟨-, same⟩ | ⟨txn, owned⟩⟩ := ok.kept page id there
    · exact ⟨same, before⟩
    · rcases owned.reason with opened | ⟨owner, -⟩
      · exact absurd (ok.changing_of_window opened) (closed txn)
      · rw [show _ = _ from clean] at owner
        cases owner
  · obtain ⟨before, ⟨clean, -⟩ | ⟨other, owned⟩⟩ := ok.kept page id there
    · rw [show _ = _ from dirty] at clean
      cases clean
    · refine ⟨before, ?_⟩
      rcases owned.owner with clean | owner
      · rw [show _ = _ from dirty] at clean
        cases clean
      · rw [show _ = _ from dirty] at owner
        cases owner
        exact owned.lock
  · obtain ⟨last, wrote⟩ := exists_ownWrite reported
    obtain ⟨id, there, owner⟩ := (ok.txn txn).owned page last wrote live
    exact ⟨id, there, owner⟩

/-- With room for a single page: a page is evicted after it was fetched, overwritten while it is
not resident, and admitted again with the report. It is dirty then, and not yet stored. -/
theorem no_steal_force_readmission :
    let page : PageId := ⟨⟨1⟩, 0⟩
    let actions : List Action :=
      [⟨⟨1⟩, .call (.fetch page .exclusive)⟩, ⟨⟨1⟩, .move⟩, ⟨⟨1⟩, .move⟩, ⟨⟨1⟩, .move⟩,
        ⟨⟨1⟩, .move⟩, ⟨⟨2⟩, .call (.fetch ⟨⟨1⟩, 1⟩ .shared)⟩, ⟨⟨2⟩, .move⟩, ⟨⟨2⟩, .move⟩,
        ⟨⟨2⟩, .move⟩, ⟨⟨1⟩, .overwrite #[7, 9]⟩, ⟨⟨1⟩, .report⟩]
    let s := (System.initial twoPages 1 (by decide)).run actions
    (s.frame 0).live = #[7, 9] ∧ s.stored? page = some (s.frame 0).before ∧
      s.mode ⟨1⟩ page = some .exclusive := by
  intro page actions s
  have paged : ∀ action ∈ actions, action.act.isPageWork = true := by decide
  have there : s.resident? page = some 0 := by decide +kernel
  have dirty : (s.frame 0).owner = some ⟨1⟩ := by decide +kernel
  have live : (s.frame 0).live = #[7, 9] := by decide +kernel
  -- the run need not be evaluated again
  clear_value actions
  exact ⟨live, (no_steal_force reliable_twoPages 1 (by decide) actions paged).2.2.1 page 0 ⟨1⟩
    there dirty⟩

end PageTxn
