import PageTxn.Proofs.History

/-!
The serial order of the committed transactions.

* `Access.Legal` says that every read of a serial execution sees the image that the accesses
  before it have left, `Access.after` are the images at the end of it.
* `History.legal_serial`: in an admissible history the accesses of the committed
  transactions, taken in the order of their commits, are a serial execution that ends with
  the ledger.
-/

namespace PageTxn

/-! ### Serial executions -/

namespace Access

/-- The images that some accesses leave, one after the other. -/
def after (images : PageId → Image) : List Access → PageId → Image
  | [] => images
  | .read _ _ :: rest => after images rest
  | .write page image :: rest => after (Function.update images page image) rest

/-- Every read sees the image that the accesses before it have left. -/
def Legal (images : PageId → Image) : List Access → Prop
  | [] => True
  | .read page image :: rest => image = images page ∧ Legal images rest
  | .write page image :: rest => Legal (Function.update images page image) rest

variable {images : PageId → Image} {first second : List Access}

lemma after_append : after images (first ++ second) = after (after images first) second := by
  induction first generalizing images with
  | nil => rfl
  | cons access rest ih =>
      cases access with
      | read page image => exact ih
      | write page image => exact ih

lemma legal_append :
    Legal images (first ++ second) ↔ Legal images first ∧ Legal (after images first) second := by
  induction first generalizing images with
  | nil => simp [Legal, after]
  | cons access rest ih =>
      cases access with
      | read page image => simp only [List.cons_append, Legal, after, ih, and_assoc]
      | write page image => simp only [List.cons_append, Legal, after, ih]

end Access

namespace History

open Access

variable {storage : Storage} {allowed : Act → Prop} {history : List Event}

/-! ### The accesses of one transaction -/

/-- What one event adds to the accesses of its own transaction, if the images that it starts
from are those of the ledger where the event has to do with them. -/
lemma legal_accesses_cons {event : Event} {images : PageId → Image}
    (admits : Admits storage allowed history event)
    (agree : ∀ access ∈ event.accesses, images access.page =
      ledger storage access.page history)
    (earlier : Legal images (accessesOf event.txn history) ∧
      ∀ page, after images (accessesOf event.txn history) page =
        (ownWrite event.txn page history).getD (images page)) :
    Legal images (accessesOf event.txn (event :: history)) ∧
      ∀ page, after images (accessesOf event.txn (event :: history)) page =
        (ownWrite event.txn page (event :: history)).getD (images page) := by
  obtain ⟨legal, left⟩ := earlier
  have written : ∀ (page other : PageId) (image : Image),
      Function.update (after images (accessesOf event.txn history)) page image other =
        ((if page = other then some image else none).or
          (ownWrite event.txn other history)).getD (images other) := by
    intro page other image
    by_cases same : page = other
    · subst same
      simp
    · rw [Function.update_of_ne (Ne.symm same), left, if_neg same, Option.none_or]
  rw [accessesOf, if_pos rfl]
  simp only [ownWrite_cons, if_pos, legal_append, after_append]
  refine ⟨⟨legal, ?_⟩, fun page => ?_⟩
  · cases admits with
    | @looked txn page image permitted live seen existing =>
        have same : images page = ledger storage page history :=
          agree _ (List.mem_singleton_self _)
        refine ⟨?_, trivial⟩
        rw [left, same]
        exact seen
    | wrote permitted live whole => trivial
    | unchanged idle => trivial
    | changed live whole effect => trivial
    | committed live alone => trivial
    | aborted live => trivial
  · cases admits with
    | looked permitted live seen existing => exact left page
    | wrote permitted live whole => exact written _ page _
    | unchanged idle => exact left page
    | @changed txn call outcome target image live whole effect =>
        have found : ([(target, image)] : List (PageId × Image)).lookup page =
            if target = page then some image else none := by
          by_cases same : target = page
          · simp [same]
          · simp [List.lookup_cons, same, beq_eq_false_iff_ne.mpr (Ne.symm same)]
        rw [Event.left?, found]
        exact written target page image
    | committed live alone => exact left page
    | aborted live => exact left page

/-- As long as a transaction goes on, the ledger keeps the images of the pages that the
transaction has accessed; so its accesses are legal from the ledger on. -/
lemma legal_accessesOf (admissible : Admissible storage allowed history) {txn : TxnId}
    (live : ¬ Ended txn history) {images : PageId → Image}
    (agree : ∀ page, Accesses txn page history → images page = ledger storage page history) :
    Legal images (accessesOf txn history) ∧
      ∀ page, after images (accessesOf txn history) page =
        (ownWrite txn page history).getD (images page) := by
  induction history with
  | nil => exact ⟨trivial, fun page => rfl⟩
  | cons event history ih =>
      obtain ⟨admits, admissible⟩ := admissible
      have live_before : ¬ Ended txn history := fun ended => live (ended_cons.mpr (Or.inr ended))
      have kept : ∀ page, Accesses txn page (event :: history) →
          ledger storage page (event :: history) = ledger storage page history :=
        fun page accesses => ledger_of_accessed admits live accesses
      have agree_before : ∀ page, Accesses txn page history →
          images page = ledger storage page history := by
        intro page accesses
        have later : Accesses txn page (event :: history) := accesses_cons.mpr (Or.inr accesses)
        rw [agree page later, kept page later]
      have earlier := ih admissible live_before agree_before
      by_cases own : event.txn = txn
      · subst own
        refine legal_accesses_cons admits (fun access inside => ?_) earlier
        have later : Accesses event.txn access.page (event :: history) :=
          accesses_cons.mpr (Or.inl ⟨rfl, access, inside, rfl⟩)
        rw [agree _ later, kept _ later]
      · simp only [accessesOf, if_neg own, ownWrite_cons_of_ne own]
        exact earlier

/-! ### All transactions -/

/-- In an admissible history the accesses of the committed transactions, in the order of their
commits, form a serial execution from the stored images on, and it ends with the ledger. -/
theorem legal_serial (admissible : Admissible storage allowed history) :
    Legal storage.initially (serial history) ∧
      after storage.initially (serial history) = fun page => ledger storage page history := by
  induction history with
  | nil => exact ⟨trivial, rfl⟩
  | cons event history ih =>
      obtain ⟨admits, admissible⟩ := admissible
      obtain ⟨legal, left⟩ := ih admissible
      cases admits with
      | looked permitted live seen existing => exact ⟨legal, left⟩
      | wrote permitted live whole => exact ⟨legal, left⟩
      | unchanged idle => exact ⟨legal, left⟩
      | changed live whole effect => exact ⟨legal, left⟩
      | aborted live => exact ⟨legal, left⟩
      | @committed txn live alone =>
          have agree : ∀ page, Accesses txn page history →
              (fun page => ledger storage page history) page = ledger storage page history :=
            fun _ _ => rfl
          obtain ⟨own_legal, own_left⟩ := legal_accessesOf admissible live agree
          rw [serial, legal_append, after_append, left]
          refine ⟨⟨legal, own_legal⟩, ?_⟩
          funext page
          rw [own_left, ledger_committed, visible]

end History

end PageTxn
