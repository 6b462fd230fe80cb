import PageTxn.Id

/-!
The order of admission.

`AdmissionQueue` lists pages from the earliest admitted on. A page that is
already listed keeps its place (`push`), and the page that has to leave is the
earliest admitted one that the caller permits (`evict?`).
-/

namespace PageTxn

/-- Pages in the order of their admission, the earliest first. -/
structure AdmissionQueue where
  order : List PageId
  deriving DecidableEq

namespace AdmissionQueue

/-- No page is listed. -/
def empty : AdmissionQueue := ⟨[]⟩

instance : Inhabited AdmissionQueue := ⟨empty⟩

/-- The number of listed pages. -/
def size (queue : AdmissionQueue) : Nat := queue.order.length

/-- List a page last, unless it is listed already. -/
def push (queue : AdmissionQueue) (page : PageId) : AdmissionQueue :=
  if page ∈ queue.order then queue else ⟨queue.order ++ [page]⟩

/-- Take out the earliest admitted page among the evictable ones. -/
def evict? (queue : AdmissionQueue) (evictable : PageId → Bool) :
    Option (PageId × AdmissionQueue) :=
  match queue.order.find? evictable with
  | some page => some (page, ⟨queue.order.erase page⟩)
  | none => none

/-- Take out a page wherever it stands. -/
def remove (queue : AdmissionQueue) (page : PageId) : AdmissionQueue :=
  ⟨queue.order.filter (· ≠ page)⟩

/-- A page is listed after its admission, and every page that was listed before. -/
@[simp]
theorem mem_push {queue : AdmissionQueue} {page other : PageId} :
    other ∈ (queue.push page).order ↔ other = page ∨ other ∈ queue.order := by
  unfold push
  split
  · next listed =>
    constructor
    · exact Or.inr
    · rintro (rfl | h)
      · exact listed
      · exact h
  · simp [or_comm]

/-- Removal takes out one page and leaves the others. -/
@[simp]
theorem mem_remove {queue : AdmissionQueue} {page other : PageId} :
    other ∈ (queue.remove page).order ↔ other ≠ page ∧ other ∈ queue.order := by
  simp [remove, and_comm]

/-- The page that leaves is listed and evictable, and every page listed before it is
not evictable. -/
theorem evict?_eq_some {queue rest : AdmissionQueue} {evictable : PageId → Bool}
    {page : PageId} (h : queue.evict? evictable = some (page, rest)) :
    evictable page = true ∧ rest.order = queue.order.erase page ∧
      ∃ before after, queue.order = before ++ page :: after ∧
        ∀ other ∈ before, evictable other = false := by
  unfold evict? at h
  split at h
  · next first found =>
    cases h
    obtain ⟨evicted, before, after, order, earlier⟩ := List.find?_eq_some_iff_append.1 found
    exact ⟨evicted, rfl, before, after, order, fun other inside => by
      simpa using earlier other inside⟩
  · cases h

/-- No page leaves exactly if no listed page is evictable. -/
theorem evict?_eq_none {queue : AdmissionQueue} {evictable : PageId → Bool} :
    queue.evict? evictable = none ↔ ∀ page ∈ queue.order, evictable page = false := by
  unfold evict?
  split
  · next page found =>
    have evictable_page := List.find?_some found
    have listed := List.mem_of_find?_eq_some found
    constructor
    · intro h
      cases h
    · intro h
      rw [h page listed] at evictable_page
      cases evictable_page
  · next found => simpa using found

end AdmissionQueue

end PageTxn
