import PageTxn.Image

/-!
Slots: fixed-length records on one page.

A page begins with a bitmap of one bit a slot, rounded up to whole bytes, and
the slots follow it. Bit `i` is set when slot `i` holds a record.

* `SlotLayout.ofSizes?` computes how many slots fit: each record costs its bytes
  and one bit.
* `SlotLayout.read?`, `SlotLayout.write?` and `SlotLayout.clear?` work on one
  slot, `SlotLayout.firstFree?`, `SlotLayout.usedSlots?`,
  `SlotLayout.contents?` and `SlotLayout.place?` on the whole page.

A layout is not tied to one page: every operation checks that the bytes which it
touches lie inside the page at hand, and is a fault otherwise. Writing keeps the
length of the page (`SlotLayout.size_of_write?`, `SlotLayout.size_of_clear?`,
`SlotLayout.size_of_place?`).
-/

namespace PageTxn

/-- The arrangement of records of one size on a page. -/
structure SlotLayout where
  /-- The bytes of a record. -/
  recordSize : Nat
  /-- The slots of a page. -/
  slots : Nat
  deriving DecidableEq

namespace SlotLayout

/-! ### Geometry -/

/-- The layout of records of `recordSize` bytes on pages of `pageSize` bytes, if
at least one record fits. -/
def ofSizes? (recordSize pageSize : Nat) : Option SlotLayout :=
  let slots := 8 * pageSize / (8 * recordSize + 1)
  if recordSize = 0 ∨ slots = 0 then none else some ⟨recordSize, slots⟩

/-- The bytes of the bitmap. -/
def headerSize (layout : SlotLayout) : Nat := (layout.slots + 7) / 8

/-- The first byte of a slot. -/
def offset (layout : SlotLayout) (slot : Nat) : Nat :=
  layout.headerSize + slot * layout.recordSize

/-! ### One slot -/

/-- Whether the bitmap marks a slot as used. The bit is read wherever it lies in
the page, also for slots beyond the last one. -/
def isUsed? (page : Image) (slot : Nat) : Except Fault Bool := page.bit? slot

/-- The payload of a slot, `none` if the slot is free or does not exist. -/
def read? (layout : SlotLayout) (page : Image) (slot : Nat) :
    Except Fault (Option Image) :=
  if slot < layout.slots then do
    if ← isUsed? page slot then
      let payload ← page.slice? (layout.offset slot) layout.recordSize
      pure (some payload)
    else pure none
  else pure none

/-- Store a payload in a slot and mark the slot used. Only the range of bytes and
the length of the payload are checked, not the number of the slot. -/
def write? (layout : SlotLayout) (page : Image) (slot : Nat) (payload : Image) :
    Except Fault Image :=
  if layout.offset slot + layout.recordSize ≤ page.size then
    if payload.size = layout.recordSize then
      .ok ((page.splice (layout.offset slot) payload).setBit slot true)
    else .error .lengthMismatch
  else .error .outOfBounds

/-- Zero a used slot and mark it free, `none` if the slot was free already or
does not exist. -/
def clear? (layout : SlotLayout) (page : Image) (slot : Nat) :
    Except Fault (Option Image) :=
  if slot < layout.slots then do
    if ← isUsed? page slot then
      let page ← page.overwrite? (layout.offset slot) (Image.zeros layout.recordSize)
      pure (some (page.setBit slot false))
    else pure none
  else pure none

/-! ### The whole page -/

/-- The first free one of some slots. -/
def firstFreeAmong (page : Image) : List Nat → Except Fault (Option Nat)
  | [] => pure none
  | slot :: rest => do
      if ← isUsed? page slot then firstFreeAmong page rest else pure (some slot)

/-- The used ones of some slots. -/
def usedAmong (page : Image) : List Nat → Except Fault (List Nat)
  | [] => pure []
  | slot :: rest => do
      let used ← isUsed? page slot
      let later ← usedAmong page rest
      pure (if used then slot :: later else later)

/-- The payloads of some slots, free ones left out. -/
def contentsAmong (layout : SlotLayout) (page : Image) :
    List Nat → Except Fault (List (Nat × Image))
  | [] => pure []
  | slot :: rest => do
      let payload ← layout.read? page slot
      let later ← contentsAmong layout page rest
      pure (match payload with
        | some bytes => (slot, bytes) :: later
        | none => later)

/-- The first free slot of a page, if there is one. -/
def firstFree? (layout : SlotLayout) (page : Image) : Except Fault (Option Nat) :=
  firstFreeAmong page (List.range layout.slots)

/-- The used slots of a page in ascending order. -/
def usedSlots? (layout : SlotLayout) (page : Image) : Except Fault (List Nat) :=
  usedAmong page (List.range layout.slots)

/-- The used slots of a page with their payloads, in ascending order. -/
def contents? (layout : SlotLayout) (page : Image) :
    Except Fault (List (Nat × Image)) :=
  layout.contentsAmong page (List.range layout.slots)

/-- Store a payload in the first free slot, `none` if the page is full. -/
def place? (layout : SlotLayout) (page payload : Image) :
    Except Fault (Option (Nat × Image)) := do
  match ← layout.firstFree? page with
  | some slot =>
      let page ← layout.write? page slot payload
      pure (some (slot, page))
  | none => pure none

/-! ### Lengths -/

/-- Writing a slot keeps the length of the page. -/
theorem size_of_write? {layout : SlotLayout} {page payload result : Image} {slot : Nat}
    (h : layout.write? page slot payload = .ok result) : result.size = page.size := by
  unfold write? at h
  split at h
  · next inside =>
    split at h
    · next whole =>
      cases h
      rw [Image.size_setBit, Image.size_splice (by omega)]
    · cases h
  · cases h

/-- Clearing a slot keeps the length of the page. -/
theorem size_of_clear? {layout : SlotLayout} {page result : Image} {slot : Nat}
    (h : layout.clear? page slot = .ok (some result)) : result.size = page.size := by
  unfold clear? at h
  split at h
  · cases used : isUsed? page slot with
    | error fault => simp [used, bind, Except.bind] at h
    | ok value =>
        cases value with
        | false => simp [used, bind, Except.bind, pure, Except.pure] at h
        | true =>
            cases cleared : page.overwrite? (layout.offset slot)
                (Image.zeros layout.recordSize) with
            | error fault => simp [used, cleared, bind, Except.bind] at h
            | ok zeroed =>
                simp only [used, cleared, bind, Except.bind, pure, Except.pure, if_true,
                  Except.ok.injEq, Option.some.injEq] at h
                rw [← h, Image.size_setBit, Image.size_of_overwrite? cleared]
  · cases h

/-- Placing a record keeps the length of the page. -/
theorem size_of_place? {layout : SlotLayout} {page payload result : Image} {slot : Nat}
    (h : layout.place? page payload = .ok (some (slot, result))) :
    result.size = page.size := by
  unfold place? at h
  cases free : layout.firstFree? page with
  | error fault => simp [free, bind, Except.bind] at h
  | ok found =>
      cases found with
      | none => simp [free, bind, Except.bind, pure, Except.pure] at h
      | some place =>
          cases written : layout.write? page place payload with
          | error fault => simp [free, written, bind, Except.bind] at h
          | ok image =>
              simp only [free, written, bind, Except.bind, pure, Except.pure,
                Except.ok.injEq, Option.some.injEq, Prod.mk.injEq] at h
              rw [← h.2, size_of_write? written]

end SlotLayout

end PageTxn
