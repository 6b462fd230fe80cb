import Mathlib.Tactic.Common
import PageTxn.Storage.SlotLayout

/-!
A slotted page as a map from slots to payloads.

* `SlotLayout.payload?` is the view of a page: the payload of a slot, `none` if the slot is
  free or does not exist. `SlotLayout.Fits` says that bitmap and slots lie inside the page,
  which is the case for the layouts of `SlotLayout.ofSizes?` (`fits_of_ofSizes?`).
* `payload?_change`: exchanging the bytes and the bit of a slot changes that slot and no other.
* `exists_firstFree`, `exists_place` and `exists_clear`: on pages that are large enough, nothing
  is a fault, whatever their bytes are.
* `place?_eq_some` and `clear?_eq_some` say what placing and clearing do to the map, and
  `contents?_eq` that the contents of a page are its map, listed by slots.
-/

namespace PageTxn

namespace Image

/-- Ranges of two images are equal if their bytes are. -/
lemma extract_congr {image other : Image} {start length : Nat}
    (inside : start + length ≤ image.size) (inside' : start + length ≤ other.size)
    (same : ∀ i, start ≤ i → i < start + length → image[i]? = other[i]?) :
    image.extract start (start + length) = other.extract start (start + length) := by
  refine Array.ext_getElem? fun i => ?_
  rw [Array.getElem?_extract, Array.getElem?_extract]
  by_cases h : i < length
  · rw [if_pos (by omega), if_pos (by omega), same (start + i) (by omega) (by omega)]
  · rw [if_neg (by omega), if_neg (by omega)]

/-- Writing a bit leaves the other bytes alone. -/
lemma getElem?_setBit_of_ne {image : Image} {bit i : Nat} (value : Bool) (apart : bit / 8 ≠ i) :
    (image.setBit bit value)[i]? = image[i]? := by
  rw [setBit, Array.getElem?_modify, if_neg apart]

/-- Every byte of a zeroed image is zero. -/
lemma getElem?_zeros {size i : Nat} (inside : i < size) : (zeros size)[i]? = some 0 := by
  rw [zeros, Array.getElem?_replicate, if_pos inside]

/-- Every bit of a zeroed image is zero. -/
lemma bit?_zeros {size bit : Nat} (inside : bit / 8 < size) :
    (zeros size).bit? bit = .ok false := by
  rw [bit?, getElem?_zeros inside]
  simp

end Image

namespace SlotLayout

variable {layout : SlotLayout} {page : Image} {slot : Nat}

/-! ### Geometry -/

/-- Bitmap and slots lie inside a page of some size. -/
def Fits (layout : SlotLayout) (size : Nat) : Prop :=
  layout.headerSize + layout.slots * layout.recordSize ≤ size

/-- The layout for a page size fits the pages of that size. -/
theorem fits_of_ofSizes? {recordSize pageSize : Nat}
    (computed : ofSizes? recordSize pageSize = some layout) : layout.Fits pageSize := by
  rw [ofSizes?] at computed
  split at computed
  · cases computed
  · cases computed
    have count := Nat.div_mul_le_self (8 * pageSize) (8 * recordSize + 1)
    rw [Nat.mul_add, Nat.mul_one, Nat.mul_left_comm] at count
    rw [Fits, headerSize]
    simp only
    omega

/-- The layout for a record size has records of that size. -/
lemma recordSize_of_ofSizes? {recordSize pageSize : Nat}
    (computed : ofSizes? recordSize pageSize = some layout) : layout.recordSize = recordSize := by
  rw [ofSizes?] at computed
  split at computed
  · cases computed
  · cases computed
    rfl

/-- Every slot ends before the next ones begin. -/
lemma offset_add_le {other : Nat} (less : slot < other) :
    layout.offset slot + layout.recordSize ≤ layout.offset other := by
  have step : (slot + 1) * layout.recordSize ≤ other * layout.recordSize :=
    Nat.mul_le_mul_right _ less
  rw [Nat.add_mul, Nat.one_mul] at step
  rw [offset, offset]
  omega

/-- Different slots have no byte in common. -/
lemma apart_of_ne {other i : Nat} (apart : slot ≠ other) (inside : layout.offset other ≤ i)
    (below : i < layout.offset other + layout.recordSize) :
    ¬ (layout.offset slot ≤ i ∧ i < layout.offset slot + layout.recordSize) := by
  rcases Nat.lt_or_gt_of_ne apart with less | more
  · have step := layout.offset_add_le less
    omega
  · have step := layout.offset_add_le more
    omega

lemma bit_lt_header (exists_slot : slot < layout.slots) : slot / 8 < layout.headerSize := by
  rw [headerSize]
  omega

lemma offset_le (fits : layout.Fits page.size) (exists_slot : slot < layout.slots) :
    layout.offset slot + layout.recordSize ≤ page.size :=
  Nat.le_trans (layout.offset_add_le exists_slot) fits

/-- Every slot of a page that is large enough has its bit. -/
lemma exists_bit (fits : layout.Fits page.size) (exists_slot : slot < layout.slots) :
    ∃ used, page.bit? slot = .ok used := by
  have inside : slot / 8 < page.size := by
    have header := bit_lt_header exists_slot
    rw [Fits] at fits
    omega
  exact ⟨_, by rw [Image.bit?, Array.getElem?_eq_getElem inside]⟩

/-! ### The view of a page -/

/-- The payload of a slot, `none` if the slot is free or does not exist. -/
def payload? (layout : SlotLayout) (page : Image) (slot : Nat) : Option Image :=
  match layout.read? page slot with
  | .ok payload => payload
  | .error _ => none

/-- Only the slots of the layout have payloads. -/
lemma payload?_eq_none (absent : ¬ slot < layout.slots) : layout.payload? page slot = none := by
  rw [payload?, read?, if_neg absent]
  rfl

section View

variable (fits : layout.Fits page.size)
include fits

/-- Reading a slot whose bit is known. -/
lemma read?_of_bit (exists_slot : slot < layout.slots) {used : Bool}
    (bit : page.bit? slot = .ok used) :
    layout.read? page slot = .ok (if used then
      some (page.extract (layout.offset slot) (layout.offset slot + layout.recordSize))
      else none) := by
  have inside := offset_le fits exists_slot
  rw [read?, if_pos exists_slot, isUsed?, bit]
  cases used with
  | false => rfl
  | true =>
      simp only [bind, Except.bind, if_true, Image.slice?, if_pos inside]
      rfl

/-- The payload of a slot whose bit is known. -/
lemma payload?_of_bit (exists_slot : slot < layout.slots) {used : Bool}
    (bit : page.bit? slot = .ok used) :
    layout.payload? page slot = if used then
      some (page.extract (layout.offset slot) (layout.offset slot + layout.recordSize))
      else none := by
  rw [payload?, read?_of_bit fits exists_slot bit]

/-- Reading shows the view. -/
theorem read?_eq (slot : Nat) : layout.read? page slot = .ok (layout.payload? page slot) := by
  by_cases exists_slot : slot < layout.slots
  · obtain ⟨used, bit⟩ := exists_bit fits exists_slot
    rw [payload?_of_bit fits exists_slot bit, read?_of_bit fits exists_slot bit]
  · rw [payload?_eq_none exists_slot, read?, if_neg exists_slot]
    rfl

/-- Exchanging the bytes and the bit of a slot changes that slot and no other. -/
theorem payload?_change (exists_slot : slot < layout.slots) {payload : Image}
    (whole : payload.size = layout.recordSize) (used : Bool) (other : Nat) :
    layout.payload? ((page.splice (layout.offset slot) payload).setBit slot used) other =
      if slot = other then (if used then some payload else none)
      else layout.payload? page other := by
  have inside : layout.offset slot + payload.size ≤ page.size := by
    rw [whole]
    exact offset_le fits exists_slot
  have header := bit_lt_header exists_slot
  have start : layout.headerSize ≤ layout.offset slot := Nat.le_add_right ..
  set spliced := page.splice (layout.offset slot) payload with spliced_eq
  have size : spliced.size = page.size := Image.size_splice inside
  have fits' : layout.Fits (spliced.setBit slot used).size := by
    rw [Image.size_setBit, size]
    exact fits
  by_cases exists_other : other < layout.slots
  · have inside' := offset_le fits exists_other
    have start' : layout.headerSize ≤ layout.offset other := Nat.le_add_right ..
    have bit := Image.bit?_setBit (show slot / 8 < spliced.size by omega) used other
    by_cases same : slot = other
    · -- the slot itself shows the bytes that were put there
      subst same
      rw [if_pos rfl] at bit ⊢
      rw [payload?_of_bit fits' exists_slot bit]
      cases used with
      | false => rfl
      | true =>
          rw [if_pos rfl, if_pos rfl]
          congr 1
          refine Array.ext_getElem? fun i => ?_
          rw [Array.getElem?_extract, Image.size_setBit, size]
          by_cases below : i < layout.recordSize
          · rw [if_pos (by omega), Image.getElem?_setBit_of_ne _ (by omega), spliced_eq,
              Image.getElem?_splice inside, if_pos (by omega), Nat.add_sub_cancel_left]
          · rw [if_neg (by omega), Array.getElem?_eq_none (by omega)]
    · -- neither the bit nor the bytes of another slot are touched
      rw [if_neg same] at bit ⊢
      have header' := bit_lt_header exists_other
      have bit_eq : spliced.bit? other = page.bit? other := by
        rw [Image.bit?, Image.bit?, spliced_eq, Image.getElem?_splice inside,
          if_neg (by omega)]
      obtain ⟨value, old⟩ := exists_bit fits exists_other
      rw [bit_eq, old] at bit
      rw [payload?_of_bit fits' exists_other bit, payload?_of_bit fits exists_other old]
      congr 2
      refine Image.extract_congr (by rw [Image.size_setBit, size]; exact inside') inside'
        fun i from_start below => ?_
      rw [Image.getElem?_setBit_of_ne _ (by omega), spliced_eq, Image.getElem?_splice inside,
        whole, if_neg (apart_of_ne same from_start below)]
  · have apart : slot ≠ other := fun same => exists_other (same ▸ exists_slot)
    rw [payload?_eq_none exists_other, if_neg apart, payload?_eq_none exists_other]

end View

/-! ### Placing and clearing -/

/-- The first free one of some slots is one of them, and free. -/
lemma firstFreeAmong_eq_some {slots : List Nat}
    (found : firstFreeAmong page slots = .ok (some slot)) :
    slot ∈ slots ∧ page.bit? slot = .ok false := by
  induction slots with
  | nil => cases found
  | cons first rest ih =>
      rw [firstFreeAmong, isUsed?] at found
      cases bit : page.bit? first with
      | error fault => simp [bit, bind, Except.bind] at found
      | ok used =>
          rw [bit] at found
          cases used with
          | true =>
              obtain ⟨inside, free⟩ := ih found
              exact ⟨List.mem_cons_of_mem _ inside, free⟩
          | false =>
              cases found
              exact ⟨List.mem_cons_self, bit⟩

section Total

variable (fits : layout.Fits page.size)
include fits

lemma exists_firstFreeAmong {slots : List Nat} (exist : ∀ slot ∈ slots, slot < layout.slots) :
    ∃ found, firstFreeAmong page slots = .ok found := by
  induction slots with
  | nil => exact ⟨none, rfl⟩
  | cons first rest ih =>
      obtain ⟨used, bit⟩ := exists_bit fits (exist first List.mem_cons_self)
      rw [firstFreeAmong, isUsed?, bit]
      cases used with
      | false => exact ⟨some first, rfl⟩
      | true => exact ih fun slot inside => exist slot (List.mem_cons_of_mem _ inside)

/-- Every page that is large enough can be searched for a free slot. -/
lemma exists_firstFree : ∃ found, layout.firstFree? page = .ok found :=
  exists_firstFreeAmong fits fun _ inside => List.mem_range.mp inside

/-- A record of the right size can be placed, or the page is full. -/
lemma exists_place {payload : Image} (whole : payload.size = layout.recordSize) :
    ∃ placed, layout.place? page payload = .ok placed := by
  obtain ⟨found, free⟩ := exists_firstFree fits
  rw [place?, free]
  cases found with
  | none => exact ⟨none, rfl⟩
  | some slot =>
      have inside := List.mem_range.mp (firstFreeAmong_eq_some free).1
      refine ⟨some (slot, (page.splice (layout.offset slot) payload).setBit slot true), ?_⟩
      simp only [bind, Except.bind, write?, if_pos (offset_le fits inside), if_pos whole]
      rfl

/-- A slot can be cleared, or there is nothing to clear. -/
lemma exists_clear (slot : Nat) : ∃ cleared, layout.clear? page slot = .ok cleared := by
  rw [clear?]
  split
  · next inside =>
    obtain ⟨used, bit⟩ := exists_bit fits inside
    have range : layout.offset slot + (Image.zeros layout.recordSize).size ≤ page.size := by
      rw [Image.size_zeros]
      exact offset_le fits inside
    rw [isUsed?, bit, Image.overwrite?, if_pos range]
    cases used with
    | false => exact ⟨none, rfl⟩
    | true => exact ⟨some _, rfl⟩
  · exact ⟨none, rfl⟩

end Total

/-- A record is placed into a slot that was free, and no other slot changes. -/
theorem place?_eq_some (fits : layout.Fits page.size) {payload image : Image}
    (placed : layout.place? page payload = .ok (some (slot, image))) :
    layout.payload? page slot = none ∧ ∀ other,
      layout.payload? image other =
        if slot = other then some payload else layout.payload? page other := by
  rw [place?] at placed
  cases free : layout.firstFree? page with
  | error fault => simp [free, bind, Except.bind] at placed
  | ok found =>
      rw [free] at placed
      cases found with
      | none => cases placed
      | some place =>
          obtain ⟨inside, unused⟩ := firstFreeAmong_eq_some free
          rw [List.mem_range] at inside
          cases written : layout.write? page place payload with
          | error fault => simp [written, bind, Except.bind] at placed
          | ok result =>
              simp only [bind, Except.bind, written] at placed
              cases placed
              rw [write?, if_pos (offset_le fits inside)] at written
              split at written
              · next whole =>
                cases written
                refine ⟨payload?_of_bit fits inside unused, fun other => ?_⟩
                exact payload?_change fits inside whole true other
              · cases written

/-- A slot that is cleared had a payload, and no other slot changes. -/
theorem clear?_eq_some (fits : layout.Fits page.size) {image : Image}
    (cleared : layout.clear? page slot = .ok (some image)) :
    layout.payload? page slot ≠ none ∧ ∀ other,
      layout.payload? image other =
        if slot = other then none else layout.payload? page other := by
  rw [clear?] at cleared
  split at cleared
  · next inside =>
    have range : layout.offset slot + (Image.zeros layout.recordSize).size ≤ page.size := by
      rw [Image.size_zeros]
      exact offset_le fits inside
    obtain ⟨used, bit⟩ := exists_bit fits inside
    rw [isUsed?, bit, Image.overwrite?, if_pos range] at cleared
    cases used with
    | false => cases cleared
    | true =>
        cases cleared
        refine ⟨?_, fun other => ?_⟩
        · rw [payload?_of_bit fits inside bit]
          simp
        · exact payload?_change fits inside (Image.size_zeros _) false other
  · cases cleared

/-! ### Listing -/

/-- The contents of some slots are their payloads. -/
lemma contentsAmong_eq (fits : layout.Fits page.size) (slots : List Nat) :
    layout.contentsAmong page slots =
      .ok (slots.filterMap fun slot => (layout.payload? page slot).map (slot, ·)) := by
  induction slots with
  | nil => rfl
  | cons slot rest ih =>
      rw [contentsAmong, read?_eq fits, ih, List.filterMap_cons]
      cases layout.payload? page slot with
      | none => rfl
      | some payload => rfl

/-- What is told of some slots are their payloads, also of a page that the slots do not fit. -/
lemma eq_of_contentsAmong {slots : List Nat} {contents : List (Nat × Image)}
    (told : layout.contentsAmong page slots = .ok contents) :
    contents = slots.filterMap fun slot => (layout.payload? page slot).map (slot, ·) := by
  induction slots generalizing contents with
  | nil =>
      cases told
      rfl
  | cons slot rest ih =>
      rw [contentsAmong] at told
      rw [List.filterMap_cons, payload?]
      cases read : layout.read? page slot with
      | error fault =>
          rw [read] at told
          cases told
      | ok payload =>
          cases later : layout.contentsAmong page rest with
          | error fault =>
              rw [read, later] at told
              cases told
          | ok others =>
              rw [read, later] at told
              rw [← ih later]
              cases payload <;> exact (Except.ok.inj told).symm

/-- The contents of a page are its view. -/
theorem contents?_eq (fits : layout.Fits page.size) :
    layout.contents? page = .ok ((List.range layout.slots).filterMap fun slot =>
      (layout.payload? page slot).map (slot, ·)) :=
  contentsAmong_eq fits _

/-- On a zeroed page every slot is free. -/
lemma bit?_zeros {size : Nat} (fits : layout.Fits size) (exists_slot : slot < layout.slots) :
    (Image.zeros size).bit? slot = .ok false := by
  have header := bit_lt_header exists_slot
  rw [Fits] at fits
  exact Image.bit?_zeros (by omega)

/-- A zeroed page has no payloads. -/
lemma payload?_zeros {size : Nat} (fits : layout.Fits size) (slot : Nat) :
    layout.payload? (.zeros size) slot = none := by
  have fits' : layout.Fits (Image.zeros size).size := by
    rw [Image.size_zeros]
    exact fits
  by_cases exists_slot : slot < layout.slots
  · rw [payload?_of_bit fits' exists_slot (bit?_zeros fits exists_slot)]
    rfl
  · exact payload?_eq_none exists_slot

/-- The first slot of a zeroed page is free. -/
lemma firstFree?_zeros {size : Nat} (fits : layout.Fits size) (some_slot : 0 < layout.slots) :
    layout.firstFree? (.zeros size) = .ok (some 0) := by
  obtain ⟨slots, more⟩ := Nat.exists_eq_add_one.mpr some_slot
  rw [firstFree?, more, List.range_succ_eq_map, firstFreeAmong, isUsed?,
    bit?_zeros fits some_slot]
  rfl

end SlotLayout

end PageTxn
