import Mathlib.Logic.Function.Basic
import PageTxn.Proofs.SlotMap

/-!
Edits of a slotted page: what they do to the map from slots to payloads, and what they leave alone.

* `SlotLayout.AgreesOutside`: two images agree in every byte that does not belong to a slot, and in
  every bit of the bitmap but the one of that slot.
* `write?_eq` and `clear?_eq`: both ways of editing a slot exchange its bytes and its bit
  (`SlotLayout.exchanged`), and `agreesOutside_exchanged` says that nothing else changes.
* `exists_usedSlots` and `exists_leastFree` read the used slots and the first free one off the map.
* `SlotEdit` is an edit as data, and `SlotLayout.editAll?` makes one after the other;
  `exists_editAll` says what the map is after them.
* `slotted_page_is_map`: after any edits the page behaves as the map that the edits describe.
-/

namespace PageTxn

namespace Image

/-- The eight bits of a byte determine it. -/
lemma byte_ext {first second : UInt8}
    (same : ∀ i < 8, first.toNat.testBit i = second.toNat.testBit i) : first = second := by
  refine UInt8.toNat_inj.mp (Nat.eq_of_testBit_eq fun i => ?_)
  by_cases small : i < 8
  · exact same i small
  · have large : 2 ^ 8 ≤ 2 ^ i := Nat.pow_le_pow_right (by decide) (Nat.le_of_not_lt small)
    rw [Nat.testBit_lt_two_pow (Nat.lt_of_lt_of_le first.toNat_lt large),
      Nat.testBit_lt_two_pow (Nat.lt_of_lt_of_le second.toNat_lt large)]

/-- Two images agree in a byte if they agree in its bits. -/
lemma getElem?_eq_of_bits {image other : Image} {i : Nat}
    (same : ∀ bit, bit / 8 = i → image.bit? bit = other.bit? bit) : image[i]? = other[i]? := by
  have bits : ∀ j < 8, image.bit? (8 * i + j) = other.bit? (8 * i + j) :=
    fun j small => same _ (by omega)
  have place : ∀ j < 8, (8 * i + j) / 8 = i ∧ (8 * i + j) % 8 = j := fun j small => by omega
  have first := bits 0 (by decide)
  rw [bit?, bit?, (place 0 (by decide)).1] at first
  cases here : image[i]? with
  | none =>
      cases there : other[i]? with
      | none => rfl
      | some byte => simp [here, there] at first
  | some byte =>
      cases there : other[i]? with
      | none => simp [here, there] at first
      | some another =>
          refine congrArg some (byte_ext fun j small => ?_)
          have value := bits j small
          rw [bit?, bit?, (place j small).1, (place j small).2, here, there] at value
          exact Except.ok.inj value

/-- Bits before a replaced range stay. -/
lemma bit?_splice_of_lt {image bytes : Image} {start bit : Nat}
    (inside : start + bytes.size ≤ image.size) (before : bit / 8 < start) :
    (image.splice start bytes).bit? bit = image.bit? bit := by
  rw [bit?, bit?, getElem?_splice inside, if_neg (by omega)]

end Image

namespace SlotLayout

variable {layout : SlotLayout} {page later payload image : Image} {slot : Nat}

/-- The image with other bytes and another bit for a slot. -/
def exchanged (layout : SlotLayout) (page : Image) (slot : Nat) (payload : Image) (used : Bool) :
    Image :=
  (page.splice (layout.offset slot) payload).setBit slot used

/-- The image with a slot zeroed and marked as free. -/
def cleared (layout : SlotLayout) (page : Image) (slot : Nat) : Image :=
  (page.splice (layout.offset slot) (.zeros layout.recordSize)).setBit slot false

/-! ### What belongs to a slot -/

/-- Two images agree outside a slot: in the bytes that neither belong to the slot nor hold its bit,
and in all bits of the bitmap but that one. -/
structure AgreesOutside (layout : SlotLayout) (slot : Nat) (later page : Image) : Prop where
  size : later.size = page.size
  byte : ∀ i, ¬ (layout.offset slot ≤ i ∧ i < layout.offset slot + layout.recordSize) →
    i ≠ slot / 8 → later[i]? = page[i]?
  bit : ∀ other, other ≠ slot → other / 8 < layout.headerSize → later.bit? other = page.bit? other

/-- Exchanging the bytes and the bit of a slot leaves everything else alone. -/
lemma agreesOutside_exchanged (fits : layout.Fits page.size) (exists_slot : slot < layout.slots)
    (whole : payload.size = layout.recordSize) (used : Bool) :
    layout.AgreesOutside slot (layout.exchanged page slot payload used) page := by
  have range : layout.offset slot + payload.size ≤ page.size := by
    rw [whole]
    exact offset_le fits exists_slot
  have header := bit_lt_header exists_slot
  have start : layout.headerSize ≤ layout.offset slot := Nat.le_add_right ..
  have size : (page.splice (layout.offset slot) payload).size = page.size := Image.size_splice range
  refine ⟨?_, fun i outside bitmap => ?_, fun other apart bitmap => ?_⟩
  · rw [exchanged, Image.size_setBit, size]
  · rw [exchanged, Image.getElem?_setBit_of_ne _ (Ne.symm bitmap), Image.getElem?_splice range,
      whole, if_neg outside]
  · rw [exchanged, Image.bit?_setBit (by omega), if_neg (Ne.symm apart),
      Image.bit?_splice_of_lt range (by omega)]

/-! ### Slots that are used -/

section Used

variable (fits : layout.Fits page.size)
include fits

/-- The bit of a slot tells whether the map has it. -/
lemma bit?_eq (exists_slot : slot < layout.slots) :
    page.bit? slot = .ok (layout.payload? page slot).isSome := by
  obtain ⟨used, bit⟩ := exists_bit fits exists_slot
  rw [payload?_of_bit fits exists_slot bit, bit]
  cases used <;> rfl

/-- A payload of the right size can be written to every slot. -/
lemma write?_eq (exists_slot : slot < layout.slots) (whole : payload.size = layout.recordSize) :
    layout.write? page slot payload = .ok (layout.exchanged page slot payload true) := by
  rw [write?, if_pos (offset_le fits exists_slot), if_pos whole]
  rfl

/-- A slot is cleared if it exists and is used. -/
lemma clear?_eq (slot : Nat) :
    layout.clear? page slot =
      .ok (if slot < layout.slots ∧ (isUsed? page slot).toOption = some true then
        some (layout.cleared page slot) else none) := by
  rw [clear?]
  by_cases inside : slot < layout.slots
  · have range : layout.offset slot + (Image.zeros layout.recordSize).size ≤ page.size := by
      rw [Image.size_zeros]
      exact offset_le fits inside
    obtain ⟨used, bit⟩ := exists_bit fits inside
    rw [if_pos inside, isUsed?, bit, Image.overwrite?, if_pos range]
    cases used with
    | false => simp [Except.toOption, bind, Except.bind, pure, Except.pure]
    | true => simp [inside, Except.toOption, bind, Except.bind, pure, Except.pure, cleared]
  · rw [if_neg inside, if_neg fun both => inside both.1]
    rfl

/-- A slot that exists and is used is a slot of the map. -/
lemma used_iff : slot < layout.slots ∧ (isUsed? page slot).toOption = some true ↔
    layout.payload? page slot ≠ none := by
  by_cases inside : slot < layout.slots
  · rw [isUsed?, bit?_eq fits inside]
    cases layout.payload? page slot <;> simp [inside, Except.toOption]
  · simp [inside, payload?_eq_none]

/-- A slot that is cleared had a payload, and no other slot changes. -/
lemma payload?_cleared (used : slot < layout.slots ∧ (isUsed? page slot).toOption = some true) :
    layout.payload? page slot ≠ none ∧ ∀ other,
      layout.payload? (layout.cleared page slot) other =
        if slot = other then none else layout.payload? page other :=
  clear?_eq_some fits (by rw [clear?_eq fits, if_pos used])

/-- The used ones of some slots are those that the map has. -/
lemma usedAmong_eq {slots : List Nat} (exist : ∀ slot ∈ slots, slot < layout.slots) :
    usedAmong page slots =
      .ok (slots.filter fun slot => (layout.payload? page slot).isSome) := by
  induction slots with
  | nil => rfl
  | cons first rest ih =>
      have later := ih fun slot inside => exist slot (List.mem_cons_of_mem _ inside)
      rw [usedAmong, isUsed?, bit?_eq fits (exist first List.mem_cons_self), later,
        List.filter_cons]
      cases (layout.payload? page first).isSome <;> rfl

/-- The first free one of some slots is the first that the map does not have. -/
lemma firstFreeAmong_eq {slots : List Nat} (exist : ∀ slot ∈ slots, slot < layout.slots) :
    firstFreeAmong page slots =
      .ok (slots.find? fun slot => (layout.payload? page slot).isNone) := by
  induction slots with
  | nil => rfl
  | cons first rest ih =>
      have later := ih fun slot inside => exist slot (List.mem_cons_of_mem _ inside)
      rw [firstFreeAmong, isUsed?, bit?_eq fits (exist first List.mem_cons_self), later,
        List.find?_cons]
      cases layout.payload? page first <;> rfl

/-- The used slots are the domain of the map, in ascending order. -/
theorem exists_usedSlots : ∃ used, layout.usedSlots? page = .ok used ∧ used.Pairwise (· < ·) ∧
    ∀ slot, slot ∈ used ↔ layout.payload? page slot ≠ none := by
  refine ⟨_, usedAmong_eq fits fun _ inside => List.mem_range.mp inside,
    List.Pairwise.filter _ List.pairwise_lt_range, fun slot => ?_⟩
  rw [List.mem_filter, List.mem_range, Option.isSome_iff_ne_none]
  refine ⟨And.right, fun used => ⟨?_, used⟩⟩
  by_contra absent
  exact used (payload?_eq_none absent)

/-- The first free slot is the least one that the map does not have, if there is any. -/
theorem exists_leastFree : ∃ free, layout.firstFree? page = .ok free ∧
    (∀ slot, free = some slot ↔ slot < layout.slots ∧ layout.payload? page slot = none ∧
      ∀ earlier < slot, layout.payload? page earlier ≠ none) ∧
    (free = none ↔ ∀ slot < layout.slots, layout.payload? page slot ≠ none) := by
  refine ⟨_, firstFreeAmong_eq fits fun _ inside => List.mem_range.mp inside, fun slot => ?_, ?_⟩
  · rw [List.find?_range_eq_some, List.mem_range, Option.isNone_iff_eq_none]
    simp [Option.isSome_iff_ne_none, and_left_comm]
  · rw [List.find?_range_eq_none]
    simp [Option.isSome_iff_ne_none]

end Used

end SlotLayout

/-! ### Edits one after the other -/

/-- An edit of a slotted page. -/
inductive SlotEdit where
  | write (slot : Nat) (payload : Image)
  | clear (slot : Nat)
  deriving DecidableEq

namespace SlotEdit

/-- The slot that is edited. -/
def slot : SlotEdit → Nat
  | write slot _ | clear slot => slot

/-- A write brings a whole payload for a slot of the layout; a clear may name any slot. -/
def Allowed (layout : SlotLayout) : SlotEdit → Prop
  | write slot payload => slot < layout.slots ∧ payload.size = layout.recordSize
  | clear _ => True

instance (layout : SlotLayout) (edit : SlotEdit) : Decidable (edit.Allowed layout) :=
  match edit with
  | write slot payload =>
      inferInstanceAs (Decidable (slot < layout.slots ∧ payload.size = layout.recordSize))
  | clear _ => inferInstanceAs (Decidable True)

/-- What becomes of a map from slots to payloads. -/
def on (map : Nat → Option Image) : SlotEdit → Nat → Option Image
  | write slot payload => Function.update map slot (some payload)
  | clear slot => Function.update map slot none

end SlotEdit

namespace SlotLayout

variable {layout : SlotLayout} {page payload : Image} {slot : Nat}

/-- Make an edit; to clear a slot that is free changes nothing. -/
def edit? (layout : SlotLayout) (page : Image) : SlotEdit → Except Fault Image
  | .write slot payload => layout.write? page slot payload
  | .clear slot => (layout.clear? page slot).map fun cleared => cleared.getD page

/-- Make some edits one after the other. -/
def editAll? (layout : SlotLayout) (page : Image) (edits : List SlotEdit) : Except Fault Image :=
  edits.foldlM layout.edit? page

section Edits

variable (fits : layout.Fits page.size)
include fits

/-- A write sets its slot in the map and nothing else. -/
lemma exists_write (exists_slot : slot < layout.slots) (whole : payload.size = layout.recordSize) :
    ∃ image, layout.write? page slot payload = .ok image ∧
      layout.payload? image = Function.update (layout.payload? page) slot (some payload) ∧
      layout.AgreesOutside slot image page := by
  refine ⟨_, write?_eq fits exists_slot whole, funext fun other => ?_,
    agreesOutside_exchanged fits exists_slot whole true⟩
  rw [exchanged, payload?_change fits exists_slot whole, Function.update_apply]
  simp only [eq_comm, if_true]

/-- A clear finds its slot in the map or changes nothing, and removes that slot and nothing else. -/
lemma exists_cleared (slot : Nat) :
    ∃ image, layout.clear? page slot = .ok image ∧
      (image.isSome = true ↔ layout.payload? page slot ≠ none) ∧
      ∀ cleared ∈ image,
        layout.payload? cleared = Function.update (layout.payload? page) slot none ∧
        layout.AgreesOutside slot cleared page := by
  refine ⟨_, clear?_eq fits slot, ?_, fun image given => ?_⟩
  · rw [← used_iff fits]
    split <;> simp_all
  · split at given
    · next used =>
      cases given
      have exists_slot := used.1
      refine ⟨funext fun other => ?_,
        agreesOutside_exchanged fits exists_slot (Image.size_zeros _) false⟩
      rw [(payload?_cleared fits used).2, Function.update_apply]
      simp only [eq_comm]
    · cases given

/-- What an allowed edit does: it does to the map what it should, and nothing else changes. -/
theorem exists_edit {edit : SlotEdit} (allowed : edit.Allowed layout) :
    ∃ image, layout.edit? page edit = .ok image ∧
      layout.payload? image = edit.on (layout.payload? page) ∧
      layout.AgreesOutside edit.slot image page := by
  cases edit with
  | write slot payload => exact exists_write fits allowed.1 allowed.2
  | clear slot =>
      obtain ⟨result, cleared, found, gone⟩ := exists_cleared fits slot
      cases result with
      | some image => exact ⟨image, by rw [edit?, cleared]; rfl, gone image rfl⟩
      | none =>
          -- the slot was not in the map, so that there was nothing to remove
          have absent : layout.payload? page slot = none := by simpa using found
          refine ⟨page, by rw [edit?, cleared]; rfl, ?_, rfl, fun _ _ _ => rfl, fun _ _ _ => rfl⟩
          exact (Function.update_eq_self_iff.mpr absent.symm).symm

/-- After allowed edits the map is what they make of it, one after the other. -/
theorem exists_editAll {edits : List SlotEdit} (allowed : ∀ edit ∈ edits, edit.Allowed layout) :
    ∃ image, layout.editAll? page edits = .ok image ∧ image.size = page.size ∧
      layout.payload? image = edits.foldl SlotEdit.on (layout.payload? page) := by
  induction edits generalizing page with
  | nil => exact ⟨page, rfl, rfl, rfl⟩
  | cons edit rest ih =>
      obtain ⟨middle, first, map, agrees⟩ := exists_edit fits (allowed edit List.mem_cons_self)
      have fits' : layout.Fits middle.size := agrees.size ▸ fits
      obtain ⟨image, others, size, final⟩ := ih fits' fun next later =>
        allowed next (List.mem_cons_of_mem _ later)
      refine ⟨image, ?_, size.trans agrees.size, ?_⟩
      · rw [editAll?, List.foldlM_cons, first]
        exact others
      · rw [final, map, List.foldl_cons]

end Edits

end SlotLayout

/-- **A slotted page is a map from slots to payloads.** Take any layout that is computed for a
record size and a page size, any page of that size, and any edits: writes of whole payloads to slots
of the layout, and clears of any slots. No edit is a fault, and the page that they lead to reads as
the map that they make of the one before. On that page a further write sets its slot in the map, a
clear tells whether its slot was in the map and then removes it, and each changes no byte outside
its slot and no other bit of the bitmap. The used slots are the domain of the map in ascending
order, and the first free slot is the least slot that is not in the map, if there is any. -/
theorem slotted_page_is_map {recordSize pageSize : Nat} {layout : SlotLayout}
    (computed : SlotLayout.ofSizes? recordSize pageSize = some layout) {page : Image}
    (whole : page.size = pageSize) {edits : List SlotEdit}
    (allowed : ∀ edit ∈ edits, edit.Allowed layout) :
    ∃ later : Image, layout.editAll? page edits = .ok later ∧ later.size = pageSize ∧
      let map := layout.payload? later
      map = edits.foldl SlotEdit.on (layout.payload? page) ∧
      (∀ slot, layout.read? later slot = .ok (map slot)) ∧
      (∀ slot payload, slot < layout.slots → payload.size = recordSize →
        ∃ image, layout.write? later slot payload = .ok image ∧
          layout.payload? image = Function.update map slot (some payload) ∧
          layout.AgreesOutside slot image later) ∧
      (∀ slot, ∃ image, layout.clear? later slot = .ok image ∧
        (image.isSome = true ↔ map slot ≠ none) ∧
        ∀ cleared ∈ image, layout.payload? cleared = Function.update map slot none ∧
          layout.AgreesOutside slot cleared later) ∧
      (∃ used, layout.usedSlots? later = .ok used ∧ used.Pairwise (· < ·) ∧
        ∀ slot, slot ∈ used ↔ map slot ≠ none) ∧
      ∃ free, layout.firstFree? later = .ok free ∧
        (∀ slot, free = some slot ↔
          slot < layout.slots ∧ map slot = none ∧ ∀ earlier < slot, map earlier ≠ none) ∧
        (free = none ↔ ∀ slot < layout.slots, map slot ≠ none) := by
  have fits := SlotLayout.fits_of_ofSizes? computed
  rw [← whole] at fits
  obtain ⟨later, done, size, final⟩ := SlotLayout.exists_editAll fits allowed
  have fits' : layout.Fits later.size := size ▸ fits
  have records : layout.recordSize = recordSize := SlotLayout.recordSize_of_ofSizes? computed
  refine ⟨later, done, size.trans whole, final, SlotLayout.read?_eq fits', ?_,
    SlotLayout.exists_cleared fits', SlotLayout.exists_usedSlots fits',
    SlotLayout.exists_leastFree fits'⟩
  rw [← records]
  exact fun slot payload exists_slot bytes => SlotLayout.exists_write fits' exists_slot bytes

/-- A page of four bytes with three slots of one byte, of which the second is used, and with the
bits beyond the last slot set. The first slot is filled, the second is cleared, and two clears find
nothing to remove: one of a slot that does not exist, one of the slot that was cleared before. -/
theorem slotted_page_is_map_spare_bits :
    let layout : SlotLayout := ⟨1, 3⟩
    let page : Image := #[0xfa, 7, 8, 9]
    let edits : List SlotEdit := [.write 0 #[5], .clear 1, .clear 7, .clear 1]
    SlotLayout.ofSizes? 1 4 = some layout ∧ (∀ edit ∈ edits, edit.Allowed layout) ∧
      layout.read? page 1 = .ok (some #[8]) ∧
      ∃ later, layout.editAll? page edits = .ok later ∧ layout.read? later 0 = .ok (some #[5]) ∧
        layout.read? later 1 = .ok none ∧ layout.firstFree? later = .ok (some 1) := by
  intro layout page edits
  have computed : SlotLayout.ofSizes? 1 4 = some layout := by decide
  have allowed : ∀ edit ∈ edits, edit.Allowed layout := by decide
  have before : layout.read? page 1 = .ok (some #[8]) := by decide
  obtain ⟨later, done, -, map, read, -, -, -, free, found, first, -⟩ :=
    slotted_page_is_map computed (show page.size = 4 from rfl) allowed
  have filled : layout.payload? later 0 = some #[5] := (congrFun map 0).trans (by decide)
  have removed : layout.payload? later 1 = none := (congrFun map 1).trans (by decide)
  have one : free = some 1 := by
    refine (first 1).mpr ⟨by decide, removed, fun earlier less => ?_⟩
    rw [Nat.lt_one_iff.mp less, filled]
    simp
  exact ⟨computed, allowed, before, later, done, (read 0).trans (congrArg Except.ok filled),
    (read 1).trans (congrArg Except.ok removed), one ▸ found⟩

end PageTxn
