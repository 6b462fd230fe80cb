import PageTxn.Proofs.SlotEdits

/-!
Canonical images: pages that hold nothing but their records.

* `SlotLayout.Canonical` says that everything on a page which is no record is zero: the bytes of
  free slots, the bits of the bitmap beyond the last slot, and the bytes behind it. A zeroed page is
  canonical, and edits keep it so (`Canonical.editAll`).
* `Canonical.ext`: canonical images of one size are equal if their maps are.
* `page_is_canonical`: what edits of a zeroed page lead to depends on its records alone.
-/

namespace PageTxn

namespace SlotLayout

variable {layout : SlotLayout} {page later other payload : Image} {slot : Nat}

/-- Everything on a page that is no record is zero. -/
structure Canonical (layout : SlotLayout) (page : Image) : Prop where
  free : ∀ slot < layout.slots, layout.payload? page slot = none →
    ∀ i, layout.offset slot ≤ i → i < layout.offset slot + layout.recordSize → page[i]? = some 0
  spare : ∀ bit, layout.slots ≤ bit → bit / 8 < layout.headerSize → page.bit? bit = .ok false
  padding : ∀ i, layout.offset layout.slots ≤ i → i < page.size → page[i]? = some 0

/-- A zeroed page holds nothing at all. -/
lemma canonical_zeros {size : Nat} (fits : layout.Fits size) :
    layout.Canonical (Image.zeros size) where
  free slot exists_slot _ i _ below := by
    have fits' : layout.Fits (Image.zeros size).size := by rwa [Image.size_zeros]
    have inside := offset_le fits' exists_slot
    rw [Image.size_zeros] at inside
    exact Image.getElem?_zeros (by omega)
  spare bit _ header := by
    rw [Fits] at fits
    exact Image.bit?_zeros (by omega)
  padding i _ inside := Image.getElem?_zeros (by rwa [Image.size_zeros] at inside)

/-- Edits leave nothing behind: a payload that is put into a slot is a record, and a slot that is
freed is zeroed. -/
lemma Canonical.exchanged (canonical : layout.Canonical page) (fits : layout.Fits page.size)
    (exists_slot : slot < layout.slots) (whole : payload.size = layout.recordSize) {used : Bool}
    (zeroed : used = false → payload = Image.zeros layout.recordSize) :
    layout.Canonical (layout.exchanged page slot payload used) := by
  have agrees := agreesOutside_exchanged fits exists_slot whole used
  have header := bit_lt_header exists_slot
  have bitmap_le : ∀ slot, layout.headerSize ≤ layout.offset slot := fun _ => Nat.le_add_right ..
  refine ⟨fun other exists_other absent i start below => ?_, fun bit beyond inside => ?_,
    fun i start below => ?_⟩
  · have above := bitmap_le other
    have change : layout.payload? (layout.exchanged page slot payload used) other =
        if slot = other then (if used then some payload else none)
        else layout.payload? page other := payload?_change fits exists_slot whole used other
    rw [absent] at change
    by_cases same : slot = other
    · -- the slot was freed, so that zeros were put into it
      subst same
      cases used with
      | true => simp at change
      | false =>
          have range := offset_le fits exists_slot
          have zeros := zeroed rfl
          subst zeros
          rw [SlotLayout.exchanged, Image.getElem?_setBit_of_ne _ (by omega),
            Image.getElem?_splice (by omega), if_pos (by omega)]
          exact Image.getElem?_zeros (by omega)
    · rw [if_neg same] at change
      rw [agrees.byte i (apart_of_ne same start below) (by omega)]
      exact canonical.free other exists_other change.symm i start below
  · rw [agrees.bit bit (by omega) inside]
    exact canonical.spare bit beyond inside
  · have above := bitmap_le layout.slots
    have behind := layout.offset_add_le exists_slot
    rw [agrees.size] at below
    rw [agrees.byte i (by omega) (by omega)]
    exact canonical.padding i start below

/-- An allowed edit keeps a page canonical. -/
lemma Canonical.edit (canonical : layout.Canonical page) (fits : layout.Fits page.size)
    {edit : SlotEdit} (allowed : edit.Allowed layout) (done : layout.edit? page edit = .ok later) :
    layout.Canonical later := by
  cases edit with
  | write slot payload =>
      rw [edit?, write?_eq fits allowed.1 allowed.2] at done
      cases done
      exact canonical.exchanged fits allowed.1 allowed.2 fun freed => absurd freed (by decide)
  | clear slot =>
      rw [edit?, clear?_eq fits] at done
      split at done
      · next used =>
        cases done
        exact canonical.exchanged fits used.1 (Image.size_zeros _) fun _ => rfl
      · cases done
        exact canonical

/-- So do allowed edits one after the other. -/
theorem Canonical.editAll (canonical : layout.Canonical page) (fits : layout.Fits page.size)
    {edits : List SlotEdit} (allowed : ∀ edit ∈ edits, edit.Allowed layout)
    (done : layout.editAll? page edits = .ok later) : layout.Canonical later := by
  induction edits generalizing page with
  | nil =>
      cases done
      exact canonical
  | cons edit rest ih =>
      have first_allowed := allowed edit List.mem_cons_self
      obtain ⟨middle, first, -, agrees⟩ := exists_edit fits first_allowed
      rw [editAll?, List.foldlM_cons, first] at done
      exact ih (canonical.edit fits first_allowed first) (agrees.size ▸ fits)
        (fun next later => allowed next (List.mem_cons_of_mem _ later)) done

/-! ### Equal maps, equal images -/

/-- Between the bitmap and the end of the last slot every byte belongs to a slot. -/
lemma exists_slot_at {i : Nat} (behind : layout.headerSize ≤ i)
    (before : i < layout.offset layout.slots) :
    ∃ slot < layout.slots, layout.offset slot ≤ i ∧ i < layout.offset slot + layout.recordSize := by
  rw [offset] at before
  have some_bytes : 0 < layout.recordSize := by
    by_contra none
    rw [Nat.eq_zero_of_not_pos none] at before
    omega
  have division := Nat.div_add_mod (i - layout.headerSize) layout.recordSize
  have rest := Nat.mod_lt (i - layout.headerSize) some_bytes
  refine ⟨(i - layout.headerSize) / layout.recordSize, ?_, ?_⟩
  · rw [Nat.div_lt_iff_lt_mul some_bytes]
    omega
  · rw [offset, Nat.mul_comm]
    omega

/-- The bytes of a used slot are its payload. -/
lemma getElem?_of_payload (fits : layout.Fits page.size)
    (held : layout.payload? page slot = some payload) {i : Nat} (start : layout.offset slot ≤ i)
    (below : i < layout.offset slot + layout.recordSize) :
    page[i]? = payload[i - layout.offset slot]? := by
  have exists_slot : slot < layout.slots := by
    by_contra absent
    rw [payload?_eq_none absent] at held
    cases held
  have inside := offset_le fits exists_slot
  obtain ⟨used, bit⟩ := exists_bit fits exists_slot
  rw [payload?_of_bit fits exists_slot bit] at held
  cases used with
  | false => cases held
  | true =>
      rw [← Option.some.inj held, Array.getElem?_extract, if_pos (by omega)]
      congr 1
      omega

/-- A canonical image is determined by its size and its map. -/
theorem Canonical.ext (first : layout.Canonical page) (second : layout.Canonical other)
    (fits : layout.Fits page.size) (size : other.size = page.size)
    (same : layout.payload? other = layout.payload? page) : other = page := by
  have fits' : layout.Fits other.size := size ▸ fits
  refine Array.ext_getElem? fun i => ?_
  by_cases bitmap : i < layout.headerSize
  · refine Image.getElem?_eq_of_bits fun bit place => ?_
    by_cases exists_slot : bit < layout.slots
    · rw [bit?_eq fits' exists_slot, bit?_eq fits exists_slot, same]
    · rw [first.spare bit (by omega) (by omega), second.spare bit (by omega) (by omega)]
  · by_cases record : i < layout.offset layout.slots
    · obtain ⟨slot, exists_slot, start, below⟩ := exists_slot_at (Nat.le_of_not_lt bitmap) record
      cases held : layout.payload? page slot with
      | none =>
          rw [first.free slot exists_slot held i start below,
            second.free slot exists_slot (by rw [same, held]) i start below]
      | some payload =>
          rw [getElem?_of_payload fits held start below,
            getElem?_of_payload fits' (by rw [same, held]) start below]
    · by_cases inside : i < page.size
      · rw [first.padding i (Nat.le_of_not_lt record) inside,
          second.padding i (Nat.le_of_not_lt record) (by omega)]
      · rw [Array.getElem?_eq_none (by omega), Array.getElem?_eq_none (by omega)]

/-- On a canonical image a free slot that is written and then cleared is as if nothing had been. -/
theorem Canonical.clear_written (canonical : layout.Canonical page) (fits : layout.Fits page.size)
    (exists_slot : slot < layout.slots) (free : layout.payload? page slot = none)
    (whole : payload.size = layout.recordSize) :
    ∃ written, layout.write? page slot payload = .ok written ∧
      layout.clear? written slot = .ok (some page) := by
  obtain ⟨written, done, map, agrees⟩ := exists_write fits exists_slot whole
  have fits' : layout.Fits written.size := agrees.size ▸ fits
  have held : layout.payload? written slot = some payload := by rw [map, Function.update_self]
  obtain ⟨result, gone, found, removed⟩ := exists_cleared fits' slot
  obtain ⟨image, given⟩ := Option.isSome_iff_exists.mp (found.mpr (by simp [held]))
  obtain ⟨map', agrees'⟩ := removed image given
  have canonical_written : layout.Canonical written := by
    have allowed : (SlotEdit.write slot payload).Allowed layout := ⟨exists_slot, whole⟩
    exact canonical.edit fits allowed done
  have canonical' : layout.Canonical image := by
    have allowed : (SlotEdit.clear slot).Allowed layout := trivial
    refine canonical_written.edit fits' allowed ?_
    rw [edit?, gone, given]
    rfl
  have back : layout.payload? image = layout.payload? page := by
    rw [map', map, Function.update_idem, ← free, Function.update_eq_self]
  obtain rfl := canonical.ext canonical' fits (agrees'.size.trans agrees.size) back
  exact ⟨written, done, by rw [gone, given]⟩

end SlotLayout

/-- **A page has one image for its records.** Take any layout that is computed for a record size and
a page size, a zeroed page of that size, and any edits of it: writes of whole payloads to slots of
the layout, and clears of any slots. Any other edits that lead to a page which reads the same, slot
for slot, lead to the same page, byte for byte. Everything on the page that is no record is zero,
and to write a free slot and to clear it again gives back the very same page. -/
theorem page_is_canonical {recordSize pageSize : Nat} {layout : SlotLayout}
    (computed : SlotLayout.ofSizes? recordSize pageSize = some layout) {edits : List SlotEdit}
    (allowed : ∀ edit ∈ edits, edit.Allowed layout) :
    ∃ page : Image, layout.editAll? (Image.zeros pageSize) edits = .ok page ∧
      page.size = pageSize ∧
      (∀ others : List SlotEdit, (∀ edit ∈ others, edit.Allowed layout) →
        ∃ other, layout.editAll? (Image.zeros pageSize) others = .ok other ∧
          ((∀ slot, layout.read? other slot = layout.read? page slot) → other = page)) ∧
      layout.Canonical page ∧
      ∀ slot < layout.slots, layout.read? page slot = .ok none →
        ∀ payload : Image, payload.size = recordSize →
          ∃ written, layout.write? page slot payload = .ok written ∧
            layout.clear? written slot = .ok (some page) := by
  have fits := SlotLayout.fits_of_ofSizes? computed
  have fits_zeros : layout.Fits (Image.zeros pageSize).size := by rwa [Image.size_zeros]
  have blank := SlotLayout.canonical_zeros fits
  have records : layout.recordSize = recordSize := SlotLayout.recordSize_of_ofSizes? computed
  obtain ⟨page, done, size, -⟩ := SlotLayout.exists_editAll fits_zeros allowed
  have canonical := blank.editAll fits_zeros allowed done
  have fits_page : layout.Fits page.size := size ▸ fits_zeros
  refine ⟨page, done, size.trans (Image.size_zeros _), fun others allowed' => ?_, canonical,
    fun slot exists_slot free payload whole => ?_⟩
  · obtain ⟨other, done', size', -⟩ := SlotLayout.exists_editAll fits_zeros allowed'
    have canonical' := blank.editAll fits_zeros allowed' done'
    refine ⟨other, done', fun same => canonical.ext canonical' fits_page (size'.trans size.symm) ?_⟩
    funext slot
    rw [SlotLayout.payload?, SlotLayout.payload?, same]
  · rw [SlotLayout.read?_eq fits_page] at free
    exact canonical.clear_written fits_page exists_slot (Except.ok.inj free)
      (whole.trans records.symm)

/-- A page of four bytes with three slots of one byte. Two ways lead to the page whose first slot
alone is used: to write it twice, with a write of another slot between that is cleared later, or to
write it once. -/
theorem page_is_canonical_two_ways :
    let layout : SlotLayout := ⟨1, 3⟩
    let edits : List SlotEdit := [.write 0 #[9], .write 2 #[7], .write 0 #[5], .clear 2, .clear 2]
    let others : List SlotEdit := [.write 0 #[5]]
    SlotLayout.ofSizes? 1 4 = some layout ∧ (∀ edit ∈ edits, edit.Allowed layout) ∧
      ∃ page, layout.editAll? (.zeros 4) edits = .ok page ∧
        layout.editAll? (.zeros 4) others = .ok page ∧
        ∃ written, layout.write? page 1 #[3] = .ok written ∧
          layout.clear? written 1 = .ok (some page) := by
  intro layout edits others
  have computed : SlotLayout.ofSizes? 1 4 = some layout := by decide
  have allowed : ∀ edit ∈ edits, edit.Allowed layout := by decide
  have same : layout.editAll? (.zeros 4) others = layout.editAll? (.zeros 4) edits := by decide
  obtain ⟨page, done, -, -, -, restored⟩ := page_is_canonical computed allowed
  have free : layout.read? page 1 = .ok none := by
    have page_eq : page = #[1, 5, 0, 0] := Except.ok.inj (done.symm.trans (by decide))
    rw [page_eq]
    decide
  exact ⟨computed, allowed, page, done, same.trans done, restored 1 (by decide) free #[3] rfl⟩

end PageTxn
