import Mathlib.Algebra.Order.Floor.Div
import Mathlib.GroupTheory.GroupAction.Ring
import Mathlib.Order.Interval.Finset.Nat
import PageTxn.Proofs.SlotMap

/-!
How many slots a page has, and where they lie.

* `SlotLayout.le_slots_iff`: a number of slots is at most the computed one exactly if that many
  records and their bitmap, rounded up to whole bytes, fit on the page. So the rounding neither
  overruns the page nor wastes a slot.
* `slots_pos_iff`: there is a slot exactly if one record and one byte of the bitmap fit.
* `SlotLayout.span` is the range of bytes of one part of a page, the bitmap or a slot. The parts of
  a layout have no byte in common (`disjoint_span`).
* `layout_is_optimal` puts this together.
-/

namespace PageTxn.SlotLayout

variable {layout : SlotLayout} {recordSize pageSize : Nat}

/-! ### The number of slots -/

/-- That many slots and their bitmap fit exactly if the bits that they need do. The bits that the
last byte of the bitmap has to spare make no difference, as slots end at whole bytes. -/
lemma le_slots_iff (recordSize pageSize count : Nat) :
    count ≤ 8 * pageSize / (8 * recordSize + 1) ↔ count ⌈/⌉ 8 + count * recordSize ≤ pageSize := by
  have bytes : count ⌈/⌉ 8 ≤ pageSize - count * recordSize ↔
      count ≤ 8 * (pageSize - count * recordSize) := ceilDiv_le_iff_le_mul (by decide)
  have bits : count * (8 * recordSize + 1) = 8 * (count * recordSize) + count := by
    rw [Nat.mul_add, Nat.mul_one, Nat.mul_left_comm]
  rw [Nat.le_div_iff_mul_le (Nat.succ_pos _), bits]
  constructor
  · intro enough
    have rounded := bytes.mpr (by omega)
    omega
  · intro enough
    have needed := bytes.mp (by omega)
    omega

/-- There is a slot exactly if one record and one byte of the bitmap fit. -/
lemma slots_pos_iff : 0 < 8 * pageSize / (8 * recordSize + 1) ↔ 1 + recordSize ≤ pageSize := by
  have one := le_slots_iff recordSize pageSize 1
  have single : 1 ⌈/⌉ 8 = 1 := rfl
  rwa [single, Nat.one_mul] at one

/-- A layout is computed exactly if records have bytes and one of them fits. -/
lemma exists_ofSizes? : (∃ layout, ofSizes? recordSize pageSize = some layout) ↔
    0 < recordSize ∧ 1 + recordSize ≤ pageSize := by
  rw [← slots_pos_iff, Nat.pos_iff_ne_zero, Nat.pos_iff_ne_zero]
  simp [ofSizes?]

/-- A layout has the computed number of slots. -/
lemma slots_of_ofSizes? (computed : ofSizes? recordSize pageSize = some layout) :
    layout.slots = 8 * pageSize / (8 * recordSize + 1) := by
  rw [ofSizes?] at computed
  split at computed
  · cases computed
  · cases computed
    rfl

/-! ### Where the parts of a page lie -/

/-- The bytes of one part of a page: the bitmap, or a slot. -/
def span (layout : SlotLayout) : Option Nat → Finset Nat
  | none => Finset.range layout.headerSize
  | some slot => Finset.Ico (layout.offset slot) (layout.offset slot + layout.recordSize)

/-- The bitmap, and the slots of a layout. -/
def IsPart (layout : SlotLayout) (part : Option Nat) : Prop := ∀ slot ∈ part, slot < layout.slots

/-- Different parts of a page have no byte in common. -/
lemma disjoint_span {part other : Option Nat} (apart : part ≠ other) :
    Disjoint (layout.span part) (layout.span other) := by
  -- the slots begin where the bitmap ends
  have behind : ∀ slot, Disjoint (layout.span none) (layout.span (some slot)) := by
    intro slot
    refine Finset.disjoint_left.mpr fun i inside inside' => ?_
    have first := Finset.mem_range.mp inside
    have later := (Finset.mem_Ico.mp inside').1
    rw [offset] at later
    omega
  cases part with
  | none =>
      cases other with
      | none => exact absurd rfl apart
      | some slot => exact behind slot
  | some slot =>
      cases other with
      | none => exact (behind slot).symm
      | some another =>
          have different : slot ≠ another := fun same => apart (congrArg some same)
          refine Finset.disjoint_left.mpr fun i inside inside' => ?_
          obtain ⟨start, below⟩ := Finset.mem_Ico.mp inside'
          exact apart_of_ne different start below (Finset.mem_Ico.mp inside)

/-- The parts of a layout that fits lie on the page. -/
lemma span_subset {size : Nat} (fits : layout.Fits size) {part : Option Nat}
    (exists_part : layout.IsPart part) : layout.span part ⊆ Finset.range size := by
  intro i inside
  rw [Fits] at fits
  refine Finset.mem_range.mpr ?_
  cases part with
  | none =>
      have below := Finset.mem_range.mp inside
      omega
  | some slot =>
      have ends : layout.offset slot + layout.recordSize ≤
          layout.headerSize + layout.slots * layout.recordSize :=
        layout.offset_add_le (exists_part slot rfl)
      have below := (Finset.mem_Ico.mp inside).2
      omega

/-! ### Layouts are safe and waste nothing -/

/-- **Layouts are safe and waste nothing.** A layout is computed exactly if records have bytes and
one of them fits on the page with one byte of the bitmap. Its slots are as many as fit with their
bitmap, rounded up to whole bytes; each has the bytes of a record, and bitmap and slots lie on the
page and have no byte in common. -/
theorem layout_is_optimal (recordSize pageSize : Nat) :
    ((∃ layout, ofSizes? recordSize pageSize = some layout) ↔
        0 < recordSize ∧ 1 + recordSize ≤ pageSize) ∧
      ∀ layout, ofSizes? recordSize pageSize = some layout →
        IsGreatest {count | count ⌈/⌉ 8 + count * recordSize ≤ pageSize} layout.slots ∧
        (layout.span none).card = layout.slots ⌈/⌉ 8 ∧
        (∀ slot, (layout.span (some slot)).card = recordSize) ∧
        {part | layout.IsPart part}.PairwiseDisjoint layout.span ∧
        ∀ part, layout.IsPart part → layout.span part ⊆ Finset.range pageSize := by
  refine ⟨exists_ofSizes?, fun layout computed => ⟨⟨?_, fun count enough => ?_⟩, ?_,
    fun slot => ?_, fun part _ other _ => disjoint_span,
    fun part => span_subset (fits_of_ofSizes? computed)⟩⟩
  · exact (le_slots_iff ..).mp (Nat.le_of_eq (slots_of_ofSizes? computed))
  · rw [slots_of_ofSizes? computed]
    exact (le_slots_iff ..).mpr enough
  · rw [span, Finset.card_range, headerSize, Nat.ceilDiv_eq_add_pred_div]
    rfl
  · rw [span, Nat.card_Ico, Nat.add_sub_cancel_left, recordSize_of_ofSizes? computed]

/-- With records of one byte a page of 19 bytes has 16 slots and a bitmap of two full bytes, and one
byte is left over. A page of 20 bytes has 17 slots, and its bitmap has three bytes. -/
theorem layout_is_optimal_rounding :
    ofSizes? 1 19 = some ⟨1, 16⟩ ∧ ofSizes? 1 20 = some ⟨1, 17⟩ ∧
      IsGreatest {count | count ⌈/⌉ 8 + count * 1 ≤ 19} 16 ∧
      IsGreatest {count | count ⌈/⌉ 8 + count * 1 ≤ 20} 17 ∧
      {part | IsPart ⟨1, 17⟩ part}.PairwiseDisjoint (span ⟨1, 17⟩) :=
  ⟨rfl, rfl, ((layout_is_optimal 1 19).2 _ rfl).1, ((layout_is_optimal 1 20).2 _ rfl).1,
    ((layout_is_optimal 1 20).2 _ rfl).2.2.2.1⟩

end PageTxn.SlotLayout
