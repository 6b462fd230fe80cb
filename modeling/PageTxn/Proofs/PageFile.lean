import Mathlib.Tactic.Common
import PageTxn.Storage.PageFile

/-!
What writing and appending do to the pages of a file.

* `Image.getElem?_splice_of_lt` reads the bytes up to the end of a replaced range, also if
  the range reaches beyond the end of the image.
* `read?_splice`: writing a page changes that page and no other.
* `wholePages_append` and `read?_append`: appending adds one zeroed page behind the others,
  over the bytes that belonged to no page.
-/

namespace PageTxn

/-- Up to the end of a replaced range the new bytes stand inside it and the old ones before
it. -/
lemma Image.getElem?_splice_of_lt {image bytes : Image} {start : Nat}
    (inside : start ≤ image.size) {i : Nat} (h : i < start + bytes.size) :
    (image.splice start bytes)[i]? = if start ≤ i then bytes[i - start]? else image[i]? := by
  have front : (image.extract 0 start).size = start := by
    rw [Array.size_extract]
    omega
  have covered : i < (image.extract 0 start ++ bytes).size := by
    rw [Array.size_append, front]
    exact h
  rw [Image.splice, Array.getElem?_append_left covered, Array.getElem?_append, front]
  by_cases before : i < start
  · rw [if_pos before, if_neg (by omega), Array.getElem?_extract, if_pos (by omega), Nat.zero_add]
  · rw [if_neg before, if_pos (by omega)]

/-- A replaced range that reaches the end of the image becomes its end. -/
lemma Image.size_splice_of_le {image bytes : Image} {start : Nat}
    (inside : start ≤ image.size) (h : image.size ≤ start + bytes.size) :
    (image.splice start bytes).size = start + bytes.size := by
  rw [Image.splice, Array.size_append, Array.size_append, Array.size_extract,
    Array.size_extract]
  omega

namespace PageFile

variable {bytes page : Image} {size : PageSize}

/-- The bytes of an existing page, one by one. -/
lemma getElem?_page {number : Nat} (exists_page : number < wholePages bytes size) (i : Nat) :
    (bytes.extract (number * size.bytes) (number * size.bytes + size.bytes))[i]? =
      if i < size.bytes then bytes[number * size.bytes + i]? else none := by
  have fits := lt_wholePages_iff.mp exists_page
  rw [Array.getElem?_extract]
  by_cases h : i < size.bytes
  · rw [if_pos h, if_pos (by omega)]
  · rw [if_neg h, if_neg (by omega)]

/-- Different pages have no byte in common. -/
lemma outside_of_ne {number other i : Nat} (apart : number ≠ other) (h : i < size.bytes) :
    ¬ (number * size.bytes ≤ other * size.bytes + i ∧
      other * size.bytes + i < number * size.bytes + size.bytes) := by
  rcases Nat.lt_or_gt_of_ne apart with less | more
  · have step : (number + 1) * size.bytes ≤ other * size.bytes := Nat.mul_le_mul_right _ less
    rw [Nat.add_mul, Nat.one_mul] at step
    omega
  · have step : (other + 1) * size.bytes ≤ number * size.bytes := Nat.mul_le_mul_right _ more
    rw [Nat.add_mul, Nat.one_mul] at step
    omega

/-- Writing a page keeps the number of pages. -/
lemma wholePages_splice {number : Nat} (exists_page : number < wholePages bytes size)
    (whole : page.size = size.bytes) :
    wholePages (bytes.splice (number * size.bytes) page) size = wholePages bytes size := by
  have fits := lt_wholePages_iff.mp exists_page
  rw [wholePages, wholePages, Image.size_splice (by omega)]

/-- Writing a page changes that page and no other. -/
theorem read?_splice {number : Nat} (exists_page : number < wholePages bytes size)
    (whole : page.size = size.bytes) (other : Nat) :
    read? (bytes.splice (number * size.bytes) page) size other =
      if number = other then some page else read? bytes size other := by
  have fits := lt_wholePages_iff.mp exists_page
  have range : number * size.bytes + page.size ≤ bytes.size := by omega
  have count := wholePages_splice exists_page whole
  rw [read?, read?]
  rw [count]
  by_cases there : other < wholePages bytes size
  · rw [if_pos there, if_pos there]
    by_cases same : number = other
    · -- the page that was written
      subst same
      rw [if_pos rfl]
      congr 1
      refine Array.ext_getElem? fun i => ?_
      rw [getElem?_page (by rw [count]; exact there)]
      by_cases h : i < size.bytes
      · rw [if_pos h, Image.getElem?_splice range, if_pos (by omega), Nat.add_sub_cancel_left]
      · rw [if_neg h, Array.getElem?_eq_none (by omega)]
    · -- another page
      rw [if_neg same]
      congr 1
      refine Array.ext_getElem? fun i => ?_
      rw [getElem?_page (by rw [count]; exact there), getElem?_page there]
      by_cases h : i < size.bytes
      · rw [if_pos h, if_pos h, Image.getElem?_splice range, whole,
          if_neg (outside_of_ne same h)]
      · rw [if_neg h, if_neg h]
  · have same : number ≠ other := fun e => there (e ▸ exists_page)
    rw [if_neg there, if_neg there, if_neg same]

/-! ### Appending -/

/-- The bytes that belong to no page are fewer than a page has. -/
lemma size_lt_end (bytes : Image) (size : PageSize) :
    wholePages bytes size * size.bytes ≤ bytes.size ∧
      bytes.size < wholePages bytes size * size.bytes + size.bytes := by
  have division := Nat.div_add_mod bytes.size size.bytes
  have rest := Nat.mod_lt bytes.size size.bytes_pos
  rw [Nat.mul_comm] at division
  rw [wholePages]
  omega

/-- The file after a page was appended, as long as the pages can be counted. -/
lemma append_eq (room : wholePages bytes size < UInt32.size) :
    append bytes size =
      (wholePages bytes size,
        bytes.splice (wholePages bytes size * size.bytes) (Image.zeros size.bytes)) := by
  rw [append, count]
  rw [Nat.mod_eq_of_lt room]

/-- Appending adds one page. -/
lemma wholePages_append (room : wholePages bytes size < UInt32.size) :
    wholePages (append bytes size).2 size = wholePages bytes size + 1 := by
  obtain ⟨before, behind⟩ := size_lt_end bytes size
  have length : (bytes.splice (wholePages bytes size * size.bytes) (.zeros size.bytes)).size =
      wholePages bytes size * size.bytes + (Image.zeros size.bytes).size :=
    Image.size_splice_of_le before (by rw [Image.size_zeros]; omega)
  rw [Image.size_zeros] at length
  rw [append_eq room, wholePages, length, Nat.add_div_right _ size.bytes_pos,
    Nat.mul_div_cancel _ size.bytes_pos]

/-- Appending adds a zeroed page behind the others and changes none of these. -/
theorem read?_append (room : wholePages bytes size < UInt32.size) (other : Nat) :
    read? (append bytes size).2 size other =
      if wholePages bytes size = other then some (Image.zeros size.bytes)
      else read? bytes size other := by
  obtain ⟨before, behind⟩ := size_lt_end bytes size
  have count := wholePages_append room
  have zeros := Image.size_zeros size.bytes
  rw [read?, read?]
  rw [count]
  by_cases same : wholePages bytes size = other
  · -- the page that was appended
    rw [if_pos same, if_pos (by omega)]
    congr 1
    refine Array.ext_getElem? fun i => ?_
    rw [getElem?_page (by rw [count]; omega), append_eq room, ← same]
    by_cases h : i < size.bytes
    · rw [if_pos h, Image.getElem?_splice_of_lt before (by omega), if_pos (by omega),
        Nat.add_sub_cancel_left]
    · rw [if_neg h, Array.getElem?_eq_none (by omega)]
  · rw [if_neg same]
    by_cases there : other < wholePages bytes size
    · rw [if_pos there, if_pos (by omega)]
      congr 1
      refine Array.ext_getElem? fun i => ?_
      rw [getElem?_page (by rw [count]; omega), getElem?_page there, append_eq room]
      have step : (other + 1) * size.bytes ≤ wholePages bytes size * size.bytes :=
        Nat.mul_le_mul_right _ there
      rw [Nat.add_mul, Nat.one_mul] at step
      by_cases h : i < size.bytes
      · rw [if_pos h, if_pos h, Image.getElem?_splice_of_lt before (by omega),
          if_neg (by omega)]
      · rw [if_neg h, if_neg h]
    · rw [if_neg there, if_neg (by omega)]

end PageFile

end PageTxn
