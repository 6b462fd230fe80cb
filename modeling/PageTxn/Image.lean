import PageTxn.Error

/-!
Images: the bytes of a page or of a file.

* `Image.overwrite?` replaces a range that must lie inside the image,
  `Image.splice` is the same replacement without the check (bytes beyond the
  end make the image grow), and `Image.slice?` reads a range.
* `Image.bit?` and `Image.setBit` read and write single bits, the lowest bit of
  a byte first.

The lemmas say what each operation does to the length, to every byte and to
every bit.
-/

namespace PageTxn

/-- The bytes of a page or of a file. -/
abbrev Image := Array UInt8

namespace Image

/-! ### Ranges of bytes -/

/-- The image of `size` zero bytes. -/
def zeros (size : Nat) : Image := Array.replicate size 0

/-- Replace the bytes from `start` on by `bytes`. The image grows if they reach
beyond its end. -/
def splice (image : Image) (start : Nat) (bytes : Image) : Image :=
  image.extract 0 start ++ bytes ++ image.extract (start + bytes.size) image.size

/-- Replace the bytes from `start` on by `bytes`, which must end inside the
image. -/
def overwrite? (image : Image) (start : Nat) (bytes : Image) : Except Fault Image :=
  if start + bytes.size ≤ image.size then .ok (image.splice start bytes)
  else .error .outOfBounds

/-- The `length` bytes from `start` on, which must lie inside the image. -/
def slice? (image : Image) (start length : Nat) : Except Fault Image :=
  if start + length ≤ image.size then .ok (image.extract start (start + length))
  else .error .outOfBounds

/-- The zeroed image of `size` bytes with `bytes` at its start. -/
def startingWith? (size : Nat) (bytes : Image) : Except Fault Image :=
  (zeros size).overwrite? 0 bytes

/-- Overwrite the whole image with one of the same length. -/
def copyFrom? (image source : Image) : Except Fault Image :=
  if source.size = image.size then .ok source else .error .lengthMismatch

@[simp]
theorem size_zeros (size : Nat) : (zeros size).size = size := by
  simp [zeros]

/-- Replacing bytes inside an image keeps its length. -/
theorem size_splice {image bytes : Image} {start : Nat}
    (h : start + bytes.size ≤ image.size) :
    (image.splice start bytes).size = image.size := by
  simp only [splice, Array.size_append, Array.size_extract]
  omega

/-- Inside the replaced range the new bytes stand, outside it the old ones. -/
theorem getElem?_splice {image bytes : Image} {start : Nat}
    (h : start + bytes.size ≤ image.size) (i : Nat) :
    (image.splice start bytes)[i]? =
      if start ≤ i ∧ i < start + bytes.size then bytes[i - start]? else image[i]? := by
  have front : (image.extract 0 start).size = start := by
    simp only [Array.size_extract]; omega
  have middle : (image.extract 0 start ++ bytes).size = start + bytes.size := by
    simp only [Array.size_append, front]
  rw [splice, Array.getElem?_append, Array.getElem?_append, middle, front]
  by_cases h1 : i < start
  · -- before the range
    rw [if_pos (by omega), if_pos h1, if_neg (by omega), Array.getElem?_extract,
      if_pos (by omega), Nat.zero_add]
  · by_cases h2 : i < start + bytes.size
    · -- inside the range
      rw [if_pos h2, if_neg h1, if_pos (by omega)]
    · -- behind the range
      rw [if_neg h2, if_neg (by omega), Array.getElem?_extract]
      by_cases h3 : i < image.size
      · rw [if_pos (by omega)]
        congr 1
        omega
      · rw [if_neg (by omega), Array.getElem?_eq_none (by omega)]

/-- A permitted replacement keeps the length. -/
theorem size_of_overwrite? {image bytes result : Image} {start : Nat}
    (h : image.overwrite? start bytes = .ok result) : result.size = image.size := by
  unfold overwrite? at h
  split at h
  · next inside =>
    cases h
    exact size_splice inside
  · cases h

/-! ### Bits -/

/-- The bit `i` of an image, counted from the lowest bit of the first byte. -/
def bit? (image : Image) (i : Nat) : Except Fault Bool :=
  match image[i / 8]? with
  | some byte => .ok (byte.toNat.testBit (i % 8))
  | none => .error .outOfBounds

/-- The byte whose bit `i` alone is set. -/
def mask (i : Nat) : UInt8 := UInt8.ofNat (1 <<< i)

/-- Set or clear the bit `i` of an image. -/
def setBit (image : Image) (i : Nat) (value : Bool) : Image :=
  image.modify (i / 8) fun byte =>
    if value then byte ||| mask (i % 8) else byte &&& ~~~ mask (i % 8)

/-- Writing a bit keeps the length. -/
@[simp]
theorem size_setBit (image : Image) (i : Nat) (value : Bool) :
    (image.setBit i value).size = image.size := by
  simp [setBit]

/-- A mask has its one bit and no other. -/
theorem testBit_mask {i j : Nat} (hi : i < 8) (hj : j < 8) :
    (mask i).toNat.testBit j = decide (i = j) := by
  have all : ∀ i j : Fin 8, (mask i).toNat.testBit j = decide (i.val = j.val) := by
    decide
  exact all ⟨i, hi⟩ ⟨j, hj⟩

/-- The complement of a mask lacks its one bit and has every other. -/
theorem testBit_not_mask {i j : Nat} (hi : i < 8) (hj : j < 8) :
    (~~~ mask i).toNat.testBit j = !decide (i = j) := by
  have all : ∀ i j : Fin 8, (~~~ mask i).toNat.testBit j = !decide (i.val = j.val) := by
    decide
  exact all ⟨i, hi⟩ ⟨j, hj⟩

/-- Writing a bit of the image changes that bit and no other. -/
theorem bit?_setBit {image : Image} {i : Nat} (inside : i / 8 < image.size)
    (value : Bool) (j : Nat) :
    (image.setBit i value).bit? j = if i = j then .ok value else image.bit? j := by
  have hi := Nat.mod_lt i (show 0 < 8 by decide)
  have hj := Nat.mod_lt j (show 0 < 8 by decide)
  simp only [bit?, setBit, Array.getElem?_modify]
  by_cases same : i / 8 = j / 8
  · -- both bits are in one byte
    rw [if_pos same, ← same, Array.getElem?_eq_getElem inside]
    have position : i % 8 = j % 8 ↔ i = j := by omega
    by_cases h : i = j
    · have h' := position.2 h
      cases value <;>
        simp [-UInt8.toNat_not, h, ← h', UInt8.toNat_and, UInt8.toNat_or, testBit_mask hi hi,
          testBit_not_mask hi hi]
    · have h' : i % 8 ≠ j % 8 := fun e => h (position.1 e)
      cases value <;>
        simp [-UInt8.toNat_not, h, h', UInt8.toNat_and, UInt8.toNat_or, testBit_mask hi hj,
          testBit_not_mask hi hj]
  · have h : i ≠ j := fun e => same (by rw [e])
    rw [if_neg same, if_neg h]

end Image

end PageTxn
