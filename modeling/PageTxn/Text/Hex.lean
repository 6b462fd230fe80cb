import PageTxn.Image

/-!
Hexadecimal texts, in lower case.

* `Hex.ofImage` writes two digits a byte and `Hex.toImage?` reads them back
  (`Hex.toImage?_ofImage`).
* `Hex.ofWord` writes a 64-bit word with sixteen digits.
-/

namespace PageTxn.Hex

/-- The digit of a number below 16. -/
def digit (value : Nat) : Char :=
  if value < 10 then Char.ofNat (48 + value) else Char.ofNat (87 + value)

/-- The number that a digit stands for. -/
def value? (c : Char) : Option Nat :=
  if 48 ≤ c.toNat ∧ c.toNat ≤ 57 then some (c.toNat - 48)
  else if 97 ≤ c.toNat ∧ c.toNat ≤ 102 then some (c.toNat - 87)
  else none

/-- The digits of some bytes, the high one of each byte first. -/
def digits : List UInt8 → List Char
  | [] => []
  | byte :: rest => digit (byte.toNat / 16) :: digit (byte.toNat % 16) :: digits rest

/-- The bytes that some digits stand for; their number must be even. -/
def bytes? : List Char → Option (List UInt8)
  | [] => some []
  | [_] => none
  | high :: low :: rest =>
      match value? high, value? low, bytes? rest with
      | some h, some l, some bytes => some (UInt8.ofNat (16 * h + l) :: bytes)
      | _, _, _ => none

/-- The text of an image, two digits a byte. -/
def ofImage (image : Image) : String := String.ofList (digits image.toList)

/-- The image that a text of digits stands for. -/
def toImage? (text : String) : Option Image := (bytes? text.toList).map List.toArray

/-- The `count` lowest digits of a number. -/
def lowDigits (value : Nat) : Nat → List Char → List Char
  | 0, found => found
  | count + 1, found => lowDigits (value / 16) count (digit (value % 16) :: found)

/-- The text of a 64-bit word, always sixteen digits. -/
def ofWord (word : UInt64) : String := String.ofList (lowDigits word.toNat 16 [])

/-- A digit stands for the number it was written for. -/
theorem value?_digit {value : Nat} (h : value < 16) : value? (digit value) = some value := by
  have all : ∀ v : Fin 16, value? (digit v) = some v.val := by decide
  exact all ⟨value, h⟩

/-- Reading the digits of some bytes gives the bytes. -/
theorem bytes?_digits (bytes : List UInt8) : bytes? (digits bytes) = some bytes := by
  induction bytes with
  | nil => rfl
  | cons byte rest ih =>
      have small : byte.toNat < 256 := byte.toNat_lt
      have whole : 16 * (byte.toNat / 16) + byte.toNat % 16 = byte.toNat := by omega
      rw [digits, bytes?, value?_digit (by omega), value?_digit (by omega), ih]
      simp [whole]

/-- Reading the text of an image gives the image. -/
theorem toImage?_ofImage (image : Image) : toImage? (ofImage image) = some image := by
  simp [toImage?, ofImage, bytes?_digits]

end PageTxn.Hex
