import PageTxn.Config
import PageTxn.Image

/-!
A file as a sequence of pages.

The bytes of a file are cut into pages from the start on; bytes behind the last
whole page belong to no page. `PageFile.read?` and `PageFile.write?` work on an
existing page, and `PageFile.append` adds a zeroed page behind the last one, over
the bytes that belong to none.

Page numbers are 32-bit words. The count of pages (`PageFile.count`) and the
number of an appended page are taken modulo that word size; whether a page
exists is decided on the true number of whole pages (`PageFile.wholePages`).
-/

namespace PageTxn.PageFile

/-- The number of whole pages. -/
def wholePages (bytes : Image) (size : PageSize) : Nat := bytes.size / size.bytes

/-- The number of pages as a 32-bit word. -/
def count (bytes : Image) (size : PageSize) : Nat := wholePages bytes size % UInt32.size

/-- The bytes of a page, if it exists. -/
def read? (bytes : Image) (size : PageSize) (number : Nat) : Option Image :=
  if number < wholePages bytes size then
    some (bytes.extract (number * size.bytes) (number * size.bytes + size.bytes))
  else none

/-- The file with `page` written from the start of an existing page on. -/
def write? (bytes : Image) (size : PageSize) (number : Nat) (page : Image) :
    Option Image :=
  if number < wholePages bytes size then some (bytes.splice (number * size.bytes) page)
  else none

/-- Append a zeroed page; the result tells its number. -/
def append (bytes : Image) (size : PageSize) : Nat × Image :=
  let number := count bytes size
  (number, bytes.splice (number * size.bytes) (Image.zeros size.bytes))

/-- A page exists exactly if its last byte does. -/
theorem lt_wholePages_iff {bytes : Image} {size : PageSize} {number : Nat} :
    number < wholePages bytes size ↔
      number * size.bytes + size.bytes ≤ bytes.size := by
  rw [wholePages, Nat.lt_iff_add_one_le, Nat.le_div_iff_mul_le size.bytes_pos,
    Nat.add_mul, Nat.one_mul]

/-- A page that can be read has the length of a page. -/
theorem size_of_read? {bytes page : Image} {size : PageSize} {number : Nat}
    (h : read? bytes size number = some page) : page.size = size.bytes := by
  unfold read? at h
  split at h
  · next inside =>
    have fits := lt_wholePages_iff.1 inside
    cases h
    simp only [Array.size_extract]
    omega
  · cases h

end PageTxn.PageFile
