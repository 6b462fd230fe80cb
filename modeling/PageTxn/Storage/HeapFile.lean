import PageTxn.Storage.Disk
import PageTxn.Storage.PageFile
import PageTxn.Storage.SlotLayout

/-!
Heap files: the records of one table in one file.

A `HeapFile` is a handle: the table, the slot layout, which is fixed when the
file is opened, and the place of the file. The bytes stay on the disk. A heap
file reads and writes whole pages by their number; the table of a page
identifier is only checked where records are located.
-/

namespace PageTxn

/-- The handle of a table's file. -/
structure HeapFile where
  table : TableId
  layout : SlotLayout
  file : Location
  deriving DecidableEq

namespace HeapFile

/-- The layout for a record size under the present page size. -/
def layoutFor (size : PageSize) (recordSize : Nat) : Except Error SlotLayout :=
  match SlotLayout.ofSizes? recordSize size.bytes with
  | some layout => .ok layout
  | none => .error (.unsupportedRecordSize recordSize size.bytes)

/-- Create a new, empty file. The record size is checked before the disk is
touched. -/
def create (disk : Disk) (size : PageSize) (path : DiskPath) (table : TableId)
    (recordSize : Nat) : Except Error (HeapFile × Disk) :=
  match layoutFor size recordSize with
  | .error error => .error error
  | .ok layout =>
      match disk.create path with
      | .ok (file, disk) => .ok (⟨table, layout, file⟩, disk)
      | .error cause => .error (.io cause)

/-- Open an existing file. The record size is checked first. -/
def openFile (disk : Disk) (size : PageSize) (path : DiskPath) (table : TableId)
    (recordSize : Nat) : Except Error (HeapFile × Disk) :=
  match layoutFor size recordSize with
  | .error error => .error error
  | .ok layout =>
      match disk.openFile path with
      | .ok file => .ok (⟨table, layout, file⟩, disk)
      | .error cause => .error (.io cause)

/-- Open a file if its path leads to anything, otherwise create it. -/
def openOrCreate (disk : Disk) (size : PageSize) (path : DiskPath) (table : TableId)
    (recordSize : Nat) : Except Error (HeapFile × Disk) :=
  if disk.contains path then openFile disk size path table recordSize
  else create disk size path table recordSize

/-- The identifier of a page of this file. -/
def page (heap : HeapFile) (number : Nat) : PageId := ⟨heap.table, number⟩

/-- The length of the file. -/
def fileSize (heap : HeapFile) (disk : Disk) : Nat := (disk.bytes heap.file).size

/-- The number of pages. -/
def pageCount (heap : HeapFile) (disk : Disk) (size : PageSize) : Nat :=
  PageFile.count (disk.bytes heap.file) size

/-- Read a page. -/
def readPage (heap : HeapFile) (disk : Disk) (size : PageSize) (page : PageId) :
    Except Error Image :=
  match PageFile.read? (disk.bytes heap.file) size page.number with
  | some image => .ok image
  | none => .error (.pageNotFound page)

/-- Write a page. -/
def writePage (heap : HeapFile) (disk : Disk) (size : PageSize) (page : PageId)
    (image : Image) : Except Error Disk :=
  match PageFile.write? (disk.bytes heap.file) size page.number image with
  | some bytes => .ok (disk.setBytes heap.file bytes)
  | none => .error (.pageNotFound page)

/-- Append a zeroed page; the result tells its number. -/
def appendPage (heap : HeapFile) (disk : Disk) (size : PageSize) : Nat × Disk :=
  let (number, bytes) := PageFile.append (disk.bytes heap.file) size
  (number, disk.setBytes heap.file bytes)

end HeapFile

end PageTxn
