import PageTxn.Proofs.Storage

/-!
A file as an array of pages.

* `PageFile.pages` cuts the bytes of a file into its pages, and `FileChange.on` is what a change of
  the file is to do to them.
* `Disk.openFile_setBytes`: a path that leads to a file still leads to it when the file has other
  bytes; `Storage.Leads` says so of one storage and a later one.
* `Storage.changeAll_eq`: changes through any handles of a file make of its pages what they are to
  make of them, and the paths to the file still lead to it.
* `page_file_is_array`: what reading, writing and appending do, and that a handle which is opened
  later reads what was written last.
-/

namespace PageTxn

/-! ### The pages of a file -/

namespace PageFile

variable {bytes page : Image} {size : PageSize} {number : Nat}

/-- The pages of a file, one after the other. -/
def pages (bytes : Image) (size : PageSize) : List Image :=
  (List.range (wholePages bytes size)).map fun number =>
    bytes.extract (number * size.bytes) (number * size.bytes + size.bytes)

@[simp]
lemma length_pages : (pages bytes size).length = wholePages bytes size := by
  rw [pages, List.length_map, List.length_range]

/-- To read a page is to look it up. -/
lemma getElem?_pages : (pages bytes size)[number]? = read? bytes size number := by
  rw [pages, read?, List.getElem?_map]
  split
  · next inside => rw [List.getElem?_range inside, Option.map_some]
  · next outside =>
    rw [List.getElem?_eq_none (by rw [List.length_range]; omega), Option.map_none]

/-- To write a page is to set it. -/
lemma pages_splice (exists_page : number < wholePages bytes size)
    (whole : page.size = size.bytes) :
    pages (bytes.splice (number * size.bytes) page) size = (pages bytes size).set number page := by
  refine List.ext_getElem? fun other => ?_
  rw [getElem?_pages, read?_splice exists_page whole, List.getElem?_set, getElem?_pages,
    length_pages, if_pos exists_page]

/-- To append a page is to put zeros behind the others. -/
lemma pages_append (room : wholePages bytes size < UInt32.size) :
    pages (append bytes size).2 size = pages bytes size ++ [Image.zeros size.bytes] := by
  refine List.ext_getElem? fun other => ?_
  rw [getElem?_pages, read?_append room, List.getElem?_append, getElem?_pages, length_pages]
  rcases Nat.lt_trichotomy other (wholePages bytes size) with less | rfl | more
  · rw [if_neg (by omega), if_pos less]
  · rw [if_pos rfl, if_neg (Nat.lt_irrefl _), Nat.sub_self]
    rfl
  · rw [if_neg (by omega), if_neg (by omega), read?, if_neg (by omega),
      List.getElem?_eq_none (by rw [List.length_singleton]; omega)]

/-- Writing a page leaves the bytes that belong to no page alone. -/
lemma getElem?_splice_of_ge (exists_page : number < wholePages bytes size)
    (whole : page.size = size.bytes) {i : Nat} (behind : wholePages bytes size * size.bytes ≤ i) :
    (bytes.splice (number * size.bytes) page)[i]? = bytes[i]? := by
  have fits := lt_wholePages_iff.mp exists_page
  have step : (number + 1) * size.bytes ≤ wholePages bytes size * size.bytes :=
    Nat.mul_le_mul_right _ exists_page
  rw [Nat.add_mul, Nat.one_mul] at step
  rw [Image.getElem?_splice (by omega), if_neg (by omega)]

end PageFile

/-! ### Paths to a file -/

namespace Disk

variable {disk : Disk} {place : Location} {path : DiskPath}

/-- A path opens the file at its place, if one stands there. -/
lemma openFile_eq_ok_iff : disk.openFile path = .ok place ↔
    disk.locate path = .ok place ∧ path.closed = false ∧
      ∃ bytes, disk.entry? place = some (.file bytes) := by
  rw [openFile, find]
  cases located : disk.locate path with
  | error cause => simp [bind, Except.bind]
  | ok there =>
      rcases entry : disk.entry? there with _ | _ | _ <;> cases closed : path.closed <;>
        simp [bind, Except.bind, pure, Except.pure, throw, throwThe, MonadExceptOf.throw, entry]
      -- what is left is about the entry at the place that was located
      all_goals
        rintro rfl
        simp [entry]

/-- What stands at a place when a file has other bytes. -/
lemma entry?_setBytes {old : Image} (there : disk.entry? place = some (.file old)) (bytes : Image)
    (other : Location) : Disk.entry? (disk.setBytes place bytes) other =
      if place = other then some (.file bytes) else disk.entry? other := by
  have inner : place.isOuter = false := by
    cases outer : place.isOuter with
    | false => rfl
    | true => simp [ entry?, outer] at there
  by_cases same : place = other
  · subst same
    simp [ entry?, setBytes, inner]
  · simp [ entry?, setBytes, Std.ExtTreeMap.getElem?_insert, same]

/-- The ways through directories do not change with the bytes of a file. -/
lemma enter_setBytes {old : Image} (there : disk.entry? place = some (.file old)) (bytes : Image)
    (directory : Location) (way : List String) :
    (disk.setBytes place bytes).enter directory way = disk.enter directory way := by
  induction way generalizing directory with
  | nil => rfl
  | cons name rest ih =>
      simp only [enter, entry?_setBytes there, ih]
      by_cases same : place = directory.step name
      · -- the file bars the way, whatever its bytes are
        rw [if_pos same, ← same, there]
      · rw [if_neg same]

/-- A path that leads to a file still leads to it when the file has other bytes. -/
theorem openFile_setBytes (opened : disk.openFile path = .ok place) (bytes : Image) :
    (disk.setBytes place bytes).openFile path = .ok place := by
  obtain ⟨located, file, old, there⟩ := openFile_eq_ok_iff.mp opened
  refine openFile_eq_ok_iff.mpr ⟨?_, file, bytes, ?_⟩
  · rw [locate, enter_setBytes there]
    exact located
  · rw [entry?_setBytes there, if_pos rfl]

end Disk

/-! ### Changes of a file -/

/-- A change of a file through a handle. -/
inductive FileChange where
  | write (heap : HeapFile) (page : PageId) (image : Image)
  | append (heap : HeapFile)
  deriving DecidableEq

namespace FileChange

/-- The file at a place is changed, and images that are written have the length of a page. -/
def Allowed (size : PageSize) (place : Location) : FileChange → Prop
  | write heap _ image => heap.file = place ∧ image.size = size.bytes
  | append heap => heap.file = place

/-- The number of the page that is written. -/
def number? : FileChange → Option Nat
  | write _ page _ => some page.number
  | append _ => none

/-- What a change does to an array of pages. A page that does not exist is not written. -/
def on (size : PageSize) (pages : List Image) : FileChange → List Image
  | write _ page image => pages.set page.number image
  | append _ => pages ++ [Image.zeros size.bytes]

/-- No change takes a page away. -/
lemma length_le_on (size : PageSize) (pages : List Image) (change : FileChange) :
    pages.length ≤ (change.on size pages).length := by
  cases change with
  | write heap page image => exact Nat.le_of_eq List.length_set.symm
  | append heap =>
      rw [on, List.length_append]
      exact Nat.le_add_right ..

lemma length_le_foldl (size : PageSize) (pages : List Image) (changes : List FileChange) :
    pages.length ≤ (changes.foldl (on size) pages).length := by
  induction changes generalizing pages with
  | nil => exact Nat.le_refl _
  | cons change rest ih => exact Nat.le_trans (length_le_on size pages change) (ih _)

/-- A page stays as it is until it is written. -/
lemma getElem?_foldl {size : PageSize} {pages : List Image} {changes : List FileChange}
    {number : Nat} (exists_page : number < pages.length)
    (spared : ∀ change ∈ changes, change.number? ≠ some number) :
    (changes.foldl (on size) pages)[number]? = pages[number]? := by
  induction changes generalizing pages with
  | nil => rfl
  | cons change rest ih =>
      have still : number < (change.on size pages).length :=
        Nat.lt_of_lt_of_le exists_page (length_le_on ..)
      have later := ih still fun next inside => spared next (List.mem_cons_of_mem _ inside)
      rw [List.foldl_cons, later]
      cases change with
      | write heap page image =>
          have apart : page.number ≠ number := fun same =>
            spared _ List.mem_cons_self (congrArg some same)
          rw [on, List.getElem?_set_ne apart]
      | append heap => rw [on, List.getElem?_append_left exists_page]

/-- A page holds what was written to it last. -/
lemma getElem?_foldl_write {size : PageSize} {pages : List Image} {rest : List FileChange}
    {heap : HeapFile} {page : PageId} {image : Image} (exists_page : page.number < pages.length)
    (spared : ∀ change ∈ rest, change.number? ≠ some page.number) :
    ((write heap page image :: rest).foldl (on size) pages)[page.number]? = some image := by
  rw [List.foldl_cons, getElem?_foldl (by rwa [on, List.length_set]) spared, on,
    List.getElem?_set_self exists_page]

end FileChange

namespace Storage

variable {storage later : Storage} {heap : HeapFile} {page : PageId} {image : Image}
  {place : Location}

/-- Make a change; a refused write changes nothing. -/
def change (storage : Storage) : FileChange → Storage
  | .write heap page image => (storage.writePage (.heap heap) page image).1
  | .append heap => (storage.appendPage heap).2

/-- The pages of the file at a place. -/
def filePages (storage : Storage) (place : Location) : List Image :=
  PageFile.pages (storage.disk.bytes place) storage.pageSize

lemma length_filePages : (storage.filePages place).length =
    PageFile.wholePages (storage.disk.bytes place) storage.pageSize := PageFile.length_pages

/-- The array of pages after other bytes were put into the file. -/
lemma filePages_setFile (storage : Storage) (heap : HeapFile) (bytes : Image) :
    (storage.setFile heap bytes).filePages heap.file = PageFile.pages bytes storage.pageSize := by
  rw [filePages, setFile, Disk.bytes_setBytes, if_pos rfl]

/-- Reading looks a page up in the array. -/
lemma readPage_eq_getElem? (storage : Storage) (heap : HeapFile) (page : PageId) :
    storage.readPage (.heap heap) page =
      (storage, match (storage.filePages heap.file)[page.number]? with
        | some image => .ok (image, none)
        | none => .error (.pageNotFound page)) := by
  rw [filePages, PageFile.getElem?_pages]
  exact readPage_heap storage heap page

/-- Appending tells the number of pages that there were. -/
lemma appendPage_heap
    (room : PageFile.wholePages (storage.disk.bytes heap.file) storage.pageSize < UInt32.size) :
    storage.appendPage heap =
      (PageFile.wholePages (storage.disk.bytes heap.file) storage.pageSize,
        storage.setFile heap
          (PageFile.append (storage.disk.bytes heap.file) storage.pageSize).2) := by
  rw [appendPage, HeapFile.appendPage, PageFile.append_eq room]
  rfl

/-- A page that the array has is read. -/
lemma readPage_of_getElem? (held : (storage.filePages heap.file)[page.number]? = some image) :
    storage.readPage (.heap heap) page = (storage, .ok (image, none)) := by
  rw [readPage_eq_getElem?, held]

/-- A page reads the same if the array has the same there. -/
lemma readPage_congr (same : (later.filePages heap.file)[page.number]? =
      (storage.filePages heap.file)[page.number]?) :
    (later.readPage (.heap heap) page).2 = (storage.readPage (.heap heap) page).2 := by
  rw [readPage_eq_getElem?, readPage_eq_getElem?, same]

/-- A write does to the pages of a file what it is to do. -/
lemma filePages_write (file : heap.file = place) (whole : image.size = storage.pageSize.bytes) :
    (storage.change (.write heap page image)).filePages place =
      (storage.filePages place).set page.number image := by
  subst file
  rw [change, writePage_heap]
  split
  · next exists_page =>
    rw [filePages_setFile, PageFile.pages_splice exists_page whole]
    rfl
  · next absent =>
    rw [← length_filePages] at absent
    rw [List.set_eq_of_length_le (Nat.le_of_not_lt absent)]

/-- So does an append, as long as the pages can be counted. -/
lemma filePages_append (file : heap.file = place)
    (room : (storage.filePages place).length < UInt32.size) :
    (storage.change (.append heap)).filePages place =
      storage.filePages place ++ [Image.zeros storage.pageSize.bytes] := by
  subst file
  rw [length_filePages] at room
  rw [change, appendPage_heap room, filePages_setFile, PageFile.pages_append room]
  rfl

/-- A change does to the pages of a file what it is to do. -/
lemma filePages_change {change : FileChange} (allowed : change.Allowed storage.pageSize place)
    (room : (change.on storage.pageSize (storage.filePages place)).length < UInt32.size) :
    (storage.change change).filePages place =
      change.on storage.pageSize (storage.filePages place) := by
  cases change with
  | write heap page image => exact filePages_write allowed.1 allowed.2
  | append heap =>
      rw [FileChange.on, List.length_append] at room
      exact filePages_append allowed (Nat.lt_of_le_of_lt (Nat.le_add_right ..) room)

/-- The page size is the same, and the paths to a file still lead to it. -/
structure Leads (later earlier : Storage) (place : Location) : Prop where
  pageSize : later.pageSize = earlier.pageSize
  openFile : ∀ path, earlier.disk.openFile path = .ok place → later.disk.openFile path = .ok place

lemma Leads.refl (storage : Storage) (place : Location) : storage.Leads storage place :=
  ⟨rfl, fun _ => id⟩

lemma Leads.trans {a b c : Storage} (first : b.Leads a place) (second : c.Leads b place) :
    c.Leads a place :=
  ⟨second.pageSize.trans first.pageSize,
    fun path opened => second.openFile path (first.openFile path opened)⟩

lemma leads_setFile (storage : Storage) (heap : HeapFile) (bytes : Image) :
    (storage.setFile heap bytes).Leads storage heap.file :=
  ⟨rfl, fun _ opened => Disk.openFile_setBytes opened bytes⟩

/-- The paths to a file still lead to it after a change of the file. -/
lemma leads_change {change : FileChange} (allowed : change.Allowed storage.pageSize place) :
    (storage.change change).Leads storage place := by
  cases change with
  | write heap page image =>
      obtain ⟨rfl, -⟩ := allowed
      rw [Storage.change, writePage_heap]
      split
      · exact leads_setFile ..
      · exact .refl ..
  | append heap =>
      obtain rfl := allowed
      exact leads_setFile storage heap _

/-- After changes one after the other the file is the array that they make, and the paths to it
still lead to it. -/
theorem changeAll_eq {changes : List FileChange}
    (allowed : ∀ change ∈ changes, change.Allowed storage.pageSize place)
    (room : (changes.foldl (FileChange.on storage.pageSize) (storage.filePages place)).length <
      UInt32.size) :
    (changes.foldl change storage).filePages place =
        changes.foldl (FileChange.on storage.pageSize) (storage.filePages place) ∧
      (changes.foldl change storage).Leads storage place := by
  induction changes generalizing storage with
  | nil => exact ⟨rfl, .refl ..⟩
  | cons first rest ih =>
      have here := allowed first List.mem_cons_self
      have leads := leads_change here
      have pages := filePages_change here (Nat.lt_of_le_of_lt (FileChange.length_le_foldl ..) room)
      have allowed' : ∀ next ∈ rest, next.Allowed (storage.change first).pageSize place :=
        fun next later => leads.pageSize ▸ allowed next (List.mem_cons_of_mem _ later)
      obtain ⟨pages', leads'⟩ := ih allowed' (by rw [leads.pageSize, pages]; exact room)
      rw [leads.pageSize, pages] at pages'
      exact ⟨pages', leads.trans leads'⟩

/-! ### Single operations -/

/-- A page that exists is written, and nothing else in the file changes. -/
lemma exists_write
    (exists_page :
      page.number < PageFile.wholePages (storage.disk.bytes heap.file) storage.pageSize)
    (whole : image.size = storage.pageSize.bytes) :
    ∃ later, storage.writePage (.heap heap) page image = (later, .ok ()) ∧
      (later.disk.bytes heap.file).size = (storage.disk.bytes heap.file).size ∧
      (∀ i, PageFile.wholePages (storage.disk.bytes heap.file) storage.pageSize *
          storage.pageSize.bytes ≤ i →
        (later.disk.bytes heap.file)[i]? = (storage.disk.bytes heap.file)[i]?) ∧
      ∀ other, (later.readPage (.heap heap) other).2 =
        if other.number = page.number then .ok (image, none)
        else (storage.readPage (.heap heap) other).2 := by
  have written := storage.writePage_heap heap page image
  rw [if_pos exists_page] at written
  have array := storage.filePages_setFile heap
    ((storage.disk.bytes heap.file).splice (page.number * storage.pageSize.bytes) image)
  rw [PageFile.pages_splice exists_page whole] at array
  have fits := PageFile.lt_wholePages_iff.mp exists_page
  have inside : page.number < (storage.filePages heap.file).length := by rwa [length_filePages]
  refine ⟨_, written, ?_, fun i behind => ?_, fun other => ?_⟩
  · rw [setFile, Disk.bytes_setBytes, if_pos rfl, Image.size_splice (by omega)]
  · rw [setFile, Disk.bytes_setBytes, if_pos rfl,
      PageFile.getElem?_splice_of_ge exists_page whole behind]
  · split
    · next same =>
      rw [readPage_of_getElem? (by rw [array, same]; exact List.getElem?_set_self inside)]
    · next apart =>
      exact readPage_congr (by rw [array]; exact List.getElem?_set_ne (Ne.symm apart))

/-- A page that is appended is zeroed and stands behind the others. -/
lemma exists_append
    (room : PageFile.wholePages (storage.disk.bytes heap.file) storage.pageSize <
      UInt32.size - 1) :
    ∃ later, storage.appendPage heap =
        (PageFile.wholePages (storage.disk.bytes heap.file) storage.pageSize, later) ∧
      later.heapPages heap =
        PageFile.wholePages (storage.disk.bytes heap.file) storage.pageSize + 1 ∧
      ∀ other, (later.readPage (.heap heap) other).2 =
        if other.number = PageFile.wholePages (storage.disk.bytes heap.file) storage.pageSize then
          .ok (Image.zeros storage.pageSize.bytes, none)
        else (storage.readPage (.heap heap) other).2 := by
  have room' : PageFile.wholePages (storage.disk.bytes heap.file) storage.pageSize <
      UInt32.size := by omega
  have array := storage.filePages_setFile heap
    (PageFile.append (storage.disk.bytes heap.file) storage.pageSize).2
  rw [PageFile.pages_append room'] at array
  have count := congrArg List.length array
  rw [length_filePages, List.length_append, PageFile.length_pages, List.length_singleton] at count
  refine ⟨_, appendPage_heap room', ?_, fun other => ?_⟩
  · exact (heapPages_eq (Nat.lt_of_le_of_lt (Nat.le_of_eq count) (by omega))).trans count
  · have held : (storage.filePages heap.file).length =
        PageFile.wholePages (storage.disk.bytes heap.file) storage.pageSize := length_filePages
    split
    · next same =>
      rw [readPage_of_getElem? (by rw [array, same, ← held]; exact List.getElem?_concat_length)]
    · next apart =>
      refine readPage_congr ?_
      rw [array]
      rcases Nat.lt_or_gt_of_ne (held ▸ apart) with less | more
      · exact List.getElem?_append_left less
      · rw [List.getElem?_eq_none (Nat.le_of_lt more)]
        exact List.getElem?_eq_none (by rwa [List.length_append, List.length_singleton])

/-! ### Opening a file anew -/

/-- A path to a file opens it. -/
lemma Leads.reopens (leads : later.Leads storage place) {path : DiskPath}
    (opened : storage.disk.openFile path = .ok place) {recordSize : Nat} {layout : SlotLayout}
    (computed : HeapFile.layoutFor storage.pageSize recordSize = .ok layout) (table : TableId) :
    HeapFile.openFile later.disk later.pageSize path table recordSize =
      .ok (⟨table, layout, place⟩, later.disk) := by
  rw [HeapFile.openFile, leads.pageSize, computed, leads.openFile path opened]

end Storage

/-- **A file is an array of pages.** Take any file, of any length, that has fewer than 2³² - 1 whole
pages, and keep the page size. A page is read, and can be written with an image of its length,
exactly if its number is below the number of whole pages; otherwise the page is not found and
nothing changes. What is written is read back, while every other page, the length of the file and
the bytes behind the last whole page stay as they are. A page that is appended gets the number of
pages as its number, is zeroed, and leaves every other page as it is.

So after any changes through handles of the file, as long as its pages can be counted, a path that
led to the file opens it, and the handle reads the array that the changes make, in which every page
is what was written to it last. -/
theorem page_file_is_array {storage : Storage} {heap : HeapFile}
    (room : (storage.disk.bytes heap.file).size / storage.pageSize.bytes < UInt32.size - 1) :
    let size := storage.pageSize
    let bytes := storage.disk.bytes heap.file
    let count := bytes.size / size.bytes
    (∀ page, storage.readPage (.heap heap) page =
      (storage, if page.number < count then
          .ok (bytes.extract (page.number * size.bytes)
            (page.number * size.bytes + size.bytes), none)
        else .error (.pageNotFound page))) ∧
    (∀ page image, image.size = size.bytes →
      (count ≤ page.number →
        storage.writePage (.heap heap) page image = (storage, .error (.pageNotFound page))) ∧
      (page.number < count → ∃ later,
        storage.writePage (.heap heap) page image = (later, .ok ()) ∧
        (later.disk.bytes heap.file).size = bytes.size ∧
        (∀ i, count * size.bytes ≤ i → (later.disk.bytes heap.file)[i]? = bytes[i]?) ∧
        ∀ other, (later.readPage (.heap heap) other).2 =
          if other.number = page.number then .ok (image, none)
          else (storage.readPage (.heap heap) other).2)) ∧
    (∃ later, storage.appendPage heap = (count, later) ∧ later.heapPages heap = count + 1 ∧
      ∀ other, (later.readPage (.heap heap) other).2 =
        if other.number = count then .ok (Image.zeros size.bytes, none)
        else (storage.readPage (.heap heap) other).2) ∧
    ∀ changes : List FileChange, (∀ change ∈ changes, change.Allowed size heap.file) →
      let pages := changes.foldl (FileChange.on size) (PageFile.pages bytes size)
      let later := changes.foldl Storage.change storage
      pages.length < UInt32.size →
      ∀ path table recordSize layout, storage.disk.openFile path = .ok heap.file →
        HeapFile.layoutFor size recordSize = .ok layout →
        ∃ fresh, HeapFile.openFile later.disk later.pageSize path table recordSize =
            .ok (fresh, later.disk) ∧
          (∀ page, later.readPage (.heap fresh) page =
            (later, match pages[page.number]? with
              | some image => .ok (image, none)
              | none => .error (.pageNotFound page))) ∧
          ∀ before handle page image rest, changes = before ++ .write handle page image :: rest →
            page.number < (before.foldl (FileChange.on size) (PageFile.pages bytes size)).length →
            (∀ change ∈ rest, change.number? ≠ some page.number) →
            later.readPage (.heap fresh) page = (later, .ok (image, none)) := by
  intro size bytes count
  refine ⟨fun page => ?_, fun page image whole => ⟨fun absent => ?_, fun exists_page => ?_⟩,
    Storage.exists_append room, ?_⟩
  · rw [Storage.readPage_heap, PageFile.read?]
    by_cases exists_page : page.number < PageFile.wholePages bytes size
    · rw [if_pos exists_page, if_pos (show page.number < count from exists_page)]
    · rw [if_neg exists_page, if_neg (show ¬ page.number < count from exists_page)]
  · rw [Storage.writePage_heap]
    exact if_neg (Nat.not_lt.mpr absent)
  · exact Storage.exists_write exists_page whole
  · intro changes allowed pages later few path table recordSize layout opened computed
    obtain ⟨array, leads⟩ := Storage.changeAll_eq allowed few
    have read : ∀ page, later.readPage (.heap ⟨table, layout, heap.file⟩) page =
        (later, match pages[page.number]? with
          | some image => .ok (image, none)
          | none => .error (.pageNotFound page)) := fun page => by
      rw [Storage.readPage_eq_getElem?, array]
      rfl
    refine ⟨_, leads.reopens opened computed table, read, ?_⟩
    intro before handle page image rest split exists_page spared
    have last : pages[page.number]? = some image := by
      have shape : pages = (FileChange.write handle page image :: rest).foldl (FileChange.on size)
          (before.foldl (FileChange.on size) (PageFile.pages bytes size)) := by
        rw [← List.foldl_append, ← split]
      rw [shape, FileChange.getElem?_foldl_write exists_page spared]
    rw [read, last]

/-- A file of five bytes with pages of two. A page is appended, over the byte that belongs to no
page, and written, and then another write finds no page. The handle that is opened afterwards reads
the page that was appended as it was written. -/
theorem page_file_is_array_ragged :
    let storage : Storage :=
      ⟨⟨2, by decide⟩, Disk.empty.setBytes ["t"] #[1, 2, 3, 4, 5], ∅, 0, ∅⟩
    let heap : HeapFile := ⟨⟨0⟩, ⟨1, 1⟩, ["t"]⟩
    let changes : List FileChange :=
      [.append heap, .write heap (heap.page 2) #[8, 9], .write heap (heap.page 7) #[0, 0]]
    let later := changes.foldl Storage.change storage
    (storage.disk.bytes heap.file).size / storage.pageSize.bytes < UInt32.size - 1 ∧
      ∃ fresh, HeapFile.openFile later.disk later.pageSize ⟨[], "t", false⟩ heap.table 1 =
          .ok (fresh, later.disk) ∧
        later.readPage (.heap fresh) (heap.page 2) = (later, .ok (#[8, 9], none)) := by
  intro storage heap changes later
  have bytes : storage.disk.bytes heap.file = #[1, 2, 3, 4, 5] := by
    simp [storage, heap, Disk.bytes_setBytes]
  have room : (storage.disk.bytes heap.file).size / storage.pageSize.bytes < UInt32.size - 1 := by
    rw [bytes]
    decide
  have opened : storage.disk.openFile ⟨[], "t", false⟩ = .ok heap.file := by
    refine Disk.openFile_eq_ok_iff.mpr ⟨by decide, rfl, #[1, 2, 3, 4, 5], ?_⟩
    simp [storage, heap, Disk.entry?, Disk.setBytes, Location.isOuter]
  have allowed : ∀ change ∈ changes, change.Allowed storage.pageSize heap.file := by
    simp [changes, FileChange.Allowed, storage]
  obtain ⟨-, -, -, changed⟩ := page_file_is_array room
  obtain ⟨fresh, reopened, -, last⟩ := changed changes allowed (by rw [bytes]; decide)
    ⟨[], "t", false⟩ heap.table 1 ⟨1, 1⟩ opened (by decide)
  refine ⟨room, fresh, reopened, ?_⟩
  exact last [.append heap] heap (heap.page 2) #[8, 9] _ rfl (by rw [bytes]; decide) (by decide)

end PageTxn
