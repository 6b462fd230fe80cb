import Mathlib.Data.List.Perm.Basic
import PageTxn.Proofs.Storage

/-!
What the stores hold does not depend on the order in which pages are written.

* `Storage.deposit` puts the image of a page into its store, as a write that the store accepts does
  (`silenced_writePage`). Only the logs of the memory stores tell more, namely the order;
  `Storage.silenced` leaves them out.
* `deposit_comm`: two images of different pages can be put into their stores in either order, and so
  can any number of them (`foldl_deposit_perm`).
-/

namespace PageTxn

/-! ### Maps and images -/

section Maps

variable {α β : Type*} {cmp : α → α → Ordering} [Std.TransCmp cmp] [Std.LawfulEqCmp cmp]

/-- Entries under different keys can be made in either order. -/
lemma insert_comm_of_ne {a b : α} (apart : a ≠ b) (map : Std.ExtTreeMap α β cmp) (x y : β) :
    (map.insert a x).insert b y = (map.insert b y).insert a x := by
  refine Std.ExtTreeMap.ext_getElem? fun key => ?_
  simp only [Std.ExtTreeMap.getElem?_insert]
  by_cases first : cmp a key = .eq
  · have other : cmp b key ≠ .eq := fun same => apart
      ((Std.LawfulEqCmp.eq_of_compare first).trans (Std.LawfulEqCmp.eq_of_compare same).symm)
    simp [first, other]
  · simp [first]

/-- The later one of two entries under a key stays. -/
lemma insert_twice (a : α) (map : Std.ExtTreeMap α β cmp) (x y : β) :
    (map.insert a x).insert a y = map.insert a y := by
  refine Std.ExtTreeMap.ext_getElem? fun key => ?_
  simp only [Std.ExtTreeMap.getElem?_insert]
  split <;> rfl

end Maps

namespace PageFile

variable {bytes page other : Image} {size : PageSize} {number place : Nat}

/-- Different pages of a file can be written in either order. -/
lemma splice_comm (apart : number ≠ place) (inside : number < wholePages bytes size)
    (inside' : place < wholePages bytes size) (whole : page.size = size.bytes)
    (whole' : other.size = size.bytes) :
    (bytes.splice (number * size.bytes) page).splice (place * size.bytes) other =
      (bytes.splice (place * size.bytes) other).splice (number * size.bytes) page := by
  have fits := lt_wholePages_iff.mp inside
  have fits' := lt_wholePages_iff.mp inside'
  have range : number * size.bytes + page.size ≤ bytes.size := by omega
  have range' : place * size.bytes + other.size ≤ bytes.size := by omega
  refine Array.ext_getElem? fun i => ?_
  rw [Image.getElem?_splice (by rw [Image.size_splice range]; exact range'),
    Image.getElem?_splice range,
    Image.getElem?_splice (by rw [Image.size_splice range']; exact range),
    Image.getElem?_splice range', whole, whole']
  by_cases first : number * size.bytes ≤ i ∧ i < number * size.bytes + size.bytes
  · have inner : i - number * size.bytes < size.bytes := by omega
    have back : number * size.bytes + (i - number * size.bytes) = i := by omega
    have outside := outside_of_ne apart.symm inner
    rw [back] at outside
    rw [if_neg outside, if_pos first, if_pos first]
  · rw [if_neg first, if_neg first]

end PageFile

namespace Disk

/-- Different files can be written in either order. -/
lemma setBytes_comm {place other : Location} (apart : place ≠ other) (disk : Disk)
    (bytes bytes' : Image) :
    (disk.setBytes place bytes).setBytes other bytes' =
      (disk.setBytes other bytes').setBytes place bytes := by
  simp only [setBytes, insert_comm_of_ne apart]

/-- What is written to a file last stays. -/
lemma setBytes_twice (place : Location) (disk : Disk) (bytes bytes' : Image) :
    (disk.setBytes place bytes).setBytes place bytes' = disk.setBytes place bytes' := by
  simp only [setBytes, insert_twice]

end Disk

/-! ### Putting images into stores -/

/-- The image of a page that is to be put into a store. -/
structure Due where
  store : Store
  number : Nat
  image : Image

/-- The images belong to different pages. -/
def Due.Apart (first second : Due) : Prop :=
  first.store.medium = second.store.medium → first.number ≠ second.number

/-- A memory store with the image of a page, after one more write. Its log stays as it is. -/
def MemoryStore.put (memory : MemoryStore) (number : Nat) (image : Image) : MemoryStore :=
  { memory with
    pages := memory.pages.insert number image
    writesLeft := memory.writesLeft.map (· - 1) }

/-- Different pages of a memory store can be put into it in either order. -/
lemma MemoryStore.put_comm {number place : Nat} (apart : number ≠ place) (memory : MemoryStore)
    (image other : Image) :
    (memory.put number image).put place other = (memory.put place other).put number image := by
  simp only [put, insert_comm_of_ne apart]

namespace Storage

variable {storage later : Storage} {heap another : HeapFile} {store : Store} {page : PageId}
  {number place : Nat} {image other : Image}

/-- A file has a page of this number, and the image has the length of a page. -/
def Takes (storage : Storage) (heap : HeapFile) (number : Nat) (image : Image) : Prop :=
  number < PageFile.wholePages (storage.disk.bytes heap.file) storage.pageSize ∧
    image.size = storage.pageSize.bytes

instance : Decidable (storage.Takes heap number image) := inferInstanceAs (Decidable (_ ∧ _))

/-- The storage with the image of a page in a file. -/
def putInFile (storage : Storage) (heap : HeapFile) (number : Nat) (image : Image) : Storage :=
  if storage.Takes heap number image then
    storage.setFile heap
      ((storage.disk.bytes heap.file).splice (number * storage.pageSize.bytes) image)
  else storage

lemma putInFile_of_takes (takes : storage.Takes heap number image) :
    storage.putInFile heap number image = storage.setFile heap
      ((storage.disk.bytes heap.file).splice (number * storage.pageSize.bytes) image) :=
  if_pos takes

lemma putInFile_of_not (refuses : ¬ storage.Takes heap number image) :
    storage.putInFile heap number image = storage := if_neg refuses

/-- The storage with an image in its store. -/
def deposit (storage : Storage) (due : Due) : Storage :=
  match due.store with
  | .heap heap => storage.putInFile heap due.number due.image
  | .memory _ id => storage.setMemory id ((storage.memory id).put due.number due.image)

/-! ### Either order -/

/-- A page that is put into a file leaves every file with as many pages. -/
lemma takes_putInFile : (storage.putInFile heap number image).Takes another place other ↔
    storage.Takes another place other := by
  rw [putInFile]
  split
  · next takes =>
    have count : PageFile.wholePages ((storage.setFile heap
        ((storage.disk.bytes heap.file).splice (number * storage.pageSize.bytes) image)).disk.bytes
          another.file) storage.pageSize =
        PageFile.wholePages (storage.disk.bytes another.file) storage.pageSize := by
      rw [setFile, Disk.bytes_setBytes]
      split
      · next same => rw [PageFile.wholePages_splice takes.1 takes.2, same]
      · rfl
    rw [Takes, Takes, ← count]
    rfl
  · rfl

/-- Different pages can be put into files in either order. -/
lemma putInFile_comm (apart : heap.file = another.file → number ≠ place) (storage : Storage)
    (image other : Image) :
    (storage.putInFile heap number image).putInFile another place other =
      (storage.putInFile another place other).putInFile heap number image := by
  by_cases first : storage.Takes heap number image
  · by_cases second : storage.Takes another place other
    · rw [putInFile_of_takes (takes_putInFile.mpr second), putInFile_of_takes first,
        putInFile_of_takes (takes_putInFile.mpr first), putInFile_of_takes second]
      simp only [setFile, Disk.bytes_setBytes]
      by_cases same : heap.file = another.file
      · -- two pages of one file
        rw [if_pos same, if_pos same.symm, ← same, Disk.setBytes_twice, Disk.setBytes_twice,
          PageFile.splice_comm (apart same) first.1 (same ▸ second.1) first.2 second.2]
      · rw [if_neg same, if_neg (Ne.symm same), Disk.setBytes_comm same]
    · rw [putInFile_of_not (mt takes_putInFile.mp second), putInFile_of_not second]
  · rw [putInFile_of_not first, putInFile_of_not (mt takes_putInFile.mp first)]

lemma memory_putInFile (id : MemoryId) :
    (storage.putInFile heap number image).memory id = storage.memory id := by
  rw [putInFile]
  split <;> rfl

/-- Files and memories do not meet. -/
lemma putInFile_setMemory (storage : Storage) (heap : HeapFile) (number : Nat) (image : Image)
    (id : MemoryId) (memory : MemoryStore) :
    (storage.setMemory id memory).putInFile heap number image =
      (storage.putInFile heap number image).setMemory id memory := by
  have same : (storage.setMemory id memory).Takes heap number image ↔
      storage.Takes heap number image := Iff.rfl
  by_cases takes : storage.Takes heap number image
  · rw [putInFile_of_takes takes, putInFile_of_takes (same.mpr takes)]
    rfl
  · rw [putInFile_of_not takes, putInFile_of_not (mt same.mp takes)]

/-- Images of different pages can be put into their stores in either order. -/
theorem deposit_comm {first second : Due} (apart : first.Apart second) (storage : Storage) :
    (storage.deposit first).deposit second = (storage.deposit second).deposit first := by
  obtain ⟨store, number, image⟩ := first
  obtain ⟨store', place, other⟩ := second
  simp only [Due.Apart] at apart
  cases store with
  | heap heap =>
      cases store' with
      | heap another => exact putInFile_comm (fun same => apart (congrArg Sum.inl same)) ..
      | memory name id =>
          simp only [deposit, memory_putInFile, putInFile_setMemory]
  | memory name id =>
      cases store' with
      | heap heap => simp only [deposit, memory_putInFile, putInFile_setMemory]
      | memory name' id' =>
          simp only [deposit, memory_setMemory]
          by_cases same : id = id'
          · -- two pages of one memory store
            subst same
            simp only [if_true, setMemory, insert_twice, MemoryStore.put_comm (apart rfl)]
          · simp only [if_neg same, if_neg (Ne.symm same), setMemory, insert_comm_of_ne same]

/-- Any number of images of different pages can be put into their stores in any order. -/
theorem foldl_deposit_perm {first second : List Due} (perm : first.Perm second)
    (apart : ∀ x ∈ first, ∀ y ∈ first, x = y ∨ x.Apart y) (storage : Storage) :
    first.foldl deposit storage = second.foldl deposit storage := by
  refine perm.foldl_eq' (fun x listed y listed' storage => ?_) storage
  rcases apart x listed y listed' with rfl | apart
  · rfl
  · exact deposit_comm apart storage

/-! ### What a write does -/

/-- The storage without the logs of its memory stores. -/
def silenced (storage : Storage) : Storage :=
  { storage with memories := storage.memories.map fun _ memory => { memory with log := [] } }

lemma memory_silenced (storage : Storage) (id : MemoryId) :
    storage.silenced.memory id = { storage.memory id with log := [] } := by
  rw [memory, memory, silenced, Std.ExtTreeMap.getD_eq_getD_getElem?,
    Std.ExtTreeMap.getD_eq_getD_getElem?, Std.ExtTreeMap.getElem?_map]
  cases storage.memories[id]? <;> rfl

lemma silenced_setMemory (storage : Storage) (id : MemoryId) (memory : MemoryStore) :
    (storage.setMemory id memory).silenced =
      storage.silenced.setMemory id { memory with log := [] } := by
  simp only [silenced, setMemory]
  congr 1
  refine Std.ExtTreeMap.ext_getElem? fun key => ?_
  simp only [Std.ExtTreeMap.getElem?_map, Std.ExtTreeMap.getElem?_insert]
  split <;> rfl

/-- A write that is accepted puts the image into its store. -/
lemma silenced_writePage (whole : ∀ heap, store = .heap heap → image.size = storage.pageSize.bytes)
    (written : storage.writePage store page image = (later, .ok ())) :
    later.silenced = storage.silenced.deposit ⟨store, page.number, image⟩ := by
  cases store with
  | heap heap =>
      rw [writePage_heap] at written
      split at written
      · next inside =>
        cases written
        have takes : storage.silenced.Takes heap page.number image := ⟨inside, whole heap rfl⟩
        exact (putInFile_of_takes takes).symm
      · cases written
  | memory name id =>
      simp only [writePage, MemoryStore.writePage] at written
      split at written
      · cases written
      · cases written
        rw [silenced_setMemory]
        simp only [deposit, memory_silenced, MemoryStore.put]

/-- A write that is accepted is logged by its store, if that is a memory store, and by no other. -/
lemma log_writePage (written : storage.writePage store page image = (later, .ok ()))
    (id : MemoryId) :
    (later.memory id).log =
      (storage.memory id).log ++ if store.medium = .inr id then [page] else [] := by
  cases store with
  | heap heap =>
      rw [writePage_heap] at written
      split at written
      · cases written
        simp [Store.medium, setFile, memory]
      · cases written
  | memory name other =>
      simp only [writePage, MemoryStore.writePage] at written
      split at written
      · cases written
      · cases written
        rw [memory_setMemory]
        by_cases same : other = id
        · subst same
          simp [Store.medium]
        · simp [Store.medium, same]

end Storage

end PageTxn
