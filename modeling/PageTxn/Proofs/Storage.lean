import PageTxn.Proofs.PageFile
import PageTxn.Storage.Catalog

/-!
The stored pages of all tables.

* `Storage.image?` is the view: the image that is stored for a page, by the catalog.
* `Storage.Reliable` says that every table has a store of its own and that no store fails.
* `Reliable.register`: a store of its own that does not fail can be registered.
* `readPage_heap` and `writePage_heap` give the operations on a heap file by the bytes of the file.
* `readPage_eq`, `exists_writePage` and `exists_appendPage` say what the operations of a
  store do to the view: a read changes nothing, a write changes the page that is written,
  and an appended page is zeroed and new.
-/

namespace PageTxn

/-- What a store keeps its pages in: a file, or a memory. -/
def Store.medium : Store → Location ⊕ MemoryId
  | .heap file => .inl file.file
  | .memory _ id => .inr id

/-- A memory that is not overtaken stays as it is when a page is read. -/
lemma MemoryStore.readPage_of_stored {memory : MemoryStore} {page : PageId} {image : Image}
    (reads : memory.failReads = false) (race : memory.race = none)
    (stored : memory.pages[page.number]? = some image) :
    memory.readPage page = (memory, .ok (image, none)) := by
  cases memory
  cases reads
  cases race
  simp only [readPage, stored]
  rfl

namespace Storage

/-- The image that is stored for a page, `none` if the page does not exist. -/
def image? (storage : Storage) (page : PageId) : Option Image :=
  match storage.catalog[page.table]? with
  | some (.heap heap) =>
      PageFile.read? (storage.disk.bytes heap.file) storage.pageSize page.number
  | some (.memory _ id) => (storage.memory id).pages[page.number]?
  | none => none

/-- Every table has a store of its own, which is registered under its name, and no store
refuses a read or a write or is overtaken by another transaction. -/
structure Reliable (storage : Storage) : Prop where
  named : ∀ (table : TableId) (store : Store),
    storage.catalog[table]? = some store → store.table = table
  apart : ∀ (table other : TableId) (store another : Store),
    storage.catalog[table]? = some store → storage.catalog[other]? = some another →
      store.medium = another.medium → table = other
  steady : ∀ (table name : TableId) (id : MemoryId),
    storage.catalog[table]? = some (.memory name id) →
      (storage.memory id).failReads = false ∧ (storage.memory id).writesLeft = none ∧
        (storage.memory id).race = none

/-- Different tables have different stores. -/
def Apart (storage : Storage) : Prop :=
  ∀ (table other : TableId) (store another : Store),
    storage.catalog[table]? = some store → storage.catalog[other]? = some another →
      store.medium = another.medium → table = other

/-- The same tables are registered, and pages have the same size. -/
structure SameTables (later earlier : Storage) : Prop where
  catalog : later.catalog = earlier.catalog
  pageSize : later.pageSize = earlier.pageSize

lemma SameTables.trans {a b c : Storage} (h : a.SameTables b) (h' : b.SameTables c) :
    a.SameTables c :=
  ⟨h.catalog.trans h'.catalog, h.pageSize.trans h'.pageSize⟩

/-- A registered table has its store. -/
lemma storeOf_eq {storage : Storage} {table : TableId} {store : Store}
    (found : storage.catalog[table]? = some store) : storage.storeOf table = .ok store := by
  simp [storeOf, found]

/-- Only a registered table has a store. -/
lemma catalog_of_storeOf {storage : Storage} {table : TableId} {store : Store}
    (h : storage.storeOf table = .ok store) : storage.catalog[table]? = some store := by
  rw [storeOf] at h
  split at h
  · next found =>
    cases h
    exact found
  · cases h

/-- A page that exists belongs to a registered table. -/
lemma catalog_of_image? {storage : Storage} {page : PageId} {image : Image}
    (h : storage.image? page = some image) :
    ∃ store, storage.catalog[page.table]? = some store := by
  rw [image?] at h
  split at h
  · next found => exact ⟨_, found⟩
  · next found => exact ⟨_, found⟩
  · cases h

/-- The stored pages of a heap file are the pages of its file. -/
lemma image?_heap {storage : Storage} {page : PageId} {heap : HeapFile}
    (found : storage.catalog[page.table]? = some (.heap heap)) :
    storage.image? page =
      PageFile.read? (storage.disk.bytes heap.file) storage.pageSize page.number := by
  simp [image?, found]

/-- The stored pages of a memory store are its pages. -/
lemma image?_memory {storage : Storage} {page : PageId} {name : TableId} {id : MemoryId}
    (found : storage.catalog[page.table]? = some (.memory name id)) :
    storage.image? page = (storage.memory id).pages[page.number]? := by
  simp [image?, found]

/-! ### Changes of one store -/

/-- Pages of one table differ by their numbers. -/
lemma eq_iff_number {page other : PageId} (same : page.table = other.table) :
    page = other ↔ page.number = other.number := by
  constructor
  · intro e
    rw [e]
  · intro e
    cases page
    cases other
    simp_all

/-- A change of a memory store that keeps its switches keeps the storage reliable. -/
lemma Reliable.setMemory {storage : Storage} (reliable : storage.Reliable) {id : MemoryId}
    {store : MemoryStore} (reads : store.failReads = (storage.memory id).failReads)
    (writes : store.writesLeft = (storage.memory id).writesLeft)
    (race : store.race = (storage.memory id).race) :
    (storage.setMemory id store).Reliable where
  named := reliable.named
  apart := reliable.apart
  steady table name other found := by
    have steady := reliable.steady table name other found
    rw [memory_setMemory]
    split
    · next same =>
      subst same
      rw [reads, writes, race]
      exact steady
    · exact steady

/-- A change of the pages of a memory store shows in the pages of its table alone. -/
lemma image?_setMemory {storage : Storage} (apart : storage.Apart) {table name : TableId}
    {id : MemoryId} (found : storage.catalog[table]? = some (.memory name id))
    (store : MemoryStore) (page : PageId) :
    (storage.setMemory id store).image? page =
      if page.table = table then store.pages[page.number]? else storage.image? page := by
  by_cases here : page.table = table
  · have found' : (storage.setMemory id store).catalog[page.table]? = some (.memory name id) :=
      here ▸ found
    rw [if_pos here, image?_memory found', memory_setMemory, if_pos rfl]
  · rw [if_neg here]
    rw [image?, image?]
    show (match storage.catalog[page.table]? with
      | some (.heap heap) => _
      | some (.memory _ other) => _
      | none => _) = _
    split
    · rfl
    · next other elsewhere =>
      have different : id ≠ other := fun same =>
        here (apart _ _ _ _ elsewhere found (by simp [Store.medium, same]))
      rw [memory_setMemory, if_neg different]
    · rfl

/-- When one page of a memory store is replaced, no other page changes. -/
lemma image?_insert {storage : Storage} (apart : storage.Apart) {page : PageId} {name : TableId}
    {id : MemoryId} (found : storage.catalog[page.table]? = some (.memory name id))
    {store : MemoryStore} {image : Image}
    (replaced : store.pages = (storage.memory id).pages.insert page.number image)
    (other : PageId) : (storage.setMemory id store).image? other =
      if page = other then some image else storage.image? other := by
  rw [image?_setMemory apart found]
  by_cases here : other.table = page.table
  · rw [if_pos here, replaced, Std.ExtTreeMap.getElem?_insert, image?_memory (here ▸ found)]
    simp [eq_iff_number here.symm]
  · rw [if_neg here, if_neg fun e => here (congrArg PageId.table e).symm]

/-- The storage with other bytes in the file of a heap file. -/
def setFile (storage : Storage) (heap : HeapFile) (bytes : Image) : Storage :=
  { storage with disk := storage.disk.setBytes heap.file bytes }

/-- A change of the bytes of a file keeps the storage reliable. -/
lemma Reliable.setFile {storage : Storage} (reliable : storage.Reliable) (heap : HeapFile)
    (bytes : Image) : (storage.setFile heap bytes).Reliable :=
  ⟨reliable.named, reliable.apart, reliable.steady⟩

/-- A change of the bytes of a heap file shows in the pages of its table alone. -/
lemma image?_setFile {storage : Storage} (apart : storage.Apart) {table : TableId}
    {heap : HeapFile} (found : storage.catalog[table]? = some (.heap heap)) (bytes : Image)
    (page : PageId) :
    (storage.setFile heap bytes).image? page =
      if page.table = table then PageFile.read? bytes storage.pageSize page.number
      else storage.image? page := by
  by_cases here : page.table = table
  · have found' : (storage.setFile heap bytes).catalog[page.table]? = some (.heap heap) :=
      here ▸ found
    rw [if_pos here, image?_heap found', setFile, Disk.bytes_setBytes, if_pos rfl]
  · rw [if_neg here]
    simp only [image?, setFile]
    show (match storage.catalog[page.table]? with
      | some (.heap another) => _
      | some (.memory _ id) => _
      | none => _) = _
    split
    · next another elsewhere =>
      have different : heap.file ≠ another.file := fun same =>
        here (apart _ _ _ _ elsewhere found (by simp [Store.medium, same]))
      rw [Disk.bytes_setBytes, if_neg different]
    · rfl
    · rfl

/-- When a page of a heap file is overwritten with an image of its length, no other page changes. -/
lemma image?_overwrite {storage : Storage} (apart : storage.Apart) {page : PageId} {heap : HeapFile}
    (found : storage.catalog[page.table]? = some (.heap heap))
    (exists_page :
      page.number < PageFile.wholePages (storage.disk.bytes heap.file) storage.pageSize)
    {image : Image} (whole : image.size = storage.pageSize.bytes) (other : PageId) :
    (storage.setFile heap ((storage.disk.bytes heap.file).splice
      (page.number * storage.pageSize.bytes) image)).image? other =
        if page = other then some image else storage.image? other := by
  rw [image?_setFile apart found]
  by_cases here : other.table = page.table
  · rw [if_pos here, PageFile.read?_splice exists_page whole, image?_heap (here ▸ found)]
    simp [eq_iff_number here.symm]
  · rw [if_neg here, if_neg fun e => here (congrArg PageId.table e).symm]

/-! ### Operations on heap files -/

/-- Reading looks the page up among those of the file. -/
lemma readPage_heap (storage : Storage) (heap : HeapFile) (page : PageId) :
    storage.readPage (.heap heap) page =
      (storage,
        match PageFile.read? (storage.disk.bytes heap.file) storage.pageSize page.number with
        | some image => .ok (image, none)
        | none => .error (.pageNotFound page)) := by
  rw [readPage, HeapFile.readPage]
  cases PageFile.read? (storage.disk.bytes heap.file) storage.pageSize page.number <;> rfl

/-- Writing overwrites a page that exists and refuses any other. -/
lemma writePage_heap (storage : Storage) (heap : HeapFile) (page : PageId) (image : Image) :
    storage.writePage (.heap heap) page image =
      if page.number < PageFile.wholePages (storage.disk.bytes heap.file) storage.pageSize then
        (storage.setFile heap ((storage.disk.bytes heap.file).splice
          (page.number * storage.pageSize.bytes) image), .ok ())
      else (storage, .error (.pageNotFound page)) := by
  rw [writePage, HeapFile.writePage, PageFile.write?]
  by_cases exists_page :
      page.number < PageFile.wholePages (storage.disk.bytes heap.file) storage.pageSize
  · rw [if_pos exists_page, if_pos exists_page]
    rfl
  · rw [if_neg exists_page, if_neg exists_page]

/-! ### Registering -/

/-- Without tables there is nothing to rely on. -/
lemma reliable_of_empty {storage : Storage} (empty : storage.catalog = ∅) : storage.Reliable where
  named table store found := by simp [empty] at found
  apart table other store another found := by simp [empty] at found
  steady table name id found := by simp [empty] at found

/-- A store of its own that does not fail can be registered. -/
lemma Reliable.register {storage : Storage} (reliable : storage.Reliable) {store : Store}
    (fresh : ∀ (table : TableId) (other : Store), storage.catalog[table]? = some other →
      other.medium ≠ store.medium)
    (steady : ∀ (name : TableId) (id : MemoryId), store = .memory name id →
      (storage.memory id).failReads = false ∧ (storage.memory id).writesLeft = none ∧
        (storage.memory id).race = none) :
    (storage.register store).Reliable where
  named table other found := by
    rw [Storage.register, Std.ExtTreeMap.getElem?_insert] at found
    split at found
    · next here =>
      cases found
      exact Std.LawfulEqCmp.eq_of_compare here
    · exact reliable.named table other found
  apart table other first second found found' same := by
    rw [Storage.register, Std.ExtTreeMap.getElem?_insert] at found found'
    split at found
    · next here =>
      cases found
      split at found'
      · next there =>
        exact (Std.LawfulEqCmp.eq_of_compare here).symm.trans
          (Std.LawfulEqCmp.eq_of_compare there)
      · exact absurd same.symm (fresh other second found')
    · split at found'
      · cases found'
        exact absurd same (fresh table first found)
      · exact reliable.apart table other first second found found' same
  steady table name id found := by
    rw [Storage.register, Std.ExtTreeMap.getElem?_insert] at found
    split at found
    · cases found
      exact steady name id rfl
    · exact reliable.steady table name id found

/-! ### Reading -/

/-- One storage has the pages of another. -/
structure Alike (later earlier : Storage) : Prop extends later.SameTables earlier where
  disk : later.disk = earlier.disk
  image : ∀ page, later.image? page = earlier.image? page
  reliable : earlier.Reliable → later.Reliable

lemma Alike.refl (storage : Storage) : storage.Alike storage :=
  ⟨⟨rfl, rfl⟩, rfl, fun _ => rfl, id⟩

/-- Reading hands out the stored image and changes none. -/
theorem readPage_eq {storage : Storage} (reliable : storage.Reliable) {page : PageId}
    {store : Store} (found : storage.catalog[page.table]? = some store) :
    ∃ later, later.Alike storage ∧ storage.readPage store page =
      (later, match storage.image? page with
        | some image => .ok (image, none)
        | none => .error (.pageNotFound page)) := by
  cases store with
  | heap heap =>
      refine ⟨storage, .refl storage, ?_⟩
      rw [image?_heap found, readPage_heap]
  | memory name id =>
      obtain ⟨reads, writes, race⟩ := reliable.steady _ _ _ found
      have keeps : ∀ store : MemoryStore, store.pages = (storage.memory id).pages →
          store.failReads = (storage.memory id).failReads →
          store.writesLeft = (storage.memory id).writesLeft →
          store.race = none → (storage.setMemory id store).Alike storage := by
        intro store pages sameReads sameWrites noRace
        refine ⟨⟨rfl, rfl⟩, rfl, fun other => ?_,
          fun reliable => reliable.setMemory sameReads sameWrites (noRace.trans race.symm)⟩
        rw [image?_setMemory reliable.apart found]
        split
        · next here => rw [image?_memory (here ▸ found), pages]
        · rfl
      rw [image?_memory found]
      cases stored : (storage.memory id).pages[page.number]? with
      | none =>
          exact ⟨_, keeps (storage.memory id) rfl rfl rfl race,
            by simp [readPage, MemoryStore.readPage, reads, stored]⟩
      | some image =>
          exact ⟨_, keeps { storage.memory id with race := none } rfl rfl rfl rfl,
            by simp [readPage, MemoryStore.readPage, reads, stored, race]⟩

/-- Reading a page that is stored leaves the stores as they are. -/
lemma readPage_of_stored {storage : Storage} (reliable : storage.Reliable)
    {page : PageId} {store : Store} (found : storage.catalog[page.table]? = some store)
    {image : Image} (stored : storage.image? page = some image) :
    storage.readPage store page = (storage, .ok (image, none)) := by
  cases store with
  | heap heap =>
      rw [image?_heap found] at stored
      rw [readPage_heap, stored]
  | memory name id =>
      obtain ⟨reads, -, race⟩ := reliable.steady _ _ _ found
      rw [image?_memory found] at stored
      have there : storage.memories[id]? = some (storage.memory id) := by
        cases kept : storage.memories[id]? with
        | none =>
            have nothing : storage.memory id = default := by
              simp [memory, Std.ExtTreeMap.getD_eq_getD_getElem?, kept]
            rw [nothing] at stored
            cases stored
        | some memory =>
            simp [Storage.memory, Std.ExtTreeMap.getD_eq_getD_getElem?, kept]
      have read := MemoryStore.readPage_of_stored reads race stored
      have same : storage.setMemory id (storage.memory id) = storage := by
        have memories : storage.memories.insert id (storage.memory id) = storage.memories := by
          refine Std.ExtTreeMap.ext_getElem? fun other => ?_
          rw [Std.ExtTreeMap.getElem?_insert]
          split
          · next here =>
            rw [← Std.LawfulEqCmp.eq_of_compare here, there]
          · rfl
        rw [setMemory, memories]
      simp only [readPage, read, same]

/-! ### Writing -/

/-- A page that exists can be overwritten with an image of its length, and no other page
changes. -/
theorem exists_writePage {storage : Storage} (reliable : storage.Reliable) {page : PageId}
    {store : Store} (found : storage.catalog[page.table]? = some store) {image stored : Image}
    (there : storage.image? page = some stored) (whole : image.size = stored.size) :
    ∃ later, storage.writePage store page image = (later, .ok ()) ∧ later.Reliable ∧
      later.SameTables storage ∧ ∀ other,
        later.image? other = if page = other then some image else storage.image? other := by
  cases store with
  | heap heap =>
      rw [image?_heap found] at there
      have exists_page : page.number <
          PageFile.wholePages (storage.disk.bytes heap.file) storage.pageSize := by
        by_contra absent
        rw [PageFile.read?, if_neg absent] at there
        cases there
      have whole' : image.size = storage.pageSize.bytes :=
        whole.trans (PageFile.size_of_read? there)
      exact ⟨_, by rw [writePage_heap, if_pos exists_page], reliable.setFile heap _, ⟨rfl, rfl⟩,
        image?_overwrite reliable.apart found exists_page whole'⟩
  | memory name id =>
      obtain ⟨reads, writes, race⟩ := reliable.steady _ _ _ found
      refine ⟨storage.setMemory id { storage.memory id with
          pages := (storage.memory id).pages.insert page.number image
          log := (storage.memory id).log ++ [page] },
        ?_, reliable.setMemory rfl rfl rfl, ⟨rfl, rfl⟩, image?_insert reliable.apart found rfl⟩
      simp [writePage, MemoryStore.writePage, writes]

/-! ### Appending -/

/-- The number of pages of a heap file, as long as they can be counted. -/
lemma heapPages_eq {storage : Storage} {heap : HeapFile}
    (room : PageFile.wholePages (storage.disk.bytes heap.file) storage.pageSize < UInt32.size) :
    storage.heapPages heap =
      PageFile.wholePages (storage.disk.bytes heap.file) storage.pageSize := by
  rw [heapPages, HeapFile.pageCount, PageFile.count, Nat.mod_eq_of_lt room]

/-- A page of a heap file exists exactly if its number is below the number of pages. -/
lemma image?_heap_ne_none_iff {storage : Storage} {page : PageId} {heap : HeapFile}
    (found : storage.catalog[page.table]? = some (.heap heap)) :
    storage.image? page ≠ none ↔
      page.number < PageFile.wholePages (storage.disk.bytes heap.file) storage.pageSize := by
  rw [image?_heap found, PageFile.read?]
  split <;> simp_all

/-- A page that is appended is zeroed and did not exist before, and no other page changes. -/
theorem exists_appendPage {storage : Storage} (apart : storage.Apart) {table : TableId}
    {heap : HeapFile} (found : storage.catalog[table]? = some (.heap heap))
    (room : PageFile.wholePages (storage.disk.bytes heap.file) storage.pageSize < UInt32.size) :
    ∃ later, storage.appendPage heap = (storage.heapPages heap, later) ∧
      (storage.Reliable → later.Reliable) ∧ later.SameTables storage ∧
        storage.image? ⟨table, storage.heapPages heap⟩ = none ∧
          ∀ other, later.image? other =
            if ⟨table, storage.heapPages heap⟩ = other then
              some (Image.zeros storage.pageSize.bytes)
            else storage.image? other := by
  have number := heapPages_eq room
  set fresh : PageId := ⟨table, storage.heapPages heap⟩
  have found' : storage.catalog[fresh.table]? = some (.heap heap) := found
  refine ⟨storage.setFile heap (PageFile.append (storage.disk.bytes heap.file)
      storage.pageSize).2, rfl, fun reliable => reliable.setFile heap _, ⟨rfl, rfl⟩, ?_,
      fun other => ?_⟩
  · by_contra there
    have less : storage.heapPages heap <
        PageFile.wholePages (storage.disk.bytes heap.file) storage.pageSize :=
      (image?_heap_ne_none_iff found').mp there
    rw [number] at less
    exact Nat.lt_irrefl _ less
  · rw [image?_setFile apart found]
    by_cases here : other.table = table
    · have same : fresh.table = other.table := here.symm
      rw [if_pos here, PageFile.read?_append room, image?_heap (here ▸ found), ← number]
      simp [eq_iff_number same, fresh]
    · rw [if_neg here, if_neg fun e => here (congrArg PageId.table e).symm]

end Storage

end PageTxn
