import PageTxn.Proofs.Growth

/-!
Stores that may refuse to read or to write a page.

* `Storage.Separate` says that every table has a store of its own and that no store is overtaken
  by another transaction. The stores may refuse reads and writes.
* `Storage.Untouched` says that a page was not written: its image is the same, and the log of
  its store does not list it anew.
* `Storage.Writes` bounds what a step writes by a list of pages. Reading and appending write no
  page that exists (`writes_readPage`, `writes_appendPage`), and writing a page writes that page
  or is refused (`writes_writePage`).
* `Storage.outage` sets the switches of a memory store; this writes nothing.
-/

namespace PageTxn

/-- Reading a page keeps the pages and the log of a memory store, and uses up at most the race.
A page that could be read is one of the store. -/
lemma MemoryStore.readPage_keeps (store : MemoryStore) (page : PageId) :
    ((store.readPage page).1.pages = store.pages ∧ (store.readPage page).1.log = store.log) ∧
      ((store.readPage page).1.race = none ∨ (store.readPage page).1.race = store.race) ∧
      ∀ image other, (store.readPage page).2 = .ok (image, other) →
        other = store.race ∧ store.pages[page.number]? = some image := by
  rw [readPage]
  split
  · exact ⟨⟨rfl, rfl⟩, Or.inr rfl, fun image other read => by cases read⟩
  · split
    · next image stored =>
      refine ⟨⟨rfl, rfl⟩, Or.inl rfl, fun bytes other read => ?_⟩
      cases read
      exact ⟨rfl, stored⟩
    · exact ⟨⟨rfl, rfl⟩, Or.inr rfl, fun image other read => by cases read⟩

namespace Storage

variable {storage later middle earlier : Storage} {page : PageId} {pages : List PageId}

/-- Every table has a store of its own, which is registered under its name, and no store is
overtaken by another transaction. -/
structure Separate (storage : Storage) : Prop where
  named : ∀ (table : TableId) (store : Store),
    storage.catalog[table]? = some store → store.table = table
  apart : storage.Apart
  race : ∀ (table name : TableId) (id : MemoryId),
    storage.catalog[table]? = some (.memory name id) → (storage.memory id).race = none

lemma Reliable.separate (reliable : storage.Reliable) : storage.Separate :=
  ⟨reliable.named, reliable.apart, fun table name id found =>
    (reliable.steady table name id found).2.2⟩

/-! ### Pages that are not written -/

/-- How often the log of its store lists a page. A heap file has no log. -/
def logged (storage : Storage) (page : PageId) : Nat :=
  match storage.catalog[page.table]? with
  | some (.memory _ id) => (storage.memory id).log.count page
  | _ => 0

/-- A page was not written: its image is the same, and the log of its store does not list it
anew. -/
structure Untouched (later earlier : Storage) (page : PageId) : Prop where
  image : later.image? page = earlier.image? page
  logged : later.logged page = earlier.logged page

/-- The same tables are registered with stores of their own, no page that exists is lost, and
only the listed ones are written. -/
structure Writes (pages : List PageId) (later earlier : Storage) : Prop
    extends later.SameTables earlier where
  separate : earlier.Separate → later.Separate
  kept : ∀ (page : PageId) (image : Image), earlier.image? page = some image →
    ∃ written, later.image? page = some written ∧ written.size = image.size
  untouched : ∀ page : PageId, page ∉ pages → earlier.image? page ≠ none →
    later.Untouched earlier page

namespace Writes

lemma refl (storage : Storage) : Writes pages storage storage :=
  ⟨⟨rfl, rfl⟩, id, fun _ image there => ⟨image, there, rfl⟩, fun _ _ _ => ⟨rfl, rfl⟩⟩

lemma trans (h : Writes pages later middle) (h' : Writes pages middle earlier) :
    Writes pages later earlier where
  toSameTables := h.toSameTables.trans h'.toSameTables
  separate := h.separate ∘ h'.separate
  kept page image there := by
    obtain ⟨between, found, same⟩ := h'.kept page image there
    obtain ⟨written, found', same'⟩ := h.kept page between found
    exact ⟨written, found', same'.trans same⟩
  untouched page unlisted there := by
    have first := h'.untouched page unlisted there
    have second := h.untouched page unlisted (by rw [first.image]; exact there)
    exact ⟨second.image.trans first.image, second.logged.trans first.logged⟩

/-- What a step writes may be bounded by a longer list. -/
lemma mono {more : List PageId} (h : Writes pages later earlier)
    (listed : ∀ page ∈ pages, page ∈ more) : Writes more later earlier :=
  { h with untouched := fun page unlisted =>
      h.untouched page fun here => unlisted (listed page here) }

end Writes

/-! ### Memory stores -/

/-- A memory store that keeps its pages and its log keeps the images of all pages. -/
lemma untouched_setMemory {id : MemoryId} {store : MemoryStore}
    (same : store.pages = (storage.memory id).pages)
    (log : store.log = (storage.memory id).log) (page : PageId) :
    (storage.setMemory id store).Untouched storage page := by
  have replaced : ∀ other, ((storage.setMemory id store).memory other).pages =
      (storage.memory other).pages ∧
        ((storage.setMemory id store).memory other).log = (storage.memory other).log := by
    intro other
    rw [memory_setMemory]
    split
    · next here =>
      subst here
      exact ⟨same, log⟩
    · exact ⟨rfl, rfl⟩
  have tables : (storage.setMemory id store).catalog = storage.catalog := rfl
  constructor
  · rw [image?, image?, tables]
    split
    · rfl
    · next other _ => rw [(replaced other).1]
    · rfl
  · rw [logged, logged, tables]
    split
    · next other _ => rw [(replaced other).2]
    · rfl

/-- A memory store may be replaced by one that is not overtaken. -/
lemma Separate.setMemory (separate : storage.Separate) {id : MemoryId} {store : MemoryStore}
    (race : store.race = none) : (storage.setMemory id store).Separate where
  named := separate.named
  apart := separate.apart
  race table name other found := by
    rw [memory_setMemory]
    split
    · exact race
    · exact separate.race table name other found

/-- A change of a memory store that keeps its pages and its log writes nothing. -/
lemma writes_setMemory {id : MemoryId} {store : MemoryStore}
    (same : store.pages = (storage.memory id).pages)
    (log : store.log = (storage.memory id).log)
    (race : store.race = none ∨ store.race = (storage.memory id).race) :
    Writes pages (storage.setMemory id store) storage where
  toSameTables := ⟨rfl, rfl⟩
  separate separate := by
    refine ⟨separate.named, separate.apart, fun table name other found => ?_⟩
    rw [memory_setMemory]
    split
    · next here =>
      subst here
      rcases race with calm | kept
      · exact calm
      · exact kept.trans (separate.race table name id found)
    · exact separate.race table name other found
  kept page image there :=
    ⟨image, (untouched_setMemory same log page).image.trans there, rfl⟩
  untouched page _ _ := untouched_setMemory same log page

/-- The switches of a memory store are set: whether it refuses reads, and how many writes it
still accepts. -/
def outage (storage : Storage) (id : MemoryId) (failReads : Bool) (writesLeft : Option Nat) :
    Storage :=
  storage.setMemory id { storage.memory id with failReads, writesLeft }

/-- Setting the switches of a store writes nothing. -/
lemma writes_outage (storage : Storage) (id : MemoryId) (failReads : Bool)
    (writesLeft : Option Nat) :
    Writes pages (storage.outage id failReads writesLeft) storage :=
  writes_setMemory rfl rfl (Or.inr rfl)

lemma grows_outage (storage : Storage) (id : MemoryId) (failReads : Bool)
    (writesLeft : Option Nat) : (storage.outage id failReads writesLeft).Grows storage :=
  ⟨⟨rfl, rfl⟩, fun _ => Nat.le_refl _⟩

/-! ### Reading, writing and appending -/

/-- Reading writes nothing, and nobody overtakes the read. A page that could be read exists. -/
lemma writes_readPage (separate : storage.Separate) {store : Store}
    (found : storage.catalog[page.table]? = some store) :
    Writes pages (storage.readPage store page).1 storage ∧
      ∀ image other, (storage.readPage store page).2 = .ok (image, other) →
        other = none ∧ storage.image? page = some image := by
  cases store with
  | heap heap =>
      refine ⟨.refl storage, fun image other read => ?_⟩
      rw [readPage_heap] at read
      rw [image?_heap found]
      split at read
      · next bytes stored =>
        cases read
        exact ⟨rfl, stored⟩
      · cases read
  | memory name id =>
      obtain ⟨⟨same, log⟩, race, read⟩ := (storage.memory id).readPage_keeps page
      refine ⟨writes_setMemory same log race, fun image other done => ?_⟩
      obtain ⟨overtaken, there⟩ := read image other done
      exact ⟨overtaken.trans (separate.race page.table name id found),
        (image?_memory found).trans there⟩

/-- A memory store that has one page anew writes this page. -/
lemma writes_setMemory_page (separate : storage.Separate) {name : TableId} {id : MemoryId}
    {store : MemoryStore} (found : storage.catalog[page.table]? = some (.memory name id))
    {image stored : Image} (there : storage.image? page = some stored)
    (whole : image.size = stored.size)
    (written : store.pages = (storage.memory id).pages.insert page.number image)
    (log : store.log = (storage.memory id).log ++ [page])
    (race : store.race = (storage.memory id).race) :
    Writes [page] (storage.setMemory id store) storage := by
  have images := image?_insert separate.apart found written
  have logs : ∀ other another, page ≠ other →
      ((storage.setMemory id store).memory another).log.count other =
        (storage.memory another).log.count other := by
    intro other another apart
    rw [memory_setMemory]
    split
    · next same =>
      subst same
      rw [log, List.count_append, List.count_singleton, if_neg (by simpa using apart),
        Nat.add_zero]
    · rfl
  have tables : (storage.setMemory id store).catalog = storage.catalog := rfl
  refine ⟨⟨rfl, rfl⟩, fun _ => separate.setMemory
    (race.trans (separate.race page.table name id found)), fun other old known => ?_,
    fun other unlisted known => ?_⟩
  · rw [images]
    split
    · next here =>
      rw [← here, there] at known
      cases known
      exact ⟨image, rfl, whole⟩
    · exact ⟨old, known, rfl⟩
  · have apart : page ≠ other := fun here => unlisted (List.mem_singleton.mpr here.symm)
    refine ⟨by rw [images, if_neg apart], ?_⟩
    rw [logged, logged, tables]
    split
    · rw [logs other _ apart]
    · rfl

/-- A page is written with an image of its length, or the store refuses to. No other page is
written. -/
lemma writes_writePage (separate : storage.Separate) {store : Store}
    (found : storage.catalog[page.table]? = some store) {image stored : Image}
    (there : storage.image? page = some stored) (whole : image.size = stored.size) :
    Writes [page] (storage.writePage store page image).1 storage := by
  cases store with
  | heap heap =>
      have there' := there
      rw [image?_heap found] at there'
      have exists_page : page.number <
          PageFile.wholePages (storage.disk.bytes heap.file) storage.pageSize :=
        (image?_heap_ne_none_iff found).mp (by rw [there]; simp)
      have whole' : image.size = storage.pageSize.bytes :=
        whole.trans (PageFile.size_of_read? there')
      rw [writePage_heap, if_pos exists_page]
      have images := image?_overwrite separate.apart found exists_page whole'
      refine ⟨⟨rfl, rfl⟩, fun separate => ⟨separate.named, separate.apart, separate.race⟩,
        fun other old known => ?_, fun other unlisted known => ⟨?_, rfl⟩⟩
      · rw [images]
        split
        · next here =>
          rw [← here, there] at known
          cases known
          exact ⟨image, rfl, whole⟩
        · exact ⟨old, known, rfl⟩
      · rw [images, if_neg fun here => unlisted (List.mem_singleton.mpr here.symm)]
  | memory name id =>
      show Writes [page]
        (storage.setMemory id ((storage.memory id).writePage page image).1) storage
      rw [MemoryStore.writePage]
      split
      · exact writes_setMemory rfl rfl (Or.inr rfl)
      · exact writes_setMemory_page separate found there whole rfl rfl rfl

/-- Appending writes no page that exists, as long as the pages can be numbered. -/
lemma writes_appendPage {heap : HeapFile} {table : TableId} (separate : storage.Separate)
    (found : storage.catalog[table]? = some (.heap heap))
    (room : PageFile.wholePages (storage.disk.bytes heap.file) storage.pageSize < UInt32.size) :
    Writes pages (storage.appendPage heap).2 storage := by
  have images : ∀ page, storage.image? page ≠ none →
      (storage.appendPage heap).2.image? page = storage.image? page := by
    intro page there
    show (storage.setFile heap (PageFile.append (storage.disk.bytes heap.file)
      storage.pageSize).2).image? page = _
    rw [image?_setFile separate.apart found]
    split
    · next here =>
      have less := (image?_heap_ne_none_iff (here ▸ found)).mp there
      rw [PageFile.read?_append room, if_neg (Nat.ne_of_gt less), image?_heap (here ▸ found)]
    · rfl
  refine ⟨⟨rfl, rfl⟩, fun separate => ⟨separate.named, separate.apart, separate.race⟩,
    fun page image there => ⟨image, ?_, rfl⟩, fun page _ there => ⟨images page there, rfl⟩⟩
  rw [images page (by rw [there]; simp)]
  exact there

end Storage

end PageTxn
