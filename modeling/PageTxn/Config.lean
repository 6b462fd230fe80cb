import PageTxn.Error

/-!
The settings of a database: how long a page is and how many pages the cache
holds.

A page size is never 0 (`PageSize`), and `PageSize.ofBytes?` is the only place
where a requested size is checked.
-/

namespace PageTxn

/-- The length of a page in bytes; a page is never empty. -/
structure PageSize where
  bytes : Nat
  bytes_pos : 0 < bytes
  deriving DecidableEq

namespace PageSize

/-- The page size in force when nothing else was asked for. -/
def standard : PageSize := ⟨4096, by decide⟩

/-- A requested page size, refused if it is 0. -/
def ofBytes? (bytes : Nat) : Except Fault PageSize :=
  if h : 0 < bytes then .ok ⟨bytes, h⟩ else .error .zeroPageSize

instance : Inhabited PageSize := ⟨standard⟩

end PageSize

/-- The number of pages that a cache holds when nothing else was asked for. -/
def standardCapacity : Nat := 50

end PageTxn
