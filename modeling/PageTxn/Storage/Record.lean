import PageTxn.Image

/-!
Records: a payload and, once a store has placed it, its place.
-/

namespace PageTxn

/-- A payload and the place where a store has put it. -/
structure Record where
  id : Option RecordId
  data : Image
  deriving DecidableEq

namespace Record

/-- The record that no store has placed yet. -/
def ofData (data : Image) : Record := ⟨none, data⟩

/-- The record at a place. -/
def placed (record : Record) (id : RecordId) : Record := { record with id := some id }

/-- The record without its place. -/
def unplaced (record : Record) : Record := { record with id := none }

end Record

end PageTxn
