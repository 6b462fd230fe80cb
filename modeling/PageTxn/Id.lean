import Std.Data.ExtTreeMap
import Std.Data.ExtTreeSet

/-!
Names of the things that transactions work on: tables, pages, transactions and
records.

* `TableId`, `PageId`, `TxnId`, `RecordId` are plain identifiers; each has a
  display text (`TableId.text`, `PageId.text`, `TxnId.text`, `RecordId.text`).
* Pages are ordered by table first and by page number second, the other
  identifiers by their number. The order is a lawful linear one
  (`Std.TransOrd`, `Std.LawfulEqOrd`), so that identifiers serve as keys of
  ordered maps and sets.
-/

namespace PageTxn

/-! ### Tables -/

/-- The identifier of a table. -/
structure TableId where
  number : Nat
  deriving DecidableEq

namespace TableId

instance : Ord TableId := ⟨compareOn TableId.number⟩

instance : Std.TransOrd TableId :=
  inferInstanceAs (Std.TransCmp (compareOn TableId.number))

/-- Tables that compare equal are equal. -/
instance : Std.LawfulEqOrd TableId where
  eq_of_compare {a b} h := by
    have number : a.number = b.number := Std.LawfulEqOrd.eq_of_compare h
    cases a; cases b; simp_all

/-- The display text of a table: `Table(1)`. -/
def text (table : TableId) : String :=
  "Table(" ++ toString table.number ++ ")"

end TableId

/-! ### Pages -/

/-- The identifier of a page: a table and the number of the page in it. -/
structure PageId where
  table : TableId
  number : Nat
  deriving DecidableEq

namespace PageId

instance : Ord PageId :=
  ⟨compareLex (compareOn PageId.table) (compareOn PageId.number)⟩

instance : Std.TransOrd PageId :=
  inferInstanceAs
    (Std.TransCmp (compareLex (compareOn PageId.table) (compareOn PageId.number)))

/-- Pages that compare equal are equal. -/
instance : Std.LawfulEqOrd PageId where
  eq_of_compare {a b} h := by
    obtain ⟨ht, hn⟩ := Ordering.then_eq_eq.1 h
    have table : a.table = b.table := Std.LawfulEqOrd.eq_of_compare ht
    have number : a.number = b.number := Std.LawfulEqOrd.eq_of_compare hn
    cases a; cases b; simp_all

/-- The short text of a page, table and number: `1:42`. -/
def shortText (page : PageId) : String :=
  toString page.table.number ++ ":" ++ toString page.number

/-- The display text of a page: `Page(1:42)`. -/
def text (page : PageId) : String :=
  "Page(" ++ page.shortText ++ ")"

end PageId

/-! ### Transactions -/

/-- The identifier of a transaction. -/
structure TxnId where
  number : Nat
  deriving DecidableEq

namespace TxnId

instance : Ord TxnId := ⟨compareOn TxnId.number⟩

instance : Std.TransOrd TxnId :=
  inferInstanceAs (Std.TransCmp (compareOn TxnId.number))

/-- Transactions that compare equal are equal. -/
instance : Std.LawfulEqOrd TxnId where
  eq_of_compare {a b} h := by
    have number : a.number = b.number := Std.LawfulEqOrd.eq_of_compare h
    cases a; cases b; simp_all

/-- The display text of a transaction: `Txn(7)`. -/
def text (txn : TxnId) : String :=
  "Txn(" ++ toString txn.number ++ ")"

end TxnId

/-! ### Records -/

/-- The place of a record: a page and a slot of it. -/
structure RecordId where
  page : PageId
  slot : Nat
  deriving DecidableEq

/-- The display text of a record's place: `Page(1:42)#3`. -/
def RecordId.text (id : RecordId) : String :=
  id.page.text ++ "#" ++ toString id.slot

end PageTxn
