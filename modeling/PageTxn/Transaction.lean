import PageTxn.Id

/-!
Transaction handles.

A `Transaction` is an identifier together with the state it has reached
(`TxnState`). Fresh identifiers come from a `TxnSource`, which hands out
consecutive numbers.
-/

namespace PageTxn

/-- How far a transaction has come. -/
inductive TxnState where
  | active
  | committing
  | committed
  | aborting
  | aborted
  deriving DecidableEq

namespace TxnState

/-- The display text of a state. -/
def text : TxnState → String
  | active => "active"
  | committing => "committing"
  | committed => "committed"
  | aborting => "aborting"
  | aborted => "aborted"

/-- A transaction that has committed or aborted is over. -/
def isTerminal : TxnState → Bool
  | committed | aborted => true
  | _ => false

end TxnState

/-- A transaction handle. -/
structure Transaction where
  id : TxnId
  state : TxnState
  deriving DecidableEq

/-- The handle of a transaction that begins. -/
def Transaction.begin (id : TxnId) : Transaction := ⟨id, .active⟩

/-- The source of fresh transaction identifiers. -/
structure TxnSource where
  /-- The number of the next fresh identifier. -/
  next : Nat
  deriving DecidableEq

namespace TxnSource

/-- The source that starts with the identifier 1. -/
def initial : TxnSource := ⟨1⟩

/-- Take a fresh identifier. -/
def fresh (source : TxnSource) : TxnId × TxnSource :=
  (⟨source.next⟩, ⟨source.next + 1⟩)

/-- Begin a transaction under a fresh identifier. -/
def start (source : TxnSource) : Transaction × TxnSource :=
  let (id, source) := source.fresh
  (Transaction.begin id, source)

end TxnSource

end PageTxn
