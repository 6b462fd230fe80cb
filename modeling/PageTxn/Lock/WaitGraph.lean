import PageTxn.Id

/-!
Who waits for whom.

An edge from one transaction to another means that the first is stalled on a
lock which the second holds. `WaitGraph` keeps the non-empty sets of holders by
waiter.

* `WaitGraph.holders` is the view of a graph: the set of transactions that a
  transaction waits for. `holders_setWaits`, `holders_clearWaits` and
  `holders_clearWaitsOn` say what each update does to it.
* `WaitGraph.hasCycleFrom` searches breadth first for a way back to the start.
  The search itself, `WaitGraph.search`, works on any listing of the holders.
-/

namespace PageTxn

/-- The transactions that waiting transactions wait for. -/
structure WaitGraph where
  edges : Std.ExtTreeMap TxnId (Std.ExtTreeSet TxnId)

namespace WaitGraph

/-- Nobody waits. -/
def empty : WaitGraph := ⟨∅⟩

instance : Inhabited WaitGraph := ⟨empty⟩

/-- The transactions that `waiter` waits for. -/
def holders (graph : WaitGraph) (waiter : TxnId) : Std.ExtTreeSet TxnId :=
  graph.edges.getD waiter ∅

/-- The transactions that `waiter` waits for, in ascending order. -/
def waitingOn (graph : WaitGraph) (waiter : TxnId) : List TxnId :=
  (graph.holders waiter).toList

/-! ### Updates -/

/-- Let `waiter` wait for `holders` and for nobody else. -/
def setWaits (graph : WaitGraph) (waiter : TxnId) (holders : Std.ExtTreeSet TxnId) :
    WaitGraph :=
  if holders.isEmpty then ⟨graph.edges.erase waiter⟩
  else ⟨graph.edges.insert waiter holders⟩

/-- Let `waiter` wait for nobody. -/
def clearWaits (graph : WaitGraph) (waiter : TxnId) : WaitGraph :=
  ⟨graph.edges.erase waiter⟩

/-- Let nobody wait for `holder`. -/
def clearWaitsOn (graph : WaitGraph) (holder : TxnId) : WaitGraph :=
  ⟨graph.edges.filterMap fun _ holders =>
    let rest := holders.erase holder
    if rest.isEmpty then none else some rest⟩

@[simp]
theorem holders_empty (txn : TxnId) : empty.holders txn = ∅ := by
  simp [empty, holders]

/-- The new set of holders replaces the old one; other waiters keep theirs. -/
theorem holders_setWaits (graph : WaitGraph) (waiter : TxnId)
    (holders : Std.ExtTreeSet TxnId) (txn : TxnId) :
    (graph.setWaits waiter holders).holders txn =
      if waiter = txn then holders else graph.holders txn := by
  unfold setWaits
  split
  · next alone =>
    have nobody : holders = ∅ := Std.ExtTreeSet.isEmpty_iff.1 alone
    simp [WaitGraph.holders, Std.ExtTreeMap.getD_erase, nobody]
  · simp [WaitGraph.holders, Std.ExtTreeMap.getD_insert]

/-- The waiter that is cleared waits for nobody; other waiters keep their
holders. -/
theorem holders_clearWaits (graph : WaitGraph) (waiter txn : TxnId) :
    (graph.clearWaits waiter).holders txn =
      if waiter = txn then ∅ else graph.holders txn := by
  simp [clearWaits, holders, Std.ExtTreeMap.getD_erase]

/-- Exactly the holder that is cleared leaves every set of holders. -/
theorem holders_clearWaitsOn (graph : WaitGraph) (holder txn : TxnId) :
    (graph.clearWaitsOn holder).holders txn = (graph.holders txn).erase holder := by
  unfold clearWaitsOn holders
  rw [Std.ExtTreeMap.getD_eq_getD_getElem?, Std.ExtTreeMap.getD_eq_getD_getElem?,
    Std.ExtTreeMap.getElem?_filterMap]
  cases found : graph.edges[txn]? with
  | none => simp
  | some holders =>
      simp only [Option.pbind_some, Option.getD_some]
      split
      · next alone =>
        -- the waiter waited for nobody else
        exact (Std.ExtTreeSet.isEmpty_iff.1 alone).symm
      · rfl

/-! ### The search for a cycle -/

/-- Breadth-first search for `start` among the successors of the queued
transactions, by any listing `next` of the successors. Each transaction enters
the queue at most once after the start; `fuel` bounds the number of transactions
taken from the queue. -/
def search (next : TxnId → List TxnId) (start : TxnId) :
    Nat → Std.ExtTreeSet TxnId → List TxnId → Bool
  | 0, _, _ => false
  | _ + 1, _, [] => false
  | fuel + 1, visited, txn :: queue =>
      if start ∈ next txn then true
      else
        let fresh := (next txn).filter fun holder => !visited.contains holder
        search next start fuel (visited.insertMany fresh) (queue ++ fresh)

/-- The number of edges. -/
def edgeCount (graph : WaitGraph) : Nat :=
  graph.edges.foldl (fun count _ holders => count + holders.size) 0

/-- Whether some way of at least one edge leads from `start` back to `start`,
with the holders of each transaction taken in the order in which `next` lists
them. Every transaction that enters the queue is the end of an edge. -/
def hasCycleFromBy (graph : WaitGraph) (next : TxnId → List TxnId) (start : TxnId) : Bool :=
  search next start (graph.edgeCount + 1) ∅ [start]

/-- Whether some way of at least one edge leads from `start` back to `start`. -/
def hasCycleFrom (graph : WaitGraph) (start : TxnId) : Bool :=
  graph.hasCycleFromBy graph.waitingOn start

end WaitGraph

end PageTxn
