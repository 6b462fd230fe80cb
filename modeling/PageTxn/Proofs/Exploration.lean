import PageTxn.Proofs.CycleSearch

/-!
The search for a cycle, round by round.

* `WaitGraph.ofUpdates` is the graph that some updates lead to, and `waitsAfter` says without
  graphs who waits for whom after them (`edge_ofUpdates`).
* `WaitGraph.Explores` is the search as a loop that nothing bounds: one round takes a transaction
  from the queue and goes through those that it waits for, one after the other (`meet`). It leaves
  off in the middle when it comes back to the start.
* `exists_explores`: the loop ends, after no more rounds than `WaitGraph.search` has fuel, and with
  the same answer. `Explores.unique`: it cannot end in another way.
* `cycle_search_is_exact`: so the search ends for every graph, every start and every order in which
  the holders are listed, and it tells whether a way leads back to the start.
-/

namespace PageTxn

open Relation

/-! ### Updates -/

/-- An update of a wait graph. -/
inductive WaitUpdate where
  /-- A transaction waits for these and for nobody else. -/
  | set (waiter : TxnId) (holders : Std.ExtTreeSet TxnId)
  /-- A transaction waits for nobody. -/
  | clear (waiter : TxnId)
  /-- Nobody waits for a transaction. -/
  | clearOn (holder : TxnId)

/-- Who waits for whom after an update. -/
def WaitUpdate.on (waits : TxnId → TxnId → Prop) : WaitUpdate → TxnId → TxnId → Prop
  | set txn holders => fun waiter holder =>
      if txn = waiter then holder ∈ holders else waits waiter holder
  | clear txn => fun waiter holder => txn ≠ waiter ∧ waits waiter holder
  | clearOn txn => fun waiter holder => txn ≠ holder ∧ waits waiter holder

/-- Who waits for whom after some updates, where nobody waited before. -/
def waitsAfter (updates : List WaitUpdate) : TxnId → TxnId → Prop :=
  updates.foldl WaitUpdate.on fun _ _ => False

namespace WaitGraph

/-- Update a graph. -/
def update (graph : WaitGraph) : WaitUpdate → WaitGraph
  | .set waiter holders => graph.setWaits waiter holders
  | .clear waiter => graph.clearWaits waiter
  | .clearOn holder => graph.clearWaitsOn holder

/-- The graph after some updates of the empty one. -/
def ofUpdates (updates : List WaitUpdate) : WaitGraph := updates.foldl update empty

lemma edge_update (graph : WaitGraph) (change : WaitUpdate) :
    (graph.update change).Edge = change.on graph.Edge := by
  funext waiter holder
  apply propext
  cases change with
  | set txn holders => exact edge_setWaits
  | clear txn => exact edge_clearWaits
  | clearOn txn => exact edge_clearWaitsOn

/-- The edges of a graph are the waits that the updates have left. -/
theorem edge_ofUpdates (updates : List WaitUpdate) :
    (ofUpdates updates).Edge = waitsAfter updates := by
  have step : ∀ graph : WaitGraph,
      (updates.foldl update graph).Edge = updates.foldl WaitUpdate.on graph.Edge := by
    induction updates with
    | nil => exact fun graph => rfl
    | cons change rest ih =>
        intro graph
        rw [List.foldl_cons, List.foldl_cons, ih, edge_update]
  have nobody : empty.Edge = fun _ _ => False := by
    funext waiter holder
    exact propext ⟨not_edge_empty, False.elim⟩
  rw [ofUpdates, waitsAfter, step, nobody]

/-! ### The rounds of the search -/

section Rounds

variable {next : TxnId → List TxnId} {start : TxnId} {visited : Std.ExtTreeSet TxnId}
  {queue holders : List TxnId}

/-- Go through the holders that one transaction waits for. Unless the start is met, those that were
not visited are visited and queued. -/
def meet (start : TxnId) : List TxnId → Std.ExtTreeSet TxnId → List TxnId →
    Option (Std.ExtTreeSet TxnId × List TxnId)
  | [], visited, queue => some (visited, queue)
  | holder :: rest, visited, queue =>
      if holder = start then none
      else if visited.contains holder then meet start rest visited queue
      else meet start rest (visited.insert holder) (queue ++ [holder])

/-- Going through the holders one after the other does to them what is done to all at once: no
holder is listed twice, so none is visited by an earlier one. -/
lemma meet_eq (distinct : holders.Nodup) :
    meet start holders visited queue =
      if start ∈ holders then none
      else some (visited.insertMany (holders.filter fun holder => !visited.contains holder),
        queue ++ holders.filter fun holder => !visited.contains holder) := by
  induction holders generalizing visited queue with
  | nil => simp [meet]
  | cons holder rest ih =>
      obtain ⟨apart, distinct⟩ := List.nodup_cons.mp distinct
      rw [meet]
      split
      · next back => simp [back]
      · next elsewhere =>
        have start_mem : start ∈ holder :: rest ↔ start ∈ rest := by
          rw [List.mem_cons, or_iff_right (Ne.symm elsewhere)]
        simp only [start_mem]
        split
        · next seen => rw [ih distinct, List.filter_cons_of_neg (by simp [seen])]
        · next unseen =>
          have others : (rest.filter fun other => !(visited.insert holder).contains other) =
              rest.filter fun other => !visited.contains other := by
            refine List.filter_congr fun other listed => ?_
            have different : holder ≠ other := fun same => apart (same ▸ listed)
            simp [Std.ExtTreeSet.contains_insert, different]
          rw [ih distinct, others, List.filter_cons_of_pos (by simp [unseen]),
            Std.ExtTreeSet.insertMany_cons, List.append_assoc, List.singleton_append]

/-- The search goes on for some rounds and ends with an answer. -/
inductive Explores (next : TxnId → List TxnId) (start : TxnId) :
    Nat → Std.ExtTreeSet TxnId → List TxnId → Bool → Prop
  /-- Nobody is queued. -/
  | exhausted {visited : Std.ExtTreeSet TxnId} : Explores next start 0 visited [] false
  /-- The start is among those that the first transaction waits for. -/
  | closed {visited : Std.ExtTreeSet TxnId} {txn : TxnId} {queue : List TxnId}
      (back : meet start (next txn) visited queue = none) :
      Explores next start 1 visited (txn :: queue) true
  /-- It is not, and the search goes on. -/
  | onward {visited visited' : Std.ExtTreeSet TxnId} {txn : TxnId} {queue queue' : List TxnId}
      {rounds : Nat} {found : Bool}
      (passed : meet start (next txn) visited queue = some (visited', queue'))
      (rest : Explores next start rounds visited' queue' found) :
      Explores next start (rounds + 1) visited (txn :: queue) found

/-- The search cannot end in two ways. -/
lemma Explores.unique {n m : Nat} {a b : Bool} (first : Explores next start n visited queue a)
    (second : Explores next start m visited queue b) : m = n ∧ b = a := by
  induction first generalizing m b with
  | exhausted =>
      cases second
      exact ⟨rfl, rfl⟩
  | closed back =>
      cases second with
      | closed => exact ⟨rfl, rfl⟩
      | onward passed rest =>
          rw [back] at passed
          cases passed
  | onward passed rest ih =>
      cases second with
      | closed back =>
          rw [back] at passed
          cases passed
      | onward passed' rest' =>
          rw [passed] at passed'
          cases passed'
          obtain ⟨rfl, rfl⟩ := ih rest'
          exact ⟨rfl, rfl⟩

/-- The search ends, with the answer that `WaitGraph.search` gives. Every round takes one
transaction from those that are queued or were not visited, so the fuel is not used up before. -/
lemma exists_explores (targets : Finset TxnId) (distinct : ∀ txn, (next txn).Nodup)
    (inside : ∀ txn, ∀ holder ∈ next txn, holder ∈ targets) {fuel : Nat}
    (enough : queue.length + (targets.filter (· ∉ visited)).card ≤ fuel) :
    ∃ rounds ≤ fuel, Explores next start rounds visited queue
      (search next start fuel visited queue) := by
  induction fuel generalizing visited queue with
  | zero =>
      have empty : queue = [] := List.length_eq_zero_iff.mp (by omega)
      subst empty
      exact ⟨0, Nat.le_refl 0, .exhausted⟩
  | succ fuel ih =>
      cases queue with
      | nil => exact ⟨0, Nat.zero_le _, .exhausted⟩
      | cons txn queue =>
          have round : meet start (next txn) visited queue = _ := meet_eq (distinct txn)
          rw [search]
          split
          · next back =>
            rw [if_pos back] at round
            exact ⟨1, Nat.succ_le_succ (Nat.zero_le fuel), .closed round⟩
          · next apart =>
            rw [if_neg apart] at round
            have count := card_unvisited visited (distinct txn) (inside txn)
            have left : (queue ++ fresh next visited txn).length + (targets.filter
                (· ∉ visited.insertMany (fresh next visited txn))).card ≤ fuel := by
              rw [List.length_append]
              rw [List.length_cons] at enough
              omega
            obtain ⟨rounds, few, rest⟩ := ih left
            exact ⟨rounds + 1, Nat.succ_le_succ few, .onward round rest⟩

end Rounds

/-! ### The search of a graph -/

/-- An order in which the holders of each transaction are listed. -/
structure Listing (graph : WaitGraph) where
  next : TxnId → List TxnId
  perm : ∀ waiter, (next waiter).Perm (graph.waitingOn waiter)

namespace Listing

variable {graph : WaitGraph} (listing : Listing graph)

instance : Inhabited (Listing graph) := ⟨graph.waitingOn, fun _ => .refl _⟩

lemma nodup (waiter : TxnId) : (listing.next waiter).Nodup :=
  (listing.perm waiter).nodup_iff.mpr (graph.nodup_waitingOn waiter)

lemma mem_next {waiter holder : TxnId} :
    holder ∈ listing.next waiter ↔ graph.Edge waiter holder :=
  (listing.perm waiter).mem_iff.trans mem_waitingOn

/-- The answer of the search does not depend on the listing. -/
lemma hasCycleFromBy_eq (start : TxnId) :
    graph.hasCycleFromBy listing.next start = graph.hasCycleFrom start := by
  rw [Bool.eq_iff_iff, hasCycleFrom_iff]
  exact hasCycleFromBy_iff listing.nodup fun _ _ => listing.mem_next

/-- The search of a graph ends, after one round for the start and at most one for each edge. -/
lemma exists_explores (start : TxnId) :
    ∃ rounds ≤ graph.edgeCount + 1,
      Explores listing.next start rounds ∅ [start] (graph.hasCycleFrom start) := by
  rw [← listing.hasCycleFromBy_eq, hasCycleFromBy]
  refine WaitGraph.exists_explores graph.ends.toFinset listing.nodup
    (fun txn holder listed => List.mem_toFinset.mpr (listing.mem_next.mp listed).mem_ends) ?_
  have part := Finset.card_filter_le graph.ends.toFinset (· ∉ (∅ : Std.ExtTreeSet TxnId))
  have bound := graph.ends.toFinset_card_le
  rw [length_ends] at bound
  rw [List.length_singleton]
  omega

end Listing

/-- **The search for a cycle is exact and ends.** Take the graph that any updates lead to, any start
and any order in which the holders of each transaction are listed. The loop ends after some rounds,
at most one for each edge and one for the start; it can end in no other way, and its answer is
whether a way of at least one wait leads from the start back to it. -/
theorem cycle_search_is_exact (updates : List WaitUpdate) (start : TxnId)
    (listing : Listing (ofUpdates updates)) :
    ((ofUpdates updates).hasCycleFrom start = true ↔
        TransGen (waitsAfter updates) start start) ∧
      ∃ rounds ≤ (ofUpdates updates).edgeCount + 1, ∀ n found,
        Explores listing.next start n ∅ [start] found ↔
          n = rounds ∧ found = (ofUpdates updates).hasCycleFrom start := by
  refine ⟨?_, ?_⟩
  · rw [hasCycleFrom_iff, edge_ofUpdates]
  · obtain ⟨rounds, few, ends⟩ := listing.exists_explores start
    refine ⟨rounds, few, fun n found => ⟨fun other => ends.unique other, ?_⟩⟩
    rintro ⟨rfl, rfl⟩
    exact ends

/-- A cycle that does not lead through the start is passed by, also where it is a single edge. -/
example :
    let graph := ofUpdates [.set ⟨1⟩ {⟨2⟩, ⟨3⟩}, .set ⟨2⟩ {⟨3⟩, ⟨2⟩}, .set ⟨3⟩ {⟨2⟩, ⟨4⟩},
      .set ⟨4⟩ {⟨1⟩}, .clearOn ⟨1⟩]
    graph.hasCycleFrom ⟨1⟩ = false ∧ graph.hasCycleFrom ⟨2⟩ = true ∧
      graph.hasCycleFrom ⟨4⟩ = false := by
  decide +kernel

end WaitGraph

end PageTxn
