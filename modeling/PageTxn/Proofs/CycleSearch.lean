import Mathlib.Data.Finset.Card
import Mathlib.Logic.Relation
import Mathlib.Tactic.Common
import PageTxn.Lock.WaitGraph

/-!
The search for a cycle, and wait graphs without cycles.

* `WaitGraph.search_iff`: the search finds a way back to the start exactly if there is one, for
  any listing of the successors, provided that the fuel suffices for the queue and for the
  transactions that were not visited.
* `hasCycleFromBy_iff` and `hasCycleFrom_iff`: the number of edges suffices.
* `WaitGraph.Acyclic` says that no way leads from a transaction back to itself. Edges that are
  dropped close no cycle (`Acyclic.anti`), and neither do new edges of one waiter if no cycle is
  found from it (`Acyclic.setWaits`).
-/

namespace PageTxn

open Relation

/-- A way under the later relation either is one under the earlier relation or comes through the
one place where steps may be new. -/
lemma transGen_or_through {α : Type*} {earlier later : α → α → Prop} {pivot a b : α}
    (same : ∀ x y, x ≠ pivot → later x y → earlier x y) (way : TransGen later a b) :
    TransGen earlier a b ∨ (ReflTransGen later a pivot ∧ TransGen later pivot b) := by
  induction way with
  | single first =>
      by_cases here : a = pivot
      · subst here
        exact Or.inr ⟨.refl, .single first⟩
      · exact Or.inl (.single (same _ _ here first))
  | @tail middle last way step ih =>
      by_cases here : middle = pivot
      · subst here
        exact Or.inr ⟨way.to_reflTransGen, .single step⟩
      · rcases ih with before | ⟨arrives, leaves⟩
        · exact Or.inl (before.tail (same _ _ here step))
        · exact Or.inr ⟨arrives, leaves.tail step⟩

namespace WaitGraph

/-! ### The search -/

section Search

variable {next : TxnId → List TxnId} {start : TxnId} {visited : Std.ExtTreeSet TxnId}
  {queue : List TxnId}

/-- Whoever was reached is still queued, or its successors were visited and the start is not
among them. -/
def Explored (next : TxnId → List TxnId) (start : TxnId) (visited : Std.ExtTreeSet TxnId)
    (queue : List TxnId) : Prop :=
  ∀ txn, txn = start ∨ txn ∈ visited →
    txn ∈ queue ∨ (start ∉ next txn ∧ ∀ holder ∈ next txn, holder ∈ visited)

/-- When nobody is queued any more, no way leads back. -/
lemma Explored.not_transGen (explored : Explored next start visited []) :
    ¬ TransGen (fun waiter holder => holder ∈ next waiter) start start := by
  have closed : ∀ txn, txn = start ∨ txn ∈ visited →
      start ∉ next txn ∧ ∀ holder ∈ next txn, holder ∈ visited :=
    fun txn reached => (explored txn reached).resolve_left (by simp)
  have inside : ∀ txn, TransGen (fun waiter holder => holder ∈ next waiter) start txn →
      txn ∈ visited := by
    intro txn way
    induction way with
    | single step => exact (closed start (Or.inl rfl)).2 _ step
    | tail _ step ih => exact (closed _ (Or.inr ih)).2 _ step
  intro way
  obtain ⟨last, before, step⟩ := TransGen.tail'_iff.mp way
  rcases reflTransGen_iff_eq_or_transGen.mp before with same | before
  · subst same
    exact (closed last (Or.inl rfl)).1 step
  · exact (closed last (Or.inr (inside last before))).1 step

/-- The successors that were not visited before. -/
abbrev fresh (next : TxnId → List TxnId) (visited : Std.ExtTreeSet TxnId) (txn : TxnId) :
    List TxnId :=
  (next txn).filter fun holder => !visited.contains holder

lemma mem_fresh {txn holder : TxnId} :
    holder ∈ fresh next visited txn ↔ holder ∈ next txn ∧ holder ∉ visited := by
  rw [fresh, List.mem_filter, Bool.not_eq_true', ← Bool.not_eq_true,
    Std.ExtTreeSet.contains_iff_mem]

/-- After a transaction was taken from the queue, its successors are visited. -/
lemma Explored.step {txn : TxnId} (explored : Explored next start visited (txn :: queue))
    (none : start ∉ next txn) :
    Explored next start (visited.insertMany (fresh next visited txn))
      (queue ++ fresh next visited txn) := by
  have grown : ∀ other, other ∈ visited.insertMany (fresh next visited txn) ↔
      other ∈ visited ∨ other ∈ fresh next visited txn := by
    intro other
    rw [Std.ExtTreeSet.mem_insertMany_list, List.contains_iff_mem]
  intro other reached
  by_cases new : other ∈ fresh next visited txn
  · exact Or.inl (List.mem_append_right _ new)
  have before : other = start ∨ other ∈ visited :=
    reached.imp_right fun inside => ((grown other).mp inside).resolve_right new
  rcases explored other before with queued | ⟨apart, inside⟩
  · rcases List.mem_cons.mp queued with rfl | queued
    · refine Or.inr ⟨none, fun holder listed => (grown holder).mpr ?_⟩
      by_cases seen : holder ∈ visited
      · exact Or.inl seen
      · exact Or.inr (mem_fresh.mpr ⟨listed, seen⟩)
    · exact Or.inl (List.mem_append_left _ queued)
  · exact Or.inr ⟨apart, fun holder listed => (grown holder).mpr (Or.inl (inside holder listed))⟩

/-- Whoever is queued anew was not visited before, and is visited from then on. -/
lemma card_unvisited {targets : Finset TxnId} (visited : Std.ExtTreeSet TxnId) {txn : TxnId}
    (distinct : (next txn).Nodup) (inside : ∀ holder ∈ next txn, holder ∈ targets) :
    (targets.filter (· ∉ visited.insertMany (fresh next visited txn))).card +
        (fresh next visited txn).length =
      (targets.filter (· ∉ visited)).card := by
  have among : (fresh next visited txn).toFinset ⊆ targets.filter (· ∉ visited) := by
    intro holder listed
    obtain ⟨successor, unseen⟩ := mem_fresh.mp (List.mem_toFinset.mp listed)
    exact Finset.mem_filter.mpr ⟨inside holder successor, unseen⟩
  have left : targets.filter (· ∉ visited.insertMany (fresh next visited txn)) =
      targets.filter (· ∉ visited) \ (fresh next visited txn).toFinset := by
    ext holder
    simp only [Finset.mem_filter, Finset.mem_sdiff, List.mem_toFinset,
      Std.ExtTreeSet.mem_insertMany_list, List.contains_iff_mem, not_or, and_assoc]
  rw [left, ← List.toFinset_card_of_nodup (distinct.filter _),
    Finset.card_sdiff_add_card_eq_card among]

/-- The search finds a way back to the start exactly if there is one. -/
theorem search_iff (targets : Finset TxnId) (distinct : ∀ txn, (next txn).Nodup)
    (inside : ∀ txn, ∀ holder ∈ next txn, holder ∈ targets) {fuel : Nat}
    (enough : queue.length + (targets.filter (· ∉ visited)).card ≤ fuel)
    (explored : Explored next start visited queue)
    (reached : ∀ txn ∈ queue, ReflTransGen (fun waiter holder => holder ∈ next waiter) start txn) :
    search next start fuel visited queue = true ↔
      TransGen (fun waiter holder => holder ∈ next waiter) start start := by
  induction fuel generalizing visited queue with
  | zero =>
      have empty : queue = [] := List.length_eq_zero_iff.mp (by omega)
      subst empty
      exact ⟨fun found => by simp [search] at found,
        fun way => absurd way explored.not_transGen⟩
  | succ fuel ih =>
      cases queue with
      | nil =>
          exact ⟨fun found => by simp [search] at found,
            fun way => absurd way explored.not_transGen⟩
      | cons txn queue =>
          have here := reached txn List.mem_cons_self
          rw [search]
          split
          · next back => exact ⟨fun _ => .tail' here back, fun _ => rfl⟩
          · next none =>
            have count := card_unvisited visited (distinct txn) (inside txn)
            show search next start fuel (visited.insertMany (fresh next visited txn))
              (queue ++ fresh next visited txn) = true ↔ _
            refine ih ?_ (explored.step none) fun other queued => ?_
            · rw [List.length_append]
              rw [List.length_cons] at enough
              omega
            · rcases List.mem_append.mp queued with queued | new
              · exact reached other (List.mem_cons_of_mem _ queued)
              · exact here.tail (mem_fresh.mp new).1

end Search

/-! ### The number of edges -/

variable {graph earlier later : WaitGraph} {waiter holder start : TxnId}

/-- The first transaction waits for the second. -/
def Edge (graph : WaitGraph) (waiter holder : TxnId) : Prop := holder ∈ graph.holders waiter

lemma mem_waitingOn : holder ∈ graph.waitingOn waiter ↔ graph.Edge waiter holder :=
  Std.ExtTreeSet.mem_toList

/-- The ends of all edges. -/
def ends (graph : WaitGraph) : List TxnId :=
  graph.edges.toList.flatMap fun entry => entry.2.toList

lemma length_ends (graph : WaitGraph) : graph.ends.length = graph.edgeCount := by
  have sums : ∀ (entries : List (TxnId × Std.ExtTreeSet TxnId)) (count : Nat),
      entries.foldl (fun count entry => count + entry.2.size) count =
        count + (entries.flatMap fun entry => entry.2.toList).length := by
    intro entries
    induction entries with
    | nil => simp
    | cons entry rest ih =>
        intro count
        rw [List.foldl_cons, ih, List.flatMap_cons, List.length_append,
          Std.ExtTreeSet.length_toList, Nat.add_assoc]
  rw [ends, edgeCount, Std.ExtTreeMap.foldl_eq_foldl_toList, sums, Nat.zero_add]

lemma Edge.mem_ends (edge : graph.Edge waiter holder) : holder ∈ graph.ends := by
  rw [Edge, holders, Std.ExtTreeMap.getD_eq_getD_getElem?] at edge
  cases found : graph.edges[waiter]? with
  | none => simp [found] at edge
  | some others =>
      rw [found, Option.getD_some] at edge
      exact List.mem_flatMap.mpr ⟨(waiter, others),
        Std.ExtTreeMap.mem_toList_iff_getElem?_eq_some.mpr found,
        Std.ExtTreeSet.mem_toList.mpr edge⟩

/-- The search is exact and comes to an end for any listing of the holders. -/
theorem hasCycleFromBy_iff {next : TxnId → List TxnId} (distinct : ∀ txn, (next txn).Nodup)
    (listing : ∀ waiter holder, holder ∈ next waiter ↔ graph.Edge waiter holder) :
    graph.hasCycleFromBy next start = true ↔ TransGen graph.Edge start start := by
  have same : (fun waiter holder => holder ∈ next waiter) = graph.Edge := by
    funext waiter holder
    exact propext (listing waiter holder)
  have bound : graph.ends.toFinset.card ≤ graph.edgeCount := by
    rw [← length_ends]
    exact List.toFinset_card_le _
  rw [hasCycleFromBy, search_iff graph.ends.toFinset distinct, same]
  · intro txn holder listed
    exact List.mem_toFinset.mpr ((listing txn holder).mp listed).mem_ends
  · have part := Finset.card_filter_le graph.ends.toFinset (· ∉ (∅ : Std.ExtTreeSet TxnId))
    rw [List.length_singleton]
    omega
  · rintro txn (rfl | inside)
    · exact Or.inl (List.mem_singleton_self _)
    · exact absurd inside Std.ExtTreeSet.not_mem_empty
  · intro txn queued
    rw [List.mem_singleton.mp queued]

/-- Ascending lists have no element twice. -/
lemma nodup_waitingOn (graph : WaitGraph) (waiter : TxnId) : (graph.waitingOn waiter).Nodup := by
  refine (Std.ExtTreeSet.distinct_toList (t := graph.holders waiter)).imp ?_
  rintro a b apart rfl
  exact apart Std.ReflCmp.compare_self

/-- The search for a cycle is exact. -/
theorem hasCycleFrom_iff :
    graph.hasCycleFrom start = true ↔ TransGen graph.Edge start start :=
  hasCycleFromBy_iff graph.nodup_waitingOn fun _ _ => mem_waitingOn

/-! ### Graphs without cycles -/

/-- No way leads from a transaction back to itself. -/
def Acyclic (graph : WaitGraph) : Prop := ∀ txn, ¬ TransGen graph.Edge txn txn

lemma not_edge_empty : ¬ WaitGraph.empty.Edge waiter holder := by
  rw [Edge, holders_empty]
  exact Std.ExtTreeSet.not_mem_empty

lemma acyclic_empty : WaitGraph.empty.Acyclic := by
  intro txn way
  obtain ⟨last, -, step⟩ := TransGen.tail'_iff.mp way
  exact not_edge_empty step

/-- A graph with fewer edges has no more cycles. -/
lemma Acyclic.anti (acyclic : earlier.Acyclic) (fewer : later.Edge ≤ earlier.Edge) :
    later.Acyclic :=
  fun txn way => acyclic txn (TransGen.mono fewer _ _ way)

lemma edge_clearWaits :
    (graph.clearWaits start).Edge waiter holder ↔ start ≠ waiter ∧ graph.Edge waiter holder := by
  rw [Edge, holders_clearWaits, Edge]
  split <;> simp_all

lemma edge_clearWaitsOn :
    (graph.clearWaitsOn start).Edge waiter holder ↔ start ≠ holder ∧ graph.Edge waiter holder := by
  rw [Edge, holders_clearWaitsOn, Std.ExtTreeSet.mem_erase, Edge]
  simp

lemma edge_setWaits {others : Std.ExtTreeSet TxnId} :
    (graph.setWaits start others).Edge waiter holder ↔
      if start = waiter then holder ∈ others else graph.Edge waiter holder := by
  rw [Edge, holders_setWaits, Edge]
  split <;> rfl

lemma Acyclic.clearWaits (acyclic : graph.Acyclic) (txn : TxnId) :
    (graph.clearWaits txn).Acyclic :=
  acyclic.anti fun _ _ edge => (edge_clearWaits.mp edge).2

/-- If a cycle is closed by new edges of one waiter, then it is found from there. -/
theorem Acyclic.setWaits (acyclic : graph.Acyclic) {txn : TxnId} {others : Std.ExtTreeSet TxnId}
    (none : (graph.setWaits txn others).hasCycleFrom txn = false) :
    (graph.setWaits txn others).Acyclic := by
  have old : ∀ waiter holder, waiter ≠ txn → (graph.setWaits txn others).Edge waiter holder →
      graph.Edge waiter holder := by
    intro waiter holder apart edge
    rwa [edge_setWaits, if_neg (Ne.symm apart)] at edge
  intro other way
  rcases transGen_or_through old way with before | ⟨arrives, leaves⟩
  · exact acyclic other before
  · have found := hasCycleFrom_iff.mpr (leaves.trans_left arrives)
    rw [none] at found
    cases found

end WaitGraph

end PageTxn
