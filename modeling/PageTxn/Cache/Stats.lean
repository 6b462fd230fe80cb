import PageTxn.Decimal.Fixed

/-!
What the cache counts.

`CacheStats` counts events since the cache was made. `CacheStats.snapshot`
reads the counters, which are 64-bit words and start again at 0 after the
largest word; `StatsSnapshot.hitRate` and `StatsSnapshot.text` describe what was
read.
-/

namespace PageTxn

/-- The events that a cache counts. -/
structure CacheStats where
  /-- Fetches that found the page resident. -/
  hits : Nat
  /-- Fetches that did not. -/
  misses : Nat
  /-- Clean pages that had to leave. -/
  evictions : Nat
  /-- Pages read from their stores. -/
  read : Nat
  /-- Pages written to their stores. -/
  written : Nat
  deriving DecidableEq

/-- The counters at one moment. -/
structure StatsSnapshot where
  hits : UInt64
  misses : UInt64
  evictions : UInt64
  read : UInt64
  written : UInt64
  deriving DecidableEq

namespace CacheStats

/-- No event was counted yet. -/
def zero : CacheStats := ⟨0, 0, 0, 0, 0⟩

instance : Inhabited CacheStats := ⟨zero⟩

/-- Count the events of both. -/
def add (a b : CacheStats) : CacheStats :=
  ⟨a.hits + b.hits, a.misses + b.misses, a.evictions + b.evictions, a.read + b.read,
    a.written + b.written⟩

/-- Read the counters. -/
def snapshot (stats : CacheStats) : StatsSnapshot where
  hits := UInt64.ofNat stats.hits
  misses := UInt64.ofNat stats.misses
  evictions := UInt64.ofNat stats.evictions
  read := UInt64.ofNat stats.read
  written := UInt64.ofNat stats.written

end CacheStats

namespace StatsSnapshot

/-- The share of fetches that found the page resident; 0 if there were none. -/
def hitRate (stats : StatsSnapshot) : Float :=
  let total := stats.hits + stats.misses
  if total = 0 then 0.0 else stats.hits.toFloat / total.toFloat

/-- The display text of the counters; the hit rate is a percentage with two
places. -/
def text (stats : StatsSnapshot) : String :=
  "Stats \x7b hits: " ++ toString stats.hits.toNat ++
    ", misses: " ++ toString stats.misses.toNat ++
    ", evictions: " ++ toString stats.evictions.toNat ++
    ", written: " ++ toString stats.written.toNat ++
    ", hit_rate: " ++ Decimal.fixedText 2 (stats.hitRate * 100.0) ++ "% \x7d"

end StatsSnapshot

end PageTxn
