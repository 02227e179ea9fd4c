import TaskWatch.Numeric.Binary64

/-! Counts of what a cache did. -/

namespace TaskWatch.Cache

open TaskWatch.Numeric

/-- Counts of what a cache did. -/
structure Stats where
  /-- Subscriptions served from fresh data. -/
  hits : Nat := 0
  /-- Subscriptions that found no data. -/
  misses : Nat := 0
  /-- Subscriptions served old data while a fetch began. -/
  staleHits : Nat := 0
  /-- Subscriptions that joined a fetch under way. -/
  joined : Nat := 0
  /-- Fetches begun. -/
  fetches : Nat := 0
  /-- Fetches that failed. -/
  failures : Nat := 0
  /-- Answers dropped because a later fetch had taken over. -/
  discarded : Nat := 0
  /-- Entries removed because nobody used them. -/
  evictions : Nat := 0
  deriving DecidableEq, Repr

/-- Share of subscriptions answered without waiting for a fetch. The counts become doubles before
    they are divided. -/
def Stats.hitRate (s : Stats) : Binary64 :=
  let served := s.hits + s.staleHits
  let total := served + s.misses + s.joined
  if total = 0 then Binary64.ofNat 0 else (Binary64.ofNat served).div (Binary64.ofNat total)

end TaskWatch.Cache
