import TaskWatch.Cache.Key
import TaskWatch.Log.Line

/-! What a cache reports about its work. -/

namespace TaskWatch.Cache

/-- Something a cache did. -/
inductive Event where
  | superseding (key : Key) (generation : Nat)
  | started (key : Key) (generation : Nat)
  | orphaned (key : Key) (generation : Nat)
  | overtaken (key : Key) (generation : Nat)
  | committed (key : Key) (generation : Nat)
  | failed (key : Key) (generation : Nat) (message : String)
  | skipped (key : Key)
  | joined (key : Key)
  | timerCancelled (key : Key)
  | timerScheduled (key : Key) (period : Nat)
  | evicted (key : Key)
  | evictionScheduled (key : Key) (wait : Nat)
  | invalidated (key : Key) (subscribed : Bool)
  | cleared
  deriving DecidableEq, Repr

open Log in
/-- The line of a log that reports the event. -/
def Event.line : Event → Line
  | .superseding k g =>
    .cache .debug "superseding in-flight fetch" [("key", k.text), ("generation", toString g)]
  | .started k g => .cache .debug "fetch started" [("key", k.text), ("generation", toString g)]
  | .orphaned k g =>
    .cache .debug "entry evicted, dropping fetch result"
      [("key", k.text), ("generation", toString g)]
  | .overtaken k g =>
    .cache .debug "dropping superseded fetch result" [("key", k.text), ("generation", toString g)]
  | .committed k g => .cache .debug "fetch committed" [("key", k.text), ("generation", toString g)]
  | .failed k g message =>
    .cache .warn "producer failed"
      [("key", k.text), ("generation", toString g), ("error", message)]
  | .skipped k =>
    .cache .trace "scheduled refetch skipped, fetch already in flight" [("key", k.text)]
  | .joined k => .cache .trace "joined in-flight fetch" [("key", k.text)]
  | .timerCancelled k => .cache .debug "refetch timer cancelled" [("key", k.text)]
  | .timerScheduled k p =>
    .cache .debug "refetch timer scheduled" [("key", k.text), ("period_ms", toString p)]
  | .evicted k => .cache .debug "entry evicted" [("key", k.text)]
  | .evictionScheduled k w =>
    .cache .trace "eviction scheduled" [("key", k.text), ("gc_ms", toString w)]
  | .invalidated k s =>
    .cache .debug "entry invalidated"
      [("key", k.text), ("subscribed", if s then "true" else "false")]
  | .cleared => .cache .debug "query cache cleared" []

end TaskWatch.Cache
