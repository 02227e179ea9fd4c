import TaskWatch.Cache.Operations

/-! A query as one consumer watches it.

    A watcher keeps the entry it saw last, and so it can still show what there was after it has
    stopped taking an interest in the query. -/

namespace TaskWatch

open Cache

/-- A consumer of one query. -/
structure Watcher (α : Type) where
  key : Key
  producer : Nat
  options : Options
  /-- What it holds while it takes an interest in the query. -/
  handle : Option Handle := none
  /-- The entry it saw last. -/
  snapshot : Option (Entry α) := none

namespace Watcher

variable {α : Type}

/-- The watcher takes an interest in its query. -/
def isAttached (w : Watcher α) : Bool := w.handle.isSome

/-- The line that reports a watcher that has begun to take an interest. -/
def attachedLine (w : Watcher α) : Log.Line := .queries .debug "query attached" [("key", w.key.text)]

/-- The line that reports a watcher that takes no interest any more. -/
def detachedLine (w : Watcher α) : Log.Line := .queries .debug "query detached" [("key", w.key.text)]

/-- Begins to take an interest, and sees the entry as it is. -/
def attach (now : Time.Instant) (c : Cache α) (w : Watcher α) :
    Except Misuse (Watcher α × Cache α) :=
  if w.isAttached then .ok (w, c)
  else match c.subscribe now w.key w.producer w.options with
    | .ok (c, h) => .ok ({ w with handle := some (h.caughtUp c), snapshot := h.current c }, c)
    | .error m => .error m

/-- Stops taking an interest. -/
def detach (now : Time.Instant) (c : Cache α) (w : Watcher α) : Watcher α × Cache α :=
  match w.handle with
  | some h => ({ w with handle := none }, c.unsubscribe now h)
  | none => (w, c)

/-- Looks at the entry, if there is a change to see. The answer says whether there was. -/
def sync (c : Cache α) (w : Watcher α) : Watcher α × Bool :=
  match w.handle with
  | some h =>
    if h.hasChanged c then
      ({ w with handle := some (h.caughtUp c), snapshot := h.current c }, true)
    else (w, false)
  | none => (w, false)

/-- The next change, if there is one to see now. -/
def change? (c : Cache α) (w : Watcher α) : Option (Except Misuse (Entry α)) :=
  match w.handle with
  | some h => h.change? c
  | none => some (.error (.unknownKey w.key))

/-- The watcher once it has seen an entry. -/
def saw (c : Cache α) (e : Entry α) (w : Watcher α) : Watcher α :=
  { w with handle := w.handle.map (fun h => h.caughtUp c), snapshot := some e }

/-- The data it saw last. -/
def data (w : Watcher α) : Option α := w.snapshot.bind (·.data)

/-- No fetch has finished yet, as far as the watcher has seen. -/
def isLoading (w : Watcher α) : Bool :=
  match w.snapshot with
  | some e => e.data.isNone && e.error.isNone
  | none => true

end Watcher

end TaskWatch
