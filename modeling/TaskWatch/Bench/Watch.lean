import TaskWatch.Bench.Basic
import TaskWatch.Watcher

/-! Runs of a cache that is used through watchers. -/

namespace TaskWatch.Bench

open Cache

/-- What a watcher does, or what happens to the cache it watches. -/
inductive Watch.Step (α : Type) where
  | attach (watcher : Nat)
  | detach (watcher : Nat)
  | sync (watcher : Nat)
  | changed (watcher timeout : Nat)
  | refetch (watcher : Nat)
  | invalidate (watcher : Nat)
  | clear
  | resolve (producer call : Nat) (result : Except String α)
  | sleep (ms : Nat)
  | jump (ms : Nat)

/-- What comes of it. -/
inductive Watch.Outcome where
  | nothing
  | done
  | flag (b : Bool)
  | timedOut
  | misuse (m : Misuse)

/-- A bench and the watchers that use it. -/
structure Watch (α : Type) where
  bench : Bench α
  watchers : List (Watcher α)

namespace Watch

variable {α : Type}

/-- Changes a watcher. -/
def setWatcher (r : Watch α) (i : Nat) (w : Watcher α) : Watch α :=
  { r with watchers := r.watchers.set i w }

/-- Takes over the cache as it has become. -/
def withCache (r : Watch α) (c : Cache α) : Watch α := { r with bench := r.bench.withCache c }

/-- Puts a line on the log. -/
def write (r : Watch α) (l : Log.Line) : Watch α := { r with bench := r.bench.write [l] }

/-- Does something with a watcher. -/
def onWatcher (r : Watch α) (i : Nat) (f : Watcher α → Watch α × Outcome) : Watch α × Outcome :=
  match r.watchers[i]? with
  | some w => f w
  | none => (r, .nothing)

/-- Does one step, and leaves undone what is due afterwards. -/
def act (r : Watch α) : Step α → Watch α × Outcome
  | .attach i => r.onWatcher i fun w =>
    match w.attach r.bench.instant r.bench.cache with
    | .error m => (r, .misuse m)
    | .ok (v, c) =>
      let after := (r.withCache c).setWatcher i v
      (if w.isAttached then after else after.write w.attachedLine, .done)
  | .detach i => r.onWatcher i fun w =>
    let (v, c) := w.detach r.bench.instant r.bench.cache
    let after := (r.withCache c).setWatcher i v
    (if w.isAttached then after.write w.detachedLine else after, .nothing)
  | .sync i => r.onWatcher i fun w =>
    let (v, changed) := w.sync r.bench.cache
    (r.setWatcher i v, .flag changed)
  | .changed i timeout => r.onWatcher i fun w =>
    let (b, answer) := r.bench.await (fun b => w.change? b.cache) timeout
    let r := { r with bench := b }
    match answer with
    | some (.ok e) => (r.setWatcher i (w.saw b.cache e), .done)
    | some (.error m) => (r, .misuse m)
    | none => (r, .timedOut)
  | .refetch i => r.onWatcher i fun w =>
    match r.bench.cache.refetch r.bench.instant w.key with
    | .ok c => (r.withCache c, .done)
    | .error m => (r, .misuse m)
  | .invalidate i => r.onWatcher i fun w =>
    let (c, there) := r.bench.cache.invalidate r.bench.instant w.key
    (r.withCache c, .flag there)
  | .clear => (r.withCache (r.bench.cache.clear r.bench.instant), .nothing)
  | .resolve producer call result =>
    let (b, ok) := r.bench.resolve producer call result
    ({ r with bench := b }, .flag ok)
  | .sleep ms => ({ r with bench := r.bench.sleep ms }, .nothing)
  | .jump ms => ({ r with bench := r.bench.jump ms }, .nothing)

/-- Does one step and, unless the next is to come first, all that is due afterwards. -/
def step (r : Watch α) (s : Step α) (hold : Bool) : Watch α × Outcome :=
  let (r, outcome) := r.act s
  (if hold then r else { r with bench := r.bench.rest }, outcome)

end Watch

end TaskWatch.Bench
