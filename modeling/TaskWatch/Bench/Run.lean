import TaskWatch.Bench.Basic

/-! Runs of a cache: what its users do, step by step, and what they see.

    Users hold handles, which are numbered from zero in the order in which they were given out. After
    each step all that is due at the moment happens, unless the next step is to come first. -/

namespace TaskWatch.Bench

open Cache

/-- What somebody waits for. -/
inductive Wish (α : Type) where
  | phase (p : Phase)
  | fetching (b : Bool)
  | data (a : α)
  /-- What no entry fulfils. -/
  | never

/-- The entry fulfils the wish. -/
def Wish.holds {α : Type} [BEq α] (e : Entry α) : Wish α → Bool
  | .phase p => e.phase == p
  | .fetching b => e.fetching == b
  | .data a => e.data == some a
  | .never => false

/-- What a user does. -/
inductive Step (α : Type) where
  | subscribe (key : Key) (producer : Nat) (options : Options)
  | unsubscribe (handle : Nat)
  | current (handle : Nat)
  | latest (handle : Nat)
  | keyOf (handle : Nat)
  | changed (handle timeout : Nat)
  | waitFor (handle : Nat) (wish : Wish α) (timeout : Nat)
  | entry (key : Key) (stale : Nat)
  | refetch (key : Key)
  | invalidate (key : Key)
  | clear
  | hitRate
  | grace
  | abandon
  | resolve (producer call : Nat) (result : Except String α)
  | sleep (ms : Nat)
  | jump (ms : Nat)

/-- What comes of it. -/
inductive Outcome (α : Type) where
  | nothing
  | done
  | handle (number : Nat)
  | entry (e : Entry α)
  | found (age : Option Nat) (stale : Bool) (e : Entry α)
  | text (s : String)
  | number (n : Nat)
  | rate (r : Numeric.Binary64)
  | flag (b : Bool)
  | timedOut
  | misuse (m : Misuse)
  | noHandle
  | noCache

/-- A bench with the handles that its users hold; one given back leaves a gap. -/
structure Run (α : Type) where
  bench : Bench α
  handles : List (Option Handle) := []

namespace Run

variable {α : Type}

/-- The handle with a number, if it is still held. -/
def handle? (r : Run α) (i : Nat) : Option Handle := (r.handles[i]?).join

/-- Changes a handle. -/
def setHandle (r : Run α) (i : Nat) (h : Option Handle) : Run α :=
  { r with handles := r.handles.set i h }

/-- Takes over the cache as it has become. -/
def withCache (r : Run α) (c : Cache α) : Run α := { r with bench := r.bench.withCache c }

/-- Does something with a handle that is still held. -/
def onHandle (r : Run α) (i : Nat) (f : Handle → Run α × Outcome α) : Run α × Outcome α :=
  match r.handle? i with
  | some h => f h
  | none => (r, .noHandle)

/-- Does something with the cache, if it was not given up. -/
def onCache (r : Run α) (f : Cache α → Run α × Outcome α) : Run α × Outcome α :=
  if r.bench.cache.abandoned then (r, .noCache) else f r.bench.cache

/-- What there is to be told of an answer that was waited for. -/
def told (answer : Option (Except Misuse (Entry α))) : Outcome α :=
  match answer with
  | some (.ok e) => .entry e
  | some (.error m) => .misuse m
  | none => .timedOut

/-- Does one step, and leaves undone what is due afterwards. -/
def act [BEq α] (r : Run α) : Step α → Run α × Outcome α
  | .subscribe key producer options => r.onCache fun c =>
    match c.subscribe r.bench.instant key producer options with
    | .ok (c, h) =>
      ({ r.withCache c with handles := r.handles ++ [some h] }, .handle r.handles.length)
    | .error m => (r, .misuse m)
  | .unsubscribe i => r.onHandle i fun h =>
    let r := r.setHandle i none
    (if r.bench.cache.abandoned then r
      else r.withCache (r.bench.cache.unsubscribe r.bench.instant h), .nothing)
  | .current i => r.onHandle i fun h =>
    match h.current r.bench.cache with
    | some e => (r, .entry e)
    | none => (r, .nothing)
  | .latest i => r.onHandle i fun h =>
    match h.current r.bench.cache with
    | some e => (r.setHandle i (h.caughtUp r.bench.cache), .entry e)
    | none => (r, .nothing)
  | .keyOf i => r.onHandle i fun h => (r, .text h.key.text)
  | .changed i timeout => r.onHandle i fun h =>
    let (b, answer) := r.bench.await (fun b => h.change? b.cache) timeout
    let r := { r with bench := b }
    match answer with
    | some (.ok _) => (r.setHandle i (h.caughtUp b.cache), told answer)
    | _ => (r, told answer)
  | .waitFor i wish timeout => r.onHandle i fun h =>
    let (b, answer) := r.bench.await (fun b => h.match? (fun e => wish.holds e) b.cache) timeout
    ({ r with bench := b }.setHandle i (h.caughtUp b.cache), told answer)
  | .entry key stale => r.onCache fun c =>
    match c.entry? key with
    | some e => (r, .found (e.age r.bench.now) (e.isStale r.bench.now stale) e)
    | none => (r, .nothing)
  | .refetch key => r.onCache fun c =>
    match c.refetch r.bench.instant key with
    | .ok c => (r.withCache c, .done)
    | .error m => (r, .misuse m)
  | .invalidate key => r.onCache fun c =>
    let (c, there) := c.invalidate r.bench.instant key
    (r.withCache c, .flag there)
  | .clear => r.onCache fun c => (r.withCache (c.clear r.bench.instant), .nothing)
  | .hitRate => r.onCache fun c => (r, .rate c.stats.hitRate)
  | .grace => r.onCache fun c => (r, .number c.grace)
  | .abandon => (r.withCache (r.bench.cache.abandon r.bench.instant), .nothing)
  | .resolve producer call result =>
    let (b, ok) := r.bench.resolve producer call result
    ({ r with bench := b }, .flag ok)
  | .sleep ms => ({ r with bench := r.bench.sleep ms }, .nothing)
  | .jump ms => ({ r with bench := r.bench.jump ms }, .nothing)

/-- Does one step and, unless the next is to come first, all that is due afterwards. -/
def step [BEq α] (r : Run α) (s : Step α) (hold : Bool) : Run α × Outcome α :=
  let (r, outcome) := r.act s
  (if hold then r else { r with bench := r.bench.rest }, outcome)

/-- Which of the handles have a change to see; gaps stay gaps. -/
def changes (r : Run α) : List (Option Bool) :=
  r.handles.map (fun h => h.map (fun h => h.hasChanged r.bench.cache))

/-- The entries and how many are interested in each, in the order of their names. -/
def entries (r : Run α) : List (Entry α × Nat) :=
  let rows := r.bench.cache.slots.rows.mergeSort (fun a b => (a.1.order b.1) != .gt)
  rows.map (fun (_, s) => (s.entry, s.subscribers.length))

end Run

end TaskWatch.Bench
