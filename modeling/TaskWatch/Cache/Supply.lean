import TaskWatch.Cache.Operations

/-! Running the jobs of a cache, given something that supplies its data.

    A fetch calls its producer when its job first runs, so one that is given up before that never
    calls it. The answer is taken when it is there, at the end of the call. -/

namespace TaskWatch.Cache

/-- What a cache calls for data, where `σ` is the state of all producers together. -/
structure Supplier (σ α : Type) where
  /-- Makes a call of a producer. The answer is the number of the call and how many milliseconds it
      takes, if that is known. -/
  call : Nat → σ → σ × Nat × Option Nat
  /-- What a producer answers to a call. -/
  reply : Nat → Nat → σ → Except String α
  /-- Ends a call, answered or not. -/
  finish : Nat → Nat → σ → σ

variable {σ α : Type}

/-- The cache without a job that is done. -/
def without (j : Job) (c : Cache α) : Cache α := { c with agenda := c.agenda.remove j.number }

/-- Calls the producer for a fetch, which then waits for the answer where it stood. -/
def placeCall (supplier : Supplier σ α) (now : Time.Instant) (j : Job) (generation producer : Nat)
    (c : Cache α) (s : σ) : Cache α × σ :=
  let (s, number, delay) := supplier.call producer s
  let due := delay.map (fun d => now.elapsed + d)
  let waiting (j : Job) : Job := { j with duty := .reply generation producer number, due }
  ({ c with agenda := c.agenda.change j.number waiting }, s)

/-- Runs a job that is due. -/
def runJob (supplier : Supplier σ α) (now : Time.Instant) (j : Job) (c : Cache α) (s : σ) :
    Cache α × σ :=
  match j.duty with
  | .call generation producer => c.placeCall supplier now j generation producer s
  | .reply generation producer call =>
    ((c.without j).settle now j.key generation (supplier.reply producer call s),
      supplier.finish producer call s)
  | .release producer call => (c.without j, supplier.finish producer call s)
  | .poll period => (c.tick now j period, s)
  | .collect token => ((c.without j).collect j.key token, s)

end TaskWatch.Cache
