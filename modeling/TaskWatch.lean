import TaskWatch.Bench.Desk
import TaskWatch.Bench.Dialogue
import TaskWatch.Bench.Run
import TaskWatch.Bench.Watch
import TaskWatch.Main
import TaskWatch.Proofs.Bench.Follows
import TaskWatch.Proofs.Board.UpToDate
import TaskWatch.Proofs.Cache.Balance
import TaskWatch.Proofs.Cache.Calls
import TaskWatch.Proofs.Cache.Coherent
import TaskWatch.Proofs.Cache.Eviction
import TaskWatch.Proofs.Cache.Fetching
import TaskWatch.Proofs.Cache.Invalidation
import TaskWatch.Proofs.Cache.Placed
import TaskWatch.Proofs.Cache.Schedule
import TaskWatch.Proofs.Cache.Seen
import TaskWatch.View.Whole
import TaskWatch.Proofs.Cache.Starvation
import TaskWatch.Proofs.Bench.InStep
import TaskWatch.Proofs.Bench.Failing
import TaskWatch.Proofs.Cache.Shared
import TaskWatch.Proofs.Cache.Sharing
import TaskWatch.Proofs.Cache.SharedUse
import TaskWatch.Proofs.Bench.Passing
import TaskWatch.Proofs.Cache.SharedAgenda
import TaskWatch.Proofs.Bench.Shared
import TaskWatch.Proofs.Bench.SharedRun
import TaskWatch.Proofs.Bench.SharedSteps
import TaskWatch.Proofs.Bench.Isolation
import TaskWatch.Proofs.Bench.SharedRan
import TaskWatch.Proofs.Bench.Reset
import TaskWatch.Proofs.Cache.Counted
import TaskWatch.Proofs.Cache.Fates
import TaskWatch.Proofs.Board.Orders
import TaskWatch.Proofs.Board.Selection
import TaskWatch.Proofs.Board.Paused
import TaskWatch.Proofs.Board.Mirrored
import TaskWatch.Proofs.Board.Displayed
import TaskWatch.Proofs.Board.Requests
import TaskWatch.Proofs.Task.Codec
import TaskWatch.Proofs.Board.Saved
import TaskWatch.Proofs.Cache.Hired
import TaskWatch.Proofs.Source.Answers
import TaskWatch.Proofs.Board.Restored
import TaskWatch.Proofs.Bench.Polling
import TaskWatch.Proofs.Form.Schema
import TaskWatch.Proofs.Source.Numbered
import TaskWatch.Proofs.Source.Address
import TaskWatch.Proofs.Bench.Misuse
import TaskWatch.Proofs.Board.Walk
import TaskWatch.Proofs.Board.Typing
import TaskWatch.Proofs.Cache.Leap
import TaskWatch.Proofs.Screen.Centered
import TaskWatch.Proofs.Bench.Tally
import TaskWatch.Proofs.Bench.Tallied
