import MeshPolicy.Worker.Loop

/-! # Work loops on a clock

A `Worker` is a work loop whose passes take time. Passes run in a world `ω`, which they may change.

* `Worker.due?`: when the next move of its own is due.
* `Worker.tick`: that move.
* `Timeline`: a worker, its world and what it has done so far; `Timeline.advance` makes the moves
  that are due before a time, and `Timeline.observe` follows a schedule of events.
-/

namespace MeshPolicy
set_option autoImplicit false

structure PassRun where
  duration : Nat
  outcome : PassOutcome

structure FinishedPass where
  started : Nat
  ended : Nat
  outcome : PassOutcome

inductive Timer where
  | off
  | pass (started ends : Nat) (outcome : PassOutcome)
  | retry (time : Nat)

structure Worker where
  policy : RetryPolicy := {}
  loop : WorkLoop := {}
  timer : Timer := .off

structure Traces where
  events : List Log.Event := []
  finished : Option FinishedPass := none

namespace Worker

/-- The time at which the worker's next move is due, if it does not have to be woken for it. -/
def due? (worker : Worker) (now : Nat) : Option Nat :=
  match worker.loop.phase, worker.timer with
  | .starting, _ => some now
  | .waiting, _ => if worker.loop.isShutDown || worker.loop.signal.hasWoken then some now else none
  | .passing _, .pass _ ends _ => some ends
  | .backingOff _, .retry time => if worker.loop.isShutDown then some now else some time
  | _, _ => none

def dueMove (worker : Worker) : Move :=
  match worker.loop.phase, worker.timer with
  | .passing _, .pass _ _ outcome => .finish outcome
  | .backingOff _, _ => .expire
  | _, _ => .look

def dueFinish? (worker : Worker) : Option FinishedPass :=
  match worker.loop.phase, worker.timer with
  | .passing _, .pass started ends outcome => some ⟨started, ends, outcome⟩
  | _, _ => none

/-- Makes the move that is due, at the time `now`. A pass that starts runs in the world. -/
def tick {ω : Type} (pass : ω → PassRun × ω) (now : Nat) (worker : Worker) (world : ω) :
    Worker × ω × Traces :=
  let (loop, events) := worker.loop.step worker.policy worker.dueMove
  let traces : Traces := { events, finished := worker.dueFinish? }
  match loop.phase with
  | .passing _ =>
    let (run, world) := pass world
    ({ worker with loop, timer := .pass now (now + run.duration) run.outcome }, world, traces)
  | .backingOff failures =>
    let delay := (worker.policy.backoff failures).millis
    ({ worker with loop, timer := .retry (now + delay) }, world, traces)
  | _ => ({ worker with loop, timer := .off }, world, traces)

def deliver (worker : Worker) (move : Move) : Worker :=
  { worker with loop := (worker.loop.step worker.policy move).1 }

/-- A bound on the moves that a worker makes when no event reaches it: the burst that it is in and
the burst of one permit, with at most two moves for every pass. -/
def moveBound (worker : Worker) : Nat := 4 * (worker.policy.maxRetries.toNat + 2) + 8

end Worker

/-! ## Following a schedule -/

/-- A worker in its world, what it has done, and when it stopped. -/
structure Timeline (ω : Type) where
  now : Nat := 0
  worker : Worker := {}
  world : ω
  events : List Log.Event := []
  passes : List FinishedPass := []
  stopped : Option Nat := none

namespace Timeline

variable {ω : Type}

def tick (pass : ω → PassRun × ω) (time : Nat) (line : Timeline ω) : Timeline ω :=
  let (worker, world, traces) := line.worker.tick pass time line.world
  { now := time
    worker
    world
    events := line.events ++ traces.events
    passes := line.passes ++ traces.finished.toList
    stopped := if worker.loop.phase = .stopped then some time else none }

/-- Makes the moves that are due before the time `limit`, but at most `fuel` of them. -/
def advanceBy (pass : ω → PassRun × ω) (limit : Nat) : (fuel : Nat) → Timeline ω → Timeline ω
  | 0, line => line
  | fuel + 1, line =>
    match line.worker.due? line.now with
    | none => line
    | some time => if time < limit then advanceBy pass limit fuel (line.tick pass time) else line

def advance (pass : ω → PassRun × ω) (limit : Nat) (line : Timeline ω) : Timeline ω :=
  advanceBy pass limit line.worker.moveBound line

/-- Lets the event of a time happen, after all moves that are due before that time. -/
def meet (pass : ω → PassRun × ω) (line : Timeline ω) (event : Nat × Move) : Timeline ω :=
  let line := line.advance pass event.1
  { line with now := event.1, worker := line.worker.deliver event.2 }

/-- Follows a schedule of events, in the order of their times, up to and including the time `last`.
-/
def observe (pass : ω → PassRun × ω) (schedule : List (Nat × Move)) (last : Nat)
    (line : Timeline ω) : Timeline ω :=
  ((schedule.filter fun event => event.1 ≤ last).foldl (meet pass) line).advance pass (last + 1)

end Timeline

/-! ## Scripted passes -/

/-- Takes the next pass of a script; the last one repeats for ever. -/
def nextScripted : List PassRun → PassRun × List PassRun
  | [] => (⟨0, .ok ()⟩, [])
  | [run] => (run, [run])
  | run :: rest => (run, rest)

end MeshPolicy
