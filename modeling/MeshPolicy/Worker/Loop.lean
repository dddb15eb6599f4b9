import MeshPolicy.Backoff
import MeshPolicy.Log
import MeshPolicy.Signal

/-! # The work loop

A loop waits for its signal and then runs passes: one, or after failures several, with a back-off in
front of each further one. These passes are a burst. Shutting down is noticed between passes and
while backing off, never inside a pass.

* `Phase`: where the loop is.
* `Move`: what can happen to it: signals, shutting down, the end of a pass or of a back-off, and its
  own turns to look around.
* `WorkLoop.step`: one move. A move that does not fit the phase changes nothing.
* `WorkLoop.run`: a sequence of moves.
-/

namespace MeshPolicy
set_option autoImplicit false

inductive Phase where
  /-- About to wait. -/
  | starting
  | waiting
  /-- In a pass, after this many failures in a row. -/
  | passing (failures : UInt32)
  /-- In front of a retry, after this many failures in a row. -/
  | backingOff (failures : UInt32)
  | stopped
  deriving DecidableEq

abbrev PassOutcome := Except String Unit

inductive Move where
  | trigger
  | shutDown
  /-- The loop gets a turn. -/
  | look
  | finish (outcome : PassOutcome)
  | expire

structure WorkLoop where
  signal : Signal := {}
  isShutDown : Bool := false
  phase : Phase := .starting
  deriving DecidableEq

namespace WorkLoop

def stopEvent : Log.Event := ⟨.debug, "Shutting down", []⟩

def stop (loop : WorkLoop) : WorkLoop × List Log.Event :=
  ({ loop with phase := .stopped }, [stopEvent])

/-- A turn of the loop: shutting down comes before everything else. -/
def look (loop : WorkLoop) : WorkLoop × List Log.Event :=
  match loop.phase with
  | .starting =>
    if loop.isShutDown then loop.stop
    else
      let (isReady, signal) := loop.signal.arrive
      ({ loop with signal, phase := if isReady then .passing 0 else .waiting }, [])
  | .waiting =>
    if loop.isShutDown then stop { loop with signal := loop.signal.leaveOldest }
    else if loop.signal.hasWoken then
      ({ loop with signal := loop.signal.collect.2, phase := .passing 0 }, [])
    else (loop, [])
  | .backingOff _ => if loop.isShutDown then loop.stop else (loop, [])
  | .passing _ | .stopped => (loop, [])

/-- The end of a pass: a failure is followed by a back-off, unless too many came in a row. -/
def finish (policy : RetryPolicy) (loop : WorkLoop) (outcome : PassOutcome) :
    WorkLoop × List Log.Event :=
  match loop.phase with
  | .passing failures =>
    match outcome with
    | .ok () => ({ loop with phase := .starting }, [])
    | .error error =>
      let failures := failures + 1
      let fields := [("error", .text error), ("failures", .count failures.toNat)]
      if policy.maxRetries < failures then
        ({ loop with phase := .starting },
          [⟨.warn, "Pass failed; waiting for the next trigger", fields⟩])
      else
        ({ loop with phase := .backingOff failures },
          [⟨.warn, "Pass failed; retrying",
            fields ++ [("backoff", .text (policy.backoff failures).text)]⟩])
  | _ => (loop, [])

def expire (loop : WorkLoop) : WorkLoop × List Log.Event :=
  match loop.phase with
  | .backingOff failures =>
    if loop.isShutDown then loop.stop else ({ loop with phase := .passing failures }, [])
  | _ => (loop, [])

def step (policy : RetryPolicy) (loop : WorkLoop) : Move → WorkLoop × List Log.Event
  | .trigger => ({ loop with signal := loop.signal.notify }, [])
  | .shutDown => ({ loop with isShutDown := true }, [])
  | .look => loop.look
  | .finish outcome => loop.finish policy outcome
  | .expire => loop.expire

def run (policy : RetryPolicy) (loop : WorkLoop) (moves : List Move) : WorkLoop :=
  moves.foldl (fun loop move => (loop.step policy move).1) loop

end WorkLoop

end MeshPolicy
