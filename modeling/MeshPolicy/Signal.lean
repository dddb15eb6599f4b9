/-! # Wake-up signals

A `Signal` wakes its waiters one by one. A notification wakes the oldest waiter that still sleeps;
if there is none, one permit is kept for the next to come, and further notifications add nothing to
it.

* `notify`: one notification.
* `arrive`: a newcomer takes the permit or waits; `take` is a newcomer that does not wait.
* `collect`: the waiters that were woken leave.
* `leaveOldest`, `leaveAll`: waiters give up; a wake-up that was not used is handed on.
-/

namespace MeshPolicy
set_option autoImplicit false

structure Signal where
  permit : Bool := false
  /-- The waiters, oldest first, and whether each one was woken. -/
  waiters : List Bool := []
  deriving DecidableEq, Repr

namespace Signal

def wakeFirst? : List Bool → Option (List Bool)
  | [] => none
  | false :: rest => some (true :: rest)
  | true :: rest => (wakeFirst? rest).map (true :: ·)

def notify (signal : Signal) : Signal :=
  match wakeFirst? signal.waiters with
  | some waiters => { signal with waiters }
  | none => { signal with permit := true }

/-- Whether a newcomer need not wait; it uses the permit up. -/
def take (signal : Signal) : Bool × Signal := (signal.permit, { signal with permit := false })

/-- A newcomer: whether it need not wait. Otherwise it joins the waiters. -/
def arrive (signal : Signal) : Bool × Signal :=
  if signal.permit then signal.take
  else (false, { signal with waiters := signal.waiters ++ [false] })

/-- Which waiters were woken, oldest first; those leave. -/
def collect (signal : Signal) : List Bool × Signal :=
  (signal.waiters, { signal with waiters := signal.waiters.filter (!·) })

def leaveOldest (signal : Signal) : Signal :=
  match signal.waiters with
  | [] => signal
  | woken :: rest =>
    let left := { signal with waiters := rest }
    if woken then left.notify else left

def leaveAll (signal : Signal) : Signal :=
  (List.range signal.waiters.length).foldl (fun signal _ => signal.leaveOldest) signal

def hasWoken (signal : Signal) : Bool := signal.waiters.any id

end Signal

end MeshPolicy
