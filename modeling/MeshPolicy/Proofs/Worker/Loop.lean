import MeshPolicy.Worker.Loop

/-! # The states and turns of a work loop

Nobody but the loop waits for its signal, and the loop waits only between bursts. This leaves few
states, and few things that a move can do.

* `Sound`: these states. `Turn`: these things.
* `step_turn`: a move of a sound loop is one of the turns. Whatever holds of every move is read off
  them, and no other proof opens a move.
* `IsAsleep`: the loop waits and was not woken. `inBurst`: it is in a pass or backs off.
* `owed`: how many wake-ups are kept for the loop.
* `Turn.sound`, `Sound.run`: no other states are reached.
-/

namespace MeshPolicy
set_option autoImplicit false

def Move.isTrigger : Move → Bool
  | .trigger => true
  | _ => false

namespace WorkLoop

/-- A loop that does not wait is not among the waiters. One that waits and was not woken has found
no permit, and there is none since a trigger would have woken it. -/
inductive Sound : WorkLoop → Prop where
  | away {permit isShutDown : Bool} {phase : Phase} (notWaiting : phase ≠ .waiting) :
      Sound ⟨⟨permit, []⟩, isShutDown, phase⟩
  | asleep {isShutDown : Bool} : Sound ⟨⟨false, [false]⟩, isShutDown, .waiting⟩
  | woken {permit isShutDown : Bool} : Sound ⟨⟨permit, [true]⟩, isShutDown, .waiting⟩

theorem sound_initial : Sound {} := .away Phase.noConfusion

def IsAsleep (loop : WorkLoop) : Prop := loop.phase = .waiting ∧ loop.signal.hasWoken = false

instance (loop : WorkLoop) : Decidable loop.IsAsleep := inferInstanceAs (Decidable (_ ∧ _))

/-- The loop is in a pass or backs off. -/
def inBurst (loop : WorkLoop) : Bool :=
  match loop.phase with
  | .passing _ | .backingOff _ => true
  | .starting | .waiting | .stopped => false

/-- The wake-ups that are kept for the loop: the permit, and those of woken waiters. -/
def owed (loop : WorkLoop) : Nat := loop.signal.permit.toNat + loop.signal.waiters.count true

@[simp] theorem owed_away (permit isShutDown : Bool) (phase : Phase) :
    owed ⟨⟨permit, []⟩, isShutDown, phase⟩ = permit.toNat := rfl

@[simp] theorem owed_waiting (permit woken isShutDown : Bool) (phase : Phase) :
    owed ⟨⟨permit, [woken]⟩, isShutDown, phase⟩ = permit.toNat + woken.toNat := by
  cases woken <;> rfl

/-- What a move can do to a sound loop. -/
inductive Turn (policy : RetryPolicy) : WorkLoop → Move → WorkLoop → Prop where
  /-- A trigger leaves a permit for a loop that does not wait. -/
  | leave {permit isShutDown : Bool} {phase : Phase} (notWaiting : phase ≠ .waiting) :
      Turn policy ⟨⟨permit, []⟩, isShutDown, phase⟩ .trigger ⟨⟨true, []⟩, isShutDown, phase⟩
  | wake {isShutDown : Bool} :
      Turn policy ⟨⟨false, [false]⟩, isShutDown, .waiting⟩ .trigger
        ⟨⟨false, [true]⟩, isShutDown, .waiting⟩
  /-- A trigger leaves a permit as well if the loop was woken and has not looked yet. -/
  | leaveToo {permit isShutDown : Bool} :
      Turn policy ⟨⟨permit, [true]⟩, isShutDown, .waiting⟩ .trigger
        ⟨⟨true, [true]⟩, isShutDown, .waiting⟩
  | shutDown {loop : WorkLoop} (sound : loop.Sound) :
      Turn policy loop .shutDown { loop with isShutDown := true }
  | nothing {loop : WorkLoop} {move : Move} (sound : loop.Sound)
      (notTrigger : move.isTrigger = false) : Turn policy loop move loop
  /-- A loop that stops hands on what is owed to it. -/
  | stop {loop : WorkLoop} {move : Move} (notTrigger : move.isTrigger = false)
      (isShutDown : loop.isShutDown = true) :
      Turn policy loop move ⟨⟨decide (0 < loop.owed), []⟩, true, .stopped⟩
  | fallAsleep :
      Turn policy ⟨⟨false, []⟩, false, .starting⟩ .look ⟨⟨false, [false]⟩, false, .waiting⟩
  | takePermit :
      Turn policy ⟨⟨true, []⟩, false, .starting⟩ .look ⟨⟨false, []⟩, false, .passing 0⟩
  | wakeUp {permit : Bool} :
      Turn policy ⟨⟨permit, [true]⟩, false, .waiting⟩ .look ⟨⟨permit, []⟩, false, .passing 0⟩
  | succeed {permit isShutDown : Bool} {failures : UInt32} :
      Turn policy ⟨⟨permit, []⟩, isShutDown, .passing failures⟩ (.finish (.ok ()))
        ⟨⟨permit, []⟩, isShutDown, .starting⟩
  | giveUp {permit isShutDown : Bool} {failures : UInt32} {error : String}
      (exhausted : policy.maxRetries < failures + 1) :
      Turn policy ⟨⟨permit, []⟩, isShutDown, .passing failures⟩ (.finish (.error error))
        ⟨⟨permit, []⟩, isShutDown, .starting⟩
  | backOff {permit isShutDown : Bool} {failures : UInt32} {error : String}
      (retriesLeft : ¬ policy.maxRetries < failures + 1) :
      Turn policy ⟨⟨permit, []⟩, isShutDown, .passing failures⟩ (.finish (.error error))
        ⟨⟨permit, []⟩, isShutDown, .backingOff (failures + 1)⟩
  | retry {permit : Bool} {failures : UInt32} :
      Turn policy ⟨⟨permit, []⟩, false, .backingOff failures⟩ .expire
        ⟨⟨permit, []⟩, false, .passing failures⟩

variable {policy : RetryPolicy} {loop : WorkLoop}

/-! ## One turn -/

theorem Turn.stop_away {permit : Bool} {phase : Phase} {move : Move}
    (h : move.isTrigger = false) :
    Turn policy ⟨⟨permit, []⟩, true, phase⟩ move ⟨⟨permit, []⟩, true, .stopped⟩ := by
  have hstop : Turn policy ⟨⟨permit, []⟩, true, phase⟩ move _ := .stop h rfl
  cases permit <;> exact hstop

theorem turn_trigger (h : loop.Sound) :
    Turn policy loop .trigger (loop.step policy .trigger).1 := by
  cases h with
  | away notWaiting => exact .leave notWaiting
  | asleep => exact .wake
  | woken => exact .leaveToo

theorem turn_look (h : loop.Sound) : Turn policy loop .look loop.look.1 := by
  have hidle : Turn policy loop .look loop := .nothing h rfl
  cases h with
  | @away permit isShutDown phase notWaiting =>
    cases phase with
    | starting =>
      cases isShutDown with
      | true => exact .stop_away rfl
      | false =>
        cases permit with
        | true => exact .takePermit
        | false => exact .fallAsleep
    | waiting => exact absurd rfl notWaiting
    | backingOff failures =>
      cases isShutDown with
      | true => exact .stop_away rfl
      | false => exact hidle
    | passing | stopped => exact hidle
  | @asleep isShutDown =>
    cases isShutDown with
    | true => exact .stop rfl rfl
    | false => exact hidle
  | @woken permit isShutDown =>
    cases isShutDown with
    | true =>
      have hstop : Turn policy ⟨⟨permit, [true]⟩, true, .waiting⟩ .look _ := .stop rfl rfl
      cases permit <;> exact hstop
    | false => exact .wakeUp

theorem turn_finish (h : loop.Sound) (outcome : PassOutcome) :
    Turn policy loop (.finish outcome) (loop.finish policy outcome).1 := by
  have hidle : Turn policy loop (.finish outcome) loop := .nothing h rfl
  cases h with
  | @away permit isShutDown phase notWaiting =>
    cases phase with
    | passing failures =>
      cases outcome with
      | ok => exact .succeed
      | error error =>
        simp only [finish]
        split
        next exhausted => exact .giveUp exhausted
        next retriesLeft => exact .backOff retriesLeft
    | starting | waiting | backingOff | stopped => exact hidle
  | asleep | woken => exact hidle

theorem turn_expire (h : loop.Sound) : Turn policy loop .expire loop.expire.1 := by
  have hidle : Turn policy loop .expire loop := .nothing h rfl
  cases h with
  | @away permit isShutDown phase notWaiting =>
    cases phase with
    | backingOff failures =>
      cases isShutDown with
      | true => exact .stop_away rfl
      | false => exact .retry
    | starting | waiting | passing | stopped => exact hidle
  | asleep | woken => exact hidle

/-- A move of a sound loop is one of the turns. -/
theorem step_turn (h : loop.Sound) (policy : RetryPolicy) (move : Move) :
    Turn policy loop move (loop.step policy move).1 := by
  cases move with
  | trigger => exact turn_trigger h
  | shutDown => exact .shutDown h
  | look => exact turn_look h
  | finish outcome => exact turn_finish h outcome
  | expire => exact turn_expire h

theorem Turn.sound {loop' : WorkLoop} {move : Move} (h : Turn policy loop move loop') :
    loop'.Sound := by
  cases h with
  | leave notWaiting => exact .away notWaiting
  | wake | leaveToo => exact .woken
  | shutDown sound =>
    cases sound with
    | away notWaiting => exact .away notWaiting
    | asleep => exact .asleep
    | woken => exact .woken
  | nothing sound => exact sound
  | fallAsleep => exact .asleep
  | stop | takePermit | wakeUp | succeed | giveUp | backOff | retry =>
    exact .away Phase.noConfusion

/-! ## Runs -/

theorem run_cons (policy : RetryPolicy) (loop : WorkLoop) (move : Move) (rest : List Move) :
    loop.run policy (move :: rest) = (loop.step policy move).1.run policy rest := rfl

theorem run_append (policy : RetryPolicy) (loop : WorkLoop) (first rest : List Move) :
    loop.run policy (first ++ rest) = (loop.run policy first).run policy rest :=
  List.foldl_append

theorem Sound.run (h : loop.Sound) (policy : RetryPolicy) (moves : List Move) :
    (loop.run policy moves).Sound := by
  induction moves generalizing loop with
  | nil => exact h
  | cons move rest ih => exact ih (step_turn h policy move).sound

end WorkLoop

end MeshPolicy
