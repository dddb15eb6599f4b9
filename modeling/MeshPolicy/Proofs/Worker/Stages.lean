import MeshPolicy.Proofs.Worker.Bursts

/-! # The stages of a worker

* `Stage`: where a worker is, with its timer. `Worker.inStage`: a worker that is there.
* `deliver_trigger_asleep`, `deliver_trigger_awake`: what a trigger does.
* `tick_stop`, `tick_fallAsleep`, .. `tick_backOff`: what the next move does in each stage. No proof
  elsewhere opens a move. `tick_finish`: the end of a pass, for any policy.
* `movesLeft`: a bound on the moves that a worker makes when it is left alone. `movesLeft_tick_lt`:
  each move that is due lowers it.
-/

namespace MeshPolicy
set_option autoImplicit false

inductive Stage where
  | starting
  | asleep
  | woken
  | passing (failures started : Nat) (run : PassRun)
  | backingOff (failures due : Nat)
  | stopped

namespace Stage

def waiters : Stage → List Bool
  | .asleep => [false]
  | .woken => [true]
  | .starting | .passing .. | .backingOff .. | .stopped => []

def phase : Stage → Phase
  | .starting => .starting
  | .asleep | .woken => .waiting
  | .passing failures _ _ => .passing (.ofNat failures)
  | .backingOff failures _ => .backingOff (.ofNat failures)
  | .stopped => .stopped

def timer : Stage → Timer
  | .passing _ started run => .pass started (started + run.duration) run.outcome
  | .backingOff _ due => .retry due
  | .starting | .asleep | .woken | .stopped => .off

def due? (isShutDown : Bool) (now : Nat) : Stage → Option Nat
  | .starting | .woken => some now
  | .asleep => if isShutDown then some now else none
  | .passing _ started run => some (started + run.duration)
  | .backingOff _ due => some (if isShutDown then now else due)
  | .stopped => none

/-- The failures are no more than a burst may have before its last pass. -/
def Allowed (policy : RetryPolicy) : Stage → Prop
  | .passing failures _ _ | .backingOff failures _ => failures ≤ policy.maxRetries.toNat
  | .starting | .asleep | .woken | .stopped => True

/-- The worker looks out for being shut down when it makes its next move. -/
def looksOut : Stage → Bool
  | .starting | .asleep | .woken | .backingOff .. => true
  | .passing .. | .stopped => false

/-- The permit that a worker leaves behind, which may be the wake-up that it has not used. -/
def handsOn (permit : Bool) : Stage → Bool
  | .woken => true
  | .starting | .asleep | .passing .. | .backingOff .. | .stopped => permit

end Stage

namespace Worker

/-- A worker in a stage. -/
def inStage (policy : RetryPolicy) (permit isShutDown : Bool) (stage : Stage) : Worker where
  policy
  loop := ⟨⟨permit, stage.waiters⟩, isShutDown, stage.phase⟩
  timer := stage.timer

/-- The moves of the burst that a permit makes for. -/
def movesKept (policy : RetryPolicy) (permit : Bool) : Nat :=
  if permit then 2 * (policy.maxRetries.toNat + 1) else 0

/-- A bound on the moves that the worker makes when it is left alone: each pass takes two at most,
and each wake-up that is kept makes for a burst. -/
def movesLeft (worker : Worker) : Nat :=
  let passes := worker.policy.maxRetries.toNat + 1
  let kept := movesKept worker.policy worker.loop.signal.permit
  match worker.loop.phase with
  | .starting => 1 + kept
  | .waiting =>
    if worker.loop.signal.hasWoken then 1 + 2 * passes + kept
    else if worker.loop.isShutDown then 1 else 0
  | .passing failures => 2 * (passes - failures.toNat) + kept
  | .backingOff failures => 1 + 2 * (passes - failures.toNat) + kept
  | .stopped => 0

theorem movesKept_le (policy : RetryPolicy) (permit : Bool) :
    movesKept policy permit ≤ 2 * (policy.maxRetries.toNat + 1) := by
  cases permit with
  | true => exact Nat.le_refl _
  | false => exact Nat.zero_le _

theorem movesLeft_le_moveBound (worker : Worker) : worker.movesLeft ≤ worker.moveBound := by
  have hkept := movesKept_le worker.policy worker.loop.signal.permit
  unfold movesLeft moveBound
  cases worker.loop.phase with
  | waiting =>
    simp only
    split
    · omega
    · split <;> omega
  | starting | passing | backingOff | stopped =>
    simp only
    omega

section InStage

variable {policy : RetryPolicy} {permit isShutDown : Bool}

theorem due?_inStage (now : Nat) (stage : Stage) :
    (inStage policy permit isShutDown stage).due? now = stage.due? isShutDown now := by
  cases stage <;> cases isShutDown <;> rfl

/-! ## Triggers -/

theorem deliver_trigger_asleep :
    (inStage policy permit isShutDown .asleep).deliver .trigger =
      inStage policy permit isShutDown .woken := rfl

/-- A trigger for a worker that does not sleep leaves a permit. -/
theorem deliver_trigger_awake {stage : Stage} (h : stage ≠ .asleep) :
    (inStage policy permit isShutDown stage).deliver .trigger =
      inStage policy true isShutDown stage := by
  cases stage with
  | asleep => exact absurd rfl h
  | starting | woken | passing | backingOff | stopped => rfl

/-! ## The next move -/

variable {ω : Type} {pass : ω → PassRun × ω} {now failures started due duration : Nat} {world : ω}

/-- A worker that looks out for it stops once it is shut down. -/
theorem tick_stop {stage : Stage} (h : stage.looksOut = true) :
    (inStage policy permit true stage).tick pass now world =
      (inStage policy (stage.handsOn permit) true .stopped, world,
        { events := [WorkLoop.stopEvent] }) := by
  cases stage with
  | passing | stopped => cases h
  | starting | asleep | backingOff | woken => rfl

theorem tick_fallAsleep :
    (inStage policy false false .starting).tick pass now world =
      (inStage policy false false .asleep, world, {}) := rfl

/-- A permit starts a burst at once. -/
theorem tick_takePermit :
    (inStage policy true false .starting).tick pass now world =
      (inStage policy false false (.passing 0 now (pass world).1), (pass world).2, {}) := rfl

theorem tick_wakeUp :
    (inStage policy permit false .woken).tick pass now world =
      (inStage policy permit false (.passing 0 now (pass world).1), (pass world).2, {}) := rfl

theorem tick_retry :
    (inStage policy permit false (.backingOff failures due)).tick pass now world =
      (inStage policy permit false (.passing failures now (pass world).1), (pass world).2, {}) := rfl

theorem tick_succeed :
    (inStage policy permit isShutDown (.passing failures started ⟨duration, .ok ()⟩)).tick pass now
        world =
      (inStage policy permit isShutDown .starting, world,
        { finished := some ⟨started, started + duration, .ok ()⟩ }) := rfl

section Fails

variable {error : String}

theorem ofNat_add_one (failures : Nat) : UInt32.ofNat failures + 1 = .ofNat (failures + 1) :=
  (UInt32.ofNat_add failures 1).symm

theorem maxRetries_lt_iff (h : failures < UInt32.size) :
    policy.maxRetries < .ofNat failures ↔ policy.maxRetries.toNat < failures := by
  rw [UInt32.lt_iff_toNat_lt, UInt32.toNat_ofNat_of_lt' h]

/-- The end of a failed pass. -/
def failed (policy : RetryPolicy) (permit isShutDown : Bool) (failures : Nat) (error : String) :
    WorkLoop × List Log.Event :=
  WorkLoop.finish policy ⟨⟨permit, []⟩, isShutDown, .passing (.ofNat failures)⟩ (.error error)

theorem failed_giveUp (hlast : policy.maxRetries < .ofNat (failures + 1)) :
    (failed policy permit isShutDown failures error).1 = ⟨⟨permit, []⟩, isShutDown, .starting⟩ := by
  simp only [failed, WorkLoop.finish, ofNat_add_one, if_pos hlast]

theorem failed_backOff (hleft : ¬ policy.maxRetries < .ofNat (failures + 1)) :
    (failed policy permit isShutDown failures error).1 =
      ⟨⟨permit, []⟩, isShutDown, .backingOff (.ofNat (failures + 1))⟩ := by
  simp only [failed, WorkLoop.finish, ofNat_add_one, if_neg hleft]

theorem tick_failed :
    (inStage policy permit isShutDown (.passing failures started ⟨duration, .error error⟩)).tick pass
        now world =
      let (loop, events) := failed policy permit isShutDown failures error
      let traces : Traces := ⟨events, some ⟨started, started + duration, .error error⟩⟩
      match loop.phase with
      | .passing _ =>
        (⟨policy, loop, .pass now (now + (pass world).1.duration) (pass world).1.outcome⟩,
          (pass world).2, traces)
      | .backingOff failures =>
        (⟨policy, loop, .retry (now + (policy.backoff failures).millis)⟩, world, traces)
      | _ => (⟨policy, loop, .off⟩, world, traces) := rfl

/-- A pass fails and no retry is left. -/
theorem tick_giveUp (h : failures + 1 < UInt32.size)
    (hlast : policy.maxRetries.toNat < failures + 1) :
    (inStage policy permit isShutDown (.passing failures started ⟨duration, .error error⟩)).tick pass
        now world =
      (inStage policy permit isShutDown .starting, world,
        ⟨(failed policy permit isShutDown failures error).2,
          some ⟨started, started + duration, .error error⟩⟩) := by
  simp only [tick_failed, failed_giveUp ((maxRetries_lt_iff h).2 hlast)]
  rfl

/-- A pass fails, and a retry is to follow after its delay. -/
theorem tick_backOff (h : failures + 1 < UInt32.size)
    (hleft : ¬ policy.maxRetries.toNat < failures + 1) :
    (inStage policy permit isShutDown (.passing failures started ⟨duration, .error error⟩)).tick pass
        now world =
      (inStage policy permit isShutDown
          (.backingOff (failures + 1) (now + policy.delay (failures + 1))), world,
        ⟨(failed policy permit isShutDown failures error).2,
          some ⟨started, started + duration, .error error⟩⟩) := by
  simp only [tick_failed, failed_backOff (mt (maxRetries_lt_iff h).1 hleft)]
  rfl

end Fails

/-- A pass runs to its end, whatever the outcome, and is followed by another burst or by a delay. This
is so even if the count of failures starts over. -/
theorem tick_finish (policy : RetryPolicy) (permit isShutDown : Bool) (pass : ω → PassRun × ω)
    (now failures started : Nat) (run : PassRun) (world : ω) :
    ∃ next events,
      (next = .starting ∨
        next = .backingOff (failures + 1) (now + policy.delay (failures + 1))) ∧
      (inStage policy permit isShutDown (.passing failures started run)).tick pass now world =
        (inStage policy permit isShutDown next, world,
          ⟨events, some ⟨started, started + run.duration, run.outcome⟩⟩) := by
  obtain ⟨duration, outcome⟩ := run
  cases outcome with
  | ok => exact ⟨.starting, [], .inl rfl, tick_succeed⟩
  | error error =>
    have hstep : (inStage policy permit isShutDown
        (.passing failures started ⟨duration, .error error⟩)).tick pass now world = _ := tick_failed
    by_cases hlast : policy.maxRetries < .ofNat (failures + 1)
    · simp only [failed_giveUp hlast] at hstep
      exact ⟨.starting, _, .inl rfl, hstep⟩
    · simp only [failed_backOff hlast] at hstep
      exact ⟨.backingOff (failures + 1) _, _, .inr rfl, hstep⟩

/-! ## How many moves are left -/

theorem ofNat_toNat (h : failures ≤ policy.maxRetries.toNat) :
    (UInt32.ofNat failures).toNat = failures :=
  UInt32.toNat_ofNat_of_lt' (Nat.lt_of_le_of_lt h policy.maxRetries.toNat_lt)

theorem movesLeft_starting :
    (inStage policy permit isShutDown .starting).movesLeft = 1 + movesKept policy permit := rfl

theorem movesLeft_asleep :
    (inStage policy permit isShutDown .asleep).movesLeft = if isShutDown then 1 else 0 := rfl

theorem movesLeft_woken :
    (inStage policy permit isShutDown .woken).movesLeft =
      1 + 2 * (policy.maxRetries.toNat + 1) + movesKept policy permit := rfl

theorem movesLeft_passing {run : PassRun} (h : failures ≤ policy.maxRetries.toNat) :
    (inStage policy permit isShutDown (.passing failures started run)).movesLeft =
      2 * (policy.maxRetries.toNat + 1 - failures) + movesKept policy permit := by
  change 2 * (policy.maxRetries.toNat + 1 - (UInt32.ofNat failures).toNat) + _ = _
  rw [ofNat_toNat h]
  rfl

theorem movesLeft_backingOff (h : failures ≤ policy.maxRetries.toNat) :
    (inStage policy permit isShutDown (.backingOff failures due)).movesLeft =
      1 + 2 * (policy.maxRetries.toNat + 1 - failures) + movesKept policy permit := by
  change 1 + 2 * (policy.maxRetries.toNat + 1 - (UInt32.ofNat failures).toNat) + _ = _
  rw [ofNat_toNat h]
  rfl

theorem movesLeft_stopped : (inStage policy permit isShutDown .stopped).movesLeft = 0 := rfl

theorem movesLeft_stop {stage : Stage} (h : stage.looksOut = true) (time : Nat) :
    ((inStage policy permit true stage).tick pass time world).1.movesLeft <
      (inStage policy permit true stage).movesLeft := by
  rw [tick_stop h, movesLeft_stopped]
  cases stage with
  | passing | stopped => cases h
  | asleep => exact Nat.one_pos
  | starting | woken | backingOff =>
    simp only [movesLeft, inStage, Stage.phase, Stage.waiters, Signal.hasWoken, List.any_cons, id,
      Bool.true_or, if_true]
    omega

/-- Each move that is due lowers the bound. -/
theorem movesLeft_tick_lt (hmax : policy.maxRetries.toNat + 1 < UInt32.size) {stage : Stage}
    (hallowed : stage.Allowed policy) (hdue : stage.due? isShutDown now ≠ none) (time : Nat) :
    ((inStage policy permit isShutDown stage).tick pass time world).1.movesLeft <
      (inStage policy permit isShutDown stage).movesLeft := by
  cases stage with
  | starting =>
    cases isShutDown with
    | true => exact movesLeft_stop rfl time
    | false =>
      cases permit with
      | true =>
        rw [tick_takePermit, movesLeft_passing (Nat.zero_le _), movesLeft_starting]
        simp only [movesKept, if_true, Bool.false_eq_true, if_false]
        omega
      | false =>
        rw [tick_fallAsleep, movesLeft_asleep, movesLeft_starting]
        exact Nat.lt_of_lt_of_le Nat.one_pos (Nat.le_add_right _ _)
  | asleep =>
    cases isShutDown with
    | true => exact movesLeft_stop rfl time
    | false => exact absurd rfl hdue
  | woken =>
    cases isShutDown with
    | true => exact movesLeft_stop rfl time
    | false =>
      rw [tick_wakeUp, movesLeft_passing (Nat.zero_le _), movesLeft_woken]
      omega
  | passing failures started run =>
    have hallowed : failures ≤ policy.maxRetries.toNat := hallowed
    obtain ⟨duration, outcome⟩ := run
    cases outcome with
    | ok =>
      rw [tick_succeed, movesLeft_starting, movesLeft_passing hallowed]
      omega
    | error error =>
      have hfits : failures + 1 < UInt32.size := by omega
      by_cases hlast : policy.maxRetries.toNat < failures + 1
      · rw [tick_giveUp hfits hlast, movesLeft_starting, movesLeft_passing hallowed]
        omega
      · rw [tick_backOff hfits hlast, movesLeft_backingOff (Nat.le_of_not_lt hlast),
          movesLeft_passing hallowed]
        omega
  | backingOff failures due =>
    have hallowed : failures ≤ policy.maxRetries.toNat := hallowed
    cases isShutDown with
    | true => exact movesLeft_stop rfl time
    | false =>
      rw [tick_retry, movesLeft_passing hallowed, movesLeft_backingOff hallowed]
      omega
  | stopped => exact absurd rfl hdue

end InStage

end Worker

end MeshPolicy
