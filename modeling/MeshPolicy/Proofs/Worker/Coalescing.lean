import MeshPolicy.Proofs.Worker.Reaching
import MeshPolicy.Proofs.Worker.Retries

/-! # Which triggers coalesce

* `deliver_trigger_twice`, `deliver_trigger_thrice`: further triggers at once change nothing, unless
  the first of them wakes a worker that sleeps; then only one more counts.
* `Timeline.Settled.tick_triggered_twice`: that one counts like a trigger that comes when the burst
  has begun.
* `Schedule.observe_repeated`: so a trigger of a schedule may be delivered any number of times to a
  worker that it does not find asleep. `Schedule.observe_repeated_asleep`: for a worker that sleeps,
  twice is not the same as once.
-/

namespace MeshPolicy
set_option autoImplicit false

variable {ω : Type}

/-! ## Triggers at once -/

namespace Worker

variable {policy : RetryPolicy} {permit isShutDown : Bool} {stage : Stage}

theorem deliver_trigger_twice (h : stage ≠ .asleep) :
    ((inStage policy permit isShutDown stage).deliver .trigger).deliver .trigger =
      (inStage policy permit isShutDown stage).deliver .trigger := by
  rw [deliver_trigger_awake h, deliver_trigger_awake h]

theorem deliver_trigger_thrice :
    (((inStage policy permit isShutDown stage).deliver .trigger).deliver .trigger).deliver .trigger =
      ((inStage policy permit isShutDown stage).deliver .trigger).deliver .trigger := by
  by_cases h : stage = .asleep
  · rw [h, deliver_trigger_asleep, deliver_trigger_twice Stage.noConfusion]
  · rw [deliver_trigger_twice h, deliver_trigger_twice h]

theorem isAsleep_inStage :
    (inStage policy permit isShutDown stage).loop.IsAsleep ↔ stage = .asleep := by
  cases stage with
  | asleep => exact ⟨fun _ => rfl, fun _ => ⟨rfl, rfl⟩⟩
  | starting | passing | backingOff | stopped =>
    exact ⟨fun h => Phase.noConfusion h.1, Stage.noConfusion⟩
  | woken => exact ⟨fun h => Bool.noConfusion h.2, Stage.noConfusion⟩

end Worker

/-! ## Triggers of a schedule -/

/-- Time passes until an event, and what is due stays at or after it. -/
theorem Stage.due?_of_quiet {stage : Stage} {isShutDown : Bool} {now limit : Nat}
    (h : ∀ time, stage.due? isShutDown now = some time → limit ≤ time) :
    ∀ time, stage.due? isShutDown limit = some time → limit ≤ time := by
  intro time htime
  cases stage with
  | starting | woken =>
    cases htime
    exact Nat.le_refl _
  | asleep | backingOff =>
    cases isShutDown with
    | true =>
      cases htime
      exact Nat.le_refl _
    | false => exact h time htime
  | passing => exact h time htime
  | stopped => cases htime

namespace Timeline

/-- The worker is in a stage, and makes no move before the time `limit`. -/
def Settled (line : Timeline ω) (policy : RetryPolicy) (limit : Nat) : Prop :=
  (∃ permit isShutDown stage, line.worker = .inStage policy permit isShutDown stage) ∧
    line.Quiet limit

/-- A trigger comes, at the time `time`. -/
def triggered (line : Timeline ω) (time : Nat) : Timeline ω :=
  { line with now := time, worker := line.worker.deliver .trigger }

variable {policy : RetryPolicy} {pass : ω → PassRun × ω} {time limit : Nat} {line : Timeline ω}

theorem Quiet.advance (h : line.Quiet limit) : line.advance pass limit = line :=
  advanceBy_of_quiet h _

theorem Settled.meet (h : line.Settled policy time) :
    line.meet pass (time, .trigger) = line.triggered time := by
  rw [Timeline.meet, h.2.advance]
  rfl

theorem Settled.triggered (h : line.Settled policy time) :
    (line.triggered time).Settled policy time := by
  obtain ⟨⟨permit, isShutDown, stage, hworker⟩, hquiet⟩ := h
  simp only [Quiet, hworker, Worker.due?_inStage] at hquiet
  simp only [Settled, Timeline.triggered, Quiet, hworker]
  by_cases hasleep : stage = .asleep
  · rw [hasleep, Worker.deliver_trigger_asleep]
    refine ⟨⟨_, _, _, rfl⟩, fun due hdue => ?_⟩
    rw [Worker.due?_inStage] at hdue
    exact Nat.le_of_eq (Option.some.inj hdue)
  · rw [Worker.deliver_trigger_awake hasleep]
    refine ⟨⟨_, _, _, rfl⟩, fun due hdue => ?_⟩
    rw [Worker.due?_inStage] at hdue
    exact Stage.due?_of_quiet hquiet due hdue

/-- A trigger that does not find the worker asleep may as well come twice. -/
theorem Settled.triggered_twice (h : line.Settled policy time)
    (hawake : ¬ line.worker.loop.IsAsleep) :
    (line.triggered time).triggered time = line.triggered time := by
  obtain ⟨⟨permit, isShutDown, stage, hworker⟩, _⟩ := h
  rw [hworker, Worker.isAsleep_inStage] at hawake
  simp only [Timeline.triggered, hworker, Worker.deliver_trigger_twice hawake]

/-- Any trigger may as well come thrice as twice. -/
theorem Settled.triggered_thrice (h : line.Settled policy time) :
    ((line.triggered time).triggered time).triggered time =
      (line.triggered time).triggered time := by
  obtain ⟨⟨permit, isShutDown, stage, hworker⟩, _⟩ := h
  simp only [Timeline.triggered, hworker, Worker.deliver_trigger_thrice]

/-- A second trigger for a worker that sleeps is not lost in the burst that the first one starts. -/
theorem Settled.tick_triggered_twice (h : line.Settled policy time)
    (hasleep : line.worker.loop.IsAsleep) (hrunning : line.worker.loop.isShutDown = false) :
    ((line.triggered time).triggered time).tick pass time =
      ((line.triggered time).tick pass time).triggered time := by
  obtain ⟨⟨permit, isShutDown, stage, hworker⟩, _⟩ := h
  rw [hworker, Worker.isAsleep_inStage] at hasleep
  rw [hworker] at hrunning
  obtain rfl : isShutDown = false := hrunning
  simp only [Timeline.triggered, hworker, hasleep]
  rfl

/-- Once a trigger changes nothing, any number of them does. -/
theorem Settled.foldl_meet (h : line.Settled policy time) (hsame : line.triggered time = line)
    (copies : Nat) :
    (List.replicate copies (time, Move.trigger)).foldl (Timeline.meet pass) line = line := by
  induction copies with
  | zero => rfl
  | succ copies ih => rw [List.replicate_succ, List.foldl_cons, h.meet, hsame, ih]

/-- What a worker does if a trigger of its schedule comes so many times. -/
theorem observe_replicate {last : Nat} (before after : List (Nat × Move)) (hlast : time ≤ last)
    (copies : Nat) :
    Timeline.observe pass (before ++ List.replicate copies (time, .trigger) ++ after) last line =
      ((after.filter fun event => event.1 ≤ last).foldl (Timeline.meet pass)
        ((List.replicate copies (time, .trigger)).foldl (Timeline.meet pass)
          ((before.filter fun event => event.1 ≤ last).foldl (Timeline.meet pass) line))).advance
        pass (last + 1) := by
  simp only [Timeline.observe, List.filter_append, List.foldl_append, List.filter_replicate, hlast,
    decide_true, if_true]

theorem observe_replicate_late {last : Nat} (before after : List (Nat × Move))
    (hlast : ¬ time ≤ last) (copies : Nat) :
    Timeline.observe pass (before ++ List.replicate copies (time, .trigger) ++ after) last line =
      Timeline.observe pass (before ++ after) last line := by
  simp only [Timeline.observe, List.filter_append, List.filter_replicate, hlast, decide_false,
    Bool.false_eq_true, if_false, List.append_nil]

end Timeline

namespace Schedule

variable (schedule : Schedule) {policy : RetryPolicy} {pass : ω → PassRun × ω} {world : ω}
  {before after : List (Nat × Move)} {time : Nat}

/-- The worker that an event of a schedule finds. -/
def found (policy : RetryPolicy) (pass : ω → PassRun × ω) (world : ω) (before : List (Nat × Move))
    (time : Nat) : Timeline ω :=
  (before.foldl (Timeline.meet pass) { worker := { policy }, world }).advance pass time

theorem settled_found (hmax : policy.maxRetries.toNat + 1 < UInt32.size)
    (pass : ω → PassRun × ω) (world : ω)
    (hevents : schedule.events = before ++ (time, .trigger) :: after) :
    (found policy pass world before time).Settled policy time := by
  have hordered := schedule.ordered
  rw [hevents, List.pairwise_append] at hordered
  obtain ⟨hbefore, _, hle⟩ := hordered
  have hmem : ∀ n event, before[n]? = some event → schedule.events[0 + n]? = some event := by
    intro n event hevent
    rw [hevents, Nat.zero_add, List.getElem?_append_left (List.getElem?_eq_some_iff.1 hevent).1]
    exact hevent
  obtain ⟨hstands, _⟩ := schedule.foldl_meet_stands hmax hmem
    (fun event hevent => ⟨Nat.zero_le _, hle event hevent _ List.mem_cons_self⟩) hbefore
    (schedule.new_stands policy pass world) (Nat.zero_le time)
  obtain ⟨hadvanced, hquiet, _⟩ := hstands.advance hmax time
  obtain ⟨permit, isShutDown, stage, hworker, _⟩ := hadvanced.inStage
  exact ⟨⟨permit, isShutDown, stage, hworker⟩, hquiet⟩

/-- A trigger may come any number of times instead of once, unless it finds the worker asleep. Then
the second one counts like a trigger that comes when the burst has begun, and more than two make no
difference. -/
theorem observe_repeated (hmax : policy.maxRetries.toNat + 1 < UInt32.size) (last : Nat)
    (hevents : schedule.events = before ++ (time, .trigger) :: after) (copies : Nat) :
    (¬ (found policy pass world before time).worker.loop.IsAsleep →
      Timeline.observe pass (before ++ List.replicate (copies + 1) (time, .trigger) ++ after) last
          { worker := { policy }, world } =
        schedule.observe policy pass last world) ∧
    Timeline.observe pass (before ++ List.replicate (copies + 2) (time, .trigger) ++ after) last
        { worker := { policy }, world } =
      Timeline.observe pass (before ++ List.replicate 2 (time, .trigger) ++ after) last
        { worker := { policy }, world } ∧
    ((found policy pass world before time).worker.loop.IsAsleep →
      (found policy pass world before time).worker.loop.isShutDown = false →
      (((found policy pass world before time).triggered time).triggered time).tick pass time =
        (((found policy pass world before time).triggered time).tick pass time).triggered time) := by
  have hsettled := schedule.settled_found hmax pass world hevents
  have honce : schedule.events = before ++ List.replicate 1 (time, .trigger) ++ after := by
    rw [hevents, List.append_assoc]
    rfl
  have hmore {copies : Nat} :
      (List.replicate (copies + 1) (time, Move.trigger)).foldl (Timeline.meet pass)
          (before.foldl (Timeline.meet pass) { worker := { policy }, world }) =
        (List.replicate copies (time, .trigger)).foldl (Timeline.meet pass)
          ((found policy pass world before time).triggered time) := rfl
  refine and_assoc.1 ⟨?_, hsettled.tick_triggered_twice⟩
  unfold observe
  rw [honce]
  by_cases hlast : time ≤ last
  · have hbefore : before.filter (fun event => event.1 ≤ last) = before := by
      have hordered := schedule.ordered
      rw [hevents, List.pairwise_append] at hordered
      refine List.filter_eq_self.2 fun event hevent => decide_eq_true ?_
      exact Nat.le_trans (hordered.2.2 event hevent _ List.mem_cons_self) hlast
    refine ⟨fun hawake => ?_, ?_⟩
    · simp only [Timeline.observe_replicate before after hlast, hbefore, hmore]
      rw [hsettled.triggered.foldl_meet (hsettled.triggered_twice hawake)]
      rfl
    · simp only [Timeline.observe_replicate before after hlast, hbefore, hmore]
      rw [List.replicate_succ, List.foldl_cons, hsettled.triggered.meet,
        hsettled.triggered.triggered.foldl_meet hsettled.triggered_thrice, ← hsettled.triggered.meet]
      rfl
  · simp only [Timeline.observe_replicate_late before after hlast, implies_true, and_self]

/-- A trigger that finds the worker backing off. -/
theorem observe_repeated_backing_off :
    let policy : RetryPolicy := { maxRetries := 1 }
    let world : List PassRun := [⟨5, .error "timed out"⟩, ⟨5, .error "timed out"⟩, ⟨3, .ok ()⟩]
    policy.maxRetries.toNat + 1 < UInt32.size ∧
      duringBackOff.events = [(10, .trigger)] ++ (20, .trigger) :: [(200, .shutDown)] ∧
      Timeline.observe nextScripted
          ([(10, .trigger)] ++ List.replicate 2 (20, .trigger) ++ [(200, .shutDown)]) 300
          { worker := { policy }, world } =
        duringBackOff.observe policy nextScripted 300 world :=
  ⟨by decide, rfl, (duringBackOff.observe_repeated (by decide) 300 rfl 1).1 (by decide)⟩

/-- For a worker that sleeps, twice is not the same as once: it goes through another burst. -/
theorem observe_repeated_asleep :
    let line : Timeline (List PassRun) := { world := [⟨5, .ok ()⟩] }
    (Timeline.observe nextScripted [(10, .trigger)] 100 line).passes = [⟨10, 15, .ok ()⟩] ∧
      (Timeline.observe nextScripted [(10, .trigger), (10, .trigger)] 100 line).passes =
        [⟨10, 15, .ok ()⟩, ⟨15, 20, .ok ()⟩] :=
  ⟨rfl, rfl⟩

end Schedule

end MeshPolicy
