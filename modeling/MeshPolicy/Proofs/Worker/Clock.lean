import MeshPolicy.Proofs.Backoff.Growth
import MeshPolicy.Proofs.Worker.Reaching

/-! # Clocks that go on

A policy may let a worker retry for ever. Its clock goes on all the same if each retry takes time: only
so many retries are due before any one time. So what is to happen at that time does happen.

* `RetryPolicy.TakesTime`: no delay is empty. `RetryPolicy.delay_pos`.
* `Stage.movesBefore`: a bound on the moves that are due before a time. It counts the time that is left,
  and not the retries. `Worker.tick_movesBefore_lt`: each move lowers it.
* `Timeline.Staged.exists_reaches`: a worker gets to every time. `Timeline.exists_reached`: so does
  a new one, whatever events it meets on the way.
* `Schedule.exists_observed`: there is something to observe under every schedule.
-/

namespace MeshPolicy
set_option autoImplicit false

/-! ## Delays -/

namespace RetryPolicy

variable {policy : RetryPolicy}

/-- Every retry has to wait. A delay takes a whole millisecond of the clock at least. -/
def TakesTime (policy : RetryPolicy) : Prop :=
  0 < policy.initialBackoff.nanos ∧ 0 < policy.maxBackoff.nanos

instance (policy : RetryPolicy) : Decidable policy.TakesTime :=
  inferInstanceAs (Decidable (_ ∧ _))

theorem TakesTime.delay_pos (h : policy.TakesTime) (failures : Nat) : 0 < policy.delay failures := by
  obtain ⟨hinitial, hmax⟩ := h
  have hleast : 0 < (min policy.initialBackoff policy.maxBackoff).nanos := by
    rw [Duration.nanos_min]
    omega
  have hnanos : 0 < (policy.backoff (.ofNat failures)).nanos :=
    Nat.lt_of_lt_of_le hleast (policy.le_backoff (.ofNat failures))
  apply Nat.div_pos
  · omega
  · decide

end RetryPolicy

/-! ## Moves before a time -/

namespace Stage

/-- A bound on the moves that are due before the time `limit`, if no event comes. A pass and the delay
after it take two moves and at least a unit of time, and a permit is worth two moves at most. -/
def movesBefore (limit now : Nat) (permit : Bool) : Stage → Nat
  | .starting => 2 * (limit - now) + 1 + 2 * permit.toNat
  | .asleep => 1
  | .woken => 2 * (limit - now) + 3 + 2 * permit.toNat
  | .passing _ started _ => 2 * (limit - started) + 2 + 2 * permit.toNat
  | .backingOff _ due => 2 * (limit - due) + 3 + 2 * permit.toNat
  | .stopped => 0

theorem movesBefore_pos {stage : Stage} (h : stage.looksOut = true) (limit now : Nat)
    (permit : Bool) : 0 < stage.movesBefore limit now permit := by
  cases stage with
  | asleep => exact Nat.one_pos
  | starting | woken | backingOff =>
    simp only [movesBefore]
    omega
  | passing | stopped => cases h

end Stage

namespace Worker

variable {ω : Type} {policy : RetryPolicy} {isShutDown : Bool} {stage : Stage}
  {now time limit : Nat}

/-- Each move before the time `limit` lowers the bound and leads to a stage again. -/
theorem tick_movesBefore_lt (htakes : policy.TakesTime) (pass : ω → PassRun × ω) (permit : Bool)
    (world : ω) (hdue : stage.due? isShutDown now = some time) (hlt : time < limit) :
    ∃ permit' next world' traces,
      (inStage policy permit isShutDown stage).tick pass time world =
        (inStage policy permit' isShutDown next, world', traces) ∧
      next.movesBefore limit time permit' < stage.movesBefore limit now permit := by
  cases stage with
  | starting =>
    obtain rfl : now = time := Option.some.inj hdue
    cases isShutDown with
    | true => exact ⟨_, _, _, _, tick_stop rfl, Stage.movesBefore_pos rfl limit now permit⟩
    | false =>
      cases permit with
      | true =>
        refine ⟨_, _, _, _, tick_takePermit, ?_⟩
        simp only [Stage.movesBefore, Bool.toNat_true, Bool.toNat_false]
        omega
      | false =>
        refine ⟨_, _, _, _, tick_fallAsleep, ?_⟩
        simp only [Stage.movesBefore]
        omega
  | asleep =>
    cases isShutDown with
    | true => exact ⟨_, _, _, _, tick_stop rfl, Stage.movesBefore_pos rfl limit now permit⟩
    | false => cases hdue
  | woken =>
    obtain rfl : now = time := Option.some.inj hdue
    cases isShutDown with
    | true => exact ⟨_, _, _, _, tick_stop rfl, Stage.movesBefore_pos rfl limit now permit⟩
    | false =>
      refine ⟨_, _, _, _, tick_wakeUp, ?_⟩
      simp only [Stage.movesBefore]
      omega
  | passing failures started run =>
    obtain rfl : started + run.duration = time := Option.some.inj hdue
    obtain ⟨next, events, hnext, htick⟩ := tick_finish policy permit isShutDown pass
      (started + run.duration) failures started run world
    refine ⟨_, _, _, _, htick, ?_⟩
    rcases hnext with rfl | rfl
    · simp only [Stage.movesBefore]
      omega
    · have hdelay := htakes.delay_pos (failures + 1)
      simp only [Stage.movesBefore]
      omega
  | backingOff failures due =>
    cases isShutDown with
    | true => exact ⟨_, _, _, _, tick_stop rfl, Stage.movesBefore_pos rfl limit now permit⟩
    | false =>
      obtain rfl : due = time := Option.some.inj hdue
      refine ⟨_, _, _, _, tick_retry, ?_⟩
      simp only [Stage.movesBefore]
      omega
  | stopped => cases hdue

end Worker

/-! ## Getting there -/

namespace Timeline

variable {ω : Type} {policy : RetryPolicy} {line : Timeline ω}

/-- The worker is in a stage. -/
def Staged (policy : RetryPolicy) (line : Timeline ω) : Prop :=
  ∃ permit isShutDown stage, line.worker = .inStage policy permit isShutDown stage

/-- A worker gets to every time. The induction is on the bound for the moves that are due before. -/
theorem Staged.exists_reaches (htakes : policy.TakesTime) (pass : ω → PassRun × ω) (limit : Nat)
    (h : line.Staged policy) : ∃ line', line.Reaches pass limit line' ∧ line'.Staged policy := by
  obtain ⟨permit, isShutDown, stage, hstage⟩ := h
  induction hmoves : stage.movesBefore limit line.now permit using Nat.strong_induction_on
    generalizing line permit stage with
  | h moves ih =>
    subst hmoves
    have hdue : line.worker.due? line.now = stage.due? isShutDown line.now := by
      rw [hstage, Worker.due?_inStage]
    cases htime : stage.due? isShutDown line.now with
    | none =>
      refine ⟨line, .of_quiet fun time hsome => ?_, permit, isShutDown, stage, hstage⟩
      rw [hdue, htime] at hsome
      cases hsome
    | some time =>
      by_cases hlt : time < limit
      · obtain ⟨permit', next, world, traces, htick, hless⟩ :=
          Worker.tick_movesBefore_lt htakes pass permit line.world htime hlt
        have hnext : (line.tick pass time).worker = .inStage policy permit' isShutDown next := by
          rw [← hstage] at htick
          rw [tick_of htick]
        obtain ⟨line', hreaches, hline'⟩ := ih _ hless permit' next hnext rfl
        exact ⟨line', .of_tick (hdue.trans htime) hlt hreaches, hline'⟩
      · refine ⟨line, .of_quiet fun due hsome => ?_, permit, isShutDown, stage, hstage⟩
        have hsame : some time = some due := htime.symm.trans (hdue.symm.trans hsome)
        cases hsame
        exact Nat.le_of_not_lt hlt

theorem Staged.deliver (h : line.Staged policy) {move : Move}
    (hmove : move = .trigger ∨ move = .shutDown) (now : Nat) :
    Staged policy { line with now, worker := line.worker.deliver move } := by
  obtain ⟨permit, isShutDown, stage, hstage⟩ := h
  rcases hmove with rfl | rfl
  · by_cases hasleep : stage = .asleep
    · subst hasleep
      refine ⟨permit, isShutDown, .woken, ?_⟩
      rw [hstage, Worker.deliver_trigger_asleep]
    · refine ⟨true, isShutDown, stage, ?_⟩
      rw [hstage, Worker.deliver_trigger_awake hasleep]
  · refine ⟨permit, true, stage, ?_⟩
    rw [hstage]
    rfl

/-- A new worker meets every event and gets to every time, if its retries take time. -/
theorem exists_reached (htakes : policy.TakesTime) (pass : ω → PassRun × ω) (world : ω)
    {events : List (Nat × Move)} (hturn : InTurn 0 events) (limit : Nat) :
    ∃ line, Reached policy pass world events limit line := by
  have hnew : Staged policy ({ worker := { policy }, world } : Timeline ω) :=
    ⟨false, false, .starting, rfl⟩
  obtain ⟨met, hmeets, hmet⟩ : ∃ met, Meets pass events _ met ∧ met.Staged policy := by
    apply exists_meets _ _ hturn hnew
    · intro line limit hstaged
      exact hstaged.exists_reaches htakes pass limit
    · intro line time move hstaged hmove _ _
      exact hstaged.deliver hmove time
  obtain ⟨line, hreaches, _⟩ := hmet.exists_reaches htakes pass limit
  exact ⟨line, met, hmeets, hreaches⟩

end Timeline

namespace Schedule

variable {ω : Type} (schedule : Schedule) {policy : RetryPolicy}

theorem exists_observed (htakes : policy.TakesTime) (pass : ω → PassRun × ω) (last : Nat)
    (world : ω) : ∃ line, schedule.Observed policy pass last world line := by
  have hturn : Timeline.InTurn 0 (schedule.events.filter fun event => event.1 ≤ last) := by
    refine ⟨fun event hevent => ?_, ?_, fun event _ => Nat.zero_le event.1⟩
    · exact schedule.external event (List.mem_filter.1 hevent).1
    · exact schedule.ordered.sublist List.filter_sublist
  exact Timeline.exists_reached htakes pass world hturn (last + 1)

end Schedule

end MeshPolicy
