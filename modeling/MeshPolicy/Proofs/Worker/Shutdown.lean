import MeshPolicy.Proofs.Worker.Clock

/-! # Shutting a worker down

A worker that waits or backs off stops at the very time at which it is shut down, and one that is in
a pass stops when the pass ends. No pass starts from then on. How many retries a policy allows does
not matter.

* `Timeline.Alive`: a worker that nobody has shut down. It has not stopped.
* `Timeline.Closes`: a worker that was shut down: when it stops and with which passes is settled.
* `Timeline.Heeds`: how a worker goes on from the state in which a shutdown has found it.
* `Schedule.observed_heeds_shutDown`: a worker heeds the first shutdown of its schedule.
-/

namespace MeshPolicy
set_option autoImplicit false

variable {ω : Type}

/-! ## The end of a pass -/

namespace Stage

variable {stage : Stage}

/-- The worker has not stopped, and a pass that it is in has started before the time `limit`. -/
def Going (limit : Nat) : Stage → Prop
  | .passing _ started _ => started < limit
  | .starting | .asleep | .woken | .backingOff .. => True
  | .stopped => False

theorem going_of_looksOut (h : stage.looksOut = true) (limit : Nat) : stage.Going limit := by
  cases stage with
  | starting | asleep | woken | backingOff => trivial
  | passing | stopped => cases h

theorem phase_ne_stopped (h : stage.looksOut = true) : stage.phase ≠ .stopped := by
  cases stage with
  | starting | asleep | woken | backingOff => exact Phase.noConfusion
  | passing | stopped => cases h

/-- A worker that looks out notices at once that it was shut down. -/
theorem due?_shutDown (h : stage.looksOut = true) (now : Nat) : stage.due? true now = some now := by
  cases stage with
  | starting | asleep | woken | backingOff => rfl
  | passing | stopped => cases h

end Stage

namespace Worker

variable {policy : RetryPolicy} {permit isShutDown : Bool} {stage : Stage} {failures started : Nat}

theorem dueFinish?_passing {run : PassRun} :
    (inStage policy permit isShutDown (.passing failures started run)).dueFinish? =
      some ⟨started, started + run.duration, run.outcome⟩ := rfl

theorem dueFinish?_of_looksOut (h : stage.looksOut = true) :
    (inStage policy permit isShutDown stage).dueFinish? = none := by
  cases stage with
  | starting | asleep | woken | backingOff => rfl
  | passing | stopped => cases h

end Worker

namespace Timeline

/-- Once its pass is over, a worker looks out, however many retries are left to it. -/
theorem tick_finish {policy : RetryPolicy} {permit isShutDown : Bool} {pass : ω → PassRun × ω}
    {now time failures started : Nat} {run : PassRun} {world : ω} {events : List Log.Event}
    {passes : List FinishedPass} :
    ∃ next traces, next.looksOut = true ∧
      Timeline.tick pass time ⟨now, .inStage policy permit isShutDown (.passing failures started run),
          world, events, passes, none⟩ =
        ⟨time, .inStage policy permit isShutDown next, world, events ++ traces,
          passes ++ [⟨started, started + run.duration, run.outcome⟩], none⟩ := by
  obtain ⟨next, traces, hnext, htick⟩ :=
    Worker.tick_finish policy permit isShutDown pass time failures started run world
  have hlooks : next.looksOut = true := by
    rcases hnext with rfl | rfl
    · rfl
    · rfl
  have hrunning : (Worker.inStage policy permit isShutDown next).loop.phase ≠ .stopped :=
    Stage.phase_ne_stopped hlooks
  refine ⟨next, traces, hlooks, ?_⟩
  rw [tick_of htick, if_neg hrunning]
  rfl

end Timeline

/-! ## Before a shutdown -/

namespace Timeline

/-- Nobody has shut the worker down. It has not stopped, and has started no pass at the time `limit`
or later. -/
inductive Alive (policy : RetryPolicy) (limit : Nat) : Timeline ω → Prop where
  | intro {permit : Bool} {stage : Stage} {now : Nat} {world : ω} {events : List Log.Event}
      {passes : List FinishedPass} (going : stage.Going limit)
      (started : ∀ pass ∈ passes, pass.started < limit) :
      Alive policy limit ⟨now, .inStage policy permit false stage, world, events, passes, none⟩

variable {policy : RetryPolicy} {pass : ω → PassRun × ω} {limit time : Nat}
  {line line' met : Timeline ω} {events : List (Nat × Move)}

theorem alive_new (policy : RetryPolicy) (limit : Nat) (world : ω) :
    Alive policy limit ({ worker := { policy }, world } : Timeline ω) := by
  have hnone : ∀ pass ∈ ([] : List FinishedPass), pass.started < limit := by simp
  show Alive policy limit ⟨0, .inStage policy false false .starting, world, [], [], none⟩
  exact .intro trivial hnone

theorem Alive.running (h : line.Alive policy limit) : line.stopped = none := by
  cases h
  rfl

theorem Alive.tick (h : line.Alive policy limit) (hdue : line.worker.due? line.now = some time)
    (hlt : time < limit) : (line.tick pass time).Alive policy limit := by
  obtain @⟨permit, stage, now, world, events, passes, going, started⟩ := h
  rw [Worker.due?_inStage] at hdue
  cases stage with
  | starting =>
    cases permit with
    | true =>
      rw [tick_of_none Worker.tick_takePermit]
      exact .intro hlt started
    | false =>
      rw [tick_of_none Worker.tick_fallAsleep]
      exact .intro trivial started
  | woken =>
    rw [tick_of_none Worker.tick_wakeUp]
    exact .intro hlt started
  | passing failures begun run =>
    obtain ⟨next, traces, hlooks, htick⟩ := tick_finish (ω := ω)
    have hgoing : begun < limit := going
    rw [htick]
    refine .intro (Stage.going_of_looksOut hlooks limit) ?_
    intro other hother
    rcases List.mem_append.1 hother with hother | hother
    · exact started other hother
    · have hlast : other = ⟨begun, begun + run.duration, run.outcome⟩ := by simpa using hother
      rw [hlast]
      exact hgoing
  | backingOff =>
    rw [tick_of_none Worker.tick_retry]
    exact .intro hlt started
  | asleep | stopped => cases hdue

theorem Alive.reaches (h : line.Alive policy limit) (hreaches : line.Reaches pass time line')
    (htime : time ≤ limit) : line'.Alive policy limit := by
  apply hreaches.keeps _ h
  intro line due halive hdue hlt
  exact halive.tick hdue (by omega)

theorem Alive.trigger (h : line.Alive policy limit) (now : Nat) :
    ({ line with now, worker := line.worker.deliver .trigger } : Timeline ω).Alive policy limit := by
  obtain @⟨permit, stage, _, world, events, passes, going, started⟩ := h
  by_cases hasleep : stage = .asleep
  · subst hasleep
    show Alive policy limit ⟨now, .inStage policy permit false .woken, world, events, passes, none⟩
    exact .intro trivial started
  · show Alive policy limit
      ⟨now, (Worker.inStage policy permit false stage).deliver .trigger, world, events, passes, none⟩
    rw [Worker.deliver_trigger_awake hasleep]
    exact .intro going started

theorem Alive.meets (hmeets : Meets pass events line met)
    (htriggers : ∀ event ∈ events, event.2 = .trigger) (htimes : ∀ event ∈ events, event.1 ≤ limit)
    (h : line.Alive policy limit) : met.Alive policy limit := by
  induction hmeets with
  | done => exact h
  | @next time move rest line found met reaches meets ih =>
    have hmove : move = .trigger := htriggers (time, move) List.mem_cons_self
    have htime : time ≤ limit := htimes (time, move) List.mem_cons_self
    subst hmove
    have hfound := h.reaches reaches htime
    exact ih (fun event hevent => htriggers event (List.mem_cons_of_mem _ hevent))
      (fun event hevent => htimes event (List.mem_cons_of_mem _ hevent)) (hfound.trigger time)

/-! ## After a shutdown -/

/-- The worker was shut down. It stops at the time `ends`, has gone through the passes `passes` then
and leaves the world `world`: it is in the last of these passes, is about to stop, or has done so. -/
inductive Closes (policy : RetryPolicy) (ends : Nat) (passes : List FinishedPass) (world : ω) :
    Timeline ω → Prop where
  | passing {permit : Bool} {now failures started : Nat} {run : PassRun} {events : List Log.Event}
      {before : List FinishedPass} (runsOn : now ≤ ends) (ending : started + run.duration = ends)
      (last : before ++ [⟨started, ends, run.outcome⟩] = passes) :
      Closes policy ends passes world
        ⟨now, .inStage policy permit true (.passing failures started run), world, events, before,
          none⟩
  | looking {permit : Bool} {stage : Stage} {events : List Log.Event}
      (looks : stage.looksOut = true) :
      Closes policy ends passes world
        ⟨ends, .inStage policy permit true stage, world, events, passes, none⟩
  | stopped {permit : Bool} {now : Nat} {events : List Log.Event} (le : ends ≤ now) :
      Closes policy ends passes world
        ⟨now, .inStage policy permit true .stopped, world, events, passes, some ends⟩

variable {ends last : Nat} {passes : List FinishedPass} {world : ω}

theorem Closes.tick (h : line.Closes policy ends passes world)
    (hdue : line.worker.due? line.now = some time) :
    (line.tick pass time).Closes policy ends passes world := by
  cases h with
  | @passing permit now failures started run events before runsOn ending last =>
    rw [Worker.due?_inStage] at hdue
    have htime : time = ends := by
      have hends : started + run.duration = time := Option.some.inj hdue
      omega
    obtain ⟨next, traces, hlooks, htick⟩ := tick_finish (ω := ω)
    rw [htick, htime, ending]
    subst last
    exact .looking hlooks
  | @looking permit stage events looks =>
    rw [Worker.due?_inStage, Stage.due?_shutDown looks] at hdue
    have htime : ends = time := Option.some.inj hdue
    subst htime
    rw [tick_of_none (Worker.tick_stop looks)]
    exact .stopped (Nat.le_refl ends)
  | stopped le =>
    rw [Worker.due?_inStage] at hdue
    cases hdue

theorem quiet_of_stopped {permit isShutDown : Bool} {now : Nat} {events : List Log.Event}
    {stopped : Option Nat} (limit : Nat) :
    (⟨now, .inStage policy permit isShutDown .stopped, world, events, passes, stopped⟩ :
      Timeline ω).Quiet limit := by
  intro time hdue
  rw [Worker.due?_inStage] at hdue
  cases hdue

/-- A worker that was shut down is soon done with its moves. -/
theorem Closes.exists_reaches (h : line.Closes policy ends passes world) (pass : ω → PassRun × ω)
    (limit : Nat) : ∃ line', line.Reaches pass limit line' := by
  have hlooking : ∀ permit stage events, stage.looksOut = true →
      ∃ line', Reaches pass limit
        ⟨ends, .inStage policy permit true stage, world, events, passes, none⟩ line' := by
    intro permit stage events looks
    have hdue : (Worker.inStage policy permit true stage).due? ends = some ends := by
      rw [Worker.due?_inStage, Stage.due?_shutDown looks]
    by_cases hlt : ends < limit
    · refine ⟨_, .of_tick hdue hlt (.of_quiet ?_)⟩
      rw [tick_of_none (Worker.tick_stop looks)]
      exact quiet_of_stopped limit
    · refine ⟨_, .of_quiet fun time htime => ?_⟩
      have hends : some ends = some time := hdue.symm.trans htime
      cases hends
      omega
  cases h with
  | @passing permit now failures started run events before runsOn ending last =>
    by_cases hlt : ends < limit
    · obtain ⟨next, traces, hlooks, htick⟩ := tick_finish (ω := ω)
      obtain ⟨line', hline⟩ := hlooking permit next (events ++ traces) hlooks
      have hdue : (Worker.inStage policy permit true (.passing failures started run)).due? now =
          some ends := congrArg some ending
      refine ⟨line', .of_tick hdue hlt ?_⟩
      rw [htick, ending, last]
      exact hline
    · refine ⟨_, .of_quiet fun time htime => ?_⟩
      have htime : started + run.duration = time := Option.some.inj htime
      omega
  | @looking permit stage events looks => exact hlooking permit stage events looks
  | stopped le => exact ⟨_, .of_quiet (quiet_of_stopped limit)⟩

theorem Closes.reaches (h : line.Closes policy ends passes world)
    (hreaches : line.Reaches pass time line') : line'.Closes policy ends passes world := by
  apply hreaches.keeps _ h
  intro line due hcloses hdue _
  exact hcloses.tick hdue

/-- Time passes until an event, which is a trigger or a further shutdown. -/
theorem Closes.deliver (h : line.Closes policy ends passes world) {move : Move}
    (hmove : move = .trigger ∨ move = .shutDown) (hquiet : line.Quiet time) (hnow : line.now ≤ time) :
    ({ line with now := time, worker := line.worker.deliver move } : Timeline ω).Closes policy ends
      passes world := by
  cases h with
  | @passing permit now failures started run events before runsOn ending last =>
    have hdue : time ≤ started + run.duration := hquiet _ rfl
    have htime : time ≤ ends := by omega
    rcases hmove with rfl | rfl
    · exact .passing htime ending last
    · exact .passing htime ending last
  | @looking permit stage events looks =>
    have hdue : time ≤ ends := by
      apply hquiet ends
      rw [Worker.due?_inStage, Stage.due?_shutDown looks]
    have htime : time = ends := Nat.le_antisymm hdue hnow
    subst htime
    rcases hmove with rfl | rfl
    · by_cases hasleep : stage = .asleep
      · subst hasleep
        show Closes policy time passes world
          ⟨time, .inStage policy permit true .woken, world, events, passes, none⟩
        exact .looking rfl
      · show Closes policy time passes world
          ⟨time, (Worker.inStage policy permit true stage).deliver .trigger, world, events, passes,
            none⟩
        rw [Worker.deliver_trigger_awake hasleep]
        exact .looking looks
    · exact .looking looks
  | stopped le =>
    have hle := Nat.le_trans le hnow
    rcases hmove with rfl | rfl
    · exact .stopped hle
    · exact .stopped hle

theorem Closes.exists_meets (h : line.Closes policy ends passes world) (pass : ω → PassRun × ω)
    (hturn : InTurn line.now events) :
    ∃ met, Meets pass events line met ∧ met.Closes policy ends passes world := by
  apply Timeline.exists_meets _ _ hturn h
  · intro line limit hcloses
    obtain ⟨line', hline⟩ := hcloses.exists_reaches pass limit
    exact ⟨line', hline, hcloses.reaches hline⟩
  · intro line time move hcloses hmove hquiet hnow
    exact hcloses.deliver hmove hquiet hnow

/-! ## At a shutdown -/

/-- How a worker that a shutdown has found like `found`, at the time `stop`, has gone on by the time
`last`. -/
structure Heeds (stop last : Nat) (found line : Timeline ω) : Prop where
  /-- The worker has not stopped before. -/
  running : found.stopped = none
  /-- All its passes have started before the shutdown. -/
  started : ∀ pass ∈ line.passes, pass.started < stop
  /-- Nothing else has happened to the world: passes change it as they start. -/
  world : line.world = found.world
  /-- A worker that waits or backs off stops at once. -/
  atOnce : found.worker.dueFinish? = none → line.stopped = some stop ∧ line.passes = found.passes
  /-- One that is in a pass stops when that pass ends, with whatever outcome. -/
  afterPass : ∀ pass, found.worker.dueFinish? = some pass →
    pass.started < stop ∧ stop ≤ pass.ended ∧
      if pass.ended ≤ last then line.stopped = some pass.ended ∧ line.passes = found.passes ++ [pass]
      else line.stopped = none ∧ line.passes = found.passes ∧ line.worker.dueFinish? = some pass

/-- What has become of a worker that was shut down. -/
theorem Closes.outcome (h : line.Closes policy ends passes world) (hquiet : line.Quiet (last + 1))
    (hnow : line.now ≤ last) :
    line.world = world ∧
      (ends ≤ last ∧ line.stopped = some ends ∧ line.passes = passes ∨
        last < ends ∧ line.stopped = none ∧
          ∃ run, line.passes ++ [run] = passes ∧ line.worker.dueFinish? = some run) := by
  cases h with
  | @passing permit now failures started run events before runsOn ending last =>
    have hdue : _ ≤ started + run.duration := hquiet _ rfl
    refine ⟨rfl, .inr ⟨by omega, rfl, _, last, ?_⟩⟩
    rw [Worker.dueFinish?_passing, ending]
  | @looking permit stage events looks =>
    have hdue : last + 1 ≤ ends := by
      apply hquiet ends
      rw [Worker.due?_inStage, Stage.due?_shutDown looks]
    have hends : ends ≤ last := hnow
    omega
  | stopped le => exact ⟨rfl, .inl ⟨Nat.le_trans le hnow, rfl, rfl⟩⟩

section Found

variable {permit : Bool} {stop now : Nat} {events : List Log.Event}

theorem heeds_atOnce {stage : Stage} (hlooks : stage.looksOut = true)
    (started : ∀ pass ∈ passes, pass.started < stop) (h : line.Closes policy stop passes world)
    (hquiet : line.Quiet (last + 1)) (hnow : line.now ≤ last) (hlast : stop ≤ last) :
    Heeds stop last ⟨now, .inStage policy permit false stage, world, events, passes, none⟩ line := by
  have hnone : (Worker.inStage policy permit false stage).dueFinish? = none :=
    Worker.dueFinish?_of_looksOut hlooks
  obtain ⟨hworld, hstopped⟩ := h.outcome hquiet hnow
  rcases hstopped with ⟨_, hstopped, hpasses⟩ | ⟨hlate, _⟩
  · refine ⟨rfl, hpasses ▸ started, hworld, fun _ => ⟨hstopped, hpasses⟩, ?_⟩
    intro pass hpass
    rw [hnone] at hpass
    cases hpass
  · omega

theorem heeds_afterPass {failures begun : Nat} {run : PassRun} (hbegun : begun < stop)
    (hends : stop ≤ begun + run.duration) (started : ∀ pass ∈ passes, pass.started < stop)
    (h : line.Closes policy (begun + run.duration)
      (passes ++ [⟨begun, begun + run.duration, run.outcome⟩]) world)
    (hquiet : line.Quiet (last + 1)) (hnow : line.now ≤ last) :
    Heeds stop last ⟨now, .inStage policy permit false (.passing failures begun run), world, events,
      passes, none⟩ line := by
  obtain ⟨hworld, hstopped⟩ := h.outcome hquiet hnow
  have hall : ∀ pass ∈ passes ++ [⟨begun, begun + run.duration, run.outcome⟩],
      pass.started < stop := by
    simpa [or_imp, forall_and] using ⟨started, hbegun⟩
  have hsub : ∀ pass ∈ line.passes, pass.started < stop := by
    intro pass hpass
    apply hall
    rcases hstopped with ⟨_, _, hpasses⟩ | ⟨_, _, current, hpasses, _⟩
    · exact hpasses ▸ hpass
    · exact hpasses ▸ List.mem_append_left _ hpass
  refine ⟨rfl, hsub, hworld, nofun, ?_⟩
  intro pass hpass
  rw [Worker.dueFinish?_passing] at hpass
  cases hpass
  refine ⟨hbegun, hends, ?_⟩
  rcases hstopped with ⟨hle, hstopped, hpasses⟩ | ⟨hlate, hstopped, current, hpasses, hcurrent⟩
  · rw [if_pos hle]
    exact ⟨hstopped, hpasses⟩
  · rw [if_neg (Nat.not_le_of_lt hlate)]
    obtain ⟨hbefore, rfl⟩ := List.append_singleton_inj.1 hpasses
    exact ⟨hstopped, hbefore, hcurrent⟩

end Found

/-- A shutdown settles when the worker that it finds stops, and with which passes. -/
theorem Alive.shutDown {found : Timeline ω} {stop : Nat} (h : found.Alive policy stop)
    (hquiet : found.Quiet stop) :
    ∃ ends passes, ({ found with now := stop, worker := found.worker.deliver .shutDown } :
        Timeline ω).Closes policy ends passes found.world ∧
      ∀ (line : Timeline ω) (last : Nat), line.Closes policy ends passes found.world →
        line.Quiet (last + 1) → line.now ≤ last → stop ≤ last → Heeds stop last found line := by
  obtain @⟨permit, stage, now, world, events, passes, going, started⟩ := h
  cases stage with
  | starting | asleep | woken | backingOff =>
    refine ⟨stop, passes, .looking rfl, ?_⟩
    intro line last hcloses hline hnow hlast
    exact heeds_atOnce rfl started hcloses hline hnow hlast
  | passing failures begun run =>
    have hbegun : begun < stop := going
    have hends : stop ≤ begun + run.duration := hquiet _ rfl
    refine ⟨begun + run.duration, _, .passing hends rfl rfl, ?_⟩
    intro line last hcloses hline hnow _
    exact heeds_afterPass hbegun hends started hcloses hline hnow
  | stopped => cases going

end Timeline

/-! ## Following a schedule -/

namespace Schedule

variable (schedule : Schedule) {policy : RetryPolicy} {pass : ω → PassRun × ω} {world : ω}

theorem triggers_of_no_stop {events : List (Nat × Move)}
    (hevents : ∀ event ∈ events, event ∈ schedule.events)
    (hnone : ∀ time, (time, .shutDown) ∉ events) : ∀ event ∈ events, event.2 = .trigger := by
  rintro ⟨time, move⟩ hevent
  rcases schedule.external _ (hevents _ hevent) with htrigger | hstop
  · exact htrigger
  · have hmove : move = .shutDown := hstop
    subst hmove
    exact absurd hevent (hnone time)

section Split

variable {schedule} {before after : List (Nat × Move)} {stop last : Nat} {found line : Timeline ω}

theorem inTurn_after {move : Move} (hevents : schedule.events = before ++ (stop, move) :: after) :
    Timeline.InTurn stop (after.filter fun event => event.1 ≤ last) := by
  have hordered := schedule.ordered
  rw [hevents, List.pairwise_append, List.pairwise_cons] at hordered
  obtain ⟨_, ⟨hlater, hafter⟩, _⟩ := hordered
  refine ⟨?_, hafter.sublist List.filter_sublist, ?_⟩
  · intro event hevent
    have hmem : event ∈ after := (List.mem_filter.1 hevent).1
    apply schedule.external
    rw [hevents]
    simp [hmem]
  · intro event hevent
    exact hlater event (List.mem_filter.1 hevent).1

/-- The first shutdown finds the worker alive. -/
theorem alive_found (hevents : schedule.events = before ++ (stop, .shutDown) :: after)
    (hfirst : ∀ time, (time, .shutDown) ∉ before)
    (hfound : Timeline.Reached policy pass world before stop found) : found.Alive policy stop := by
  have hordered := schedule.ordered
  rw [hevents, List.pairwise_append] at hordered
  have hmem : ∀ event ∈ before, event ∈ schedule.events := by
    intro event hevent
    rw [hevents]
    exact List.mem_append_left _ hevent
  have htimes : ∀ event ∈ before, event.1 ≤ stop := fun event hevent =>
    hordered.2.2 event hevent (stop, .shutDown) List.mem_cons_self
  obtain ⟨met, hmeets, hreaches⟩ := hfound
  have hmet := (Timeline.alive_new policy stop world).meets hmeets
    (schedule.triggers_of_no_stop hmem hfirst) htimes
  exact hmet.reaches hreaches (Nat.le_refl stop)

/-- Without a shutdown a worker does not stop. -/
theorem Observed.running (h : schedule.Observed policy pass last world line)
    (hnone : ∀ stop, schedule.Stops stop → last < stop) : line.stopped = none := by
  obtain ⟨met, hmeets, hreaches⟩ := h
  have htriggers : ∀ event ∈ schedule.events.filter fun event => event.1 ≤ last,
      event.2 = .trigger := by
    apply schedule.triggers_of_no_stop
    · intro event hevent
      exact (List.mem_filter.1 hevent).1
    · intro time htime
      obtain ⟨hmem, hle⟩ := List.mem_filter.1 htime
      have hearly : time ≤ last := of_decide_eq_true hle
      have hlate : last < time := hnone time hmem
      omega
  have htimes : ∀ event ∈ schedule.events.filter fun event => event.1 ≤ last,
      event.1 ≤ last + 1 := by
    intro event hevent
    have hle : event.1 ≤ last := of_decide_eq_true (List.mem_filter.1 hevent).2
    omega
  have hmet := (Timeline.alive_new policy (last + 1) world).meets hmeets htriggers htimes
  exact (hmet.reaches hreaches (Nat.le_refl _)).running

/-- Whoever gets beyond an event has got to it. -/
theorem Observed.exists_found (h : schedule.Observed policy pass last world line) {move : Move}
    (hevents : schedule.events = before ++ (stop, move) :: after) (hlast : stop ≤ last) :
    ∃ found, Timeline.Reached policy pass world before stop found := by
  obtain ⟨met, hmeets, _⟩ := h
  rw [schedule.filter_events hevents hlast] at hmeets
  obtain ⟨middle, hbefore, hrest⟩ := hmeets.split
  cases hrest with
  | next reaches _ => exact ⟨_, middle, hbefore, reaches⟩

/-- Once a shutdown is met, nothing keeps the clock of the worker from going on. -/
theorem exists_observed_of_found (hevents : schedule.events = before ++ (stop, .shutDown) :: after)
    (hfirst : ∀ time, (time, .shutDown) ∉ before) (hlast : stop ≤ last)
    (hfound : Timeline.Reached policy pass world before stop found) :
    ∃ line, schedule.Observed policy pass last world line := by
  have halive := alive_found hevents hfirst hfound
  have hturn : Timeline.InTurn stop (after.filter fun event => event.1 ≤ last) :=
    inTurn_after hevents
  obtain ⟨middle, hmeets, hreaches⟩ := hfound
  obtain ⟨ends, passes, hcloses, _⟩ := halive.shutDown hreaches.2
  obtain ⟨met, hmet, hclosed⟩ := hcloses.exists_meets pass hturn
  obtain ⟨line, hline⟩ := hclosed.exists_reaches pass (last + 1)
  refine ⟨line, met, ?_, hline⟩
  rw [schedule.filter_events hevents hlast]
  exact hmeets.append (.next hreaches hmet)

theorem Observed.heeds (h : schedule.Observed policy pass last world line)
    (hevents : schedule.events = before ++ (stop, .shutDown) :: after)
    (hfirst : ∀ time, (time, .shutDown) ∉ before) (hlast : stop ≤ last)
    (hfound : Timeline.Reached policy pass world before stop found) :
    Timeline.Heeds stop last found line := by
  have halive := alive_found hevents hfirst hfound
  have hturn : Timeline.InTurn stop (after.filter fun event => event.1 ≤ last) :=
    inTurn_after hevents
  obtain ⟨middle, hmeets, hreaches⟩ := hfound
  obtain ⟨ends, passes, hcloses, hheeds⟩ := halive.shutDown hreaches.2
  obtain ⟨met, hmet, hline⟩ := h
  rw [schedule.filter_events hevents hlast] at hmet
  obtain ⟨middle', hmeets', hmet⟩ := hmet.split
  have hmiddle := hmeets'.unique hmeets
  subst hmiddle
  cases hmet with
  | next reaches meets =>
    have hsame := reaches.unique hreaches
    subst hsame
    obtain ⟨met', hmet', hclosed⟩ := hcloses.exists_meets pass hturn
    have hsame := meets.unique hmet'
    subst hsame
    have hclosed := hclosed.reaches hline
    have hnow := meets.now_le
      (fun event hevent => of_decide_eq_true (List.mem_filter.1 hevent).2) hlast
    exact hheeds line last hclosed hline.2 (hline.now_le (Nat.le_refl _) hnow) hlast

end Split

/-- A worker that nobody has shut down has not stopped. The first shutdown of a schedule is heeded:
a worker that waits or backs off stops at that very time, one that is in a pass at the end of it, and
no pass starts any more, whatever triggers there are. A worker gets to that time if its policy does not
let it retry for ever, or if its retries take time. -/
theorem observed_heeds_shutDown (policy : RetryPolicy) (pass : ω → PassRun × ω) (world : ω)
    (last : Nat) :
    (policy.maxRetries.toNat + 1 < UInt32.size →
      schedule.Observed policy pass last world (schedule.observe policy pass last world)) ∧
    (policy.TakesTime → ∃ line, schedule.Observed policy pass last world line) ∧
    (∀ line, schedule.Observed policy pass last world line →
      (∀ stop, schedule.Stops stop → last < stop) → line.stopped = none) ∧
    ∀ before stop after, schedule.events = before ++ (stop, .shutDown) :: after →
      (∀ time, (time, .shutDown) ∉ before) → stop ≤ last →
      (policy.maxRetries.toNat + 1 < UInt32.size ∨ policy.TakesTime →
        ∃ found, Timeline.Reached policy pass world before stop found) ∧
      ∀ found, Timeline.Reached policy pass world before stop found →
        (∃ line, schedule.Observed policy pass last world line) ∧
          ∀ line, schedule.Observed policy pass last world line →
            Timeline.Heeds stop last found line := by
  have hends (hmax : policy.maxRetries.toNat + 1 < UInt32.size) :=
    schedule.observed_observe hmax pass last world
  have hgets (htakes : policy.TakesTime) := schedule.exists_observed htakes pass last world
  refine ⟨hends, hgets, fun line hline hnone => hline.running hnone, ?_⟩
  intro before stop after hevents hfirst hlast
  refine ⟨fun hpolicy => ?_, fun found hfound => ⟨?_, fun line hline => ?_⟩⟩
  · obtain ⟨line, hline⟩ : ∃ line, schedule.Observed policy pass last world line :=
      hpolicy.elim (fun hmax => ⟨_, hends hmax⟩) hgets
    exact hline.exists_found hevents hlast
  · exact exists_observed_of_found hevents hfirst hlast hfound
  · exact hline.heeds hevents hfirst hlast hfound

/-- A shutdown and a trigger at the same time, while the worker is in its first pass. -/
def duringPass : Schedule where
  events := [(10, .trigger), (12, .trigger), (13, .shutDown), (13, .trigger)]
  ordered := by decide
  external := by simp

/-- The pass fails, two triggers are pending and retries are left without end. All the same the
worker stops when the pass is over. -/
theorem observed_heeds_shutDown_during_pass :
    let policy : RetryPolicy := { maxRetries := 4294967295 }
    let world : List PassRun := [⟨5, .error "timed out"⟩]
    let found : Timeline (List PassRun) :=
      ⟨12, .inStage policy true false (.passing 0 10 ⟨5, .error "timed out"⟩), world, [], [], none⟩
    policy.TakesTime ∧
      Timeline.Reached policy nextScripted world [(10, .trigger), (12, .trigger)] 13 found ∧
      ∃ line, duringPass.Observed policy nextScripted 100 world line ∧
        Timeline.Heeds 13 100 found line ∧ line.stopped = some 15 ∧
        line.passes = [⟨10, 15, .error "timed out"⟩] := by
  intro policy world found
  have htakes : policy.TakesTime := by decide
  have hfound : Timeline.Reached policy nextScripted world [(10, .trigger), (12, .trigger)] 13 found :=
    ⟨_, .next ⟨⟨1, rfl⟩, by decide⟩ (.next ⟨⟨1, rfl⟩, by decide⟩ (.done _)), ⟨0, rfl⟩, by decide⟩
  obtain ⟨_, hobserved, _, hheed⟩ :=
    duringPass.observed_heeds_shutDown policy nextScripted world 100
  obtain ⟨line, hline⟩ := hobserved htakes
  obtain ⟨_, hheeds⟩ := (hheed [(10, .trigger), (12, .trigger)] 13 [(13, .trigger)] rfl (by simp)
    (by decide)).2 found hfound
  obtain ⟨_, _, hended⟩ := (hheeds line hline).afterPass _ rfl
  exact ⟨htakes, hfound, line, hline, hheeds line hline, hended⟩

end Schedule

end MeshPolicy
