import MeshPolicy.Proofs.Worker.Stages

/-! # The course of a worker

* `Schedule`: triggers and shutdowns, in the order of their times. `Schedule.observe`: what a new
  worker does under them up to a time.
* `Accounts`: no trigger is lost. One that has come since the last burst began has left its permit.
* `Stands`: where a worker is on its way through a schedule, and what it has done. Each move and each
  event keeps it: `Stands.tick`, `Stands.wait`, `Stands.trigger`, `Stands.shutDown`.
* `Stands.advance`: advancing makes all the moves that are due, since each one lowers the bound
  `Worker.movesLeft`.
* `Schedule.observe_stands`: so a worker is always somewhere on its way.
-/

namespace MeshPolicy
set_option autoImplicit false

/-- What happens to a worker from outside. -/
structure Schedule where
  events : List (Nat × Move)
  ordered : events.Pairwise fun earlier later => earlier.1 ≤ later.1
  external : ∀ event ∈ events, event.2 = .trigger ∨ event.2 = .shutDown

namespace Schedule

/-- The event `number` is a trigger, at the time `time`. -/
def Triggers (schedule : Schedule) (number time : Nat) : Prop :=
  schedule.events[number]? = some (time, .trigger)

def Stops (schedule : Schedule) (time : Nat) : Prop := (time, .shutDown) ∈ schedule.events

/-- A new worker, and what it does up to and including the time `last`. -/
def observe {ω : Type} (schedule : Schedule) (policy : RetryPolicy) (pass : ω → PassRun × ω)
    (last : Nat) (world : ω) : Timeline ω :=
  Timeline.observe pass schedule.events last { worker := { policy }, world }

end Schedule

/-- There is no trigger among the events from `first` to `met`. -/
def NoneLeft (triggers : Nat → Nat → Prop) (first met : Nat) : Prop :=
  ∀ number time, first ≤ number → number < met → ¬ triggers number time

/-- What a permit says of the events from `used` to `met`: the last trigger among them, which came
between the times `since` and `now`, has left it. Without a permit there is no trigger. -/
structure Accounts (triggers : Nat → Nat → Prop) (used met since now : Nat) (permit : Bool) :
    Prop where
  kept : permit = true → ∃ number time, used ≤ number ∧ number < met ∧ triggers number time ∧
    since ≤ time ∧ time ≤ now ∧ NoneLeft triggers (number + 1) met
  left : permit = false → NoneLeft triggers used met

section Accounts

variable {triggers : Nat → Nat → Prop} {first used met since now later : Nat} {permit : Bool}

theorem noneLeft_self : NoneLeft triggers met met :=
  fun _ _ hfirst hmet _ => absurd (Nat.lt_of_le_of_lt hfirst hmet) (Nat.lt_irrefl _)

theorem NoneLeft.skip (h : NoneLeft triggers first met) (hnot : ∀ time, ¬ triggers met time) :
    NoneLeft triggers first (met + 1) := by
  intro number time hfirst hmet
  rcases Nat.lt_or_eq_of_le (Nat.le_of_lt_succ hmet) with hlt | rfl
  · exact h number time hfirst hlt
  · exact hnot time

theorem accounts_false (h : NoneLeft triggers used met) :
    Accounts triggers used met since now false := ⟨nofun, fun _ => h⟩

/-- A trigger leaves a permit. -/
theorem accounts_trigger (h : triggers met now) (hused : used ≤ met) (hsince : since ≤ now) :
    Accounts triggers used (met + 1) since now true :=
  ⟨fun _ => ⟨met, now, hused, Nat.lt_succ_self met, h, hsince, Nat.le_refl _, noneLeft_self⟩, nofun⟩

theorem Accounts.mono (h : Accounts triggers used met since now permit) (hle : now ≤ later) :
    Accounts triggers used met since later permit where
  kept hpermit :=
    let ⟨number, time, hused, hmet, htime, hsince, hnow, hleft⟩ := h.kept hpermit
    ⟨number, time, hused, hmet, htime, hsince, Nat.le_trans hnow hle, hleft⟩
  left := h.left

/-- An event that is no trigger changes nothing. -/
theorem Accounts.skip (h : Accounts triggers used met since now permit)
    (hnot : ∀ time, ¬ triggers met time) : Accounts triggers used (met + 1) since now permit where
  kept hpermit :=
    let ⟨number, time, hused, hmet, htime, hsince, hnow, hleft⟩ := h.kept hpermit
    ⟨number, time, hused, Nat.lt_succ_of_lt hmet, htime, hsince, hnow, hleft.skip hnot⟩
  left hpermit := (h.left hpermit).skip hnot

end Accounts

/-- The worker has been shut down, by the time `time`. -/
def ShutBy (stops : Nat → Prop) (time : Nat) (isShutDown : Bool) : Prop :=
  isShutDown = true → ∃ stop, stops stop ∧ stop ≤ time

/-- The worker has been shut down, and its passes leave it free to see that at the time `time`. -/
def ShutAt (stops : Nat → Prop) (ended time : Nat) (isShutDown : Bool) : Prop :=
  isShutDown = true → ∃ stop, stops stop ∧ time = max stop ended

theorem ShutBy.mono {stops : Nat → Prop} {time later : Nat} {isShutDown : Bool}
    (h : ShutBy stops time isShutDown) (hle : time ≤ later) : ShutBy stops later isShutDown :=
  fun hshut =>
    let ⟨stop, hstop, hby⟩ := h hshut
    ⟨stop, hstop, Nat.le_trans hby hle⟩

theorem ShutBy.shutAt {stops : Nat → Prop} {time : Nat} {isShutDown : Bool}
    (h : ShutBy stops time isShutDown) : ShutAt stops time time isShutDown :=
  fun hshut =>
    let ⟨stop, hstop, hby⟩ := h hshut
    ⟨stop, hstop, (Nat.max_eq_right hby).symm⟩

theorem shutAt_of_stop {stops : Nat → Prop} {ended time : Nat} (h : stops time)
    (hended : ended ≤ time) (isShutDown : Bool) : ShutAt stops ended time isShutDown :=
  fun _ => ⟨time, h, (Nat.max_eq_left hended).symm⟩

variable {ω : Type}

/-! ## Where a worker is -/

section Stands

variable (policy : RetryPolicy) (pass : ω → PassRun × ω) (triggers : Nat → Nat → Prop)
  (stops : Nat → Prop) (world₀ : ω)

/-- A worker that began in the world `world₀` and has met so many events is between two bursts, in
the middle of one, or has stopped. -/
inductive Stands (met : Nat) : Timeline ω → Prop where
  | starting {permit isShutDown : Bool} {used since : Nat} {world : ω} {events : List Log.Event}
      {passes : List FinishedPass}
      (past : Past policy pass triggers world₀ passes used since world) (used_le : used ≤ met)
      (accounts : Accounts triggers used met since (lastEnd passes) permit)
      (shut : ShutBy stops (lastEnd passes) isShutDown) :
      Stands met ⟨lastEnd passes, .inStage policy permit isShutDown .starting, world, events, passes,
        none⟩
  | asleep {isShutDown : Bool} {used since now : Nat} {world : ω} {events : List Log.Event}
      {passes : List FinishedPass}
      (past : Past policy pass triggers world₀ passes used since world) (used_le : used ≤ met)
      (left : NoneLeft triggers used met) (ended : lastEnd passes ≤ now)
      (shut : ShutAt stops (lastEnd passes) now isShutDown) :
      Stands met ⟨now, .inStage policy false isShutDown .asleep, world, events, passes, none⟩
  | woken {permit isShutDown : Bool} {used since number now : Nat} {world : ω}
      {events : List Log.Event} {passes : List FinishedPass}
      (past : Past policy pass triggers world₀ passes used since world)
      (unused : used ≤ number) (number_lt : number < met) (woke : triggers number now)
      (ended : lastEnd passes ≤ now)
      (accounts : Accounts triggers (number + 1) met now now permit)
      (shut : ShutAt stops (lastEnd passes) now isShutDown) :
      Stands met ⟨now, .inStage policy permit isShutDown .woken, world, events, passes, none⟩
  | passing {permit isShutDown : Bool} {number start failures next now : Nat} {run : PassRun}
      {before world : ω} {events : List Log.Event} {passes : List FinishedPass}
      (midst : Midst policy pass triggers world₀ passes number start failures next before)
      (number_lt : number < met) (runs : pass before = (run, world)) (begun : next ≤ now)
      (runsOn : now ≤ next + run.duration)
      (accounts : Accounts triggers (number + 1) met start now permit)
      (shut : ShutBy stops now isShutDown) :
      Stands met ⟨now, .inStage policy permit isShutDown (.passing failures next run), world, events,
        passes, none⟩
  | backingOff {permit isShutDown : Bool} {number start failures next now : Nat} {world : ω}
      {events : List Log.Event} {passes : List FinishedPass}
      (midst : Midst policy pass triggers world₀ passes number start failures next world)
      (number_lt : number < met) (failed : failures ≠ 0) (begun : start ≤ now)
      (ended : lastEnd passes ≤ now) (waits : now ≤ next)
      (accounts : Accounts triggers (number + 1) met start now permit)
      (shut : ShutAt stops (lastEnd passes) now isShutDown) :
      Stands met ⟨now, .inStage policy permit isShutDown (.backingOff failures next), world, events,
        passes, none⟩
  | stopped {permit isShutDown : Bool} {used since now stop : Nat} {world : ω}
      {events : List Log.Event} {passes : List FinishedPass}
      (past : Past policy pass triggers world₀ passes used since world) (stops : stops stop)
      (le : max stop (lastEnd passes) ≤ now) :
      Stands met ⟨now, .inStage policy permit isShutDown .stopped, world, events, passes,
        some (max stop (lastEnd passes))⟩
  | cut {permit isShutDown : Bool} {number start failures next now stop : Nat} {world : ω}
      {events : List Log.Event} {passes : List FinishedPass}
      (midst : Midst policy pass triggers world₀ passes number start failures next world)
      (failed : failures ≠ 0) (stops : stops stop) (cuts : stop ≤ next)
      (le : max stop (lastEnd passes) ≤ now) :
      Stands met ⟨now, .inStage policy permit isShutDown .stopped, world, events, passes,
        some (max stop (lastEnd passes))⟩

end Stands

/-! ## One move -/

theorem Timeline.tick_of {pass : ω → PassRun × ω} {time : Nat} {line : Timeline ω}
    {worker : Worker} {world : ω} {traces : Traces}
    (h : line.worker.tick pass time line.world = (worker, world, traces)) :
    line.tick pass time =
      ⟨time, worker, world, line.events ++ traces.events, line.passes ++ traces.finished.toList,
        if worker.loop.phase = .stopped then some time else none⟩ := by
  simp only [Timeline.tick, h]

/-- A move that ends no pass. -/
theorem Timeline.tick_of_none {pass : ω → PassRun × ω} {time : Nat} {line : Timeline ω}
    {worker : Worker} {world : ω} {traces : List Log.Event}
    (h : line.worker.tick pass time line.world = (worker, world, ⟨traces, none⟩)) :
    line.tick pass time =
      ⟨time, worker, world, line.events ++ traces, line.passes,
        if worker.loop.phase = .stopped then some time else none⟩ := by
  rw [tick_of h, Option.toList_none, List.append_nil]

section Tick

variable {policy : RetryPolicy} {pass : ω → PassRun × ω} {triggers : Nat → Nat → Prop}
  {stops : Nat → Prop} {world₀ : ω} {permit isShutDown : Bool}
  {met used since number start failures next now : Nat} {run : PassRun} {before world : ω}
  {events : List Log.Event} {passes : List FinishedPass}

/-- A worker that looks out between two bursts stops. -/
theorem Stands.stop {stage : Stage} (past : Past policy pass triggers world₀ passes used since world)
    (shut : ShutAt stops (lastEnd passes) now true) (hlooks : stage.looksOut = true) :
    Stands policy pass triggers stops world₀ met
      (Timeline.tick pass now ⟨now, .inStage policy permit true stage, world, events, passes,
        none⟩) := by
  obtain ⟨stop, hstop, rfl⟩ := shut rfl
  rw [Timeline.tick_of_none (Worker.tick_stop hlooks)]
  exact .stopped past hstop (Nat.le_refl _)

/-- A worker that backs off stops in front of the retry. -/
theorem Stands.cutShort
    (midst : Midst policy pass triggers world₀ passes number start failures next world)
    (failed : failures ≠ 0) (waits : now ≤ next) (shut : ShutAt stops (lastEnd passes) now true) :
    Stands policy pass triggers stops world₀ met
      (Timeline.tick pass now ⟨now, .inStage policy permit true (.backingOff failures next), world,
        events, passes, none⟩) := by
  obtain ⟨stop, hstop, rfl⟩ := shut rfl
  rw [Timeline.tick_of_none (Worker.tick_stop rfl)]
  exact .cut midst failed hstop (Nat.le_trans (Nat.le_max_left _ _) waits) (Nat.le_refl _)

/-- A worker begins a pass. -/
theorem Stands.begin
    (midst : Midst policy pass triggers world₀ passes number start failures now world)
    (number_lt : number < met) (accounts : Accounts triggers (number + 1) met start now permit) :
    Stands policy pass triggers stops world₀ met
      ⟨now, .inStage policy permit false (.passing failures now (pass world).1), (pass world).2,
        events, passes, none⟩ :=
  .passing midst number_lt rfl (Nat.le_refl _) (Nat.le_add_right _ _) accounts nofun

/-- A burst is over, and the worker looks out again. -/
theorem Stands.startOver {last : FinishedPass}
    (past : Past policy pass triggers world₀ (passes ++ [last]) used since world)
    (used_le : used ≤ met) (accounts : Accounts triggers used met since last.ended permit)
    (shut : ShutBy stops last.ended isShutDown) :
    Stands policy pass triggers stops world₀ met
      ⟨last.ended, .inStage policy permit isShutDown .starting, world, events, passes ++ [last],
        none⟩ := by
  rw [← lastEnd_append passes last] at accounts shut ⊢
  exact .starting past used_le accounts shut

/-- A pass ends, and whether the worker goes on depends on its outcome. -/
theorem Stands.finish (hmax : policy.maxRetries.toNat + 1 < UInt32.size)
    (midst : Midst policy pass triggers world₀ passes number start failures next before)
    (number_lt : number < met) (runs : pass before = (run, world))
    (accounts : Accounts triggers (number + 1) met start (next + run.duration) permit)
    (shut : ShutBy stops (next + run.duration) isShutDown) :
    Stands policy pass triggers stops world₀ met
      (Timeline.tick pass (next + run.duration)
        ⟨now, .inStage policy permit isShutDown (.passing failures next run), world, events, passes,
          none⟩) := by
  obtain ⟨duration, outcome⟩ := run
  cases outcome with
  | ok =>
    rw [Timeline.tick_of Worker.tick_succeed]
    exact .startOver (midst.succeed runs rfl) number_lt accounts shut
  | error error =>
    have hfits : failures + 1 < UInt32.size := by
      have hallowed := midst.allowed
      omega
    by_cases hlast : policy.maxRetries.toNat < failures + 1
    · rw [Timeline.tick_of (Worker.tick_giveUp hfits hlast)]
      exact .startOver (midst.giveUp runs rfl hlast) number_lt accounts shut
    · rw [Timeline.tick_of (Worker.tick_backOff hfits hlast)]
      have hended := lastEnd_append passes ⟨next, next + duration, .error error⟩
      exact .backingOff (midst.retry runs rfl hlast) number_lt (Nat.succ_ne_zero _)
        (Nat.le_trans midst.start_le (Nat.le_add_right _ _)) (Nat.le_of_eq hended)
        (Nat.le_add_right _ _) accounts (hended ▸ shut.shutAt)

/-- Each move that is due leads on. -/
theorem Stands.tick (hmax : policy.maxRetries.toNat + 1 < UInt32.size) {line : Timeline ω}
    {time : Nat} (h : Stands policy pass triggers stops world₀ met line)
    (hdue : line.worker.due? line.now = some time) :
    Stands policy pass triggers stops world₀ met (line.tick pass time) := by
  cases h with
  | @starting permit isShutDown used since world events passes past used_le accounts shut =>
    rw [Worker.due?_inStage] at hdue
    cases hdue
    cases isShutDown with
    | true => exact .stop past shut.shutAt rfl
    | false =>
      cases permit with
      | true =>
        obtain ⟨number, trigger, hunused, hnumber, htrigger, hsince, hended, hleft⟩ :=
          accounts.kept rfl
        have hwakes : Wakes triggers used since (lastEnd passes) number (lastEnd passes) :=
          ⟨hunused, trigger, htrigger, hsince, (Nat.max_eq_right hended).symm⟩
        rw [Timeline.tick_of_none Worker.tick_takePermit]
        exact .begin (past.begin hwakes) hnumber (accounts_false hleft)
      | false =>
        rw [Timeline.tick_of_none Worker.tick_fallAsleep]
        exact .asleep past used_le (accounts.left rfl) (Nat.le_refl _) nofun
  | @asleep isShutDown used since now world events passes past used_le left ended shut =>
    rw [Worker.due?_inStage] at hdue
    cases isShutDown with
    | true =>
      cases hdue
      exact .stop past shut rfl
    | false => cases hdue
  | @woken permit isShutDown used since number now world events passes past unused number_lt woke
      ended accounts shut =>
    rw [Worker.due?_inStage] at hdue
    cases hdue
    cases isShutDown with
    | true => exact .stop past shut rfl
    | false =>
      have hwakes : Wakes triggers used since (lastEnd passes) number now :=
        ⟨unused, now, woke, Nat.le_trans past.since_le ended, (Nat.max_eq_left ended).symm⟩
      rw [Timeline.tick_of_none Worker.tick_wakeUp]
      exact .begin (past.begin hwakes) number_lt accounts
  | passing midst number_lt runs begun runsOn accounts shut =>
    rw [Worker.due?_inStage] at hdue
    cases hdue
    exact .finish hmax midst number_lt runs (accounts.mono runsOn) (shut.mono runsOn)
  | @backingOff permit isShutDown number start failures next now world events passes midst number_lt
      failed begun ended waits accounts shut =>
    rw [Worker.due?_inStage] at hdue
    cases isShutDown with
    | true =>
      cases hdue
      exact .cutShort midst failed waits shut
    | false =>
      cases hdue
      rw [Timeline.tick_of_none Worker.tick_retry]
      exact .begin midst number_lt (accounts.mono waits)
  | stopped | cut => cases hdue

theorem Stands.inStage {line : Timeline ω} (h : Stands policy pass triggers stops world₀ met line) :
    ∃ permit isShutDown stage, line.worker = .inStage policy permit isShutDown stage ∧
      stage.Allowed policy := by
  cases h with
  | starting | asleep | woken | stopped | cut => exact ⟨_, _, _, rfl, trivial⟩
  | passing midst => exact ⟨_, _, _, rfl, midst.allowed⟩
  | backingOff midst => exact ⟨_, _, _, rfl, midst.allowed⟩

theorem Stands.movesLeft_tick_lt (hmax : policy.maxRetries.toNat + 1 < UInt32.size)
    {line : Timeline ω} {time : Nat} (h : Stands policy pass triggers stops world₀ met line)
    (hdue : line.worker.due? line.now = some time) :
    (line.tick pass time).worker.movesLeft < line.worker.movesLeft := by
  obtain ⟨permit, isShutDown, stage, hworker, hallowed⟩ := h.inStage
  rw [hworker, Worker.due?_inStage] at hdue
  have hsome : stage.due? isShutDown line.now ≠ none := by
    rw [hdue]
    exact Option.some_ne_none time
  have hlt : ((Worker.inStage policy permit isShutDown stage).tick pass time
      line.world).1.movesLeft < _ := Worker.movesLeft_tick_lt hmax hallowed hsome time
  rw [← hworker] at hlt
  exact hlt

end Tick

/-! ## Advancing -/

/-- The worker makes no move of its own before the time `limit`. -/
def Timeline.Quiet (line : Timeline ω) (limit : Nat) : Prop :=
  ∀ time, line.worker.due? line.now = some time → limit ≤ time

section Advance

variable {policy : RetryPolicy} {pass : ω → PassRun × ω} {triggers : Nat → Nat → Prop}
  {stops : Nat → Prop} {world₀ : ω} {met : Nat} {line : Timeline ω} {limit : Nat}

theorem Stands.advanceBy (hmax : policy.maxRetries.toNat + 1 < UInt32.size) {fuel : Nat}
    (h : Stands policy pass triggers stops world₀ met line)
    (hfuel : line.worker.movesLeft ≤ fuel) :
    Stands policy pass triggers stops world₀ met (line.advanceBy pass limit fuel) ∧
      (line.advanceBy pass limit fuel).Quiet limit ∧
      ((line.advanceBy pass limit fuel).now = line.now ∨
        (line.advanceBy pass limit fuel).now < limit) := by
  induction fuel generalizing line with
  | zero =>
    refine ⟨h, fun time hdue => ?_, .inl rfl⟩
    have hlt := h.movesLeft_tick_lt hmax hdue
    exact absurd (Nat.lt_of_lt_of_le hlt hfuel) (Nat.not_lt_zero _)
  | succ fuel ih =>
    unfold Timeline.advanceBy
    cases hdue : line.worker.due? line.now with
    | none => exact ⟨h, fun time hsome => (by rw [hdue] at hsome; cases hsome), .inl rfl⟩
    | some time =>
      simp only
      split
      next hlt =>
        have hless := h.movesLeft_tick_lt hmax hdue
        obtain ⟨hstands, hquiet, hnow⟩ := ih (h.tick hmax hdue) (by omega)
        exact ⟨hstands, hquiet, .inr (hnow.elim (fun hnow => hnow ▸ hlt) id)⟩
      next hge =>
        refine ⟨h, fun other hsome => ?_, .inl rfl⟩
        rw [hdue] at hsome
        cases hsome
        exact Nat.le_of_not_lt hge

/-- A worker makes all of its moves that are due before a time. -/
theorem Stands.advance (h : Stands policy pass triggers stops world₀ met line)
    (hmax : policy.maxRetries.toNat + 1 < UInt32.size) (limit : Nat) :
    Stands policy pass triggers stops world₀ met (line.advance pass limit) ∧
      (line.advance pass limit).Quiet limit ∧
      ((line.advance pass limit).now = line.now ∨ (line.advance pass limit).now < limit) :=
  h.advanceBy hmax (Worker.movesLeft_le_moveBound _)

/-! ## Events -/

/-- Time passes until an event. -/
theorem Stands.wait (h : Stands policy pass triggers stops world₀ met line)
    (hquiet : line.Quiet limit) (hnow : line.now ≤ limit) :
    Stands policy pass triggers stops world₀ met { line with now := limit } := by
  cases h with
  | @starting permit isShutDown used since world events passes past used_le accounts shut =>
    obtain rfl : lastEnd passes = limit := Nat.le_antisymm hnow (hquiet _ rfl)
    exact .starting past used_le accounts shut
  | @asleep isShutDown used since now world events passes past used_le left ended shut =>
    refine .asleep past used_le left (Nat.le_trans ended hnow) fun hshut => ?_
    subst hshut
    obtain rfl : now = limit := Nat.le_antisymm hnow (hquiet _ rfl)
    exact shut rfl
  | @woken permit isShutDown used since number now world events passes past unused number_lt woke
      ended accounts shut =>
    obtain rfl : now = limit := Nat.le_antisymm hnow (hquiet _ (Worker.due?_inStage _ _))
    exact .woken past unused number_lt woke ended accounts shut
  | passing midst number_lt runs begun runsOn accounts shut =>
    exact .passing midst number_lt runs (Nat.le_trans begun hnow) (hquiet _ rfl)
      (accounts.mono hnow) (shut.mono hnow)
  | @backingOff permit isShutDown number start failures next now world events passes midst number_lt
      failed begun ended waits accounts shut =>
    cases isShutDown with
    | true =>
      obtain rfl : now = limit := Nat.le_antisymm hnow (hquiet _ rfl)
      exact .backingOff midst number_lt failed begun ended waits accounts shut
    | false =>
      exact .backingOff midst number_lt failed (Nat.le_trans begun hnow) (Nat.le_trans ended hnow)
        (hquiet _ rfl) (accounts.mono hnow) nofun
  | stopped past hstop le => exact .stopped past hstop (Nat.le_trans le hnow)
  | cut midst failed hstop cuts le => exact .cut midst failed hstop cuts (Nat.le_trans le hnow)

theorem Stands.trigger (h : Stands policy pass triggers stops world₀ met line)
    (htrigger : triggers met line.now) :
    Stands policy pass triggers stops world₀ (met + 1)
      { line with worker := line.worker.deliver .trigger } := by
  cases h with
  | starting past used_le accounts shut =>
    exact .starting past (Nat.le_succ_of_le used_le)
      (accounts_trigger htrigger used_le past.since_le) shut
  | asleep past used_le left ended shut =>
    exact .woken past used_le (Nat.lt_succ_self met) htrigger ended (accounts_false noneLeft_self)
      shut
  | woken past unused number_lt woke ended accounts shut =>
    exact .woken past unused (Nat.lt_succ_of_lt number_lt) woke ended
      (accounts_trigger htrigger number_lt (Nat.le_refl _)) shut
  | passing midst number_lt runs begun runsOn accounts shut =>
    exact .passing midst (Nat.lt_succ_of_lt number_lt) runs begun runsOn
      (accounts_trigger htrigger number_lt (Nat.le_trans midst.start_le begun)) shut
  | backingOff midst number_lt failed begun ended waits accounts shut =>
    exact .backingOff midst (Nat.lt_succ_of_lt number_lt) failed begun ended waits
      (accounts_trigger htrigger number_lt begun) shut
  | stopped past stopped le => exact .stopped past stopped le
  | cut midst failed stopped cuts le => exact .cut midst failed stopped cuts le

theorem Stands.shutDown (h : Stands policy pass triggers stops world₀ met line)
    (hstop : stops line.now) (hnot : ∀ time, ¬ triggers met time) :
    Stands policy pass triggers stops world₀ (met + 1)
      { line with worker := line.worker.deliver .shutDown } := by
  cases h with
  | starting past used_le accounts shut =>
    exact .starting past (Nat.le_succ_of_le used_le) (accounts.skip hnot)
      fun _ => ⟨_, hstop, Nat.le_refl _⟩
  | asleep past used_le left ended shut =>
    exact .asleep past (Nat.le_succ_of_le used_le) (left.skip hnot) ended
      (shutAt_of_stop hstop ended _)
  | woken past unused number_lt woke ended accounts shut =>
    exact .woken past unused (Nat.lt_succ_of_lt number_lt) woke ended (accounts.skip hnot)
      (shutAt_of_stop hstop ended _)
  | passing midst number_lt runs begun runsOn accounts shut =>
    exact .passing midst (Nat.lt_succ_of_lt number_lt) runs begun runsOn (accounts.skip hnot)
      fun _ => ⟨_, hstop, Nat.le_refl _⟩
  | backingOff midst number_lt failed begun ended waits accounts shut =>
    exact .backingOff midst (Nat.lt_succ_of_lt number_lt) failed begun ended waits
      (accounts.skip hnot) (shutAt_of_stop hstop ended _)
  | stopped past stopped le => exact .stopped past stopped le
  | cut midst failed stopped cuts le => exact .cut midst failed stopped cuts le

end Advance

/-! ## Following a schedule -/

/-- The events up to a time come first. -/
theorem filter_le_append_filter_lt {events : List (Nat × Move)}
    (hordered : events.Pairwise fun earlier later => earlier.1 ≤ later.1) (last : Nat) :
    events.filter (fun event => event.1 ≤ last) ++ events.filter (fun event => last < event.1) =
      events := by
  induction events with
  | nil => rfl
  | cons event rest ih =>
    obtain ⟨hfirst, hrest⟩ := List.pairwise_cons.1 hordered
    by_cases hevent : event.1 ≤ last
    · rw [List.filter_cons, if_pos (decide_eq_true hevent), List.filter_cons,
        if_neg (mt of_decide_eq_true (Nat.not_lt_of_le hevent)), List.cons_append, ih hrest]
    · have hlate : ∀ later ∈ event :: rest, last < later.1 := by
        intro later hlater
        rcases List.mem_cons.1 hlater with rfl | hlater
        · exact Nat.lt_of_not_le hevent
        · exact Nat.lt_of_lt_of_le (Nat.lt_of_not_le hevent) (hfirst later hlater)
      rw [List.filter_eq_nil_iff.2 fun later hlater hle =>
          Nat.not_lt_of_le (of_decide_eq_true hle) (hlate later hlater),
        List.filter_eq_self.2 fun later hlater => decide_eq_true (hlate later hlater),
        List.nil_append]

namespace Schedule

variable (schedule : Schedule) {policy : RetryPolicy} {pass : ω → PassRun × ω} {world₀ : ω}
  {met : Nat}

/-- A new worker is on its way. -/
theorem new_stands (policy : RetryPolicy) (pass : ω → PassRun × ω) (world₀ : ω) :
    Stands policy pass schedule.Triggers schedule.Stops world₀ 0
      { worker := { policy }, world := world₀ } :=
  .starting past_nil (Nat.le_refl _) (accounts_false noneLeft_self) nofun

/-- A worker meets an event on its way. -/
theorem meet_stands (hmax : policy.maxRetries.toNat + 1 < UInt32.size) {line : Timeline ω}
    {event : Nat × Move} (hevent : schedule.events[met]? = some event)
    (h : Stands policy pass schedule.Triggers schedule.Stops world₀ met line)
    (hnow : line.now ≤ event.1) :
    Stands policy pass schedule.Triggers schedule.Stops world₀ (met + 1)
      (line.meet pass event) := by
  obtain ⟨time, move⟩ := event
  obtain ⟨hstands, hquiet, hbefore⟩ := h.advance hmax time
  have hwaits := hstands.wait hquiet
    (hbefore.elim (fun heq => heq ▸ hnow) fun hlt => Nat.le_of_lt hlt)
  have hmem : (time, move) ∈ schedule.events := List.mem_of_getElem? hevent
  obtain hmove | hmove := schedule.external _ hmem
  · obtain rfl : move = .trigger := hmove
    exact hwaits.trigger hevent
  · obtain rfl : move = .shutDown := hmove
    refine hwaits.shutDown hmem fun other htrigger => ?_
    cases hevent.symm.trans htrigger

/-- A worker meets the events of a schedule one after the other. -/
theorem foldl_meet_stands (hmax : policy.maxRetries.toNat + 1 < UInt32.size)
    {events : List (Nat × Move)} {line : Timeline ω} {last : Nat}
    (hevents : ∀ n event, events[n]? = some event → schedule.events[met + n]? = some event)
    (htimes : ∀ event ∈ events, line.now ≤ event.1 ∧ event.1 ≤ last)
    (hordered : events.Pairwise fun earlier later => earlier.1 ≤ later.1)
    (h : Stands policy pass schedule.Triggers schedule.Stops world₀ met line)
    (hnow : line.now ≤ last) :
    Stands policy pass schedule.Triggers schedule.Stops world₀ (met + events.length)
        (events.foldl (Timeline.meet pass) line) ∧
      (events.foldl (Timeline.meet pass) line).now ≤ last := by
  induction events generalizing line met with
  | nil => exact ⟨h, hnow⟩
  | cons event rest ih =>
    obtain ⟨hfirst, hrest⟩ := List.pairwise_cons.1 hordered
    obtain ⟨hbegun, hlast⟩ := htimes event List.mem_cons_self
    rw [List.length_cons, Nat.add_comm rest.length, ← Nat.add_assoc]
    refine ih (fun n later hlater => ?_) (fun later hlater => ?_) hrest
      (schedule.meet_stands hmax (hevents 0 event rfl) h hbegun) hlast
    · rw [Nat.add_assoc, Nat.add_comm 1 n]
      exact hevents (n + 1) later hlater
    · exact ⟨hfirst later hlater, (htimes later (List.mem_cons_of_mem _ hlater)).2⟩

theorem getElem?_of_filter (last n : Nat) (event : Nat × Move)
    (hevent : (schedule.events.filter fun event => event.1 ≤ last)[n]? = some event) :
    schedule.events[0 + n]? = some event := by
  rw [← filter_le_append_filter_lt schedule.ordered last, Nat.zero_add,
    List.getElem?_append_left (List.getElem?_eq_some_iff.1 hevent).1]
  exact hevent

/-- A worker that follows a schedule is somewhere on its way. By the time `last` it has met the events
and made the moves that are due. -/
theorem observe_stands (hmax : policy.maxRetries.toNat + 1 < UInt32.size)
    (pass : ω → PassRun × ω) (world₀ : ω) (last : Nat) :
    ∃ met, Stands policy pass schedule.Triggers schedule.Stops world₀ met
        (schedule.observe policy pass last world₀) ∧
      (schedule.observe policy pass last world₀).Quiet (last + 1) ∧
      (schedule.observe policy pass last world₀).now ≤ last ∧
      ∀ number time, schedule.Triggers number time → time ≤ last → number < met := by
  have hsplit := filter_le_append_filter_lt schedule.ordered last
  obtain ⟨hmet, hnow⟩ := schedule.foldl_meet_stands hmax (schedule.getElem?_of_filter last)
    (fun event hevent => ⟨Nat.zero_le _, of_decide_eq_true (List.mem_filter.1 hevent).2⟩)
    (schedule.ordered.sublist List.filter_sublist) (schedule.new_stands policy pass world₀)
    (Nat.zero_le last)
  obtain ⟨hstands, hquiet, hlater⟩ := hmet.advance hmax (last + 1)
  refine ⟨_, hstands, hquiet, hlater.elim (fun heq => heq ▸ hnow) Nat.le_of_lt_succ, ?_⟩
  intro number time htrigger hlast
  rw [Nat.zero_add]
  refine Nat.lt_of_not_le fun hge => ?_
  rw [Triggers, ← hsplit, List.getElem?_append_right hge] at htrigger
  have hlate := of_decide_eq_true (List.mem_filter.1 (List.mem_of_getElem? htrigger)).2
  exact Nat.not_lt_of_le hlast hlate

end Schedule

end MeshPolicy
