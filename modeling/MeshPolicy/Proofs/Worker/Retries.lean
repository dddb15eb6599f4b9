import MeshPolicy.Proofs.Worker.Course
import MeshPolicy.Proofs.Worker.Loop

/-! # Retries are bounded, spaced and reset

* `Rests`: a worker waits and no trigger is left, or it was shut down, between two bursts.
* `Unfinished`: a burst that is not over: it goes on, or was cut by a shutdown in front of a retry.
* `SplitsIntoBursts`: the passes of a worker are those of whole bursts, which triggers have started
  one after the other, and then those of one that is not over, if any.
* `Schedule.observe_bursts`: this is so under every schedule, and the passes do not overlap.
-/

namespace MeshPolicy
set_option autoImplicit false

variable {ω : Type}

/-- The worker waits for a trigger, and all those up to the time `last` are used up, or it has stopped
because of a shutdown. -/
def Rests (schedule : Schedule) (last used : Nat) (line : Timeline ω) : Prop :=
  line.stopped = none ∧ line.worker.loop.IsAsleep ∧
      (∀ number time, schedule.Triggers number time → time ≤ last → number < used) ∨
    ∃ stop, schedule.Stops stop ∧ max stop (lastEnd line.passes) ≤ last ∧
      line.stopped = some (max stop (lastEnd line.passes))

/-- Of the burst from the time `start` on only the passes `done` are over at the time `last`: either
its next pass ends later, or the worker was shut down, at the latest when that pass was to start. -/
def Unfinished (schedule : Schedule) (policy : RetryPolicy) (pass : ω → PassRun × ω) (last : Nat)
    (line : Timeline ω) (start : Nat) (between : ω) (done : List FinishedPass) : Prop :=
  ∃ next more, (burst policy pass start between).1 = done ++ next :: more ∧
    IsBurst policy start (done ++ next :: more) ∧
    (line.stopped = none ∧ last < next.ended ∨
      done ≠ [] ∧ ∃ stop, schedule.Stops stop ∧ stop ≤ next.started ∧
        line.stopped = some (max stop (lastEnd line.passes)))

/-- The passes of a worker that began in the world `world`, at the time `last`. -/
def SplitsIntoBursts (schedule : Schedule) (policy : RetryPolicy) (pass : ω → PassRun × ω)
    (last : Nat) (world : ω) (line : Timeline ω) : Prop :=
  ∃ bursts used since between,
    Bursts policy pass schedule.Triggers world bursts used since between ∧
    (∀ passes ∈ bursts, ∃ start, IsBurst policy start passes) ∧
    (line.passes = bursts.flatten ∧ Rests schedule last used line ∨
      ∃ number start done,
        Wakes schedule.Triggers used since (lastEnd bursts.flatten) number start ∧
        line.passes = bursts.flatten ++ done ∧
        Unfinished schedule policy pass last line start between done)

theorem Bursts.isBurst {policy : RetryPolicy} {pass : ω → PassRun × ω} {triggers : Nat → Nat → Prop}
    {world after : ω} {bursts : List (List FinishedPass)} {used since : Nat}
    (h : Bursts policy pass triggers world bursts used since after) :
    ∀ passes ∈ bursts, ∃ start, IsBurst policy start passes := by
  induction h with
  | none => exact fun _ hmem => absurd hmem List.not_mem_nil
  | @next bursts used since number start between after passes before wakes runs ih =>
    intro other hmem
    rcases List.mem_append.1 hmem with hbefore | hlast
    · exact ih other hbefore
    · obtain rfl := List.mem_singleton.1 hlast
      have hburst := isBurst_burst policy pass start between
      rw [runs] at hburst
      exact ⟨start, hburst⟩

/-- The next one of the passes that are left. -/
theorem attempts_succ (policy : RetryPolicy) (pass : ω → PassRun × ω)
    (left failures start : Nat) (world : ω) :
    ∃ next more, (attempts policy pass (left + 1) failures start world).1 = next :: more ∧
      next.started = start ∧ next.ended = start + (pass world).1.duration := by
  rcases hrun : pass world with ⟨run, world'⟩
  cases hout : run.outcome with
  | ok =>
    rw [attempts_ok hrun hout]
    exact ⟨_, _, rfl, rfl, rfl⟩
  | error error =>
    rw [attempts_error hrun hout]
    exact ⟨_, _, rfl, rfl, rfl⟩

section Observed

variable {policy : RetryPolicy} {pass : ω → PassRun × ω} {schedule : Schedule} {world now : ω}
  {used met since number start failures next last : Nat} {line : Timeline ω}

theorem Past.splits (h : Past policy pass schedule.Triggers world line.passes used since now)
    (hrests : Rests schedule last used line) : SplitsIntoBursts schedule policy pass last world line := by
  obtain ⟨bursts, hpasses, hbursts⟩ := h.bursts
  exact ⟨bursts, used, since, now, hbursts, hbursts.isBurst, .inl ⟨hpasses, hrests⟩⟩

theorem Midst.splits
    (h : Midst policy pass schedule.Triggers world line.passes number start failures next now)
    (hnext : line.stopped = none ∧ last < next + (pass now).1.duration ∨
      failures ≠ 0 ∧ ∃ stop, schedule.Stops stop ∧ stop ≤ next ∧
        line.stopped = some (max stop (lastEnd line.passes))) :
    SplitsIntoBursts schedule policy pass last world line := by
  obtain ⟨left, hleft, _⟩ := h.attempts_left
  obtain ⟨earlier, used, since, between, done, hpast, hwakes, hpasses, rfl, hburst⟩ := h.started
  obtain ⟨bursts, rfl, hbursts⟩ := hpast.bursts
  obtain ⟨first, more, hleftPasses, hstarted, hended⟩ :=
    attempts_succ policy pass left done.length next now
  rw [hleft, hleftPasses] at hburst
  have hwhole : IsBurst policy start (done ++ first :: more) := by
    have hisBurst := isBurst_burst policy pass start between
    rw [hburst] at hisBurst
    exact hisBurst
  refine ⟨bursts, used, since, between, hbursts, hbursts.isBurst,
    .inr ⟨number, start, done, hwakes, hpasses, first, more, congrArg Prod.fst hburst, hwhole, ?_⟩⟩
  rw [hstarted, hended]
  exact hnext.imp_right fun ⟨hfailed, hcut⟩ =>
    ⟨List.length_pos_iff.1 (Nat.pos_of_ne_zero hfailed), hcut⟩

/-- Wherever a worker is on its way, once it has made the moves that are due. -/
theorem Stands.splits (h : Stands policy pass schedule.Triggers schedule.Stops world met line)
    (hquiet : line.Quiet (last + 1)) (hnow : line.now ≤ last)
    (hmet : ∀ number time, schedule.Triggers number time → time ≤ last → number < met) :
    OneByOne line.passes last ∧ SplitsIntoBursts schedule policy pass last world line := by
  have hlate : ¬ last + 1 ≤ line.now := Nat.not_le_of_lt (Nat.lt_succ_of_le hnow)
  cases h with
  | starting => exact absurd (hquiet _ rfl) hlate
  | @asleep isShutDown used since now after events passes past used_le left ended shut =>
    refine ⟨past.oneByOne.mono (Nat.le_trans ended hnow), past.splits (.inl ⟨rfl, ⟨rfl, rfl⟩, ?_⟩)⟩
    intro number time htrigger hlast
    refine Nat.lt_of_not_le fun hunused => ?_
    exact left number time hunused (hmet number time htrigger hlast) htrigger
  | woken => exact absurd (hquiet _ (Worker.due?_inStage _ _)) hlate
  | @passing permit isShutDown number start failures next now run before after events passes midst
      number_lt runs begun runsOn accounts shut =>
    refine ⟨midst.oneByOne.mono (Nat.le_trans midst.ended_le (Nat.le_trans begun hnow)),
      midst.splits (.inl ⟨rfl, ?_⟩)⟩
    rw [runs]
    exact hquiet _ rfl
  | @backingOff permit isShutDown number start failures next now after events passes midst number_lt
      failed begun ended waits accounts shut =>
    cases isShutDown with
    | true => exact absurd (hquiet _ rfl) hlate
    | false =>
      exact ⟨midst.oneByOne.mono (Nat.le_trans ended hnow), midst.splits
        (.inl ⟨rfl, Nat.lt_of_lt_of_le (hquiet _ rfl) (Nat.le_add_right _ _)⟩)⟩
  | @stopped permit isShutDown used since now stop after events passes past stops le =>
    have hended : lastEnd passes ≤ now := Nat.le_trans (Nat.le_max_right _ _) le
    exact ⟨past.oneByOne.mono (Nat.le_trans hended hnow),
      past.splits (.inr ⟨stop, stops, Nat.le_trans le hnow, rfl⟩)⟩
  | @cut permit isShutDown number start failures next now stop after events passes midst failed
      stops cuts le =>
    have hended : lastEnd passes ≤ now := Nat.le_trans (Nat.le_max_right _ _) le
    exact ⟨midst.oneByOne.mono (Nat.le_trans hended hnow),
      midst.splits (.inr ⟨failed, stop, stops, cuts, rfl⟩)⟩

end Observed

/-- Under every schedule, and however its passes go, the passes of a worker do not overlap. They are
those of whole bursts, each of which a trigger has started. Unless the worker rests, there are also
those of a burst that is not over. -/
theorem Schedule.observe_bursts (schedule : Schedule) (policy : RetryPolicy)
    (hmax : policy.maxRetries.toNat + 1 < UInt32.size) (pass : ω → PassRun × ω) (world : ω)
    (last : Nat) :
    OneByOne (schedule.observe policy pass last world).passes last ∧
      SplitsIntoBursts schedule policy pass last world
        (schedule.observe policy pass last world) := by
  obtain ⟨_, hstands, hquiet, hnow, hmet⟩ := schedule.observe_stands hmax pass world last
  exact hstands.splits hquiet hnow hmet

/-- Two triggers, the second of which comes while the worker of `observe_bursts_backing_off` backs
off, and a shutdown while it waits. -/
def Schedule.duringBackOff : Schedule where
  events := [(10, .trigger), (20, .trigger), (200, .shutDown)]
  ordered := by decide
  external := by simp

/-- Two passes fail, which uses up the only retry, and the second trigger starts a burst of its own.
-/
theorem Schedule.observe_bursts_backing_off :
    let policy : RetryPolicy := { maxRetries := 1 }
    let world : List PassRun := [⟨5, .error "timed out"⟩, ⟨5, .error "timed out"⟩, ⟨3, .ok ()⟩]
    let line := duringBackOff.observe policy nextScripted 300 world
    policy.maxRetries.toNat + 1 < UInt32.size ∧
      line.passes = [⟨10, 15, .error "timed out"⟩, ⟨115, 120, .error "timed out"⟩,
        ⟨120, 123, .ok ()⟩] ∧
      line.stopped = some 200 ∧
      OneByOne line.passes 300 ∧
      SplitsIntoBursts duringBackOff policy nextScripted 300 world line :=
  ⟨by decide, rfl, rfl, observe_bursts _ _ (by decide) _ _ _⟩

end MeshPolicy
