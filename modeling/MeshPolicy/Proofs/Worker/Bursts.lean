import MeshPolicy.Worker.Timed

/-! # Bursts on a clock

What the passes of a worker should be, said without its loop.

* `attempts`, `burst`: the passes of a burst that is left alone. They depend on the time at which it
  starts, on the retries that the policy allows and on the passes, and on nothing else.
* `IsBurst`: what can be said of its passes. `isBurst_burst`: a burst is one.
* `Bursts`: bursts one after the other, each of which a trigger has started.
* `Past`, `Midst`: what has been done between two bursts, and in the middle of one. `Past.begin`,
  `Midst.succeed`, `Midst.giveUp`, `Midst.retry`: how one leads to the other.
-/

namespace MeshPolicy
set_option autoImplicit false

/-- The time on the clock from the end of the failed pass of a burst that is its `failures`th to the
start of the next one. -/
def RetryPolicy.delay (policy : RetryPolicy) (failures : Nat) : Nat :=
  (policy.backoff (.ofNat failures)).millis

def FinishedPass.Failed (pass : FinishedPass) : Prop := ∃ error, pass.outcome = .error error

/-- The end of the last of the passes; the clock starts at zero. -/
def lastEnd (passes : List FinishedPass) : Nat := (passes.getLast?.map FinishedPass.ended).getD 0

theorem lastEnd_append (passes : List FinishedPass) (last : FinishedPass) :
    lastEnd (passes ++ [last]) = last.ended := by
  simp [lastEnd]

variable {ω : Type}

/-! ## A burst -/

/-- The passes of a burst from the time `start` on, when it has had so many failures and so many
passes are left to it. -/
def attempts (policy : RetryPolicy) (pass : ω → PassRun × ω) :
    (left failures start : Nat) → ω → List FinishedPass × ω
  | 0, _, _, world => ([], world)
  | left + 1, failures, start, world =>
    let (run, world) := pass world
    let ended := start + run.duration
    match run.outcome with
    | .ok () => ([⟨start, ended, .ok ()⟩], world)
    | .error error =>
      let (rest, world) :=
        attempts policy pass left (failures + 1) (ended + policy.delay (failures + 1)) world
      (⟨start, ended, .error error⟩ :: rest, world)

/-- The passes of a burst that starts at the time `start`, and the world that they leave. -/
def burst (policy : RetryPolicy) (pass : ω → PassRun × ω) (start : Nat) (world : ω) :
    List FinishedPass × ω :=
  attempts policy pass (policy.maxRetries.toNat + 1) 0 start world

section Attempts

variable {policy : RetryPolicy} {pass : ω → PassRun × ω} {left failures start : Nat}
  {world world' : ω} {run : PassRun}

theorem attempts_ok (h : pass world = (run, world')) (hok : run.outcome = .ok ()) :
    attempts policy pass (left + 1) failures start world =
      ([⟨start, start + run.duration, .ok ()⟩], world') := by
  simp only [attempts, h, hok]

theorem attempts_error {error : String} (h : pass world = (run, world'))
    (herror : run.outcome = .error error) :
    attempts policy pass (left + 1) failures start world =
      (⟨start, start + run.duration, .error error⟩ ::
        (attempts policy pass left (failures + 1)
          (start + run.duration + policy.delay (failures + 1)) world').1,
      (attempts policy pass left (failures + 1)
          (start + run.duration + policy.delay (failures + 1)) world').2) := by
  simp only [attempts, h, herror]

end Attempts

/-- What can be said of passes that follow so many failures of their burst, with at most `left` of
them: the first starts at the time `start`; each but the last fails, and the next one follows after
just the delay for that failure; the last one succeeds, unless all `left` of them have failed. -/
structure IsAttempts (policy : RetryPolicy) (left failures start : Nat)
    (passes : List FinishedPass) : Prop where
  starts : ∃ first, passes.head? = some first ∧ first.started = start
  retried : ∀ n earlier later, passes[n]? = some earlier → passes[n + 1]? = some later →
    earlier.Failed ∧ later.started = earlier.ended + policy.delay (failures + n + 1)
  bounded : passes.length ≤ left
  ends : ∃ last, passes.getLast? = some last ∧
    (last.outcome = .ok () ∨ last.Failed ∧ passes.length = left)

/-- A burst that starts at the time `start`. It has no more passes than one and the retries that the
policy allows, and it counts its failures from one. -/
abbrev IsBurst (policy : RetryPolicy) (start : Nat) (passes : List FinishedPass) : Prop :=
  IsAttempts policy (policy.maxRetries.toNat + 1) 0 start passes

namespace IsAttempts

variable {policy : RetryPolicy} {left failures start : Nat} {first : FinishedPass}

theorem single (hstart : first.started = start)
    (hends : first.outcome = .ok () ∨ first.Failed ∧ left = 0) :
    IsAttempts policy (left + 1) failures start [first] where
  starts := ⟨first, rfl, hstart⟩
  retried n earlier later hearlier hlater := by simp at hlater
  bounded := Nat.le_add_left 1 left
  ends := by
    refine ⟨first, rfl, hends.imp_right fun hlast => ⟨hlast.1, ?_⟩⟩
    rw [hlast.2]
    rfl

theorem cons {rest : List FinishedPass} (hstart : first.started = start) (hfailed : first.Failed)
    (hrest : IsAttempts policy left (failures + 1) (first.ended + policy.delay (failures + 1))
      rest) :
    IsAttempts policy (left + 1) failures start (first :: rest) where
  starts := ⟨first, rfl, hstart⟩
  retried n earlier later hearlier hlater := by
    cases n with
    | zero =>
      obtain ⟨second, hsecond, hstarted⟩ := hrest.starts
      rw [List.getElem?_cons_succ, ← List.head?_eq_getElem?, hsecond] at hlater
      cases hearlier
      cases hlater
      exact ⟨hfailed, hstarted⟩
    | succ n =>
      obtain ⟨hfailed, hstarted⟩ := hrest.retried n earlier later hearlier hlater
      rw [hstarted, Nat.add_right_comm failures 1 n]
      exact ⟨hfailed, rfl⟩
  bounded := Nat.succ_le_succ hrest.bounded
  ends := by
    obtain ⟨last, hlast, hends⟩ := hrest.ends
    refine ⟨last, by rw [List.getLast?_cons, hlast]; rfl, hends.imp_right fun hall => ?_⟩
    exact ⟨hall.1, congrArg (· + 1) hall.2⟩

end IsAttempts

theorem isAttempts_attempts (policy : RetryPolicy) (pass : ω → PassRun × ω)
    (left failures start : Nat) (world : ω) :
    IsAttempts policy (left + 1) failures start
      (attempts policy pass (left + 1) failures start world).1 := by
  induction left generalizing failures start world with
  | zero =>
    rcases hrun : pass world with ⟨run, world'⟩
    cases hout : run.outcome with
    | ok =>
      rw [attempts_ok hrun hout]
      exact .single rfl (.inl rfl)
    | error error =>
      rw [attempts_error hrun hout]
      exact .single rfl (.inr ⟨⟨error, rfl⟩, rfl⟩)
  | succ left ih =>
    rcases hrun : pass world with ⟨run, world'⟩
    cases hout : run.outcome with
    | ok =>
      rw [attempts_ok hrun hout]
      exact .single rfl (.inl rfl)
    | error error =>
      rw [attempts_error hrun hout]
      exact .cons rfl ⟨error, rfl⟩ (ih _ _ _)

/-- A burst that is left alone is a burst. -/
theorem isBurst_burst (policy : RetryPolicy) (pass : ω → PassRun × ω) (start : Nat) (world : ω) :
    IsBurst policy start (burst policy pass start world).1 :=
  isAttempts_attempts policy pass _ _ _ _

/-! ## Bursts one after the other -/

/-- The trigger `number` starts a burst at the time `start`. Triggers are numbered in their order,
and those before the number `used` have been used up. A burst starts with a trigger that finds the
worker waiting, or at the end of the burst before, if a trigger has come since that one started. -/
structure Wakes (triggers : Nat → Nat → Prop) (used since ended number start : Nat) : Prop where
  unused : used ≤ number
  triggered : ∃ time, triggers number time ∧ since ≤ time ∧ start = max time ended

theorem Wakes.ended_le {triggers : Nat → Nat → Prop} {used since ended number start : Nat}
    (h : Wakes triggers used since ended number start) : ended ≤ start := by
  obtain ⟨time, _, _, rfl⟩ := h.triggered
  exact Nat.le_max_right _ _

/-- Bursts one after the other, each of which has a trigger of its own: which passes they are made
of, how many triggers are used up, when the last one has started, and the world that they leave. -/
inductive Bursts (policy : RetryPolicy) (pass : ω → PassRun × ω) (triggers : Nat → Nat → Prop)
    (world : ω) : List (List FinishedPass) → (used since : Nat) → ω → Prop where
  | none : Bursts policy pass triggers world [] 0 0 world
  | next {bursts : List (List FinishedPass)} {used since number start : Nat} {between after : ω}
      {passes : List FinishedPass}
      (before : Bursts policy pass triggers world bursts used since between)
      (wakes : Wakes triggers used since (lastEnd bursts.flatten) number start)
      (runs : burst policy pass start between = (passes, after)) :
      Bursts policy pass triggers world (bursts ++ [passes]) (number + 1) start after

/-- Each pass has ended before the next one starts, and the last of them at the time `time`. -/
structure OneByOne (passes : List FinishedPass) (time : Nat) : Prop where
  apart : passes.Pairwise fun earlier later => earlier.ended ≤ later.started
  ended : ∀ pass ∈ passes, pass.started ≤ pass.ended ∧ pass.ended ≤ time

theorem oneByOne_nil (time : Nat) : OneByOne [] time := ⟨.nil, by simp⟩

theorem OneByOne.mono {passes : List FinishedPass} {time time' : Nat} (h : OneByOne passes time)
    (hle : time ≤ time') : OneByOne passes time' :=
  ⟨h.apart, fun pass hpass => ⟨(h.ended pass hpass).1, Nat.le_trans (h.ended pass hpass).2 hle⟩⟩

theorem OneByOne.append {passes : List FinishedPass} {last : FinishedPass}
    (h : OneByOne passes last.started) (hlast : last.started ≤ last.ended) :
    OneByOne (passes ++ [last]) last.ended where
  apart := by
    refine List.pairwise_append.2 ⟨h.apart, List.pairwise_singleton _ _, ?_⟩
    intro earlier hearlier later hlater
    rw [List.mem_singleton.1 hlater]
    exact (h.ended earlier hearlier).2
  ended := by
    intro pass hpass
    rcases List.mem_append.1 hpass with hearlier | hpass
    · exact (h.mono hlast).ended pass hearlier
    · rw [List.mem_singleton.1 hpass]
      exact ⟨hlast, Nat.le_refl _⟩

/-! ## Between two bursts and in the middle of one -/

section Journal

variable (policy : RetryPolicy) (pass : ω → PassRun × ω) (triggers : Nat → Nat → Prop) (world : ω)

/-- The passes are those of bursts that are over, and leave the world `after`. -/
structure Past (passes : List FinishedPass) (used since : Nat) (after : ω) : Prop where
  bursts : ∃ bursts, passes = bursts.flatten ∧
    Bursts policy pass triggers world bursts used since after
  oneByOne : OneByOne passes (lastEnd passes)
  since_le : since ≤ lastEnd passes

/-- Of the burst that the trigger `number` has started at the time `start` the passes `done` are
over, which all have failed. The next one is to start at the time `next`, in the world `now`. -/
structure Midst (passes : List FinishedPass) (number start failures next : Nat) (now : ω) :
    Prop where
  started : ∃ earlier used since between done,
    Past policy pass triggers world earlier used since between ∧
    Wakes triggers used since (lastEnd earlier) number start ∧ passes = earlier ++ done ∧
    done.length = failures ∧
    burst policy pass start between =
      (done ++ (attempts policy pass (policy.maxRetries.toNat + 1 - failures) failures next now).1,
        (attempts policy pass (policy.maxRetries.toNat + 1 - failures) failures next now).2)
  allowed : failures ≤ policy.maxRetries.toNat
  oneByOne : OneByOne passes (lastEnd passes)
  ended_le : lastEnd passes ≤ next
  start_le : start ≤ next

end Journal

section Journal

variable {policy : RetryPolicy} {pass : ω → PassRun × ω} {triggers : Nat → Nat → Prop}
  {world : ω}

theorem past_nil : Past policy pass triggers world [] 0 0 world :=
  ⟨⟨[], rfl, .none⟩, oneByOne_nil _, Nat.le_refl _⟩

variable {passes : List FinishedPass} {used since number start failures next : Nat}
  {now now' : ω} {run : PassRun}

theorem Past.begin (h : Past policy pass triggers world passes used since now)
    (hwakes : Wakes triggers used since (lastEnd passes) number start) :
    Midst policy pass triggers world passes number start 0 start now where
  started := ⟨passes, used, since, now, [], h, hwakes, (List.append_nil _).symm, rfl, rfl⟩
  allowed := Nat.zero_le _
  oneByOne := h.oneByOne
  ended_le := hwakes.ended_le
  start_le := Nat.le_refl _

/-- The next pass of a burst, with what comes after it. -/
theorem Midst.attempts_left
    (h : Midst policy pass triggers world passes number start failures next now) :
    ∃ left, policy.maxRetries.toNat + 1 - failures = left + 1 ∧
      policy.maxRetries.toNat + 1 - (failures + 1) = left := by
  have hallowed := h.allowed
  exact ⟨policy.maxRetries.toNat - failures, by omega, by omega⟩

theorem Midst.close {last : FinishedPass}
    (h : Midst policy pass triggers world passes number start failures next now)
    (hstarted : last.started = next) (hended : last.started ≤ last.ended)
    (hlast : attempts policy pass (policy.maxRetries.toNat + 1 - failures) failures next now =
      ([last], now')) :
    Past policy pass triggers world (passes ++ [last]) (number + 1) start now' := by
  obtain ⟨earlier, used, since, between, done, hpast, hwakes, rfl, _, hburst⟩ := h.started
  obtain ⟨bursts, rfl, hbursts⟩ := hpast.bursts
  rw [hlast] at hburst
  have honeByOne := h.oneByOne.mono h.ended_le
  have hstart := h.start_le
  rw [← hstarted] at honeByOne hstart
  refine ⟨⟨bursts ++ [done ++ [last]], by simp, .next hbursts hwakes hburst⟩, ?_, ?_⟩
  · rw [lastEnd_append]
    exact honeByOne.append hended
  · rw [lastEnd_append]
    exact Nat.le_trans hstart hended

/-- A success ends the burst. -/
theorem Midst.succeed (h : Midst policy pass triggers world passes number start failures next now)
    (hrun : pass now = (run, now')) (hok : run.outcome = .ok ()) :
    Past policy pass triggers world (passes ++ [⟨next, next + run.duration, .ok ()⟩]) (number + 1)
      start now' := by
  obtain ⟨left, hleft, _⟩ := h.attempts_left
  refine h.close rfl (Nat.le_add_right _ _) ?_
  rw [hleft, attempts_ok hrun hok]

/-- So does a failure that leaves no retry. -/
theorem Midst.giveUp {error : String}
    (h : Midst policy pass triggers world passes number start failures next now)
    (hrun : pass now = (run, now')) (herror : run.outcome = .error error)
    (hlast : policy.maxRetries.toNat < failures + 1) :
    Past policy pass triggers world (passes ++ [⟨next, next + run.duration, .error error⟩])
      (number + 1) start now' := by
  obtain ⟨left, hleft, _⟩ := h.attempts_left
  have hallowed := h.allowed
  obtain rfl : left = 0 := by omega
  refine h.close rfl (Nat.le_add_right _ _) ?_
  rw [hleft, attempts_error hrun herror]
  rfl

/-- Any other failure is followed by a retry, once its delay is over. -/
theorem Midst.retry {error : String}
    (h : Midst policy pass triggers world passes number start failures next now)
    (hrun : pass now = (run, now')) (herror : run.outcome = .error error)
    (hleft : ¬ policy.maxRetries.toNat < failures + 1) :
    Midst policy pass triggers world (passes ++ [⟨next, next + run.duration, .error error⟩]) number
      start (failures + 1) (next + run.duration + policy.delay (failures + 1)) now' := by
  obtain ⟨left, hmore, hless⟩ := h.attempts_left
  obtain ⟨earlier, used, since, between, done, hpast, hwakes, rfl, hdone, hburst⟩ := h.started
  rw [hmore, attempts_error hrun herror, ← hless] at hburst
  refine ⟨⟨earlier, used, since, between, done ++ [_], hpast, hwakes, List.append_assoc _ _ _, ?_,
    ?_⟩, Nat.le_of_not_lt hleft, ?_, ?_, ?_⟩
  · rw [List.length_append, hdone, List.length_singleton]
  · rw [hburst, List.append_assoc]
    rfl
  · rw [lastEnd_append]
    exact OneByOne.append (h.oneByOne.mono h.ended_le) (Nat.le_add_right _ _)
  · rw [lastEnd_append]
    exact Nat.le_add_right _ _
  · have hstart := h.start_le
    omega

end Journal

end MeshPolicy
