import MeshPolicy.Proofs.Worker.Loop

/-! # Wake-ups and bursts

A trigger is owed to the loop until a burst starts on its account.

* `starts`, `bursts`: where bursts start in a run, and how many.
* `Turn.owed_le`, `bursts_add_owed_le`: a burst uses up one wake-up, and only a trigger adds one.
* `Turn.owed_pos`, `owed_of_no_burst`: what is owed stays owed until a burst starts.
* `run_loses_no_trigger`: a loop that sleeps has served every trigger; triggers that come during a
  burst make for exactly one further burst; and there are no more bursts than triggers.
-/

namespace MeshPolicy.WorkLoop
set_option autoImplicit false

/-- The first pass of a burst starts with the move from one state to the next. -/
def starts (before after : WorkLoop) : Bool := !before.inBurst && after.inBurst

/-- The number of bursts that start in a run. -/
def bursts (policy : RetryPolicy) : WorkLoop → List Move → Nat
  | _, [] => 0
  | loop, move :: rest =>
    (starts loop (loop.step policy move).1).toNat + bursts policy (loop.step policy move).1 rest

variable {policy : RetryPolicy} {loop loop' : WorkLoop} {move : Move}

theorem bursts_append (policy : RetryPolicy) (loop : WorkLoop) (first rest : List Move) :
    bursts policy loop (first ++ rest) =
      bursts policy loop first + bursts policy (loop.run policy first) rest := by
  induction first generalizing loop with
  | nil => exact (Nat.zero_add _).symm
  | cons move first ih => rw [List.cons_append, bursts, bursts, ih, run_cons, Nat.add_assoc]

/-! ## What is owed -/

/-- A burst uses up one wake-up, and only a trigger adds one. -/
theorem Turn.owed_le (h : Turn policy loop move loop') :
    (starts loop loop').toNat + loop'.owed ≤ loop.owed + move.isTrigger.toNat := by
  unfold starts
  cases h with
  | leave | wake | leaveToo => simp [inBurst, Move.isTrigger]
  | nothing | shutDown => simp [inBurst, owed]
  | @stop loop _ notTrigger =>
    have hone : (decide (0 < loop.owed)).toNat ≤ loop.owed := by
      by_cases howed : 0 < loop.owed
      · rw [decide_eq_true howed]
        exact howed
      · rw [decide_eq_false howed]
        exact Nat.zero_le _
    simpa [inBurst, notTrigger] using hone
  | wakeUp => simp [inBurst, Nat.add_comm]
  | fallAsleep | takePermit | succeed | giveUp | backOff | retry => simp [inBurst]

/-- What is owed stays owed until a burst starts, and so does a new trigger. -/
theorem Turn.owed_pos (h : Turn policy loop move loop')
    (howed : 0 < loop.owed ∨ move.isTrigger = true) :
    starts loop loop' = true ∨ 0 < loop'.owed := by
  have hkept (hmove : move.isTrigger = false) : 0 < loop.owed :=
    howed.resolve_right (by simp [hmove])
  cases h with
  | leave | wake | leaveToo => simp
  | takePermit | wakeUp => exact .inl rfl
  | fallAsleep => exact absurd (hkept rfl) (by simp)
  | stop notTrigger => simp [hkept notTrigger]
  | nothing _ notTrigger => exact .inr (hkept notTrigger)
  | shutDown | succeed | giveUp | backOff | retry => exact .inr (hkept rfl)

/-- The bursts of a run are paid for by its triggers and by what was owed before. -/
theorem bursts_add_owed_le (h : loop.Sound) (policy : RetryPolicy) (moves : List Move) :
    bursts policy loop moves + (loop.run policy moves).owed ≤
      loop.owed + moves.countP Move.isTrigger := by
  induction moves generalizing loop with
  | nil => simp [bursts, run]
  | cons move rest ih =>
    have hturn := step_turn h policy move
    have hstep := hturn.owed_le
    have hrest := ih hturn.sound
    have hcount : (move :: rest).countP Move.isTrigger =
        rest.countP Move.isTrigger + move.isTrigger.toNat := by
      cases hmove : move.isTrigger <;> simp [hmove]
    rw [bursts, run_cons, hcount]
    omega

theorem owed_of_no_burst (h : loop.Sound) {moves : List Move} (howed : 0 < loop.owed)
    (hnone : bursts policy loop moves = 0) : 0 < (loop.run policy moves).owed := by
  induction moves generalizing loop with
  | nil => exact howed
  | cons move rest ih =>
    have hturn := step_turn h policy move
    obtain ⟨hfirst, hrest⟩ := Nat.add_eq_zero_iff.1 hnone
    rcases hturn.owed_pos (.inl howed) with hstarts | hkept
    · simp [hstarts] at hfirst
    · exact ih hturn.sound hkept hrest

/-- A trigger is owed from when it comes until a burst starts. -/
theorem owed_of_trigger (h : loop.Sound) {later : List Move}
    (hnone : bursts policy (loop.step policy .trigger).1 later = 0) :
    0 < (loop.run policy (.trigger :: later)).owed := by
  have hturn := step_turn h policy .trigger
  have howed : 0 < (loop.step policy .trigger).1.owed := by
    rcases hturn.owed_pos (.inr rfl) with hstarts | howed
    · simp [starts, step, inBurst] at hstarts
    · exact howed
  exact owed_of_no_burst hturn.sound howed hnone

theorem IsAsleep.owed_eq_zero (h : loop.Sound) (hasleep : loop.IsAsleep) : loop.owed = 0 := by
  obtain ⟨hphase, hwoken⟩ := hasleep
  cases h with
  | away notWaiting => exact absurd hphase notWaiting
  | asleep => rfl
  | woken => cases hwoken

/-! ## A trigger during a burst -/

theorem isShutDown_run (h : loop.Sound) {moves : List Move} (hmoves : .shutDown ∉ moves) :
    (loop.run policy moves).isShutDown = loop.isShutDown := by
  induction moves generalizing loop with
  | nil => rfl
  | cons move rest ih =>
    simp only [List.mem_cons, not_or] at hmoves
    obtain ⟨hmove, hrest⟩ := hmoves
    have hturn := step_turn h policy move
    rw [run_cons, ih hturn.sound hrest]
    generalize (loop.step policy move).1 = after at hturn
    cases hturn with
    | shutDown => exact absurd rfl hmove
    | stop _ isShutDown => exact isShutDown.symm
    | _ => rfl

theorem bursts_of_inBurst {moves : List Move}
    (h : ∀ n ≤ moves.length, (loop.run policy (moves.take n)).inBurst = true) :
    bursts policy loop moves = 0 := by
  induction moves generalizing loop with
  | nil => rfl
  | cons move rest ih =>
    have hnow : loop.inBurst = true := h 0 (Nat.zero_le _)
    have hrest := ih fun n hn => h (n + 1) (Nat.succ_le_succ hn)
    simp [bursts, starts, hnow, hrest]

/-- While the burst goes on in which it came, a trigger is owed. -/
theorem owed_of_inBurst (h : loop.Sound) {moves : List Move}
    (hburst : ∀ n ≤ moves.length, (loop.run policy (moves.take n)).inBurst = true)
    (htrigger : .trigger ∈ moves) : 0 < (loop.run policy moves).owed := by
  obtain ⟨earlier, later, rfl⟩ := List.append_of_mem htrigger
  have hnone := bursts_of_inBurst hburst
  rw [bursts_append, bursts] at hnone
  rw [run_append]
  exact owed_of_trigger (h.run policy earlier) (by omega)

/-- The state in which a burst ends if triggers came during it. -/
def owing : WorkLoop := ⟨⟨true, []⟩, false, .starting⟩

theorem eq_owing (h : loop.Sound) (hburst : loop.inBurst = true) (howed : 0 < loop.owed)
    (hrunning : loop.isShutDown = false)
    (hends : (loop.step policy move).1.inBurst = false) : (loop.step policy move).1 = owing := by
  have hturn := step_turn h policy move
  generalize (loop.step policy move).1 = after at hturn hends
  cases hturn with
  | leave | shutDown | nothing => cases hburst.symm.trans hends
  | stop _ isShutDown => cases hrunning.symm.trans isShutDown
  | wake | leaveToo | fallAsleep | takePermit | wakeUp => cases hburst
  | backOff | retry => cases hends
  | @succeed permit | @giveUp permit =>
    cases permit with
    | true =>
      cases hrunning
      rfl
    | false => simp at howed

theorem step_owing (h : move ≠ .look) (hrunning : move ≠ .shutDown) :
    (owing.step policy move).1 = owing := by
  cases move with
  | look => exact absurd rfl h
  | shutDown => exact absurd rfl hrunning
  | trigger | finish | expire => rfl

/-- Until the loop gets its next turn, nothing changes. -/
theorem run_owing {moves : List Move} (h : .look ∉ moves) (hrunning : .shutDown ∉ moves) :
    owing.run policy moves = owing ∧ bursts policy owing moves = 0 := by
  induction moves with
  | nil => exact ⟨rfl, rfl⟩
  | cons move rest ih =>
    simp only [List.mem_cons, not_or] at h hrunning
    have hstep : (owing.step policy move).1 = owing :=
      step_owing (Ne.symm h.1) (Ne.symm hrunning.1)
    have hnone : starts owing owing = false := rfl
    rw [run_cons, bursts, hstep, hnone, Bool.toNat_false, Nat.zero_add]
    exact ih h.2 hrunning.2

/-- With its next turn the loop starts a burst, and then no other without a new trigger. -/
theorem bursts_owing {before after : List Move} (h : .look ∉ before)
    (hrunning : .shutDown ∉ before) (hafter : .trigger ∉ after) :
    bursts policy owing (before ++ .look :: after) = 1 := by
  obtain ⟨hsame, hnone⟩ : owing.run policy before = owing ∧ bursts policy owing before = 0 :=
    run_owing h hrunning
  have hsound : (owing.step policy .look).1.Sound := .away Phase.noConfusion
  have hbound := bursts_add_owed_le hsound policy after
  have htriggers : after.countP Move.isTrigger = 0 := by
    refine List.countP_eq_zero.2 fun move hmove htrigger => ?_
    cases move with
    | trigger => exact hafter hmove
    | _ => cases htrigger
  have hpaid : (owing.step policy .look).1.owed = 0 := rfl
  have hstarts : starts owing (owing.step policy .look).1 = true := rfl
  rw [bursts_append, hnone, hsame, bursts, hstarts, Bool.toNat_true]
  omega

/-! ## All that happens to a loop -/

/-- In the course of the moves `during` a burst goes on and there are triggers. It ends with the
move `ending`. -/
structure TriggeredBurst (policy : RetryPolicy) (before during : List Move) (ending : Move) :
    Prop where
  going : ∀ n ≤ during.length, (run policy {} (before ++ during.take n)).inBurst = true
  triggered : .trigger ∈ during
  ended : (run policy {} (before ++ during ++ [ending])).inBurst = false

theorem TriggeredBurst.run_eq {before during : List Move} {ending : Move}
    (h : TriggeredBurst policy before during ending) (hrunning : .shutDown ∉ before ++ during) :
    run policy {} (before ++ during ++ [ending]) = owing := by
  have hgoing : ∀ n ≤ during.length,
      ((run policy {} before).run policy (during.take n)).inBurst = true := by
    intro n hn
    rw [← run_append]
    exact h.going n hn
  have howed := owed_of_inBurst (sound_initial.run policy before) hgoing h.triggered
  have hburst := hgoing during.length (Nat.le_refl _)
  rw [List.take_length] at hburst
  rw [← run_append] at howed hburst
  have hends := h.ended
  rw [run_append] at hends ⊢
  exact eq_owing (sound_initial.run policy _) hburst howed
    (isShutDown_run sound_initial hrunning) hends

/-- Whatever happens, no trigger is lost. Once the loop sleeps, a burst has started after every
trigger. If triggers come while a burst goes on, the loop's next turn after it starts a further
burst, and unless there are new triggers, this is the only one. There are no more bursts than
triggers. -/
theorem run_loses_no_trigger (policy : RetryPolicy) (moves : List Move) :
    (∀ before after, moves = before ++ .trigger :: after → (run policy {} moves).IsAsleep →
      0 < bursts policy (run policy {} (before ++ [.trigger])) after) ∧
    (∀ before during ending gap rest, moves = before ++ during ++ [ending] ++ gap ++ .look :: rest →
      TriggeredBurst policy before during ending → .look ∉ gap →
      .shutDown ∉ before ++ during ++ gap → .trigger ∉ rest →
      bursts policy (run policy {} (before ++ during ++ [ending])) (gap ++ .look :: rest) = 1) ∧
    bursts policy {} moves ≤ moves.countP Move.isTrigger := by
  refine ⟨?served, ?followed, ?paid⟩
  case served =>
    rintro before after rfl hasleep
    have hsound := sound_initial.run policy before
    have hnone := hasleep.owed_eq_zero (sound_initial.run policy _)
    rw [run_append] at hnone ⊢
    refine Nat.pos_of_ne_zero fun hzero => ?_
    have howed := owed_of_trigger hsound hzero
    omega
  case followed =>
    rintro before during ending gap rest - hburst hlook hrunning hrest
    simp only [List.mem_append, not_or] at hrunning
    rw [hburst.run_eq (by simp [hrunning])]
    exact bursts_owing hlook hrunning.2 hrest
  case paid =>
    have hbound := bursts_add_owed_le sound_initial policy moves
    have hnothing : owed {} = 0 := rfl
    omega

/-- A pass fails, and a trigger comes while the loop backs off. The retry succeeds, and then there
is one further burst. -/
theorem run_loses_no_trigger_backing_off :
    TriggeredBurst {} [.look, .trigger, .look] [.finish (.error "timed out"), .trigger, .expire]
        (.finish (.ok ())) ∧
      bursts {} (run {} {} [.look, .trigger, .look, .finish (.error "timed out"), .trigger, .expire,
        .finish (.ok ())]) [.look, .finish (.ok ()), .look] = 1 := by
  have hburst : TriggeredBurst {} [.look, .trigger, .look]
      [.finish (.error "timed out"), .trigger, .expire] (.finish (.ok ())) :=
    ⟨by decide, by simp, by decide⟩
  exact ⟨hburst, (run_loses_no_trigger {} _).2.1 _ _ _ [] [.finish (.ok ()), .look] rfl hburst
    (by simp) (by simp) (by simp)⟩

end MeshPolicy.WorkLoop
