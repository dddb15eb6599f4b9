import MeshPolicy.Proofs.Worker.Course

/-! # Getting to a time

What a worker does up to a time, however many moves it takes. A worker whose retries never end and
take no time does not get anywhere.

* `Timeline.Reaches`: a worker makes all the moves that are due before a time. `Reaches.unique`: there
  is one way to do so.
* `Timeline.Meets`: it meets events one after the other. `Timeline.InTurn`: events in order.
  `Timeline.exists_meets`: it meets them all if it gets to every time.
* `Timeline.Reached`: so does a new worker, and then makes the moves that are due before a time.
* `Schedule.Observed`: what a new worker has done under a schedule by a time.
  `Schedule.observed_observe`: `Schedule.observe` computes that.
-/

namespace MeshPolicy
set_option autoImplicit false

variable {ω : Type}

namespace Timeline

/-- The worker makes all of its moves that are due before the time `limit`, however many. -/
def Reaches (pass : ω → PassRun × ω) (limit : Nat) (line line' : Timeline ω) : Prop :=
  (∃ fuel, line.advanceBy pass limit fuel = line') ∧ line'.Quiet limit

/-- The worker meets events one after the other. It gets to each of them: no moves without end, all
at one time, stop its clock. -/
inductive Meets (pass : ω → PassRun × ω) :
    List (Nat × Move) → Timeline ω → Timeline ω → Prop where
  | done (line : Timeline ω) : Meets pass [] line line
  | next {time : Nat} {move : Move} {rest : List (Nat × Move)} {line found met : Timeline ω}
      (reaches : line.Reaches pass time found)
      (meets : Meets pass rest { found with now := time, worker := found.worker.deliver move } met) :
      Meets pass ((time, move) :: rest) line met

/-- A new worker has met the events and made all of its moves that are due before the time `limit`.
-/
def Reached (policy : RetryPolicy) (pass : ω → PassRun × ω) (world : ω)
    (events : List (Nat × Move)) (limit : Nat) (line : Timeline ω) : Prop :=
  ∃ met, Meets pass events { worker := { policy }, world } met ∧ met.Reaches pass limit line

variable {pass : ω → PassRun × ω} {limit last : Nat} {line line' met : Timeline ω}
  {events rest : List (Nat × Move)}

/-- What every move keeps is kept while the worker advances. -/
theorem advanceBy_keeps {P : Timeline ω → Prop}
    (hstep : ∀ line time, P line → line.worker.due? line.now = some time → time < limit →
      P (line.tick pass time)) (fuel : Nat) (h : P line) : P (line.advanceBy pass limit fuel) := by
  induction fuel generalizing line with
  | zero => exact h
  | succ fuel ih =>
    unfold advanceBy
    cases hdue : line.worker.due? line.now with
    | none => exact h
    | some time =>
      by_cases hlt : time < limit
      · simp only [hlt, if_true]
        exact ih (hstep line time h hdue hlt)
      · simp only [hlt, if_false]
        exact h

theorem Reaches.keeps {P : Timeline ω → Prop} (hreaches : line.Reaches pass limit line')
    (hstep : ∀ line time, P line → line.worker.due? line.now = some time → time < limit →
      P (line.tick pass time)) (h : P line) : P line' := by
  obtain ⟨⟨fuel, rfl⟩, -⟩ := hreaches
  exact advanceBy_keeps hstep fuel h

instance (line : Timeline ω) (limit : Nat) : Decidable (line.Quiet limit) :=
  decidable_of_iff (∀ time ∈ line.worker.due? line.now, limit ≤ time) Iff.rfl

theorem Reaches.of_quiet (h : line.Quiet limit) : line.Reaches pass limit line := ⟨⟨0, rfl⟩, h⟩

theorem Reaches.of_tick {time : Nat} (hdue : line.worker.due? line.now = some time)
    (hlt : time < limit) (h : (line.tick pass time).Reaches pass limit line') :
    line.Reaches pass limit line' := by
  obtain ⟨⟨fuel, rfl⟩, hquiet⟩ := h
  refine ⟨⟨fuel + 1, ?_⟩, hquiet⟩
  simp only [advanceBy, hdue, hlt, if_true]

theorem advanceBy_of_quiet (h : line.Quiet limit) (fuel : Nat) :
    line.advanceBy pass limit fuel = line := by
  cases fuel with
  | zero => rfl
  | succ fuel =>
    unfold advanceBy
    cases hdue : line.worker.due? line.now with
    | none => rfl
    | some time =>
      have hle : limit ≤ time := h time hdue
      simp only [Nat.not_lt_of_le hle, if_false]

/-- Once all moves are made, more fuel makes no difference. -/
theorem advanceBy_add {fuel : Nat} (h : (line.advanceBy pass limit fuel).Quiet limit) (more : Nat) :
    line.advanceBy pass limit (fuel + more) = line.advanceBy pass limit fuel := by
  induction fuel generalizing line with
  | zero =>
    rw [Nat.zero_add]
    exact advanceBy_of_quiet h more
  | succ fuel ih =>
    rw [Nat.succ_add]
    unfold advanceBy at h ⊢
    cases hdue : line.worker.due? line.now with
    | none => rfl
    | some time =>
      by_cases hlt : time < limit
      · simp only [hdue, hlt, if_true] at h ⊢
        exact ih h
      · simp only [hlt, if_false]

theorem Reaches.unique (h : line.Reaches pass limit line') (h' : line.Reaches pass limit met) :
    line' = met := by
  obtain ⟨⟨fuel, rfl⟩, hquiet⟩ := h
  obtain ⟨⟨fuel', rfl⟩, hquiet'⟩ := h'
  have hmore := advanceBy_add hquiet fuel'
  have hmore' := advanceBy_add hquiet' fuel
  rw [← hmore, ← hmore', Nat.add_comm]

theorem Reaches.now_le (hreaches : line.Reaches pass limit line') (hlimit : limit ≤ last + 1)
    (h : line.now ≤ last) : line'.now ≤ last := by
  apply hreaches.keeps (P := fun line => line.now ≤ last) _ h
  intro line time _ _ hlt
  show time ≤ last
  omega

theorem Meets.now_le (hmeets : Meets pass events line met)
    (htimes : ∀ event ∈ events, event.1 ≤ last) (h : line.now ≤ last) : met.now ≤ last := by
  induction hmeets with
  | done => exact h
  | @next time move rest line found met reaches meets ih =>
    have htime : time ≤ last := htimes (time, move) List.mem_cons_self
    exact ih (fun event hevent => htimes event (List.mem_cons_of_mem _ hevent)) htime

theorem Meets.split (hmeets : Meets pass (events ++ rest) line met) :
    ∃ middle, Meets pass events line middle ∧ Meets pass rest middle met := by
  induction events generalizing line with
  | nil => exact ⟨line, .done line, hmeets⟩
  | cons event events ih =>
    cases hmeets with
    | next reaches meets =>
      obtain ⟨middle, hfirst, hrest⟩ := ih meets
      exact ⟨middle, .next reaches hfirst, hrest⟩

theorem Meets.append (hfirst : Meets pass events line line') (hrest : Meets pass rest line' met) :
    Meets pass (events ++ rest) line met := by
  induction hfirst with
  | done => exact hrest
  | next reaches meets ih => exact .next reaches (ih hrest)

theorem Meets.unique (h : Meets pass events line line') (h' : Meets pass events line met) :
    line' = met := by
  induction h with
  | done =>
    cases h'
    rfl
  | next reaches meets ih =>
    cases h' with
    | next reaches' meets' =>
      have hfound := reaches.unique reaches'
      subst hfound
      exact ih meets'

/-- Triggers and shutdowns in the order of their times, none of which comes before the time `since`.
-/
structure InTurn (since : Nat) (events : List (Nat × Move)) : Prop where
  external : ∀ event ∈ events, event.2 = .trigger ∨ event.2 = .shutDown
  ordered : events.Pairwise fun earlier later => earlier.1 ≤ later.1
  since_le : ∀ event ∈ events, since ≤ event.1

theorem InTurn.tail {since : Nat} {event : Nat × Move} (h : InTurn since (event :: rest)) :
    InTurn event.1 rest where
  external later hlater := h.external later (List.mem_cons_of_mem _ hlater)
  ordered := (List.pairwise_cons.1 h.ordered).2
  since_le := (List.pairwise_cons.1 h.ordered).1

/-- A worker that gets to every time, and still does so after an event, meets all events. -/
theorem exists_meets {P : Timeline ω → Prop}
    (hreaches : ∀ line limit, P line → ∃ line', line.Reaches pass limit line' ∧ P line')
    (hdeliver : ∀ (line : Timeline ω) (time : Nat) (move : Move), P line →
      move = .trigger ∨ move = .shutDown → line.Quiet time → line.now ≤ time →
        P { line with now := time, worker := line.worker.deliver move })
    (hturn : InTurn line.now events) (h : P line) : ∃ met, Meets pass events line met ∧ P met := by
  induction events generalizing line with
  | nil => exact ⟨line, .done line, h⟩
  | cons event rest ih =>
    obtain ⟨time, move⟩ := event
    have hmove : move = .trigger ∨ move = .shutDown :=
      hturn.external (time, move) List.mem_cons_self
    obtain ⟨found, hfound, hkept⟩ := hreaches line time h
    have hbegun : found.now ≤ time :=
      hfound.now_le (Nat.le_succ time) (hturn.since_le (time, move) List.mem_cons_self)
    obtain ⟨met, hmeets, hmet⟩ := ih hturn.tail (hdeliver found time move hkept hmove hfound.2 hbegun)
    exact ⟨met, .next hfound hmeets, hmet⟩

end Timeline

/-! ## Following a schedule -/

namespace Schedule

/-- What a new worker has done under the schedule up to and including the time `last`, if its clock
gets there. -/
def Observed (schedule : Schedule) (policy : RetryPolicy) (pass : ω → PassRun × ω) (last : Nat)
    (world : ω) (line : Timeline ω) : Prop :=
  Timeline.Reached policy pass world (schedule.events.filter fun event => event.1 ≤ last) (last + 1)
    line

variable (schedule : Schedule) {policy : RetryPolicy} {pass : ω → PassRun × ω} {world : ω}

theorem meets_foldl (hmax : policy.maxRetries.toNat + 1 < UInt32.size)
    {events : List (Nat × Move)} {line : Timeline ω} {met : Nat}
    (hevents : ∀ n event, events[n]? = some event → schedule.events[met + n]? = some event)
    (htimes : ∀ event ∈ events, line.now ≤ event.1)
    (hordered : events.Pairwise fun earlier later => earlier.1 ≤ later.1)
    (h : Stands policy pass schedule.Triggers schedule.Stops world met line) :
    Timeline.Meets pass events line (events.foldl (Timeline.meet pass) line) := by
  induction events generalizing line met with
  | nil => exact .done line
  | cons event rest ih =>
    obtain ⟨hfirst, hrest⟩ := List.pairwise_cons.1 hordered
    obtain ⟨_, hquiet, _⟩ := h.advance hmax event.1
    have hmet := schedule.meet_stands hmax (hevents 0 event rfl) h (htimes event List.mem_cons_self)
    refine .next ⟨⟨_, rfl⟩, hquiet⟩ (ih (fun n later hlater => ?_) hfirst hrest hmet)
    have hindex : met + 1 + n = met + (n + 1) := by omega
    rw [hindex]
    exact hevents (n + 1) later hlater

/-- Unless a policy lets a worker retry for ever, its clock gets everywhere. -/
theorem observed_observe (hmax : policy.maxRetries.toNat + 1 < UInt32.size)
    (pass : ω → PassRun × ω) (last : Nat) (world : ω) :
    schedule.Observed policy pass last world (schedule.observe policy pass last world) := by
  have hmem := schedule.getElem?_of_filter last
  have hordered := schedule.ordered.sublist (List.filter_sublist (p := fun event => event.1 ≤ last))
  have hnew := schedule.new_stands policy pass world
  obtain ⟨hmet, _⟩ := schedule.foldl_meet_stands hmax hmem
    (fun event hevent => ⟨Nat.zero_le _, of_decide_eq_true (List.mem_filter.1 hevent).2⟩) hordered
    hnew (Nat.zero_le last)
  obtain ⟨_, hquiet, _⟩ := hmet.advance hmax (last + 1)
  exact ⟨_, schedule.meets_foldl hmax hmem (fun _ _ => Nat.zero_le _) hordered hnew, ⟨_, rfl⟩,
    hquiet⟩

/-- The events up to a time, if a certain one is among them. -/
theorem filter_events {before after : List (Nat × Move)} {stop last : Nat} {move : Move}
    (hevents : schedule.events = before ++ (stop, move) :: after) (hlast : stop ≤ last) :
    schedule.events.filter (fun event => event.1 ≤ last) =
      before ++ (stop, move) :: after.filter fun event => event.1 ≤ last := by
  have hordered := schedule.ordered
  rw [hevents, List.pairwise_append] at hordered
  have hbefore : before.filter (fun event => event.1 ≤ last) = before := by
    apply List.filter_eq_self.2
    intro event hevent
    have hle : event.1 ≤ stop := hordered.2.2 event hevent (stop, move) List.mem_cons_self
    have hin : event.1 ≤ last := by omega
    exact decide_eq_true hin
  rw [hevents, List.filter_append, hbefore, List.filter_cons, if_pos (decide_eq_true hlast)]

end Schedule

end MeshPolicy
