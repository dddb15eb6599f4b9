import MeshPolicy.Worker.Timed

/-! # What a poke does

A poke is a trigger that is delivered to a worker. It wakes one waiter, or leaves a permit if there is
nobody to wake. So no poke is spent on nothing: a worker that sleeps starts a pass because of it, and
so does one that is about to sleep. What is owed to a worker in a burst is `WorkLoop.owed`.

* `Signal.notify_of_sleeper`, `Signal.notify_of_awake`: the two cases of a notification.
* `Worker.Poked`, `Worker.poked_deliver`: what a delivered trigger changes, and what it leaves.
* `Worker.Poked.starts_pass`: an idle worker starts a pass at once.
-/

namespace MeshPolicy
set_option autoImplicit false

/-! ## Notifications -/

namespace Signal

/-- Waiters who are awake are passed over. -/
theorem wakeFirst?_append {awake : List Bool} (hawake : false ∉ awake) (rest : List Bool) :
    wakeFirst? (awake ++ rest) = (wakeFirst? rest).map (awake ++ ·) := by
  induction awake with
  | nil => simp
  | cons woken others ih =>
    rw [List.mem_cons, not_or] at hawake
    obtain ⟨hwoken, hothers⟩ := hawake
    obtain rfl : woken = true := Bool.of_not_eq_false fun hfalse => hwoken hfalse.symm
    rw [List.cons_append, wakeFirst?, ih hothers, Option.map_map]
    rfl

/-- The oldest waiter who sleeps is woken, and the permit stays as it was. -/
theorem notify_of_sleeper {awake : List Bool} (hawake : false ∉ awake) (permit : Bool)
    (younger : List Bool) :
    notify ⟨permit, awake ++ false :: younger⟩ = ⟨permit, awake ++ true :: younger⟩ := by
  simp only [notify, wakeFirst?_append hawake, wakeFirst?, Option.map_some]

/-- With nobody to wake there is a permit, whether or not there was one before. -/
theorem notify_of_awake {signal : Signal} (h : false ∉ signal.waiters) :
    signal.notify = { signal with permit := true } := by
  have hnone : wakeFirst? signal.waiters = none := by
    have hall := wakeFirst?_append h []
    rwa [List.append_nil] at hall
  simp only [notify, hnone]

end Signal

/-! ## Workers that are poked -/

namespace Worker

/-- One poke has reached the worker: the oldest of its waiters who slept is awake, or else a permit is
left. Nothing but the signal has changed. -/
structure Poked (before after : Worker) : Prop where
  wakes : ∀ awake younger, false ∉ awake →
    before.loop.signal.waiters = awake ++ false :: younger →
      after.loop.signal = ⟨before.loop.signal.permit, awake ++ true :: younger⟩
  leavesPermit : false ∉ before.loop.signal.waiters →
    after.loop.signal = { before.loop.signal with permit := true }
  keeps : after = { before with loop := { before.loop with signal := after.loop.signal } }

theorem poked_deliver (worker : Worker) : worker.Poked (worker.deliver .trigger) where
  wakes awake younger hawake hwaiters := by
    obtain ⟨policy, ⟨⟨permit, waiters⟩, isShutDown, phase⟩, timer⟩ := worker
    obtain rfl : waiters = awake ++ false :: younger := hwaiters
    exact Signal.notify_of_sleeper hawake permit younger
  leavesPermit hawake := Signal.notify_of_awake hawake
  keeps := rfl

/-- The worker sleeps, or is about to and nobody else does. -/
def IsIdle (worker : Worker) : Prop :=
  worker.loop.phase = .waiting ∧ false ∈ worker.loop.signal.waiters ∨
    worker.loop.phase = .starting ∧ false ∉ worker.loop.signal.waiters

variable {before after : Worker}

theorem Poked.hasWoken (h : before.Poked after) (hsleeper : false ∈ before.loop.signal.waiters) :
    after.loop.signal.hasWoken = true := by
  obtain ⟨awake, younger, hwaiters, hawake⟩ := List.eq_append_cons_of_mem hsleeper
  rw [h.wakes awake younger hawake hwaiters]
  simp [Signal.hasWoken]

/-- A poke makes an idle worker start a pass at once, unless it is to stop. -/
theorem Poked.starts_pass {ω : Type} (h : before.Poked after) (hidle : before.IsIdle)
    (hopen : before.loop.isShutDown = false) (pass : ω → PassRun × ω) (now : Nat) (world : ω) :
    after.due? now = some now ∧
      (after.tick pass now world).1.loop.phase = .passing 0 ∧
      (after.tick pass now world).1.timer =
        .pass now (now + (pass world).1.duration) (pass world).1.outcome := by
  obtain ⟨policy, ⟨signal, isShutDown, phase⟩, timer⟩ := before
  obtain ⟨policy', ⟨signal', isShutDown', phase'⟩, timer'⟩ := after
  cases h.keeps
  obtain rfl : isShutDown = false := hopen
  rcases hidle with ⟨hphase, hsleeper⟩ | ⟨hphase, hawake⟩
  · obtain rfl : phase = .waiting := hphase
    have hwoken : signal'.hasWoken = true := h.hasWoken hsleeper
    have hlook : WorkLoop.look ⟨signal', false, .waiting⟩ =
        (⟨signal'.collect.2, false, .passing 0⟩, []) := by
      simp only [WorkLoop.look, hwoken, Bool.false_eq_true, if_false, if_true]
    simp only [due?, tick, dueMove, WorkLoop.step, hlook, hwoken, Bool.false_or, if_true, and_self]
  · obtain rfl : phase = .starting := hphase
    obtain rfl : signal' = { signal with permit := true } := h.leavesPermit hawake
    exact ⟨rfl, rfl, rfl⟩

end Worker

end MeshPolicy
