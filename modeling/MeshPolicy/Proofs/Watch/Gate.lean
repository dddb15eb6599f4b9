import Mathlib.Data.List.Induction
import Mathlib.Data.Option.Defs
import MeshPolicy.Watch.Gate

/-! # What the gate waits for

A wait is over as soon as all its flags were marked, or the first of them that was not marked was
dropped. It goes through the flags one after the other, and yet what happens to a later flag while it
waits for an earlier one makes no difference.

* `Marked`, `Dropped`: what a history did to a flag. `Reads`: the flags after it.
* `Flag.Becomes`, `Later`: what the steps can do to flags. `resume_await`: a wait that is taken up again
  comes to the same end as one that starts over.
* `FailsAt`: a wait that cannot come to a good end.
* `Opens`: the histories that lead up to a wait. `run_waits_for_marks`: what becomes of it.
-/

namespace MeshPolicy
set_option autoImplicit false

/-- What may become of a flag: a mark stays, and so does the lack of one once the flag is dropped. -/
structure Flag.Becomes (flag flag' : Flag) : Prop where
  marked : flag.isMarked = true → flag'.isMarked = true
  dropped : flag.isDropped = true → flag'.isDropped = true ∧ flag'.isMarked = flag.isMarked

namespace Gate

def run (gate : Gate) (history : List Step) : Gate := history.foldl step gate

theorem run_append (gate : Gate) (history more : List Step) :
    gate.run (history ++ more) = (gate.run history).run more := List.foldl_append

theorem run_cons (gate : Gate) (s : Step) (more : List Step) :
    gate.run (s :: more) = (gate.step s).run more := rfl

theorem run_snoc (gate : Gate) (history : List Step) (s : Step) :
    gate.run (history ++ [s]) = (gate.run history).step s := run_append gate history [s]

/-! ## Histories of flags -/

/-- The flag was marked, and not dropped before that. -/
def Marked (history : List Step) (i : Nat) : Prop :=
  ∃ before after, history = before ++ .mark i :: after ∧ .drop i ∉ before

def Dropped (history : List Step) (i : Nat) : Prop := .drop i ∈ history

theorem not_marked_nil (i : Nat) : ¬ Marked [] i := by
  rintro ⟨before, after, heq, _⟩
  simp at heq

theorem marked_snoc {history : List Step} {s : Step} {i : Nat} :
    Marked (history ++ [s]) i ↔ Marked history i ∨ (s = .mark i ∧ ¬ Dropped history i) := by
  constructor
  · rintro ⟨before, after, heq, hbefore⟩
    rcases List.eq_nil_or_concat after with rfl | ⟨rest, last, rfl⟩
    · obtain ⟨rfl, hs⟩ := List.append_inj' heq rfl
      exact .inr ⟨List.singleton_inj.1 hs, hbefore⟩
    · have hlonger : history ++ [s] = (before ++ .mark i :: rest) ++ [last] := by simpa using heq
      exact .inl ⟨before, rest, (List.append_inj' hlonger rfl).1, hbefore⟩
  · rintro (⟨before, after, rfl, hbefore⟩ | ⟨rfl, halive⟩)
    · exact ⟨before, after ++ [s], by simp, hbefore⟩
    · exact ⟨history, [], rfl, halive⟩

theorem dropped_snoc {history : List Step} {s : Step} {i : Nat} :
    Dropped (history ++ [s]) i ↔ Dropped history i ∨ s = .drop i := by
  simp [Dropped, eq_comm]

/-- A flag that was dropped without a mark is never marked again. -/
theorem not_marked_append {history : List Step} {i : Nat} (hdropped : Dropped history i)
    (h : ¬ Marked history i) (more : List Step) : ¬ Marked (history ++ more) i := by
  have hboth : ¬ Marked (history ++ more) i ∧ Dropped (history ++ more) i := by
    induction more using List.reverseRecOn with
    | nil => exact ⟨by rwa [List.append_nil], by rwa [List.append_nil]⟩
    | append_singleton more s ih =>
      rw [← List.append_assoc, marked_snoc, dropped_snoc]
      refine ⟨?_, .inl ih.2⟩
      rintro (hmarked | ⟨_, halive⟩)
      · exact ih.1 hmarked
      · exact halive ih.2
  exact hboth.1

/-! ## Flags -/

/-- What a step does to the flag at a place. -/
def alter (s : Step) (i : Nat) (flag : Flag) : Flag :=
  if s = .mark i then markFlag flag else if s = .drop i then dropFlag flag else flag

theorem look_flags (gate : Gate) : (look gate).flags = gate.flags := by
  unfold look
  split <;> rfl

theorem look_pending (gate : Gate) : (look gate).pending = gate.pending := by
  unfold look
  split <;> rfl

theorem getElem?_step (gate : Gate) (s : Step) (i : Nat) :
    (gate.step s).flags[i]? = gate.flags[i]?.map (alter s i) := by
  have hsame : gate.flags[i]? = gate.flags[i]?.map fun flag => flag := by simp
  cases s with
  | mark j =>
    simp only [step, look_flags, List.getElem?_modify]
    refine Option.map_congr fun flag _ => ?_
    by_cases hj : j = i <;> simp [alter, hj]
  | drop j =>
    simp only [step, look_flags, List.getElem?_modify]
    refine Option.map_congr fun flag _ => ?_
    by_cases hj : j = i <;> simp [alter, hj]
  | subscribe j =>
    simp only [step, look_flags]
    split <;> exact hsame
  | wait =>
    simp only [step, look_flags]
    exact hsame

theorem length_step (gate : Gate) (s : Step) : (gate.step s).flags.length = gate.flags.length := by
  cases s with
  | mark j => simp only [step, look_flags, List.length_modify]
  | drop j => simp only [step, look_flags, List.length_modify]
  | subscribe j =>
    simp only [step, look_flags]
    split <;> rfl
  | wait => simp only [step, look_flags]

theorem isMarked_alter {s : Step} {i : Nat} {flag : Flag} :
    (alter s i flag).isMarked = true ↔
      flag.isMarked = true ∨ (s = .mark i ∧ ¬ flag.isDropped = true) := by
  unfold alter markFlag dropFlag
  by_cases hmark : s = .mark i
  · by_cases hdropped : flag.isDropped = true <;> simp [hmark, hdropped]
  · by_cases hdrop : s = .drop i <;> simp [hmark, hdrop]

theorem isDropped_alter {s : Step} {i : Nat} {flag : Flag} :
    (alter s i flag).isDropped = true ↔ flag.isDropped = true ∨ s = .drop i := by
  unfold alter markFlag dropFlag
  by_cases hmark : s = .mark i
  · by_cases hdropped : flag.isDropped = true <;> simp [hmark, hdropped]
  · by_cases hdrop : s = .drop i <;> simp [hmark, hdrop]

/-- The flags are as the history left them. -/
structure Reads (count : Nat) (history : List Step) (flags : List Flag) : Prop where
  length : flags.length = count
  marked : ∀ i flag, flags[i]? = some flag → (flag.isMarked = true ↔ Marked history i)
  dropped : ∀ i flag, flags[i]? = some flag → (flag.isDropped = true ↔ Dropped history i)

theorem Reads.step {count : Nat} {history : List Step} {gate : Gate}
    (h : Reads count history gate.flags) (s : Step) :
    Reads count (history ++ [s]) (gate.step s).flags where
  length := (length_step gate s).trans h.length
  marked i flag' hflag' := by
    rw [getElem?_step] at hflag'
    obtain ⟨flag, hflag, rfl⟩ := Option.map_eq_some_iff.1 hflag'
    rw [isMarked_alter, marked_snoc, h.marked i flag hflag, h.dropped i flag hflag]
  dropped i flag' hflag' := by
    rw [getElem?_step] at hflag'
    obtain ⟨flag, hflag, rfl⟩ := Option.map_eq_some_iff.1 hflag'
    rw [isDropped_alter, dropped_snoc, h.dropped i flag hflag]

theorem reads_run (count : Nat) (history : List Step) :
    Reads count history ((ofCount count).run history).flags := by
  induction history using List.reverseRecOn with
  | nil =>
    have hfresh (i : Nat) (flag : Flag) (h : (List.replicate count ({} : Flag))[i]? = some flag) :
        flag = {} := (List.mem_replicate.1 (List.mem_of_getElem? h)).2
    refine ⟨List.length_replicate, fun i flag hflag => ?_, fun i flag hflag => ?_⟩
    · rw [hfresh i flag hflag]
      simp [not_marked_nil]
    · rw [hfresh i flag hflag]
      simp [Dropped]
  | append_singleton history s ih =>
    rw [run_snoc]
    exact ih.step s

/-! ## Waits that are taken up again -/

def Later (flags flags' : List Flag) : Prop :=
  ∀ i : Nat, Option.Rel Flag.Becomes flags[i]? flags'[i]?

theorem becomes_alter (s : Step) (i : Nat) (flag : Flag) : flag.Becomes (alter s i flag) where
  marked h := isMarked_alter.2 (.inl h)
  dropped h := by
    refine ⟨isDropped_alter.2 (.inl h), ?_⟩
    rw [Bool.eq_iff_iff, isMarked_alter]
    simp [h]

theorem later_step (gate : Gate) (s : Step) : Later gate.flags (gate.step s).flags := by
  intro i
  rw [getElem?_step]
  cases gate.flags[i]? with
  | none => exact .none
  | some flag => exact .some (becomes_alter s i flag)

/-- A wait that is looked at again. -/
def Progress.resume (flags : List Flag) : Progress → Progress
  | waiting receivers => await flags receivers
  | finished result => finished result

theorem resume_await {flags flags' : List Flag} (h : Later flags flags') (receivers : List Nat) :
    (await flags receivers).resume flags' = await flags' receivers := by
  induction receivers with
  | nil => rfl
  | cons i rest ih =>
    have hflag := h i
    unfold await
    cases hbefore : flags[i]? with
    | none =>
      rw [hbefore] at hflag
      cases hafter : flags'[i]? with
      | none => rfl
      | some flag' =>
        rw [hafter] at hflag
        cases hflag
    | some flag =>
      rw [hbefore] at hflag
      cases hafter : flags'[i]? with
      | none =>
        rw [hafter] at hflag
        cases hflag
      | some flag' =>
        rw [hafter] at hflag
        obtain ⟨hmarked, hdropped⟩ : flag.Becomes flag' := by
          cases hflag
          assumption
        by_cases hm : flag.isMarked = true
        · simp only [hm, hmarked hm, if_true]
          exact ih
        · by_cases hd : flag.isDropped = true
          · obtain ⟨hd', hm'⟩ := hdropped hd
            simp [hm, hm', hd, hd', Progress.resume]
          · -- The wait stopped at this flag, and starts with it again.
            simp [hm, hd, Progress.resume, await, hafter]

theorem look_wait (gate : Gate) : (look gate).wait = gate.wait.map (Progress.resume gate.flags) := by
  unfold look
  cases hwait : gate.wait with
  | none => simp [hwait]
  | some progress => cases progress <;> simp [hwait, Progress.resume]

/-- A running wait has come as far as one that starts over now. -/
theorem wait_step {gate : Gate} {receivers : List Nat} {s : Step} (hs : s ≠ .wait)
    (h : gate.wait = some (await gate.flags receivers)) :
    (gate.step s).wait = some (await (gate.step s).flags receivers) := by
  rw [← resume_await (later_step gate s) receivers]
  cases s with
  | mark j => simp only [step, look_flags, look_wait, h, Option.map_some]
  | drop j => simp only [step, look_flags, look_wait, h, Option.map_some]
  | subscribe j =>
    simp only [step, look_flags, look_wait]
    split <;> simp only [h, Option.map_some]
  | wait => exact absurd rfl hs

theorem wait_run {gate : Gate} {receivers : List Nat} {history : List Step}
    (hhistory : .wait ∉ history) (h : gate.wait = some (await gate.flags receivers)) :
    (gate.run history).wait = some (await (gate.run history).flags receivers) := by
  induction history generalizing gate with
  | nil => exact h
  | cons s rest ih =>
    rw [List.mem_cons, not_or] at hhistory
    exact ih hhistory.2 (wait_step (Ne.symm hhistory.1) h)

/-! ## Ends of waits -/

/-- The first of the receivers whose flag was not marked belongs to one that was dropped. -/
def FailsAt (history : List Step) (receivers : List Nat) : Prop :=
  ∃ ahead i behind, receivers = ahead ++ i :: behind ∧ (∀ j ∈ ahead, Marked history j) ∧
    ¬ Marked history i ∧ Dropped history i

theorem not_failsAt_nil (history : List Step) : ¬ FailsAt history [] := by
  rintro ⟨ahead, i, behind, heq, _⟩
  simp at heq

theorem failsAt_cons_of_marked {history : List Step} {i : Nat} {rest : List Nat}
    (h : Marked history i) : FailsAt history (i :: rest) ↔ FailsAt history rest := by
  constructor
  · rintro ⟨ahead, j, behind, heq, hahead, hunmarked, hdropped⟩
    cases ahead with
    | nil =>
      cases heq
      exact absurd h hunmarked
    | cons first ahead =>
      cases heq
      exact ⟨ahead, j, behind, rfl, (List.forall_mem_cons.1 hahead).2, hunmarked, hdropped⟩
  · rintro ⟨ahead, j, behind, rfl, hahead, hunmarked, hdropped⟩
    exact ⟨i :: ahead, j, behind, rfl, List.forall_mem_cons.2 ⟨h, hahead⟩, hunmarked, hdropped⟩

theorem failsAt_cons_of_not_marked {history : List Step} {i : Nat} {rest : List Nat}
    (h : ¬ Marked history i) : FailsAt history (i :: rest) ↔ Dropped history i := by
  constructor
  · rintro ⟨ahead, j, behind, heq, hahead, _, hdropped⟩
    cases ahead with
    | nil =>
      cases heq
      exact hdropped
    | cons first ahead =>
      cases heq
      exact absurd (List.forall_mem_cons.1 hahead).1 h
  · intro hdropped
    exact ⟨[], i, rest, rfl, fun j hj => absurd hj List.not_mem_nil, h, hdropped⟩

section Reading

variable {count : Nat} {history : List Step} {flags : List Flag} (h : Reads count history flags)

include h

theorem Reads.exists_flag {i : Nat} (hi : i < count) :
    ∃ flag, flags[i]? = some flag ∧ (flag.isMarked = true ↔ Marked history i) ∧
      (flag.isDropped = true ↔ Dropped history i) := by
  have hlength : i < flags.length := h.length ▸ hi
  have hflag : flags[i]? = some flags[i] := List.getElem?_eq_getElem hlength
  exact ⟨flags[i], hflag, h.marked i _ hflag, h.dropped i _ hflag⟩

/-- What a wait does at the flag of its next receiver. -/
theorem Reads.await_cons {i : Nat} (hi : i < count) (rest : List Nat) :
    (Marked history i → await flags (i :: rest) = await flags rest) ∧
    (¬ Marked history i → Dropped history i → await flags (i :: rest) = .finished false) ∧
    (¬ Marked history i → ¬ Dropped history i →
      await flags (i :: rest) = .waiting (i :: rest)) := by
  obtain ⟨flag, hflag, hmarked, hdropped⟩ := h.exists_flag hi
  rw [await, hflag, ← hmarked, ← hdropped]
  refine ⟨fun hm => ?_, fun hm hd => ?_, fun hm hd => ?_⟩
  · simp only [hm, if_true]
  · simp only [hm, hd, if_true]
    rfl
  · simp only [hm, hd]
    rfl

variable {receivers : List Nat}

theorem Reads.await_eq_true_iff (hvalid : ∀ i ∈ receivers, i < count) :
    await flags receivers = .finished true ↔ ∀ i ∈ receivers, Marked history i := by
  induction receivers with
  | nil => simp [await]
  | cons i rest ih =>
    obtain ⟨hi, hrest⟩ := List.forall_mem_cons.1 hvalid
    obtain ⟨hpass, hfail, hstay⟩ := h.await_cons hi rest
    rw [List.forall_mem_cons]
    by_cases hm : Marked history i
    · rw [hpass hm, ih hrest]
      simp [hm]
    · by_cases hd : Dropped history i
      · simp [hfail hm hd, hm]
      · simp [hstay hm hd, hm]

theorem Reads.await_eq_false_iff (hvalid : ∀ i ∈ receivers, i < count) :
    await flags receivers = .finished false ↔ FailsAt history receivers := by
  induction receivers with
  | nil => simp [await, not_failsAt_nil]
  | cons i rest ih =>
    obtain ⟨hi, hrest⟩ := List.forall_mem_cons.1 hvalid
    obtain ⟨hpass, hfail, hstay⟩ := h.await_cons hi rest
    by_cases hm : Marked history i
    · rw [hpass hm, ih hrest, failsAt_cons_of_marked hm]
    · rw [failsAt_cons_of_not_marked hm]
      by_cases hd : Dropped history i
      · simp [hfail hm hd, hd]
      · simp [hstay hm hd, hd]

end Reading

/-! ## Waits -/

/-- The receivers are subscribed by the history, in order, with marks and drops of any flags in
between. A flag that was dropped takes no more subscriptions. -/
inductive Opens (count : Nat) : List Step → List Nat → Prop where
  | nil : Opens count [] []
  | subscribe {history : List Step} {receivers : List Nat} {i : Nat}
      (h : Opens count history receivers) (hi : i < count) (alive : ¬ Dropped history i) :
    Opens count (history ++ [.subscribe i]) (receivers ++ [i])
  | mark {history : List Step} {receivers : List Nat} (i : Nat)
      (h : Opens count history receivers) : Opens count (history ++ [.mark i]) receivers
  | drop {history : List Step} {receivers : List Nat} (i : Nat)
      (h : Opens count history receivers) : Opens count (history ++ [.drop i]) receivers

/-- Any list of receivers can be subscribed before a flag is marked or dropped. -/
theorem opens_subscribe {count : Nat} (receivers : List Nat) (h : ∀ i ∈ receivers, i < count) :
    Opens count (receivers.map .subscribe) receivers := by
  induction receivers using List.reverseRecOn with
  | nil => exact .nil
  | append_singleton receivers i ih =>
    rw [List.map_append]
    have hbefore := ih fun j hj => h j (List.mem_append_left _ hj)
    refine hbefore.subscribe (h i (by simp)) fun hdropped => ?_
    obtain ⟨_, _, heq⟩ := List.mem_map.1 hdropped
    cases heq

namespace Opens

variable {count : Nat} {history : List Step} {receivers : List Nat}

theorem valid (h : Opens count history receivers) : ∀ i ∈ receivers, i < count := by
  induction h with
  | nil => simp
  | subscribe _ hi _ ih => simpa [or_imp, forall_and] using ⟨ih, hi⟩
  | mark _ _ ih => exact ih
  | drop _ _ ih => exact ih

theorem pending_run (h : Opens count history receivers) :
    ((ofCount count).run history).pending = receivers := by
  induction h with
  | nil => rfl
  | @subscribe history receivers i _ hi alive ih =>
    obtain ⟨flag, hflag, _, hdropped⟩ := (reads_run count history).exists_flag hi
    have halive : flag.isDropped = false := by rw [← Bool.not_eq_true, hdropped]; exact alive
    obtain ⟨marked, dropped⟩ := flag
    cases halive
    simp only [run_snoc, step, look_pending, hflag, ih]
  | mark i _ ih => simp only [run_snoc, step, look_pending, ih]
  | drop i _ ih => simp only [run_snoc, step, look_pending, ih]

/-- Once it is waited for, a wait has come as far as the flags let it. -/
theorem wait_run (h : Opens count history receivers) {during : List Step}
    (hduring : .wait ∉ during) :
    ((ofCount count).run (history ++ .wait :: during)).wait =
      some (await ((ofCount count).run (history ++ .wait :: during)).flags receivers) := by
  rw [run_append, run_cons]
  refine Gate.wait_run hduring ?_
  simp only [step, look_flags, look_wait, h.pending_run]
  rfl

end Opens

/-- How a wait stands after a history, and what can still become of it. -/
structure Waits (count : Nat) (receivers : List Nat) (history : List Step) (gate : Gate) : Prop where
  passes : gate.result = some true ↔ ∀ i ∈ receivers, Marked history i
  fails : gate.result = some false ↔ FailsAt history receivers
  waiting : gate.isWaiting = true ↔
    ¬ (∀ i ∈ receivers, Marked history i) ∧ ¬ FailsAt history receivers
  flags : ∀ i < count, ∃ flag, gate.flags[i]? = some flag ∧
    (flag.isMarked = true ↔ Marked history i) ∧ (flag.isDropped = true ↔ Dropped history i)
  kept : ∀ (i : Nat) flag, gate.flags[i]? = some flag → flag.isMarked = true →
    ∀ more, ∃ flag', (gate.run more).flags[i]? = some flag' ∧ flag'.isMarked = true
  lost : ∀ i ∈ receivers, ¬ Marked history i → Dropped history i →
    ∀ more, .wait ∉ more → (gate.run more).result ≠ some true

theorem isMarked_run {gate : Gate} {i : Nat} {flag : Flag} (hflag : gate.flags[i]? = some flag)
    (hmarked : flag.isMarked = true) (more : List Step) :
    ∃ flag', (gate.run more).flags[i]? = some flag' ∧ flag'.isMarked = true := by
  induction more generalizing gate flag with
  | nil => exact ⟨flag, hflag, hmarked⟩
  | cons s rest ih =>
    have hnext : (gate.step s).flags[i]? = some (alter s i flag) := by
      rw [getElem?_step, hflag, Option.map_some]
    exact ih hnext (isMarked_alter.2 (.inl hmarked))

theorem result_eq_some_iff {gate : Gate} {progress : Progress} (h : gate.wait = some progress)
    {answer : Bool} : gate.result = some answer ↔ progress = .finished answer := by
  unfold result
  rw [h]
  cases progress <;> simp

theorem isWaiting_iff {gate : Gate} {progress : Progress} (h : gate.wait = some progress) :
    gate.isWaiting = true ↔ progress ≠ .finished true ∧ progress ≠ .finished false := by
  unfold isWaiting
  rw [h]
  cases progress with
  | waiting receivers => simp
  | finished answer => cases answer <;> simp

/-- A wait for any flags, among marks and drops in any order, is over with `true` just when they were
all marked, and with `false` just when the first one that was not marked was dropped. -/
theorem run_waits_for_marks {count : Nat} {before during : List Step} {receivers : List Nat}
    (hbefore : Opens count before receivers) (hduring : .wait ∉ during) :
    Waits count receivers (before ++ .wait :: during)
      ((ofCount count).run (before ++ .wait :: during)) := by
  have hreads := reads_run count (before ++ .wait :: during)
  have hwait := hbefore.wait_run hduring
  refine ⟨?_, ?_, ?_, fun i hi => hreads.exists_flag hi, fun i flag hflag hmarked => ?_,
    fun i hi hunmarked hdropped more hmore => ?_⟩
  · rw [result_eq_some_iff hwait, hreads.await_eq_true_iff hbefore.valid]
  · rw [result_eq_some_iff hwait, hreads.await_eq_false_iff hbefore.valid]
  · rw [isWaiting_iff hwait, Ne, Ne, hreads.await_eq_true_iff hbefore.valid,
      hreads.await_eq_false_iff hbefore.valid]
  · exact isMarked_run hflag hmarked
  · have hlonger : .wait ∉ during ++ more := by simpa using ⟨hduring, hmore⟩
    have hwait' := hbefore.wait_run hlonger
    have hreads' := reads_run count (before ++ .wait :: (during ++ more))
    rw [← run_append, List.append_assoc, List.cons_append, Ne, result_eq_some_iff hwait',
      hreads'.await_eq_true_iff hbefore.valid]
    intro hall
    refine not_marked_append hdropped hunmarked more ?_
    rw [List.append_assoc, List.cons_append]
    exact hall i hi

/-- The second flag is subscribed twice, and marked and dropped while the first one is waited for. -/
theorem run_waits_for_marks_twice :
    Opens 2 [.subscribe 1, .subscribe 0, .subscribe 1] [1, 0, 1] ∧
    Waits 2 [1, 0, 1] [.subscribe 1, .subscribe 0, .subscribe 1, .wait, .mark 1, .drop 1, .mark 0]
      ((ofCount 2).run
        [.subscribe 1, .subscribe 0, .subscribe 1, .wait, .mark 1, .drop 1, .mark 0]) := by
  have hopens : Opens 2 [.subscribe 1, .subscribe 0, .subscribe 1] [1, 0, 1] :=
    opens_subscribe [1, 0, 1] (by decide)
  exact ⟨hopens, run_waits_for_marks hopens (by decide)⟩

end Gate

end MeshPolicy
