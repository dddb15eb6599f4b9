/-! # Waiting for the caches

A flag says whether a cache has seen its first complete listing. A flag may be dropped; what it said
last can still be read.

* `await`: goes through the flags in order and stops at the first that is not marked. That is the
  end if the flag was dropped, since nobody can mark it any more.
* `Gate`: flags, receivers that are not waited for yet, and a running wait.
* `Gate.step`: marks, drops and subscriptions; the running wait is looked at after every step.
-/

namespace MeshPolicy
set_option autoImplicit false

structure Flag where
  isMarked : Bool := false
  isDropped : Bool := false
  deriving DecidableEq, Repr

namespace Gate

/-- How far a wait has come: what it still waits for, or its result. -/
inductive Progress where
  | waiting (receivers : List Nat)
  | finished (result : Bool)
  deriving DecidableEq, Repr

/-- Waits for the flags of the receivers, given by position, one after the other. -/
def await (flags : List Flag) : List Nat → Progress
  | [] => .finished true
  | i :: rest =>
    match flags[i]? with
    | none => .finished false
    | some flag =>
      if flag.isMarked then await flags rest
      else if flag.isDropped then .finished false
      else .waiting (i :: rest)

end Gate

structure Gate where
  flags : List Flag
  pending : List Nat := []
  wait : Option Gate.Progress := none
  deriving DecidableEq, Repr

namespace Gate

inductive Step where
  | mark (flag : Nat)
  | drop (flag : Nat)
  | subscribe (flag : Nat)
  | wait
  deriving DecidableEq, Repr

def ofCount (count : Nat) : Gate := { flags := List.replicate count {} }

def markFlag (flag : Flag) : Flag :=
  if flag.isDropped then flag else { flag with isMarked := true }

def dropFlag (flag : Flag) : Flag := { flag with isDropped := true }

def look (gate : Gate) : Gate :=
  match gate.wait with
  | some (.waiting receivers) => { gate with wait := some (await gate.flags receivers) }
  | _ => gate

def step (gate : Gate) (step : Step) : Gate :=
  look <|
    match step with
    | .mark i => { gate with flags := gate.flags.modify i markFlag }
    | .drop i => { gate with flags := gate.flags.modify i dropFlag }
    | .subscribe i =>
      match gate.flags[i]? with
      | some { isDropped := false, .. } => { gate with pending := gate.pending ++ [i] }
      | _ => gate
    | .wait => { gate with pending := [], wait := some (.waiting gate.pending) }

/-- What each flag says; nothing if it was dropped. -/
def shown (gate : Gate) : List (Option Bool) :=
  gate.flags.map fun flag => if flag.isDropped then none else some flag.isMarked

def result (gate : Gate) : Option Bool :=
  match gate.wait with
  | some (.finished result) => some result
  | _ => none

def isWaiting (gate : Gate) : Bool :=
  match gate.wait with
  | some (.waiting _) => true
  | _ => false

end Gate

end MeshPolicy
