import MeshPolicy.Text.Decimal
import MeshPolicy.Text.Split

/-! # The command line

The arguments are read from left to right. A flag may carry its value behind an equals sign, or else
the next argument that is no flag is its value; then it is taken in when the next flag is met, or at
the end. No flag may be given twice.

* `Settings`: what the flags say, with the defaults of those that are not given.
* `Word.ofArgument`: an argument taken for itself.
* `Flag.store?`: what a flag does to the settings.
* `Reading.read`, `Reading.finish`: one argument, and the end.
* `Settings.parse`: the settings of a whole command line.
-/

namespace MeshPolicy
set_option autoImplicit false

namespace CommandLine

structure Settings where
  dnsSuffix : String := "svc.cluster.local"
  /-- How often every domain is looked at, whatever the watches say. -/
  pollIntervalSecs : UInt64 := 60
  /-- How long the start waits for the caches. -/
  cacheSyncTimeoutSecs : UInt64 := 60
  maxRetries : UInt32 := 3
  disableOnboarding : Bool := false
  deriving DecidableEq, Repr

inductive Refusal where
  /-- An argument that is neither a flag nor the value of one. -/
  | unknownArgument
  | missingValue
  | badValue
  | repeated
  /-- A value for a flag that takes none. -/
  | surplusValue
  | helpWanted
  deriving DecidableEq, Repr

def Refusal.kind : Refusal → String
  | unknownArgument => "UnknownArgument"
  | missingValue => "InvalidValue"
  | badValue => "ValueValidation"
  | repeated => "ArgumentConflict"
  | surplusValue => "TooManyValues"
  | helpWanted => "DisplayHelp"

/-! ## Arguments -/

inductive Word where
  /-- The end of the flags. -/
  | separator
  /-- A flag by its name, with the value behind an equals sign. -/
  | long (name : String) (attached : Option String)
  /-- A flag by its letter. -/
  | short (letter : Char)
  | plain
  deriving DecidableEq, Repr

def Word.ofArgument (argument : String) : Word :=
  match argument.toList with
  | ['-', '-'] => separator
  | '-' :: '-' :: rest =>
    match Text.splitFirst '=' rest with
    | some (name, value) => long (.ofList name) (some (.ofList value))
    | none => long (.ofList rest) none
  | '-' :: letter :: _ => short letter
  | _ => plain

/-! ## Flags -/

inductive Flag where
  | dnsSuffix
  | pollInterval
  | cacheSyncTimeout
  | maxRetries
  | disableOnboarding
  | logLevel
  | logFormat
  | cluster
  | context
  | kubeconfig
  | user
  | asUser
  | asGroup
  | adminAddress
  | help
  deriving DecidableEq, Repr

namespace Flag

def all : List Flag :=
  [dnsSuffix, pollInterval, cacheSyncTimeout, maxRetries, disableOnboarding, logLevel, logFormat,
    cluster, context, kubeconfig, user, asUser, asGroup, adminAddress, help]

def name : Flag → String
  | dnsSuffix => "dns-suffix"
  | pollInterval => "poll-interval-secs"
  | cacheSyncTimeout => "cache-sync-timeout-secs"
  | maxRetries => "max-retries"
  | disableOnboarding => "disable-onboarding"
  | logLevel => "log-level"
  | logFormat => "log-format"
  | cluster => "cluster"
  | context => "context"
  | kubeconfig => "kubeconfig"
  | user => "user"
  | asUser => "as"
  | asGroup => "as-group"
  | adminAddress => "admin-addr"
  | help => "help"

def ofName? (name : String) : Option Flag := all.find? fun flag => flag.name == name

def takesValue : Flag → Bool
  | disableOnboarding | help => false
  | _ => true

end Flag

/-! ## Values -/

/-- A number that may have a plus sign. -/
def natural? (value : String) : Option Nat :=
  match value.toList with
  | '+' :: digits => Text.readDigits? digits
  | digits => Text.readDigits? digits

/-- A number that may have a sign; with a minus sign it can only be zero. -/
def signed? (value : String) : Option Nat :=
  match value.toList with
  | '-' :: digits => (Text.readDigits? digits).filter (· == 0)
  | _ => natural? value

def uint64? (value : String) : Option UInt64 :=
  ((natural? value).filter (· < UInt64.size)).map UInt64.ofNat

def uint32? (value : String) : Option UInt32 :=
  ((signed? value).filter (· < UInt32.size)).map UInt32.ofNat

/-- The settings with the value of one more flag; none if the flag does not take the value. The
flags that say nothing about the settings take any text, but for the format of the log. -/
def Flag.store? (settings : Settings) (value : String) : Flag → Option Settings
  | dnsSuffix => some { settings with dnsSuffix := value }
  | pollInterval => (uint64? value).map fun pollIntervalSecs => { settings with pollIntervalSecs }
  | cacheSyncTimeout =>
    (uint64? value).map fun cacheSyncTimeoutSecs => { settings with cacheSyncTimeoutSecs }
  | maxRetries => (uint32? value).map fun maxRetries => { settings with maxRetries }
  | disableOnboarding => some { settings with disableOnboarding := true }
  | logFormat => if value = "plain" ∨ value = "json" then some settings else none
  | _ => some settings

/-! ## Reading -/

/-- A flag that has been met but not taken in yet, with its value if that has been met as well. -/
structure Pending where
  flag : Flag
  value : Option String := none
  deriving DecidableEq

structure Reading where
  settings : Settings := {}
  given : List Flag := []
  pending : Option Pending := none
  flagsEnded : Bool := false
  deriving DecidableEq

namespace Reading

def take (reading : Reading) (flag : Flag) (value : String) : Except Refusal Reading :=
  if reading.given.contains flag then .error .repeated
  else
    match flag.store? reading.settings value with
    | none => .error .badValue
    | some settings => .ok { reading with settings, given := flag :: reading.given }

def settle (reading : Reading) : Except Refusal Reading :=
  match reading.pending with
  | none => .ok reading
  | some { value := none, .. } => .error .missingValue
  | some { flag, value := some value } => { reading with pending := none }.take flag value

def meetHelp (reading : Reading) : Except Refusal Reading := do
  let _ ← reading.settle
  .error .helpWanted

/-- Meets a flag: it is taken in at once if it is complete. -/
def meetFlag (reading : Reading) (flag : Flag) (attached : Option String) :
    Except Refusal Reading :=
  match attached, flag.takesValue with
  | some _, false => .error .surplusValue
  | none, false =>
    if flag = .help then reading.meetHelp else do (← reading.settle).take flag ""
  | some value, true => do (← reading.settle).take flag value
  | none, true => reading.settle.map fun reading => { reading with pending := some { flag } }

/-- Meets an argument that is no flag: it can only be the value of the pending one. -/
def meetValue (reading : Reading) (value : String) : Except Refusal Reading :=
  match reading.pending with
  | some { flag, value := none } => .ok { reading with pending := some { flag, value } }
  | _ => .error .unknownArgument

def read (reading : Reading) (argument : String) : Except Refusal Reading :=
  if reading.flagsEnded then .error .unknownArgument
  else
    match Word.ofArgument argument with
    | .separator => .ok { reading with flagsEnded := true }
    | .long name attached =>
      match Flag.ofName? name with
      | none => .error .unknownArgument
      | some flag => reading.meetFlag flag attached
    | .short letter => if letter = 'h' then reading.meetHelp else .error .unknownArgument
    | .plain => reading.meetValue argument

def finish (reading : Reading) : Except Refusal Settings := reading.settle.map Reading.settings

end Reading

/-- The settings of a command line, given without the program's name. -/
def Settings.parse (arguments : List String) : Except Refusal Settings :=
  (arguments.foldlM Reading.read {}).bind Reading.finish

end CommandLine

end MeshPolicy
