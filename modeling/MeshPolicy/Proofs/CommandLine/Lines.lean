import MeshPolicy.Proofs.CommandLine.Values

/-! # Command lines mean what they say

The flags of a command line may stand in any order, and each value behind an equals sign or as the next
argument. A value that stands apart is taken in late, when the next flag is met or at the end, and this
makes no difference.

* `Given`, `Line`: flags as they are given, each at most once. `Line.arguments`: the arguments that
  they are written as. `Line.said`: what they say, whatever the spelling.
* `takeAll`: flags taken in at once. `AmountsTo`: what has been read so far, once it is settled;
  `amountsTo_givens`: it is the same as if all flags had been taken in at once.
* `parse_arguments`: a line is read as one flag after another.
* `Line.Says`: the settings that a line says. `parse_undoes_writing`: these are the ones that are read.
-/

namespace MeshPolicy.CommandLine
set_option autoImplicit false

/-! ## Lines -/

/-- A setting that is given as a value. -/
inductive Field where
  | dnsSuffix
  | pollInterval
  | cacheSyncTimeout
  | maxRetries
  deriving DecidableEq, Repr

def Field.flag : Field → Flag
  | dnsSuffix => .dnsSuffix
  | pollInterval => .pollInterval
  | cacheSyncTimeout => .cacheSyncTimeout
  | maxRetries => .maxRetries

theorem Field.flag_mem_own (field : Field) : field.flag ∈ Flag.own := by
  cases field <;> decide

theorem Field.takesValue_flag (field : Field) : field.flag.takesValue = true := by
  cases field <;> rfl

/-- A flag as it is given. -/
inductive Given where
  /-- With its value behind an equals sign. -/
  | joined (field : Field) (value : String)
  /-- With its value as the next argument. -/
  | apart (field : Field) (value : String)
  /-- The flag without a value: onboarding is disabled. -/
  | switch
  deriving DecidableEq, Repr

namespace Given

def arguments : Given → List String
  | joined field value => ["--" ++ field.flag.name ++ "=" ++ value]
  | apart field value => ["--" ++ field.flag.name, value]
  | switch => ["--" ++ Flag.disableOnboarding.name]

/-- What is said, in either spelling. -/
def said : Given → Flag × String
  | joined field value | apart field value => (field.flag, value)
  | switch => (.disableOnboarding, "")

/-- A dash at its beginning may be taken for a sign or a flag, and so only a text behind an equals sign
may begin with one. -/
def IsClear : Given → Prop
  | joined field value => field.flag.bound? ≠ none → ¬ BeginsWithDash value
  | apart _ value => ¬ BeginsWithDash value
  | switch => True

instance : (given : Given) → Decidable given.IsClear
  | joined _ _ => inferInstanceAs (Decidable (_ → ¬ _))
  | apart _ _ => inferInstanceAs (Decidable (¬ _))
  | switch => inferInstanceAs (Decidable True)

theorem IsClear.flag {given : Given} (h : given.IsClear) : given.said.1.IsClear given.said.2 := by
  cases given with
  | joined field value => exact ⟨field.flag_mem_own, h⟩
  | apart field value => exact ⟨field.flag_mem_own, fun _ => h⟩
  | switch => exact ⟨by decide, fun hbound => absurd rfl hbound⟩

end Given

/-- Flags with clear values, each given at most once. -/
structure Line where
  givens : List Given
  clear : ∀ given ∈ givens, given.IsClear
  once : (givens.map fun given => given.said.1).Nodup

namespace Line

def arguments (line : Line) : List String := line.givens.flatMap Given.arguments

def said (line : Line) : List (Flag × String) := line.givens.map Given.said

theorem clear_said (line : Line) : ∀ given ∈ line.said, given.1.IsClear given.2 := fun given hmem => by
  obtain ⟨own, hown, rfl⟩ := List.mem_map.1 hmem
  exact (line.clear own hown).flag

theorem once_said (line : Line) : (line.said.map Prod.fst).Nodup := by
  rw [said, List.map_map]
  exact line.once

end Line

/-! ## Arguments taken for themselves -/

theorem ofName?_name (flag : Flag) : Flag.ofName? flag.name = some flag := by
  cases flag <;> decide

theorem exists_toList_name (flag : Flag) : ∃ c rest, flag.name.toList = c :: rest := by
  cases flag <;> exact ⟨_, _, rfl⟩

theorem equals_notMem_name (flag : Flag) : '=' ∉ flag.name.toList := by
  cases flag <;> decide

theorem ofArgument_name (flag : Flag) :
    Word.ofArgument ("--" ++ flag.name) = .long flag.name none := by
  obtain ⟨c, rest, hname⟩ := exists_toList_name flag
  have hnone : Text.splitFirst '=' (c :: rest) = none := by
    rw [← hname]
    exact Text.splitFirst_eq_none_iff.2 (equals_notMem_name flag)
  have hlist : ("--" ++ flag.name).toList = '-' :: '-' :: c :: rest := by
    rw [String.toList_append, hname]
    rfl
  simp only [Word.ofArgument, hlist, hnone]
  rw [← hname, String.ofList_toList]

theorem ofArgument_joined (flag : Flag) (value : String) :
    Word.ofArgument ("--" ++ flag.name ++ "=" ++ value) = .long flag.name (some value) := by
  obtain ⟨c, rest, hname⟩ := exists_toList_name flag
  have hcut : Text.splitFirst '=' (c :: rest ++ '=' :: value.toList) =
      some (flag.name.toList, value.toList) := by
    rw [← hname]
    exact Text.splitFirst_eq_some_iff.2 ⟨rfl, equals_notMem_name flag⟩
  have hlist : ("--" ++ flag.name ++ "=" ++ value).toList =
      '-' :: '-' :: c :: (rest ++ '=' :: value.toList) := by
    simp only [String.toList_append, hname, List.append_assoc]
    rfl
  rw [List.cons_append] at hcut
  simp only [Word.ofArgument, hlist, hcut, String.ofList_toList]

theorem ofArgument_plain {value : String} (h : ¬ BeginsWithDash value) :
    Word.ofArgument value = .plain := by
  unfold Word.ofArgument
  split
  case h_4 => rfl
  all_goals
    rename_i hlist
    exact absurd (show BeginsWithDash value by rw [BeginsWithDash, hlist]; rfl) h

/-! ## Flags taken in at once -/

def takeAll (reading : Reading) (said : List (Flag × String)) : Except Refusal Reading :=
  said.foldlM (fun reading given => reading.take given.1 given.2) reading

/-- A flag that is given for the first time is taken in if it takes its value. -/
theorem take_of_not_given {reading : Reading} {flag : Flag} (h : flag ∉ reading.given)
    (written : String) :
    reading.take flag written = (flag.store? reading.settings written).elim (.error .badValue)
      fun settings => .ok { reading with settings, given := flag :: reading.given } := by
  rw [Reading.take, if_neg (by simpa using h)]
  cases flag.store? reading.settings written <;> rfl

/-- If no flag is given twice, only a value can be refused. -/
theorem takeAll_settings {said : List (Flag × String)} (reading : Reading)
    (honce : (said.map Prod.fst).Nodup) (hfresh : ∀ flag ∈ said.map Prod.fst, flag ∉ reading.given) :
    (takeAll reading said).map Reading.settings =
      (storeAll? reading.settings said).elim (.error .badValue) .ok := by
  induction said generalizing reading with
  | nil => rfl
  | cons given rest ih =>
    obtain ⟨flag, written⟩ := given
    obtain ⟨hnot, honce⟩ := List.nodup_cons.1 honce
    obtain ⟨hfirst, hrest⟩ := List.forall_mem_cons.1 hfresh
    simp only [takeAll, storeAll?, List.foldlM_cons, take_of_not_given hfirst]
    cases hstore : flag.store? reading.settings written with
    | none => rfl
    | some settings =>
      refine ih { reading with settings, given := flag :: reading.given } honce fun other hother => ?_
      have hne : other ≠ flag := fun heq => hnot (heq ▸ hother)
      exact List.not_mem_cons_of_ne_of_not_mem hne (hrest other hother)

/-! ## What has been read so far -/

/-- A reading that goes on, or its refusal, comes to `settled` once what is pending is taken in. -/
inductive AmountsTo : Except Refusal Reading → Except Refusal Reading → Prop where
  | refused (refusal : Refusal) : AmountsTo (.error refusal) (.error refusal)
  | going {reading : Reading} (hopen : reading.flagsEnded = false) :
      AmountsTo (.ok reading) reading.settle

theorem AmountsTo.bind_settle {read settled : Except Refusal Reading} (h : AmountsTo read settled) :
    read.bind Reading.settle = settled := by
  cases h <;> rfl

/-- More that is read adds to what has been settled before it. -/
theorem AmountsTo.bind {read settled : Except Refusal Reading}
    {more rest : Reading → Except Refusal Reading} (h : AmountsTo read settled)
    (hmore : ∀ reading : Reading, reading.flagsEnded = false →
      AmountsTo (more reading) (reading.settle.bind rest)) :
    AmountsTo (read.bind more) (settled.bind rest) := by
  cases h with
  | refused refusal => exact .refused refusal
  | going hopen => exact hmore _ hopen

section

variable {reading : Reading}

theorem take_keeps {after : Reading} {flag : Flag} {value : String}
    (h : reading.take flag value = .ok after) :
    after.flagsEnded = reading.flagsEnded ∧ after.pending = reading.pending := by
  unfold Reading.take at h
  split at h
  case isTrue => cases h
  case isFalse =>
    split at h
    case h_1 => cases h
    case h_2 =>
      cases h
      exact ⟨rfl, rfl⟩

theorem settle_idle (h : reading.pending = none) : reading.settle = .ok reading := by
  rw [Reading.settle, h]

theorem settle_keeps {after : Reading} (h : reading.settle = .ok after) :
    after.flagsEnded = reading.flagsEnded ∧ after.pending = none := by
  unfold Reading.settle at h
  split at h
  case h_1 hnone =>
    cases h
    exact ⟨rfl, hnone⟩
  case h_2 => cases h
  case h_3 =>
    obtain ⟨hended, hpending⟩ := take_keeps h
    exact ⟨hended, hpending⟩

theorem read_joined (hopen : reading.flagsEnded = false) (field : Field) (value : String) :
    reading.read ("--" ++ field.flag.name ++ "=" ++ value) =
      reading.settle.bind (·.take field.flag value) := by
  simp only [Reading.read, hopen, ofArgument_joined, ofName?_name, Reading.meetFlag,
    field.takesValue_flag]
  rfl

theorem read_switch (hopen : reading.flagsEnded = false) :
    reading.read ("--" ++ Flag.disableOnboarding.name) =
      reading.settle.bind (·.take .disableOnboarding "") := by
  simp only [Reading.read, hopen, ofArgument_name, ofName?_name, Reading.meetFlag, Flag.takesValue]
  rfl

theorem read_name (hopen : reading.flagsEnded = false) (field : Field) :
    reading.read ("--" ++ field.flag.name) =
      reading.settle.map fun reading => { reading with pending := some { flag := field.flag } } := by
  simp only [Reading.read, hopen, ofArgument_name, ofName?_name, Reading.meetFlag,
    field.takesValue_flag]
  rfl

theorem read_value (hopen : reading.flagsEnded = false) (flag : Flag) {value : String}
    (hplain : ¬ BeginsWithDash value) :
    { reading with pending := some { flag } }.read value =
      .ok { reading with pending := some { flag, value := some value } } := by
  simp only [Reading.read, hopen, ofArgument_plain hplain, Reading.meetValue]
  rfl

/-- A flag that is taken in at once leaves nothing pending. -/
theorem amountsTo_take (hopen : reading.flagsEnded = false) (flag : Flag) (value : String) :
    AmountsTo (reading.settle.bind (·.take flag value)) (reading.settle.bind (·.take flag value)) := by
  cases hsettle : reading.settle with
  | error refusal => exact .refused refusal
  | ok settled =>
    obtain ⟨hended, hidle⟩ := settle_keeps hsettle
    show AmountsTo (settled.take flag value) (settled.take flag value)
    cases htake : settled.take flag value with
    | error refusal => exact .refused refusal
    | ok after =>
      obtain ⟨hended', hidle'⟩ := take_keeps htake
      have hgoing : AmountsTo (.ok after) after.settle :=
        .going (hended'.trans (hended.trans hopen))
      rw [settle_idle (hidle'.trans hidle)] at hgoing
      exact hgoing

/-- A flag whose value stands apart is taken in late. -/
theorem amountsTo_apart (hopen : reading.flagsEnded = false) (field : Field) {value : String}
    (hplain : ¬ BeginsWithDash value) :
    AmountsTo ((Given.apart field value).arguments.foldlM Reading.read reading)
      (reading.settle.bind (·.take field.flag value)) := by
  rw [Given.arguments, List.foldlM_cons, read_name hopen]
  cases hsettle : reading.settle with
  | error refusal => exact .refused refusal
  | ok settled =>
    obtain ⟨hended, hidle⟩ := settle_keeps hsettle
    have hvalue := read_value (hended.trans hopen) field.flag hplain
    have hgoing : AmountsTo
        (.ok { settled with pending := some { flag := field.flag, value := some value } })
        ({ settled with pending := none }.take field.flag value) := .going (hended.trans hopen)
    have hsettled : { settled with pending := none } = settled := by
      rw [← hidle]
    show AmountsTo (({ settled with pending := some { flag := field.flag } }.read value).bind .ok)
      (settled.take field.flag value)
    rw [hvalue, ← hsettled]
    exact hgoing

/-- What a flag is settled to be does not depend on its spelling. -/
theorem amountsTo_given (hopen : reading.flagsEnded = false) {given : Given} (h : given.IsClear) :
    AmountsTo (given.arguments.foldlM Reading.read reading)
      (reading.settle.bind (·.take given.said.1 given.said.2)) := by
  cases given with
  | joined field value =>
    simp only [Given.arguments, List.foldlM_cons, List.foldlM_nil, bind_pure, read_joined hopen]
    exact amountsTo_take hopen field.flag value
  | apart field value => exact amountsTo_apart hopen field h
  | switch =>
    simp only [Given.arguments, List.foldlM_cons, List.foldlM_nil, bind_pure, read_switch hopen]
    exact amountsTo_take hopen .disableOnboarding ""

/-- A row of flags comes to the same as if all of them had been taken in at once. -/
theorem amountsTo_givens (hopen : reading.flagsEnded = false) {givens : List Given}
    (hclear : ∀ given ∈ givens, given.IsClear) :
    AmountsTo ((givens.flatMap Given.arguments).foldlM Reading.read reading)
      (reading.settle.bind (takeAll · (givens.map Given.said))) := by
  induction givens generalizing reading with
  | nil =>
    have hall : reading.settle.bind (takeAll · []) = reading.settle := bind_pure reading.settle
    rw [List.map_nil, hall]
    exact .going hopen
  | cons given rest ih =>
    obtain ⟨hfirst, hrest⟩ := List.forall_mem_cons.1 hclear
    have hall : reading.settle.bind (takeAll · ((given :: rest).map Given.said)) =
        (reading.settle.bind (·.take given.said.1 given.said.2)).bind
          (takeAll · (rest.map Given.said)) := by
      cases reading.settle <;> rfl
    rw [hall, List.flatMap_cons, List.foldlM_append]
    exact (amountsTo_given hopen hfirst).bind fun _ hopen => ih hopen hrest

end

/-! ## Whole lines -/

/-- A line is read as one flag after another, and only values can be refused. -/
theorem parse_arguments (line : Line) :
    Settings.parse line.arguments = (storeAll? {} line.said).elim (.error .badValue) .ok := by
  have hopen : ({} : Reading).flagsEnded = false := rfl
  have hread : (line.arguments.foldlM Reading.read {}).bind Reading.settle =
      takeAll {} line.said := (amountsTo_givens hopen line.clear).bind_settle
  have hfinish : Settings.parse line.arguments =
      ((line.arguments.foldlM Reading.read {}).bind Reading.settle).map Reading.settings := by
    unfold Settings.parse Reading.finish
    cases line.arguments.foldlM Reading.read {} <;> rfl
  rw [hfinish, hread]
  exact takeAll_settings {} line.once_said fun _ _ => List.not_mem_nil

namespace Line

/-- The settings that have what is written behind each flag of the line, and else the defaults. -/
def Says (line : Line) (settings : Settings) : Prop := SaysFrom {} line.said settings

variable {line line' : Line}

theorem parse_eq_ok_iff {settings : Settings} :
    Settings.parse line.arguments = .ok settings ↔ line.Says settings := by
  have hstored : storeAll? {} line.said = some settings ↔ SaysFrom {} line.said settings :=
    storeAll?_eq_some_iff line.clear_said line.once_said
  rw [parse_arguments, Says, ← hstored]
  cases storeAll? {} line.said <;> simp [Option.elim]

theorem exists_parse_iff :
    (∃ settings, Settings.parse line.arguments = .ok settings) ↔
      ∀ given ∈ line.said, given.1.Takes given.2 := by
  rw [← exists_storeAll?_iff line.clear_said {}, parse_arguments]
  cases storeAll? {} line.said <;> simp [Option.elim]

/-- The order of the flags and the spelling of their values make no difference. -/
theorem parse_congr (h : line.said.Perm line'.said) :
    Settings.parse line.arguments = Settings.parse line'.arguments := by
  have hstored : storeAll? {} line.said = storeAll? {} line'.said := Option.ext fun settings => by
    rw [storeAll?_eq_some_iff line.clear_said line.once_said,
      storeAll?_eq_some_iff line'.clear_said line'.once_said]
    unfold SaysFrom
    simp only [h.mem_iff, (h.map Prod.fst).mem_iff]
  rw [parse_arguments, parse_arguments, hstored]

end Line

/-! ## Every configuration can be written down -/

namespace Settings

/-- The settings written down in full. -/
def written (settings : Settings) : List Given :=
  [.joined .dnsSuffix settings.dnsSuffix,
    .joined .pollInterval (Text.digits settings.pollIntervalSecs.toNat),
    .joined .cacheSyncTimeout (Text.digits settings.cacheSyncTimeoutSecs.toNat),
    .joined .maxRetries (Text.digits settings.maxRetries.toNat)] ++
  if settings.disableOnboarding then [.switch] else []

theorem clear_written (settings : Settings) : ∀ given ∈ settings.written, given.IsClear := by
  have hdigits : ∀ n, ¬ BeginsWithDash (Text.digits n) := fun n =>
    (denotes_digits n).not_beginsWithDash
  cases hswitch : settings.disableOnboarding <;>
    simp [written, hswitch, Given.IsClear, Field.flag, Flag.bound?, hdigits]

theorem once_written (settings : Settings) :
    (settings.written.map fun given => given.said.1).Nodup := by
  cases hswitch : settings.disableOnboarding <;>
    simp [written, hswitch, Given.said, Field.flag]

theorem isWritten_written (settings : Settings) :
    ∀ given ∈ settings.written, (settings.value given.said.1).IsWritten given.said.2 := by
  cases hswitch : settings.disableOnboarding <;>
    simp [written, hswitch, Given.said, Field.flag, value, Value.IsWritten, denotes_digits]

/-- What is not written down has its default. -/
theorem value_of_not_written (settings : Settings) {flag : Flag}
    (h : flag ∉ settings.written.map fun given => given.said.1) :
    settings.value flag = ({} : Settings).value flag := by
  cases flag
  case dnsSuffix | pollInterval | cacheSyncTimeout | maxRetries =>
    exact absurd (by simp [written, Given.said, Field.flag]) h
  case disableOnboarding =>
    cases hswitch : settings.disableOnboarding
    case false => exact congrArg Value.switch hswitch
    case true => exact absurd (by simp [written, hswitch, Given.said]) h
  all_goals rfl

theorem exists_line (settings : Settings) : ∃ line : Line, line.Says settings := by
  refine ⟨⟨settings.written, settings.clear_written, settings.once_written⟩, fun flag => ?_⟩
  refine ⟨fun value hmem => ?_, fun hnot => ?_⟩
  · obtain ⟨given, hgiven, hsaid⟩ := List.mem_map.1 hmem
    have hwritten := settings.isWritten_written given hgiven
    rw [hsaid] at hwritten
    exact hwritten
  · rw [Line.said, List.map_map] at hnot
    exact settings.value_of_not_written hnot

end Settings

/-- The program's own flags mean what they say. A line of them is read if every number in it is one that
its setting can hold, and then as the settings that it says: what is written behind each flag, and the
defaults of the others. Neither the order of the flags nor the spelling of their values makes a
difference, and all settings can be written down. -/
theorem parse_undoes_writing :
    (∀ (line : Line) (settings : Settings),
      Settings.parse line.arguments = .ok settings ↔ line.Says settings) ∧
    (∀ line : Line, (∃ settings, Settings.parse line.arguments = .ok settings) ↔
      ∀ given ∈ line.said, given.1.Takes given.2) ∧
    (∀ line line' : Line, line.said.Perm line'.said →
      Settings.parse line.arguments = Settings.parse line'.arguments) ∧
    ∀ settings : Settings, ∃ line : Line, line.Says settings :=
  ⟨fun _ _ => Line.parse_eq_ok_iff, fun _ => Line.exists_parse_iff, fun _ _ => Line.parse_congr,
    Settings.exists_line⟩

/-! ### Three flags in two orders -/

namespace Shuffled

def first : Line where
  givens := [.apart .maxRetries "+5", .switch, .joined .dnsSuffix "-x=y"]
  clear := by decide
  once := by decide

def second : Line where
  givens := [.joined .dnsSuffix "-x=y", .joined .maxRetries "+5", .switch]
  clear := by decide
  once := by decide

end Shuffled

theorem parse_undoes_writing_shuffled :
    Shuffled.first.said.Perm Shuffled.second.said ∧
    Settings.parse Shuffled.first.arguments = Settings.parse Shuffled.second.arguments := by
  have hperm : Shuffled.first.said.Perm Shuffled.second.said := by decide
  obtain ⟨_, _, hcongr, _⟩ := parse_undoes_writing
  exact ⟨hperm, hcongr Shuffled.first Shuffled.second hperm⟩

example :
    (Settings.parse ["--max-retries", "+5", "--disable-onboarding", "--dns-suffix=-x=y"]).toOption =
      some { dnsSuffix := "-x=y", maxRetries := 5, disableOnboarding := true } := by
  decide +kernel

end MeshPolicy.CommandLine
