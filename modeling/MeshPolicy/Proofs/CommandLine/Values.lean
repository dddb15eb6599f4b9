import MeshPolicy.CommandLine
import MeshPolicy.Proofs.Text.Decimal

/-! # What flags say about the settings

A flag's value is text. The settings take it as it stands, or as a number that fits into the word of
the setting.

* `Denotes`: the number that a text is read as. `uint64?_eq_some_iff`, `uint32?_eq_some_iff`: the
  readers of numbers.
* `Value`, `Settings.value`: the settings flag by flag.
* `isWritten_of_store?`, `store?_other`, `exists_store?`: all that a flag with a value does.
* `storeAll?`: one flag after another. `SaysFrom`: what the flags say together.
  `storeAll?_eq_some_iff`: the settings that come about are those that the flags say.
* `exists_storeAll?_iff`: settings come about if every flag takes its value.
-/

namespace MeshPolicy.CommandLine
set_option autoImplicit false

/-! ## Numbers -/

/-- A row of decimal digits, which may follow a plus sign, denotes a number. -/
def Denotes (written : String) (n : Nat) : Prop :=
  ∃ digits : List Char, (written.toList = digits ∨ written.toList = '+' :: digits) ∧
    digits ≠ [] ∧ (∀ c ∈ digits, c.isDigit = true) ∧ n = Nat.ofDigitChars 10 digits 0

theorem denotes_digits (n : Nat) : Denotes (Text.digits n) n :=
  ⟨Nat.toDigits 10 n, .inl String.toList_ofList, Nat.toDigits_ne_nil,
    fun _ hc => Nat.isDigit_of_mem_toDigits (by decide) (by decide) hc,
    Nat.ofDigitChars_ten_toDigits.symm⟩

def BeginsWithDash (written : String) : Prop := written.toList.head? = some '-'

instance (written : String) : Decidable (BeginsWithDash written) :=
  inferInstanceAs (Decidable (_ = _))

theorem Denotes.not_beginsWithDash {written : String} {n : Nat} (h : Denotes written n) :
    ¬ BeginsWithDash written := by
  obtain ⟨digits, hrow | hrow, _, hdigits, _⟩ := h
  · intro hdash
    have hmem : '-' ∈ digits := List.mem_of_head? (hrow ▸ hdash)
    exact absurd (hdigits '-' hmem) (by decide)
  · simp [BeginsWithDash, hrow]

theorem natural?_eq_some_iff {written : String} {n : Nat} :
    natural? written = some n ↔ Denotes written n := by
  unfold natural? Denotes
  split
  case h_1 digits hplus =>
    rw [Text.readDigits?_eq_some_iff, hplus]
    constructor
    · intro h
      exact ⟨digits, .inr rfl, h⟩
    · rintro ⟨row, hrow | hrow, hne, hdigits, hn⟩
      · have hsign : '+'.isDigit = true := hdigits '+' (by simp [← hrow])
        exact absurd hsign (by decide)
      · cases hrow
        exact ⟨hne, hdigits, hn⟩
  case h_2 hplain =>
    rw [Text.readDigits?_eq_some_iff]
    constructor
    · intro h
      exact ⟨written.toList, .inl rfl, h⟩
    · rintro ⟨row, hrow | hrow, h⟩
      · rw [hrow]
        exact h
      · exact absurd hrow (hplain row)

/-- A number is read into a word if the word can hold it. -/
theorem map_filter_eq_some_iff {W : Type} {ofNat : Nat → W} {toNat : W → Nat} {size : Nat}
    (hlt : ∀ word, toNat word < size) (hof : ∀ word, ofNat (toNat word) = word)
    (hto : ∀ n < size, toNat (ofNat n) = n) {read : Option Nat} {word : W} :
    (read.filter (· < size)).map ofNat = some word ↔ read = some (toNat word) := by
  constructor
  · intro h
    obtain ⟨n, hn, rfl⟩ := Option.map_eq_some_iff.1 h
    obtain ⟨hread, hfits⟩ := Option.filter_eq_some_iff.1 hn
    rw [hto n (of_decide_eq_true hfits)]
    exact hread
  · rintro rfl
    rw [Option.filter_some, if_pos (decide_eq_true (hlt word)), Option.map_some, hof]

theorem uint64?_eq_some_iff {written : String} {n : UInt64} :
    uint64? written = some n ↔ Denotes written n.toNat := by
  rw [uint64?, map_filter_eq_some_iff UInt64.toNat_lt (fun _ => UInt64.ofNat_toNat)
    fun _ => UInt64.toNat_ofNat_of_lt']
  exact natural?_eq_some_iff

theorem signed?_of_not_beginsWithDash {written : String} (h : ¬ BeginsWithDash written) :
    signed? written = natural? written := by
  unfold signed?
  split
  case h_1 digits hdash =>
    exact absurd (show BeginsWithDash written by rw [BeginsWithDash, hdash]; rfl) h
  case h_2 => rfl

theorem uint32?_eq_some_iff {written : String} (hplain : ¬ BeginsWithDash written) {n : UInt32} :
    uint32? written = some n ↔ Denotes written n.toNat := by
  rw [uint32?, signed?_of_not_beginsWithDash hplain,
    map_filter_eq_some_iff UInt32.toNat_lt (fun _ => UInt32.ofNat_toNat)
      fun _ => UInt32.toNat_ofNat_of_lt']
  exact natural?_eq_some_iff

/-! ## The settings flag by flag -/

inductive Value where
  | text (s : String)
  | number (n : Nat)
  | switch (on : Bool)
  | nothing
  deriving DecidableEq, Repr

/-- What the settings have for a flag; most flags say nothing about them. -/
def Settings.value (settings : Settings) : Flag → Value
  | .dnsSuffix => .text settings.dnsSuffix
  | .pollInterval => .number settings.pollIntervalSecs.toNat
  | .cacheSyncTimeout => .number settings.cacheSyncTimeoutSecs.toNat
  | .maxRetries => .number settings.maxRetries.toNat
  | .disableOnboarding => .switch settings.disableOnboarding
  | _ => .nothing

theorem Settings.ext_value {settings settings' : Settings}
    (h : ∀ flag, settings.value flag = settings'.value flag) : settings = settings' := by
  obtain ⟨suffix, interval, timeout, retries, disabled⟩ := settings
  obtain ⟨suffix', interval', timeout', retries', disabled'⟩ := settings'
  have hsuffix := h .dnsSuffix
  have hinterval := h .pollInterval
  have htimeout := h .cacheSyncTimeout
  have hretries := h .maxRetries
  have hdisabled := h .disableOnboarding
  simp only [value, Value.text.injEq, Value.number.injEq, Value.switch.injEq, UInt64.toNat_inj,
    UInt32.toNat_inj] at hsuffix hinterval htimeout hretries hdisabled
  subst hsuffix hinterval htimeout hretries hdisabled
  rfl

/-- A value as it is written behind its flag; a switch is on as soon as it is given. -/
def Value.IsWritten (written : String) : Value → Prop
  | .text s => s = written
  | .number n => Denotes written n
  | .switch on => on = true
  | .nothing => True

/-- How many numbers the setting of a flag can hold. -/
def Flag.bound? : Flag → Option Nat
  | pollInterval | cacheSyncTimeout => some UInt64.size
  | maxRetries => some UInt32.size
  | _ => none

/-- The flags that say something about the settings. -/
def Flag.own : List Flag := [dnsSuffix, pollInterval, cacheSyncTimeout, maxRetries, disableOnboarding]

/-- One of these flags with a value that, if it is a number, has no minus sign. -/
def Flag.IsClear (flag : Flag) (written : String) : Prop :=
  flag ∈ Flag.own ∧ (flag.bound? ≠ none → ¬ BeginsWithDash written)

/-- A value that its flag takes. -/
def Flag.Takes (flag : Flag) (written : String) : Prop :=
  ∀ bound, flag.bound? = some bound → ∃ n < bound, Denotes written n

/-! ## One flag -/

section

variable {flag : Flag} {written : String} {after : Settings}

theorem isWritten_of_store? {settings : Settings} (hclear : flag.IsClear written)
    (h : flag.store? settings written = some after) : (after.value flag).IsWritten written := by
  obtain ⟨hown, hplain⟩ := hclear
  cases flag
  case dnsSuffix | disableOnboarding =>
    cases h
    rfl
  case pollInterval | cacheSyncTimeout =>
    obtain ⟨n, hn, rfl⟩ := Option.map_eq_some_iff.1 h
    exact uint64?_eq_some_iff.1 hn
  case maxRetries =>
    obtain ⟨n, hn, rfl⟩ := Option.map_eq_some_iff.1 h
    exact (uint32?_eq_some_iff (hplain (by decide))).1 hn
  all_goals exact absurd hown (by decide)

theorem store?_other {settings : Settings} (hclear : flag.IsClear written)
    (h : flag.store? settings written = some after) {other : Flag} (hne : other ≠ flag) :
    after.value other = settings.value other := by
  obtain ⟨hown, _⟩ := hclear
  cases flag
  case dnsSuffix | disableOnboarding =>
    cases h
    cases other <;> first | rfl | exact absurd rfl hne
  case pollInterval | cacheSyncTimeout | maxRetries =>
    obtain ⟨n, _, rfl⟩ := Option.map_eq_some_iff.1 h
    cases other <;> first | rfl | exact absurd rfl hne
  all_goals exact absurd hown (by decide)

/-- A flag is taken in if there are settings that have what is written behind it. -/
theorem exists_store? (settings : Settings) (hclear : flag.IsClear written) {goal : Settings}
    (h : (goal.value flag).IsWritten written) :
    ∃ after, flag.store? settings written = some after ∧ after.value flag = goal.value flag := by
  obtain ⟨hown, hplain⟩ := hclear
  cases flag
  case dnsSuffix =>
    cases h
    exact ⟨_, rfl, rfl⟩
  case pollInterval | cacheSyncTimeout =>
    exact ⟨_, Option.map_eq_some_iff.2 ⟨_, uint64?_eq_some_iff.2 h, rfl⟩, rfl⟩
  case maxRetries =>
    exact ⟨_, Option.map_eq_some_iff.2 ⟨_, (uint32?_eq_some_iff (hplain (by decide))).2 h, rfl⟩, rfl⟩
  case disableOnboarding => exact ⟨_, rfl, congrArg Value.switch (Eq.symm h)⟩
  all_goals exact absurd hown (by decide)

theorem exists_store?_iff (settings : Settings) (hclear : flag.IsClear written) :
    (∃ after, flag.store? settings written = some after) ↔ flag.Takes written := by
  constructor
  · rintro ⟨after, hstore⟩ bound hbound
    have hwritten := isWritten_of_store? hclear hstore
    cases flag
    case pollInterval | cacheSyncTimeout =>
      cases hbound
      exact ⟨_, UInt64.toNat_lt _, hwritten⟩
    case maxRetries =>
      cases hbound
      exact ⟨_, UInt32.toNat_lt _, hwritten⟩
    all_goals cases hbound
  · intro htakes
    obtain ⟨hown, hplain⟩ := hclear
    cases flag
    case dnsSuffix | disableOnboarding => exact ⟨_, rfl⟩
    case pollInterval | cacheSyncTimeout =>
      obtain ⟨n, hlt, hn⟩ := htakes _ rfl
      rw [← UInt64.toNat_ofNat_of_lt' hlt] at hn
      exact ⟨_, Option.map_eq_some_iff.2 ⟨_, uint64?_eq_some_iff.2 hn, rfl⟩⟩
    case maxRetries =>
      obtain ⟨n, hlt, hn⟩ := htakes _ rfl
      rw [← UInt32.toNat_ofNat_of_lt' hlt] at hn
      exact ⟨_, Option.map_eq_some_iff.2 ⟨_, (uint32?_eq_some_iff (hplain (by decide))).2 hn, rfl⟩⟩
    all_goals exact absurd hown (by decide)

end

/-! ## One flag after another -/

/-- The settings with the values of some more flags; none if a flag does not take its value. -/
def storeAll? (settings : Settings) (said : List (Flag × String)) : Option Settings :=
  said.foldlM (fun settings given => given.1.store? settings given.2) settings

/-- Settings that have what is written behind each flag that is given, and what `start` has for all
other flags. -/
def SaysFrom (start : Settings) (said : List (Flag × String)) (settings : Settings) : Prop :=
  ∀ flag, (∀ written, (flag, written) ∈ said → (settings.value flag).IsWritten written) ∧
    (flag ∉ said.map Prod.fst → settings.value flag = start.value flag)

theorem saysFrom_cons {start middle settings : Settings} {flag : Flag} {written : String}
    {said : List (Flag × String)}
    (hother : ∀ other, other ≠ flag → middle.value other = start.value other)
    (hown : middle.value flag = settings.value flag) :
    SaysFrom start ((flag, written) :: said) settings ↔
      (settings.value flag).IsWritten written ∧ SaysFrom middle said settings := by
  constructor
  · intro h
    refine ⟨(h flag).1 written List.mem_cons_self, fun other => ⟨fun written' hmem => ?_, fun hnot => ?_⟩⟩
    · exact (h other).1 written' (List.mem_cons_of_mem _ hmem)
    · by_cases heq : other = flag
      · rw [heq, hown]
      · rw [hother other heq]
        exact (h other).2 (by simpa [heq] using hnot)
  · rintro ⟨hwritten, h⟩ other
    refine ⟨fun written' hmem => ?_, fun hnot => ?_⟩
    · rcases List.mem_cons.1 hmem with heq | hmem
      · cases heq
        exact hwritten
      · exact (h other).1 written' hmem
    · obtain ⟨hne, hnot⟩ := not_or.1 (mt List.mem_cons.2 hnot)
      rw [(h other).2 hnot, hother other hne]

/-- If no flag is given twice, the settings that come about are those that the flags say. -/
theorem storeAll?_eq_some_iff {said : List (Flag × String)}
    (hclear : ∀ given ∈ said, given.1.IsClear given.2) (honce : (said.map Prod.fst).Nodup)
    {start settings : Settings} :
    storeAll? start said = some settings ↔ SaysFrom start said settings := by
  induction said generalizing start with
  | nil =>
    simp only [storeAll?, List.foldlM_nil, Option.pure_def, Option.some.injEq]
    constructor
    · rintro rfl flag
      exact ⟨fun _ hmem => absurd hmem List.not_mem_nil, fun _ => rfl⟩
    · intro h
      exact Settings.ext_value fun flag => ((h flag).2 List.not_mem_nil).symm
  | cons given rest ih =>
    obtain ⟨flag, written⟩ := given
    have hfirst : flag.IsClear written := hclear _ List.mem_cons_self
    have hrest : ∀ given ∈ rest, given.1.IsClear given.2 := fun given hmem =>
      hclear given (List.mem_cons_of_mem _ hmem)
    obtain ⟨hnot, honce⟩ := List.nodup_cons.1 honce
    simp only [storeAll?, List.foldlM_cons, Option.bind_eq_bind, Option.bind_eq_some_iff]
    constructor
    · rintro ⟨middle, hstore, hsettings⟩
      have hmiddle := (ih hrest honce).1 hsettings
      have hown : settings.value flag = middle.value flag := (hmiddle flag).2 hnot
      have hwritten : (settings.value flag).IsWritten written :=
        hown ▸ isWritten_of_store? hfirst hstore
      exact (saysFrom_cons (fun _ hne => store?_other hfirst hstore hne) hown.symm).2
        ⟨hwritten, hmiddle⟩
    · intro h
      have hwritten := (h flag).1 written List.mem_cons_self
      obtain ⟨middle, hstore, hown⟩ := exists_store? start hfirst hwritten
      have hmiddle := (saysFrom_cons (fun _ hne => store?_other hfirst hstore hne) hown).1 h
      exact ⟨middle, hstore, (ih hrest honce).2 hmiddle.2⟩

theorem exists_storeAll?_iff {said : List (Flag × String)}
    (hclear : ∀ given ∈ said, given.1.IsClear given.2) (start : Settings) :
    (∃ settings, storeAll? start said = some settings) ↔ ∀ given ∈ said, given.1.Takes given.2 := by
  induction said generalizing start with
  | nil => simp [storeAll?]
  | cons given rest ih =>
    obtain ⟨hfirst, hrest⟩ := List.forall_mem_cons.1 hclear
    simp only [storeAll?, List.foldlM_cons, Option.bind_eq_bind, Option.bind_eq_some_iff,
      List.forall_mem_cons]
    rw [← exists_store?_iff start hfirst]
    constructor
    · rintro ⟨settings, middle, hstore, hsettings⟩
      exact ⟨⟨middle, hstore⟩, (ih hrest middle).1 ⟨settings, hsettings⟩⟩
    · rintro ⟨⟨middle, hstore⟩, htake⟩
      obtain ⟨settings, hsettings⟩ := (ih hrest middle).2 htake
      exact ⟨settings, middle, hstore, hsettings⟩

end MeshPolicy.CommandLine
