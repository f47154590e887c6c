import Readiness.Proofs.Attempt.Sequence
import Readiness.Proofs.Yaml.Literals
import Readiness.Settings

/-!
# Sources — where the value of a setting comes from

* `Setting`: the seven settings that a file or the environment may give, each with its kind, its key
  and its variable; `Settings.read` is the value of a setting, and `Settings.eq_of_read` says that
  these values are all there is;
* `Settings.exists_setByName_iff` and `Settings.read_setByName`: an object is accepted when each of
  its values is of the kind of its key, and changes exactly the settings that it names;
* `Settings.overlay_eq_error_iff` and `Settings.read_overlay`: the environment is refused for its first
  count of seconds that is none, and changes exactly the settings whose variables are not blank;
* `Settings.Counts`: a text is a count of seconds;
* `Settings.load_takes_first_source`: every setting is that of the environment, or of the file, or the
  default.
-/

namespace Readiness

open Json (Value)

/-! ## Settings one by one -/

inductive Setting where
  | kubeconfig
  | context
  | pollInterval
  | pollTimeout
  | tunnelReadyTimeout
  | manifestRoot
  | logFormat
deriving DecidableEq, Repr

namespace Setting

inductive Kind where
  -- A text, or none.
  | optionalText
  -- A count of whole seconds.
  | seconds
  | text
deriving DecidableEq, Repr

/-- A value is of a kind. -/
inductive Kind.Admits : Kind → Value → Prop
  | none : Admits .optionalText .null
  | some (s : String) : Admits .optionalText (.str s)
  | seconds (n : Nat) : Admits .seconds (.num (.int n))
  | text (s : String) : Admits .text (.str s)

def all : List Setting :=
  [kubeconfig, context, pollInterval, pollTimeout, tunnelReadyTimeout, manifestRoot, logFormat]

theorem mem_all (setting : Setting) : setting ∈ all := by
  cases setting <;> decide

def kind : Setting → Kind
  | kubeconfig => .optionalText
  | context => .optionalText
  | pollInterval => .seconds
  | pollTimeout => .seconds
  | tunnelReadyTimeout => .seconds
  | manifestRoot => .text
  | logFormat => .text

/-- The key of a setting, in the order of the keys. -/
def key : Setting → Settings.Key
  | kubeconfig => Settings.keys[0]
  | context => Settings.keys[1]
  | pollInterval => Settings.keys[2]
  | pollTimeout => Settings.keys[3]
  | tunnelReadyTimeout => Settings.keys[4]
  | manifestRoot => Settings.keys[5]
  | logFormat => Settings.keys[6]

theorem keys_eq : Settings.keys = all.map key := rfl

def variableName : Setting → String
  | kubeconfig => Settings.kubeconfigVariable
  | context => Settings.contextVariable
  | pollInterval => Settings.pollIntervalVariable
  | pollTimeout => Settings.pollTimeoutVariable
  | tunnelReadyTimeout => Settings.tunnelReadyTimeoutVariable
  | manifestRoot => Settings.manifestRootVariable
  | logFormat => Settings.logFormatVariable

/-- No two settings have one key. -/
theorem key_name_injective : Function.Injective fun setting => (key setting).name := by
  intro setting other same
  cases setting <;> cases other <;> first | rfl | exact absurd same (by decide)

example : (all.map fun setting => (key setting).name) =
    ["kubeconfig", "context", "pollIntervalSecs", "pollTimeoutSecs", "tunnelReadyTimeoutSecs",
      "manifestRoot", "logFormat"] := rfl

/-- No two settings have one variable. -/
theorem variableName_injective : Function.Injective variableName := by
  intro setting other same
  cases setting <;> cases other <;> first | rfl | exact absurd same (by decide)

example : all.map variableName =
    ["VIGIL_KUBECONFIG", "VIGIL_CONTEXT", "VIGIL_POLL_INTERVAL_SECS", "VIGIL_POLL_TIMEOUT_SECS",
      "VIGIL_TUNNEL_READY_TIMEOUT_SECS", "VIGIL_MANIFEST_ROOT", "VIGIL_LOG_FORMAT"] := rfl

end Setting

namespace Settings

variable {s s' : Settings} {setting other : Setting} {value : Value} {entries : Dict Value}
  {env : Environment}

/-- A text or none as plain data. -/
def optionalValue (text : Option String) : Value := (text.map .str).getD .null

/-- The value of a setting as plain data. -/
def read (s : Settings) : Setting → Value
  | .kubeconfig => optionalValue s.kubeconfig
  | .context => optionalValue s.context
  | .pollInterval => .num (.int s.pollIntervalSecs)
  | .pollTimeout => .num (.int s.pollTimeoutSecs)
  | .tunnelReadyTimeout => .num (.int s.tunnelReadyTimeoutSecs)
  | .manifestRoot => .str s.manifestRoot
  | .logFormat => .str s.logFormatName

theorem admits_optionalValue (text : Option String) :
    Setting.Kind.optionalText.Admits (optionalValue text) := by
  cases text with
  | none => exact .none
  | some text => exact .some text

theorem optionalValue_injective : Function.Injective optionalValue := by
  intro text other same
  cases text <;> cases other <;> simp_all [optionalValue]

/-- Settings are determined by their values and the exact pacing. -/
theorem eq_of_read (reads : ∀ setting, s.read setting = s'.read setting)
    (polling : s.polling = s'.polling) : s = s' := by
  have kubeconfig := optionalValue_injective (reads .kubeconfig)
  have context := optionalValue_injective (reads .context)
  have interval : s.pollIntervalSecs = s'.pollIntervalSecs := by
    simpa [read] using reads .pollInterval
  have timeout : s.pollTimeoutSecs = s'.pollTimeoutSecs := by
    simpa [read] using reads .pollTimeout
  have ready : s.tunnelReadyTimeoutSecs = s'.tunnelReadyTimeoutSecs := by
    simpa [read] using reads .tunnelReadyTimeout
  have root : s.manifestRoot = s'.manifestRoot := by
    simpa [read] using reads .manifestRoot
  have format : s.logFormatName = s'.logFormatName := by
    simpa [read] using reads .logFormat
  cases s
  cases s'
  simp_all

/-! ## From a file -/

theorem optionalText?_eq_some_iff {text : Option String} :
    optionalText? value = some text ↔ optionalValue text = value := by
  cases value <;> cases text <;> simp [optionalText?, optionalValue, eq_comm]

theorem asNat?_eq_some_iff {n : Nat} : value.asNat? = some n ↔ .num (.int n) = value := by
  cases value with
  | num number =>
      cases number with
      | int i =>
          simp only [Value.asNat?, Option.ite_none_right_eq_some, Option.some.injEq,
            Value.num.injEq, Json.Number.int.injEq]
          omega
      | float x => simp [Value.asNat?]
  | _ => simp [Value.asNat?]

theorem admits_optionalText_iff :
    Setting.Kind.optionalText.Admits value ↔ ∃ text, optionalText? value = some text := by
  simp only [optionalText?_eq_some_iff]
  constructor
  · intro h
    cases h with
    | none => exact ⟨none, rfl⟩
    | some text => exact ⟨some text, rfl⟩
  · rintro ⟨text, rfl⟩
    exact admits_optionalValue text

theorem admits_seconds_iff : Setting.Kind.seconds.Admits value ↔ ∃ n, value.asNat? = some n := by
  simp only [asNat?_eq_some_iff]
  constructor
  · intro h
    cases h with
    | seconds n => exact ⟨n, rfl⟩
  · rintro ⟨n, rfl⟩
    exact .seconds n

theorem admits_text_iff : Setting.Kind.text.Admits value ↔ ∃ text, value.asString? = some text := by
  simp only [Value.asString?_eq_some_iff]
  constructor
  · intro h
    cases h with
    | text text => exact ⟨text, rfl⟩
  · rintro ⟨text, rfl⟩
    exact .text text

/-- A key takes the values of its kind. -/
theorem exists_set?_iff : (∃ s', setting.key.set? value s = some s') ↔ setting.kind.Admits value := by
  have mapped {α : Type} {found : Option α} {f : α → Settings} :
      (∃ s', found.map f = some s') ↔ ∃ x, found = some x := by
    cases found <;> simp
  cases setting with
  | kubeconfig => exact mapped.trans admits_optionalText_iff.symm
  | context => exact mapped.trans admits_optionalText_iff.symm
  | pollInterval => exact mapped.trans admits_seconds_iff.symm
  | pollTimeout => exact mapped.trans admits_seconds_iff.symm
  | tunnelReadyTimeout => exact mapped.trans admits_seconds_iff.symm
  | manifestRoot => exact mapped.trans admits_text_iff.symm
  | logFormat => exact mapped.trans admits_text_iff.symm

/-- A key sets its setting, and no other one. -/
theorem read_set? (h : setting.key.set? value s = some s') :
    s'.read setting = value ∧ (∀ other, other ≠ setting → s'.read other = s.read other) ∧
      s'.polling = s.polling := by
  have keeps : (∀ other, other ≠ setting → s'.read other = s.read other) ∧
      s'.polling = s.polling := by
    cases setting <;> rcases Option.map_eq_some_iff.1 h with ⟨x, -, rfl⟩ <;>
      exact ⟨fun other different => by cases other <;> first | rfl | exact absurd rfl different, rfl⟩
  refine ⟨?_, keeps⟩
  cases setting <;> rcases Option.map_eq_some_iff.1 h with ⟨x, found, rfl⟩
  · exact optionalText?_eq_some_iff.1 found
  · exact optionalText?_eq_some_iff.1 found
  · exact asNat?_eq_some_iff.1 found
  · exact asNat?_eq_some_iff.1 found
  · exact asNat?_eq_some_iff.1 found
  · exact (Value.asString?_eq_some_iff.1 found).symm
  · exact (Value.asString?_eq_some_iff.1 found).symm

section Objects

variable {settings : List Setting}

/-- An object is accepted when every value of a key is of its kind. -/
theorem exists_setByName_iff : (∃ s', setByName entries s (settings.map Setting.key) = some s') ↔
    ∀ setting ∈ settings, ∀ value, Dict.find? setting.key.name entries = some value →
      setting.kind.Admits value := by
  induction settings generalizing s with
  | nil => simp [setByName]
  | cons setting rest ih =>
      rw [List.forall_mem_cons, List.map_cons, setByName]
      cases found : Dict.find? setting.key.name entries with
      | none => simpa using ih
      | some value =>
          simp only [Option.some.injEq, forall_eq', Option.bind_eq_some_iff]
          constructor
          · rintro ⟨s', middle, first, later⟩
            exact ⟨exists_set?_iff.1 ⟨middle, first⟩, ih.1 ⟨s', later⟩⟩
          · rintro ⟨admitted, rest⟩
            rcases exists_set?_iff.2 admitted with ⟨middle, first⟩
            rcases ih.2 rest with ⟨s', later⟩
            exact ⟨s', middle, first, later⟩

/-- An object changes the settings of its keys and keeps all others. -/
theorem read_setByName (distinct : settings.Nodup)
    (h : setByName entries s (settings.map Setting.key) = some s') :
    (∀ setting ∈ settings, s'.read setting =
        (Dict.find? setting.key.name entries).getD (s.read setting)) ∧
      (∀ setting, setting ∉ settings → s'.read setting = s.read setting) ∧
      s'.polling = s.polling := by
  induction settings generalizing s with
  | nil =>
      cases h
      exact ⟨by simp, fun _ _ => rfl, rfl⟩
  | cons setting rest ih =>
      rcases List.nodup_cons.1 distinct with ⟨fresh, distinct⟩
      rw [List.map_cons, setByName] at h
      -- What the first key makes of the settings, and what the other keys make of that.
      have step : ∃ middle, setByName entries middle (rest.map Setting.key) = some s' ∧
          middle.read setting = (Dict.find? setting.key.name entries).getD (s.read setting) ∧
          (∀ other, other ≠ setting → middle.read other = s.read other) ∧
          middle.polling = s.polling := by
        cases found : Dict.find? setting.key.name entries with
        | none =>
            rw [found] at h
            exact ⟨s, h, rfl, fun _ _ => rfl, rfl⟩
        | some value =>
            rw [found] at h
            rcases Option.bind_eq_some_iff.1 h with ⟨middle, first, later⟩
            exact ⟨middle, later, read_set? first⟩
      rcases step with ⟨middle, later, first, others, polling⟩
      rcases ih distinct later with ⟨named, unnamed, polling'⟩
      refine ⟨List.forall_mem_cons.2 ⟨?_, ?_⟩, ?_, polling'.trans polling⟩
      · rw [unnamed setting fresh, first]
      · intro other mem
        have different : other ≠ setting := fun same => fresh (same ▸ mem)
        rw [named other mem, others other different]
      · intro other missing
        rcases not_or.1 (mt List.mem_cons.2 missing) with ⟨different, missing⟩
        rw [unnamed other missing, others other different]

end Objects

/-! ## From the environment -/

/-- A count of whole seconds is written in decimal digits, behind an optional plus sign, and is below
the limit. -/
def Counts (text : String) (n : Nat) : Prop :=
  ∃ (plus : Bool) (digits : List Char),
    String.ofList ((if plus then ['+'] else []) ++ digits) = text ∧ Yaml.AllDigits digits ∧
      digits ≠ [] ∧ Nat.ofDigitChars 10 digits 0 = n ∧ n < 2 ^ 64

theorem seconds?_eq_some_iff {text : String} {n : Nat} : seconds? text = some n ↔ Counts text n := by
  have read (digits : List Char) :
      (Yaml.Node.natOf? 10 digits >>= fun n => if n < secondsLimit then some n else none) = some n ↔
        Yaml.AllDigits digits ∧ digits ≠ [] ∧ Nat.ofDigitChars 10 digits 0 = n ∧
          n < secondsLimit := by
    simp only [bind, Option.bind_eq_some_iff, Yaml.Node.natOf?_eq_some_iff,
      Option.ite_none_right_eq_some, Option.some.injEq]
    constructor
    · rintro ⟨m, ⟨all, notEmpty, same⟩, small, rfl⟩
      exact ⟨all, notEmpty, same, small⟩
    · rintro ⟨all, notEmpty, same, small⟩
      exact ⟨n, ⟨all, notEmpty, same⟩, small, rfl⟩
  constructor
  · intro h
    unfold seconds? at h
    have whole : String.ofList text.toList = text := String.ofList_toList
    split at h
    · next digits written =>
        exact ⟨true, digits, by rw [← whole, written]; rfl, (read digits).1 h⟩
    · exact ⟨false, text.toList, whole, (read text.toList).1 h⟩
  · rintro ⟨plus, digits, rfl, all, rest⟩
    unfold seconds?
    cases plus with
    | true =>
        simp only [if_true, String.toList_ofList, List.singleton_append]
        exact (read digits).2 ⟨all, rest⟩
    | false =>
        simp only [Bool.false_eq_true, if_false, String.toList_ofList, List.nil_append]
        split
        · next after => exact absurd rfl (Yaml.Node.notSign_of_allDigits all after).2
        · exact (read digits).2 ⟨all, rest⟩

/-- A variable has a value that is no count of whole seconds. -/
def Offends (env : Environment) (setting : Setting) (value : String) : Prop :=
  valueOf? env setting.variableName = some value ∧ seconds? (Text.trimmed value) = none

/-- The settings that are counts of seconds, in the order in which their variables are read. -/
def timed : List Setting := [.pollInterval, .pollTimeout, .tunnelReadyTimeout]

/-- The value that the environment gives a setting. -/
def environmentValue? (env : Environment) (setting : Setting) : Option Value :=
  match setting.kind with
  | .seconds => (valueOf? env setting.variableName).bind fun value =>
      (seconds? (Text.trimmed value)).map fun n => .num (.int n)
  | _ => (valueOf? env setting.variableName).map .str

theorem overlaySeconds_eq_error_iff {present : Nat} {error : Error} :
    overlaySeconds env setting.variableName present = .error error ↔
      ∃ value, Offends env setting value ∧ error = .config setting.variableName
        ("expected whole seconds, got " ++ Text.quoted value) := by
  unfold overlaySeconds Offends
  cases set : valueOf? env setting.variableName with
  | none => simp
  | some value => cases read : seconds? (Text.trimmed value) <;> simp [read, eq_comm]

theorem exists_overlaySeconds_iff {present : Nat} :
    (∃ n, overlaySeconds env setting.variableName present = .ok n) ↔
      ∀ value, ¬ Offends env setting value := by
  unfold overlaySeconds Offends
  cases set : valueOf? env setting.variableName with
  | none => simp
  | some value => cases read : seconds? (Text.trimmed value) <;> simp [read]

theorem read_overlaySeconds {present n : Nat} (seconds : setting.kind = .seconds)
    (h : overlaySeconds env setting.variableName present = .ok n) :
    .num (.int n) = (environmentValue? env setting).getD (.num (.int present)) := by
  rw [environmentValue?, seconds]
  unfold overlaySeconds at h
  cases set : valueOf? env setting.variableName with
  | none =>
      rw [set] at h
      cases h
      rfl
  | some value =>
      rw [set] at h
      cases read : seconds? (Text.trimmed value) with
      | none => simp [read] at h
      | some m =>
          simp only [read, Except.ok.injEq] at h
          simp [read, h]

/-- The seconds of a setting before the environment is read. -/
def secondsOf (s : Settings) : Setting → Nat
  | .pollInterval => s.pollIntervalSecs
  | .pollTimeout => s.pollTimeoutSecs
  | .tunnelReadyTimeout => s.tunnelReadyTimeoutSecs
  | _ => 0

theorem failure?_overlay : Attempt.failure? (s.overlay env) = timed.findSome? fun setting =>
    Attempt.failure? (overlaySeconds env setting.variableName (s.secondsOf setting)) := by
  have split : timed = [.pollInterval] ++ ([.pollTimeout] ++ [.tunnelReadyTimeout]) := rfl
  rw [split, List.findSome?_append, List.findSome?_append]
  simp only [List.findSome?_singleton]
  rw [← (Attempt.failure? (overlaySeconds env Setting.tunnelReadyTimeout.variableName
    (s.secondsOf .tunnelReadyTimeout))).or_none]
  exact Attempt.failure?_bind fun _ => Attempt.failure?_bind fun _ => Attempt.failure?_bind fun _ => rfl

/-- The error tells of the first count of seconds that is none. -/
def FirstOffence (env : Environment) (error : Error) : Prop :=
  ∃ front setting back value, timed = front ++ setting :: back ∧
    (∀ earlier ∈ front, ∀ value, ¬ Offends env earlier value) ∧ Offends env setting value ∧
    error = .config setting.variableName ("expected whole seconds, got " ++ Text.quoted value)

theorem overlay_eq_error_iff {error : Error} :
    s.overlay env = .error error ↔ FirstOffence env error := by
  unfold FirstOffence
  rw [← Attempt.failure?_eq_some_iff, failure?_overlay, List.findSome?_eq_some_iff]
  simp only [Attempt.failure?_eq_some_iff, Attempt.failure?_eq_none_iff, exists_overlaySeconds_iff,
    overlaySeconds_eq_error_iff]
  constructor
  · rintro ⟨front, setting, back, split, ⟨value, offends, same⟩, sound⟩
    exact ⟨front, setting, back, value, split, sound, offends, same⟩
  · rintro ⟨front, setting, back, value, split, sound, offends, same⟩
    exact ⟨front, setting, back, split, ⟨value, offends, same⟩, sound⟩

theorem exists_overlay_iff :
    (∃ s', s.overlay env = .ok s') ↔ ∀ setting ∈ timed, ∀ value, ¬ Offends env setting value := by
  rw [← Attempt.failure?_eq_none_iff, failure?_overlay, List.findSome?_eq_none_iff]
  simp only [Attempt.failure?_eq_none_iff, exists_overlaySeconds_iff]

theorem read_overlay (h : s.overlay env = .ok s') :
    (∀ setting, s'.read setting = (environmentValue? env setting).getD (s.read setting)) ∧
      s'.polling = s.polling := by
  rcases Attempt.bind_eq_ok_iff.1 h with ⟨interval, hinterval, h⟩
  rcases Attempt.bind_eq_ok_iff.1 h with ⟨timeout, htimeout, h⟩
  rcases Attempt.bind_eq_ok_iff.1 h with ⟨ready, hready, h⟩
  cases h
  refine ⟨fun setting => ?_, rfl⟩
  cases setting with
  | kubeconfig =>
      cases set : valueOf? env kubeconfigVariable <;>
        simp [environmentValue?, Setting.kind, Setting.variableName, read, set, optionalValue]
  | context =>
      cases set : valueOf? env contextVariable <;>
        simp [environmentValue?, Setting.kind, Setting.variableName, read, set, optionalValue]
  | pollInterval => exact read_overlaySeconds rfl hinterval
  | pollTimeout => exact read_overlaySeconds rfl htimeout
  | tunnelReadyTimeout => exact read_overlaySeconds rfl hready
  | manifestRoot =>
      cases set : valueOf? env manifestRootVariable <;>
        simp [environmentValue?, Setting.kind, Setting.variableName, read, set]
  | logFormat =>
      cases set : valueOf? env logFormatVariable <;>
        simp [environmentValue?, Setting.kind, Setting.variableName, read, set]

/-! ## File and environment -/

section Loading

variable {files : FileTree} {path : Option String} {file : String}

/-- The entries that settings are read from: none without a file and with an empty one, and otherwise
those of the first document, when it is a mapping. -/
inductive Configures (files : FileTree) : Option String → Dict Value → Prop
  | none : Configures files none []
  | empty {file text : String} (read : files.readText? file = some text)
      (documents : Yaml.readDocuments text = .ok []) : Configures files (some file) []
  | mapping {file text : String} {entries : Dict Value} {later : List Value}
      (read : files.readText? file = some text)
      (documents : Yaml.readDocuments text = .ok (.obj entries :: later)) :
      Configures files (some file) entries

/-- A key has a value of another kind than its setting. -/
def Mistyped (entries : Dict Value) : Prop :=
  ∃ setting value, Dict.find? (Setting.key setting).name entries = some value ∧
    ¬ setting.kind.Admits value

/-- The settings of a file, or the defaults. -/
def base (files : FileTree) (path : Option String) : Except Error Settings :=
  match path with
  | some path => ofFile files path
  | none => .ok standard

theorem load_eq (files : FileTree) (path : Option String) (env : Environment) :
    load files path env = base files path >>= fun s => s.overlay env := by
  cases path <;> rfl

theorem ofFile_of_configures (h : Configures files (some file) entries) :
    ofFile files file = match setByName entries standard keys with
      | some s => .ok s
      | none => .error (.config file "invalid config") := by
  cases h with
  | empty read documents =>
      simp only [ofFile, read, ofText, documents]
      rfl
  | mapping read documents =>
      simp only [ofFile, read, ofText, documents]
      rfl

theorem exists_setByName_keys_iff :
    (∃ s', setByName entries s keys = some s') ↔ ¬ Mistyped entries := by
  rw [Setting.keys_eq, exists_setByName_iff]
  simp [Mistyped, Setting.mem_all]

/-- A file is refused exactly for a value of another kind than that of its key. -/
theorem ofFile_eq_error_iff (h : Configures files (some file) entries) {error : Error} :
    ofFile files file = .error error ↔
      Mistyped entries ∧ error = .config file "invalid config" := by
  rw [ofFile_of_configures h]
  cases found : setByName entries standard keys with
  | none =>
      have mistyped : Mistyped entries := by
        by_contra typed
        rcases exists_setByName_keys_iff.2 typed with ⟨s, found'⟩
        cases found.symm.trans found'
      simp [mistyped, eq_comm]
  | some s =>
      have typed : ¬ Mistyped entries := exists_setByName_keys_iff.1 ⟨s, found⟩
      simp [typed]

/-- Without a mistyped value the settings below the environment are those of the entries over the
defaults. -/
theorem exists_base (h : Configures files path entries) (typed : ¬ Mistyped entries) :
    ∃ s, base files path = .ok s ∧
      (∀ setting, s.read setting =
        (Dict.find? (Setting.key setting).name entries).getD (standard.read setting)) ∧
      s.polling = none := by
  rcases (exists_setByName_keys_iff (s := standard)).2 typed with ⟨s, found⟩
  have values := read_setByName (by decide) (Setting.keys_eq ▸ found)
  refine ⟨s, ?_, fun setting => values.1 setting setting.mem_all, values.2.2⟩
  cases h with
  | none => exact congrArg Except.ok (Option.some.inj found)
  | empty read documents =>
      rw [base, ofFile_of_configures (.empty read documents), found]
  | mapping read documents =>
      rw [base, ofFile_of_configures (.mapping read documents), found]

/-- The same environment once more changes nothing. -/
theorem overlay_self (h : s.overlay env = .ok s') : s'.overlay env = .ok s' := by
  rcases exists_overlay_iff.2 (exists_overlay_iff.1 ⟨s', h⟩) with ⟨s'', again⟩
  rcases read_overlay h with ⟨reads, polling⟩
  rcases read_overlay again with ⟨reads', polling'⟩
  have same : s'' = s' := by
    refine eq_of_read (fun setting => ?_) polling'
    rw [reads' setting, reads setting]
    cases environmentValue? env setting <;> rfl
  rw [again, same]

/-- The value of a setting in the first source that has it: the environment, the entries of a file or
the defaults. -/
def firstValue (env : Environment) (entries : Dict Value) (setting : Setting) : Value :=
  ((environmentValue? env setting).or (Dict.find? setting.key.name entries)).getD
    (standard.read setting)

/-- What is loaded from entries without a mistyped value under an environment. -/
theorem read_load (h : Configures files path entries) (typed : ¬ Mistyped entries)
    (loaded : load files path env = .ok s) :
    (∀ setting, s.read setting = firstValue env entries setting) ∧ s.polling = none := by
  rcases exists_base h typed with ⟨below, found, reads, polling⟩
  rw [load_eq, found] at loaded
  rcases read_overlay loaded with ⟨reads', polling'⟩
  refine ⟨fun setting => ?_, polling'.trans polling⟩
  rw [reads' setting, reads setting, firstValue]
  cases environmentValue? env setting <;> rfl

/-- A value depends on the variable and the key of its setting alone. -/
theorem firstValue_congr {env' : Environment} {entries' : Dict Value}
    (sameVariable : env' setting.variableName = env setting.variableName)
    (sameKey : Dict.find? setting.key.name entries' = Dict.find? setting.key.name entries) :
    firstValue env' entries' setting = firstValue env entries setting := by
  simp only [firstValue, environmentValue?, valueOf?, sameVariable, sameKey]

/-- Every setting comes from the first source that has it. A file is refused exactly for a value of
another kind than that of its key. With any other one the settings load exactly when each variable for
a count of seconds is blank or has one, and fail with the first that has none. Such a count is written
in decimal digits. What is loaded depends on the variable and the key of each setting alone, which no
other setting has, and the same environment once more changes nothing. -/
theorem load_takes_first_source (h : Configures files path entries) (env : Environment) :
    (∀ file, path = some file → ∀ error, ofFile files file = .error error ↔
        Mistyped entries ∧ error = .config file "invalid config") ∧
      (¬ Mistyped entries →
        ((∃ s, load files path env = .ok s) ↔
          ∀ setting ∈ timed, ∀ value, valueOf? env setting.variableName = some value →
            ∃ n, seconds? (Text.trimmed value) = some n) ∧
        (∀ error, load files path env = .error error ↔ FirstOffence env error) ∧
        ∀ s, load files path env = .ok s →
          (∀ setting, s.read setting = firstValue env entries setting) ∧ s.polling = none ∧
            s.overlay env = .ok s) ∧
      (∀ text n, seconds? text = some n ↔ Counts text n) ∧
      (∀ setting env' entries',
        env' (Setting.variableName setting) = env setting.variableName →
        Dict.find? setting.key.name entries' = Dict.find? setting.key.name entries →
        firstValue env' entries' setting = firstValue env entries setting) ∧
      ∀ setting other, other ≠ setting →
        Setting.variableName other ≠ setting.variableName ∧ other.key.name ≠ setting.key.name := by
  refine ⟨?_, fun typed => ?_, fun text n => seconds?_eq_some_iff,
    fun setting env' entries' => firstValue_congr, ?_⟩
  · rintro file rfl error
    exact ofFile_eq_error_iff h
  · rcases exists_base h typed with ⟨below, found, -, -⟩
    have overlaid : load files path env = below.overlay env := by
      rw [load_eq, found]
      rfl
    refine ⟨?_, ?_, ?_⟩
    · rw [overlaid, exists_overlay_iff]
      simp only [Offends, not_and, ← Option.ne_none_iff_exists', ne_eq]
    · intro error
      rw [overlaid]
      exact overlay_eq_error_iff
    · intro s loaded
      rcases read_load h typed loaded with ⟨reads, polling⟩
      exact ⟨reads, polling, overlay_self (overlaid ▸ loaded)⟩
  · intro setting other different
    exact ⟨Setting.variableName_injective.ne different, Setting.key_name_injective.ne different⟩

/-- A file with a context and an interval. -/
def sampleText : String := "\x7b\"context\":\"kind\",\"pollIntervalSecs\":5\x7d"

def sampleEntries : Dict Value := [("context", .str "kind"), ("pollIntervalSecs", .num (.int 5))]

/-- An environment with an interval and a blank context. -/
def sampleEnvironment : Environment := fun name =>
  if name = "VIGIL_POLL_INTERVAL_SECS" then some " 9 "
  else if name = "VIGIL_CONTEXT" then some " "
  else none

theorem readDocuments_sampleText : Yaml.readDocuments sampleText = .ok [.obj sampleEntries] := by
  cbv

/-- The interval is that of the environment, the context that of the file, and the root is the
default. -/
theorem sampleFile_yields_to_environment :
    ∃ s, load (.directory [("c.json", .file sampleText.toUTF8)]) (some "c.json")
        sampleEnvironment = .ok s ∧
      s.read .pollInterval = .num (.int 9) ∧ s.read .context = .str "kind" ∧
      s.read .manifestRoot = .str "testdata" := by
  have read : (FileTree.directory [("c.json", .file sampleText.toUTF8)]).readText? "c.json" =
      some sampleText := by
    generalize sampleText = text
    have found : (FileTree.directory [("c.json", .file text.toUTF8)]).find? "c.json" =
        some (.file text.toUTF8) := by
      rfl
    rw [FileTree.readText?, found]
    exact FileTree.decode?_toUTF8 text
  have typed : ¬ Mistyped sampleEntries := by
    rintro ⟨setting, value, found, other⟩
    cases setting <;> cases found
    · exact other (.some "kind")
    · exact other (.seconds 5)
  have seconds : ∀ setting ∈ timed, ∀ value,
      valueOf? sampleEnvironment setting.variableName = some value →
        ∃ n, seconds? (Text.trimmed value) = some n := by
    intro setting mem value set
    have given : valueOf? sampleEnvironment "VIGIL_POLL_INTERVAL_SECS" = some " 9 " := by decide
    have unset : ∀ later ∈ timed.tail, valueOf? sampleEnvironment later.variableName = none := by
      decide
    rcases List.mem_cons.1 mem with rfl | later
    · cases given.symm.trans set
      exact ⟨9, by decide⟩
    · cases (unset setting later).symm.trans set
  have first : firstValue sampleEnvironment sampleEntries .pollInterval = .num (.int 9) ∧
      firstValue sampleEnvironment sampleEntries .context = .str "kind" ∧
      firstValue sampleEnvironment sampleEntries .manifestRoot = .str "testdata" := by
    refine ⟨?_, ?_, ?_⟩ <;> cbv
  rcases load_takes_first_source (.mapping read readDocuments_sampleText) sampleEnvironment with
    ⟨-, loads, -⟩
  rcases loads typed with ⟨succeeds, -, values⟩
  rcases succeeds.2 seconds with ⟨s, loaded⟩
  have reads := (values s loaded).1
  exact ⟨s, loaded, (reads _).trans first.1, (reads _).trans first.2.1, (reads _).trans first.2.2⟩

end Loading

end Settings

end Readiness
