import Readiness.Files
import Readiness.LogFormat
import Readiness.Pacing
import Readiness.Text.Blank
import Readiness.Tunnel.State
import Readiness.Yaml.Content

/-!
# Settings — what every operation of a bench shares

* `Settings` are the seven settings of a file or the environment, and an exact pacing that is only
  set by a program;
* `Settings.ofFile` reads a file over the defaults, and `Settings.overlay` puts the values of the
  environment on top, where blank values count as unset;
* `Settings.pacing` is the exact pacing when one was set, and otherwise the whole seconds.
-/

namespace Readiness

open Json (Value)

/-- What every operation of a bench shares. -/
structure Settings where
  kubeconfig : Option String
  context : Option String
  pollIntervalSecs : Nat
  pollTimeoutSecs : Nat
  tunnelReadyTimeoutSecs : Nat
  manifestRoot : String
  logFormatName : String
  -- An exact interval and timeout.
  polling : Option (Duration × Duration)
deriving DecidableEq, Repr

namespace Settings

def standard : Settings :=
  ⟨none, none, 2, 600, 30, "testdata", "compact", none⟩

instance : Inhabited Settings := ⟨standard⟩

/-! ## From a file -/

/-- A text, or null for none. -/
def optionalText? : Value → Option (Option String)
  | .null => some none
  | .str s => some (some s)
  | _ => none

/-- One setting of a file: its key and how its value changes the settings. A value of another type
changes nothing and is refused. -/
structure Key where
  name : String
  set? : Value → Settings → Option Settings

def keys : List Key :=
  [⟨"kubeconfig", fun v s => (optionalText? v).map fun x => { s with kubeconfig := x }⟩,
    ⟨"context", fun v s => (optionalText? v).map fun x => { s with context := x }⟩,
    ⟨"pollIntervalSecs", fun v s => v.asNat?.map fun x => { s with pollIntervalSecs := x }⟩,
    ⟨"pollTimeoutSecs", fun v s => v.asNat?.map fun x => { s with pollTimeoutSecs := x }⟩,
    ⟨"tunnelReadyTimeoutSecs", fun v s =>
      v.asNat?.map fun x => { s with tunnelReadyTimeoutSecs := x }⟩,
    ⟨"manifestRoot", fun v s => v.asString?.map fun x => { s with manifestRoot := x }⟩,
    ⟨"logFormat", fun v s => v.asString?.map fun x => { s with logFormatName := x }⟩]

/-- The settings of an object; keys without a meaning change nothing. -/
def setByName (entries : Dict Value) (s : Settings) : List Key → Option Settings
  | [] => some s
  | key :: rest =>
      match Dict.find? key.name entries with
      | some v => (key.set? v s).bind fun s => setByName entries s rest
      | none => setByName entries s rest

/-- The settings of an array in the order of the keys; there may be fewer values but not more. -/
def setByPlace (s : Settings) : List Key → List Value → Option Settings
  | _, [] => some s
  | [], _ :: _ => none
  | key :: keys, v :: values => (key.set? v s).bind fun s => setByPlace s keys values

def ofValue? : Value → Option Settings
  | .null => some standard
  | .obj entries => setByName entries standard keys
  | .arr values => setByPlace standard keys values
  | _ => none

def ofText (path text : String) : Except Error Settings :=
  match Yaml.readDocuments text with
  | .error e => .error (.config path e.message)
  | .ok documents =>
      match ofValue? (documents.head?.getD .null) with
      | some settings => .ok settings
      | none => .error (.config path "invalid config")

def ofFile (files : FileTree) (path : String) : Except Error Settings :=
  match files.readText? path with
  | some text => ofText path text
  | none => .error (.config path "failed to read")

/-! ## From the environment -/

abbrev Environment := String → Option String

/-- A variable that is set and not blank. -/
def valueOf? (env : Environment) (name : String) : Option String :=
  (env name).filter fun value => !(Text.trimmed value).isEmpty

def kubeconfigVariable : String := "VIGIL_KUBECONFIG"
def contextVariable : String := "VIGIL_CONTEXT"
def pollIntervalVariable : String := "VIGIL_POLL_INTERVAL_SECS"
def pollTimeoutVariable : String := "VIGIL_POLL_TIMEOUT_SECS"
def tunnelReadyTimeoutVariable : String := "VIGIL_TUNNEL_READY_TIMEOUT_SECS"
def manifestRootVariable : String := "VIGIL_MANIFEST_ROOT"
def logFormatVariable : String := "VIGIL_LOG_FORMAT"

def secondsLimit : Nat := 0x10000000000000000

/-- A count of whole seconds: decimal digits behind an optional plus sign. -/
def seconds? (text : String) : Option Nat := do
  let digits :=
    match text.toList with
    | '+' :: rest => rest
    | cs => cs
  let n ← Yaml.Node.natOf? 10 digits
  if n < secondsLimit then some n else none

/-- The seconds of a variable, or the present ones when it is unset. -/
def overlaySeconds (env : Environment) (name : String) (present : Nat) : Except Error Nat :=
  match valueOf? env name with
  | none => .ok present
  | some value =>
      match seconds? (Text.trimmed value) with
      | some n => .ok n
      | none => .error (.config name ("expected whole seconds, got " ++ Text.quoted value))

def overlay (s : Settings) (env : Environment) : Except Error Settings := do
  let interval ← overlaySeconds env pollIntervalVariable s.pollIntervalSecs
  let timeout ← overlaySeconds env pollTimeoutVariable s.pollTimeoutSecs
  let ready ← overlaySeconds env tunnelReadyTimeoutVariable s.tunnelReadyTimeoutSecs
  .ok { s with
    kubeconfig := valueOf? env kubeconfigVariable <|> s.kubeconfig
    context := valueOf? env contextVariable <|> s.context
    pollIntervalSecs := interval
    pollTimeoutSecs := timeout
    tunnelReadyTimeoutSecs := ready
    manifestRoot := (valueOf? env manifestRootVariable).getD s.manifestRoot
    logFormatName := (valueOf? env logFormatVariable).getD s.logFormatName }

/-- The settings of a file, or the defaults, under the environment. -/
def load (files : FileTree) (path : Option String) (env : Environment) : Except Error Settings := do
  let base ←
    match path with
    | some path => ofFile files path
    | none => .ok standard
  base.overlay env

/-! ## From a program -/

def withKubeconfig (s : Settings) (path : String) : Settings := { s with kubeconfig := some path }

def withContext (s : Settings) (context : String) : Settings := { s with context := some context }

def withManifestRoot (s : Settings) (root : String) : Settings := { s with manifestRoot := root }

/-- Sets an exact interval and timeout, which stand above the whole seconds. -/
def withPolling (s : Settings) (interval timeout : Duration) : Settings :=
  { s with polling := some (interval, timeout) }

/-! ## Derived values -/

def cadence (s : Settings) : Duration × Duration :=
  s.polling.getD (.ofSecs s.pollIntervalSecs, .ofSecs s.pollTimeoutSecs)

def pacing (s : Settings) : Except Error Pacing := Pacing.make s.cadence.1 s.cadence.2

def tunnelOptions (s : Settings) : TunnelOptions :=
  { TunnelOptions.standard with readyTimeout := .ofSecs s.tunnelReadyTimeoutSecs }

def logFormat (s : Settings) : LogFormat := .parse s.logFormatName

def manifestDir (s : Settings) (name : String) : String := Path.join s.manifestRoot name

end Settings

end Readiness
