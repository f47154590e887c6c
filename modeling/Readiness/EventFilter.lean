import Readiness.Event
import Readiness.LogFormat
import Readiness.Text.Search
import Readiness.Text.Split

/-!
# EventFilter — which events are printed, and how

A filter is a comma-separated list of directives such as `info` or `vigil=debug`.

* `Directive` sets the least important level that is printed, for one target or for all of them;
* `EventFilter.parse?` reads a filter, and `EventFilter.ofVariable` falls back to the standard one;
* `EventFilter.admits` lets the directive with the longest fitting target decide;
* `Printer` is an installed filter with a format, and `Printer.print?` is what it writes of an event;
* `EventLog` is the place where at most one printer is ever installed.
-/

namespace Readiness

/-- The least important level that passes; without one nothing does. -/
abbrev Threshold := Option Level

namespace Threshold

/-- The thresholds by name; the digits count levels from the most important one. -/
def names : List (String × Threshold) :=
  [("off", none), ("error", some .error), ("warn", some .warn), ("info", some .info),
    ("debug", some .debug), ("trace", some .trace), ("0", none), ("1", some .error),
    ("2", some .warn), ("3", some .info), ("4", some .debug), ("5", some .trace)]

def ofName? (name : String) : Option Threshold :=
  names.lookup (String.ofList (name.toList.map Char.toLower))

def passes (threshold : Threshold) (level : Level) : Bool :=
  match threshold with
  | some least => least.rank ≤ level.rank
  | none => false

end Threshold

/-- The threshold for the events of one target, or of all of them. -/
structure Directive where
  -- Fits every component whose path starts with it.
  target : String
  -- The directive is about events inside a named span only.
  insideSpan : Bool
  threshold : Threshold
deriving DecidableEq, Repr

namespace Directive

def isTargetChar (c : Char) : Bool := c.isAlphanum || c = '_' || c = ':' || c = '-'

/-- The threshold behind a target: nothing or an equals sign admits every level. -/
def thresholdOf? : List Char → Option Threshold
  | [] => some (some .trace)
  | '=' :: [] => some (some .trace)
  | '=' :: name => Threshold.ofName? (String.ofList name)
  | _ => none

/-- A target, a span in brackets or both, and a threshold. -/
def ofParts? (text : List Char) : Option Directive :=
  let target := text.takeWhile isTargetChar
  match text.dropWhile isTargetChar with
  | '[' :: rest =>
      match rest.dropWhile (· != ']') with
      | ']' :: rest =>
          (thresholdOf? rest).map fun threshold => ⟨String.ofList target, true, threshold⟩
      | _ => none
  | rest =>
      if target.isEmpty then none
      else (thresholdOf? rest).map fun threshold => ⟨String.ofList target, false, threshold⟩

/-- Reads a directive: the name of a threshold stands for all targets. -/
def parse? (text : String) : Option Directive :=
  match Threshold.ofName? text with
  | some threshold => some ⟨"", false, threshold⟩
  | none => ofParts? text.toList

/-- Whether the directive is about the events of a component. No event of this library is inside a
span. -/
def fits (directive : Directive) (component : Component) : Bool :=
  !directive.insideSpan && Text.startsWith directive.target component.path

end Directive

abbrev EventFilter := List Directive

namespace EventFilter

/-- A filter without directives admits errors. -/
def onlyErrors : EventFilter := [⟨"", false, some .error⟩]

/-- Reads a filter; it is refused when one of its directives is. -/
def parse? (text : String) : Option EventFilter :=
  ((Text.segments ',' text).mapM Directive.parse?).map fun directives =>
    if directives.isEmpty then onlyErrors else directives

def standardText : String := "info,vigil=debug,kube=info,tower=warn,hyper=warn"

/-- The filter that stands when none is set: the library at debug, its clients quieter. -/
def standard : EventFilter := (parse? standardText).getD onlyErrors

/-- The filter of a variable, or the standard one when that is unset or cannot be read. -/
def ofVariable (value : Option String) : EventFilter := (value.bind parse?).getD standard

/-- The later of two directives decides unless the earlier one has a longer target. -/
def moreSpecific (chosen : Option Directive) (directive : Directive) : Option Directive :=
  match chosen with
  | none => some directive
  | some earlier =>
      if directive.target.length < earlier.target.length then some earlier else some directive

def deciding? (filter : EventFilter) (component : Component) : Option Directive :=
  (filter.filter (·.fits component)).foldl moreSpecific none

def admits (filter : EventFilter) (event : Event) : Bool :=
  match filter.deciding? event.component with
  | some directive => directive.threshold.passes event.level
  | none => false

end EventFilter

inductive Printed where
  -- One object with the level and the fields; the message is a field.
  | object (level : Level) (fields : List (String × FieldValue))
  -- One line: the message and the fields behind it.
  | line (level : Level) (text : String)
deriving DecidableEq, Repr

structure Printer where
  format : LogFormat
  filter : EventFilter
deriving DecidableEq, Repr

namespace Printer

def valueText : FieldValue → String
  | .text s => s
  | .number n => toString n
  | .flag true => "true"
  | .flag false => "false"

def shape (format : LogFormat) (event : Event) : Printed :=
  match format with
  | .json => .object event.level (("message", .text event.message) :: event.fields)
  | .compact =>
      .line event.level
        (Text.joined " "
          (event.message :: event.fields.map fun (key, value) => key ++ "=" ++ valueText value))

/-- What is written of an event, unless the filter holds it back. -/
def print? (printer : Printer) (event : Event) : Option Printed :=
  if printer.filter.admits event then some (shape printer.format event) else none

end Printer

/-- The place where events go: nowhere until a printer is installed. -/
abbrev EventLog := Option Printer

namespace EventLog

def alreadyInstalled : String := "failed to initialize tracing subscriber"

/-- Installs a printer; the one that was installed first stays. -/
def install (log : EventLog) (printer : Printer) : Except String EventLog :=
  match log with
  | some _ => .error alreadyInstalled
  | none => .ok (some printer)

/-- Installs a printer of compact lines unless there is one. -/
def ensure (log : EventLog) (filter : EventFilter) : EventLog :=
  match log with
  | some printer => some printer
  | none => some ⟨.compact, filter⟩

def print (log : EventLog) (events : List Event) : List Printed :=
  match log with
  | some printer => events.filterMap printer.print?
  | none => []

end EventLog

end Readiness
