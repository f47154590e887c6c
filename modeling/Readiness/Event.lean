/-!
# Events — diagnostic records

An event is a message with named fields, written by one component at one level of detail.

* `Level` orders the levels from the least to the most important one;
* `Component` is where an event comes from, and `Component.path` is the name that filters use;
* `Event` is the record itself.
-/

namespace Readiness

inductive Level where
  | trace | debug | info | warn | error
deriving DecidableEq, Repr, Inhabited

namespace Level

/-- The rank of a level; more important levels rank higher. -/
def rank : Level → Nat
  | trace => 0
  | debug => 1
  | info => 2
  | warn => 3
  | error => 4

def name : Level → String
  | trace => "TRACE"
  | debug => "DEBUG"
  | info => "INFO"
  | warn => "WARN"
  | error => "ERROR"

end Level

inductive Component where
  | logSink | poller | ports | selector | tunnel | client | bench | manifest | observer | transport
deriving DecidableEq, Repr, Inhabited

namespace Component

def path : Component → String
  | logSink => "vigil_core::log_sink"
  | poller => "vigil_core::poller"
  | ports => "vigil_core::port"
  | selector => "vigil_core::selector"
  | tunnel => "vigil_core::tunnel"
  | client => "vigil_kube::client"
  | bench => "vigil_kube::harness"
  | manifest => "vigil_kube::manifest"
  | observer => "vigil_kube::observer"
  | transport => "vigil_kube::transport"

end Component

inductive FieldValue where
  | text (s : String)
  | number (n : Nat)
  | flag (b : Bool)
deriving DecidableEq, Repr, Inhabited

/-- A message with named fields. -/
structure Event where
  level : Level
  component : Component
  message : String
  fields : List (String × FieldValue)
deriving DecidableEq, Repr, Inhabited

end Readiness
