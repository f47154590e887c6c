import Readiness.Error
import Readiness.Event
import Readiness.Snapshot

/-!
# Sources — where observations come from

* `Observation` is what becomes of one request: an answer after some time, or none ever;
* `Source` answers requests for one resource or a listing, and may change its own state at each
  request;
* `Call` is a request as seen from outside, and `Source.recorded` is the source that also keeps the
  calls made to it, each with the instant at which it began.

Instants and delays are whole milliseconds.
-/

namespace Readiness

/-- What becomes of one request. -/
inductive Observation (α : Type) where
  -- No answer ever comes.
  | never
  -- The answer comes after a delay, together with the events written on the way.
  | after (delay : Nat) (result : Except Error α) (events : List Event)

namespace Observation

variable {α β : Type}

def now (result : Except Error α) : Observation α := .after 0 result []

/-- The same answer, seen through a function of its result. -/
def map (f : Except Error α → Except Error β) : Observation α → Observation β
  | never => never
  | after delay result events => after delay (f result) events

end Observation

/-- Answers requests at an instant, in a state of its own. -/
structure Source (σ : Type) where
  -- One resource, or nothing when it does not exist.
  get : Nat → Target → σ → Observation (Option Snapshot) × σ
  -- The resources of a kind in a namespace that a selector admits.
  list : Nat → Kind → String → Option String → σ → Observation (List Snapshot) × σ

inductive Call where
  | get (target : Target)
  | list (kind : Kind) (namespaceName : String) (selector : Option String)
deriving DecidableEq, Repr

namespace Source

variable {σ : Type}

/-- The state of a source together with the calls made to it, the last one first. -/
abbrev Recorded (σ : Type) := σ × List (Nat × Call)

def recorded (source : Source σ) : Source (Recorded σ) where
  get now target s :=
    let (answer, next) := source.get now target s.1
    (answer, next, (now, .get target) :: s.2)
  list now kind ns selector s :=
    let (answer, next) := source.list now kind ns selector s.1
    (answer, next, (now, .list kind ns selector) :: s.2)

end Source

end Readiness
