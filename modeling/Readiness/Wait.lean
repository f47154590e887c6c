import Readiness.Condition
import Readiness.Pacing
import Readiness.Source

/-!
# Waits — looking until a condition holds

A wait looks, evaluates its condition, sleeps for the interval and looks again, until the condition
holds or the deadline passes. The sleep is cut short at the deadline, so that the last look starts
there, and a look under way is cut off one interval after the deadline.

* `Look` is one observation as the wait saw it;
* `Verdict` is what one completed look decides;
* `Wait.rounds` is the loop and `Wait.run` the whole wait, which has no result when its deadlines lie
  beyond the range of the clock;
* `Wait.forResource` and `Wait.forListing` wait on a source.
-/

namespace Readiness

/-- One observation as a wait saw it. -/
structure Look (α : Type) where
  started : Nat
  -- The instant and the result of its completion; nothing when it was cut off.
  seen : Option (Nat × Except Error α)

structure Ended (σ α : Type) where
  result : Except Error α
  finished : Nat
  source : σ
  events : List Event

/-- The end of a wait, with every look it took. -/
structure Waited (σ α : Type) extends Ended σ α where
  looks : List (Look α)

/-- What one completed look decides. -/
inductive Verdict (α : Type) where
  -- The wait ends with this result.
  | finish (result : Except Error α)
  -- The wait goes on; the text describes what was seen.
  | goOn (description : String)

namespace Wait

variable {σ α : Type} [Summary α]

/-- A state that satisfies the condition ends the wait, and so does an error unless it is retried. -/
def judge (pacing : Pacing) (condition : Condition α) : Except Error α → Verdict α
  | .ok state =>
      if condition.holds state then .finish (.ok state) else .goOn (Summary.summary state)
  | .error error =>
      if pacing.retriesErrors then .goOn ("observation error: " ++ error.message)
      else .finish (.error error)

def lookEvents (pacing : Pacing) (condition : Condition α) (tick elapsed : Nat) :
    Except Error α → List Event
  | .ok state =>
      if condition.holds state then
        [⟨.debug, .poller, "Condition satisfied",
          [("condition", .text condition.description), ("tick", .number tick),
            ("elapsed_ms", .number elapsed)]⟩]
      else
        [⟨.trace, .poller, "Condition not yet met",
          [("condition", .text condition.description), ("tick", .number tick),
            ("observed", .text (Summary.summary state))]⟩]
  | .error error =>
      if pacing.retriesErrors then
        [⟨.warn, .poller, "Observation failed, retrying until deadline",
          [("condition", .text condition.description), ("tick", .number tick),
            ("error", .text error.message)]⟩]
      else []

/-- The error of a wait that gave up. -/
def gaveUp (condition : Condition α) (elapsed : Nat) (lastObserved : Option String) : Error :=
  .timeout condition.description (.ofMillis elapsed) lastObserved

/-- A wait that ends with its last look. -/
def conclude (look : Look α) (events : List Event) (result : Except Error α) (finished : Nat)
    (source : σ) : Waited σ α :=
  ⟨⟨result, finished, source, events⟩, [look]⟩

/-- A wait whose last look, begun at `now`, is cut off. -/
def cutOff (pacing : Pacing) (condition : Condition α) (start : Nat) (lastObserved : Option String)
    (now : Nat) (source : σ) : Waited σ α :=
  conclude ⟨now, none⟩ []
    (.error (gaveUp condition pacing.cutoffMillis
      (some (lastObserved.getD "observation did not complete"))))
    (start + pacing.cutoffMillis) source

def precede (look : Look α) (events : List Event) (rest : Waited σ α) : Waited σ α :=
  ⟨{ rest.toEnded with events := events ++ rest.events }, look :: rest.looks⟩

/-- The looks from the instant `now` on, the next one having the number `tick`; `lastObserved`
describes the last completed look before them. -/
def rounds (pacing : Pacing) (condition : Condition α)
    (observe : Nat → σ → Observation α × σ) (start tick : Nat) (lastObserved : Option String)
    (now : Nat) (source : σ) : Waited σ α :=
  let deadline := start + pacing.timeoutMillis
  match observe now source with
  | (.never, source) => cutOff pacing condition start lastObserved now source
  | (.after delay result events, source) =>
      let ended := now + delay
      if start + pacing.cutoffMillis < ended then
        cutOff pacing condition start lastObserved now source
      else
        let look : Look α := ⟨now, some (ended, result)⟩
        let events := events ++ lookEvents pacing condition tick (ended - start) result
        match judge pacing condition result with
        | .finish result => conclude look events result ended source
        | .goOn description =>
            if ended < deadline then
              precede look events
                (rounds pacing condition observe start (tick + 1) (some description)
                  (min (ended + pacing.intervalMillis) deadline) source)
            else
              conclude look events
                (.error (gaveUp condition (ended - start) (some description))) ended source
termination_by start + pacing.timeoutMillis - now
decreasing_by
  have := pacing.intervalMillis_pos
  omega

/-- The clock counts seconds in 63 bits. -/
def clockLimit : Duration := .ofSecs 0x8000000000000000

def isRepresentable (pacing : Pacing) (start : Nat) : Bool :=
  (((Duration.ofMillis start).add pacing.timeout).add pacing.interval) < clockLimit

/-- Looks until the condition holds or the deadline passes. There is no result when a deadline lies
beyond the range of the clock. -/
def run (pacing : Pacing) (condition : Condition α) (observe : Nat → σ → Observation α × σ)
    (start : Nat) (source : σ) : Option (Waited σ α) :=
  if isRepresentable pacing start then
    some (rounds pacing condition observe start 1 none start source)
  else none

/-! ## Waits on a source -/

def resourceCondition (target : Target) (condition : Condition Snapshot) :
    Condition (Option Snapshot) :=
  (condition.described (target.render ++ " " ++ condition.description)).whenPresent

def presentResult (target : Target) : Except Error (Option Snapshot) → Except Error Snapshot
  | .ok (some snapshot) => .ok snapshot
  | .ok none => .error (.observation target.render "resource vanished")
  | .error error => .error error

/-- Waits until a resource exists and satisfies the condition; while it is absent, the wait goes
on. -/
def forResource (source : Source σ) (pacing : Pacing) (target : Target)
    (condition : Condition Snapshot) (start : Nat) (s : σ) : Option (Ended σ Snapshot) :=
  (run pacing (resourceCondition target condition) (fun now s => source.get now target s) start s).map
    fun waited =>
      ⟨presentResult target waited.result, waited.finished, waited.source, waited.events⟩

def listingCondition (kind : Kind) (ns : String) (condition : Condition (List Snapshot)) :
    Condition (List Snapshot) :=
  condition.described (kind.name ++ " in " ++ ns ++ ": " ++ condition.description)

def forListing (source : Source σ) (pacing : Pacing) (kind : Kind) (ns : String)
    (selector : Option String) (condition : Condition (List Snapshot)) (start : Nat) (s : σ) :
    Option (Ended σ (List Snapshot)) :=
  (run pacing (listingCondition kind ns condition) (fun now s => source.list now kind ns selector s)
    start s).map (·.toEnded)

end Wait

end Readiness
