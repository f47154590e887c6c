import Readiness.Duration
import Readiness.Tunnel.Transport

/-!
# Probes — whether the remote side can be reached

A probe opens one stream. A stream without a failure report counts as connected. One with a report
is watched until the report, the first bytes or the end of a quiet period decides.

* `Notice` is one thing that a waiting probe can notice, and `earliest` is the next of several, where
  the first listed wins at equal instants;
* `Probe.watch` is the verdict on an open stream, `Probe.run` the one on an attempt to open it, and
  `Probe.verdict` sets a deadline to it.
-/

namespace Readiness

inductive ProbeEnd where
  | ready
  | failed (reason : String)
  -- The transport broke down; the text says why.
  | panicked (reason : String)
deriving DecidableEq, Repr, Inhabited

inductive Notice where
  | reported (message : String)
  | unreported
  | arrived (arrival : Arrival)
  -- The time of waiting is over.
  | timeUp
deriving DecidableEq, Repr, Inhabited

namespace Probe

/-- The next of several notices; `last` is looked at behind all others. -/
def earliest (last : Nat × Notice) : List (Nat × Notice) → Nat × Notice
  | [] => last
  | notice :: rest =>
      let next := earliest last rest
      if next.1 < notice.1 then next else notice

def ofReport : Report → List (Nat × Notice)
  | .message offset text => [(offset, .reported text)]
  | .dropped offset => [(offset, .unreported)]
  | .silent => []

def ofStream (remote : RemoteEnd) : List (Nat × Notice) :=
  match remote.arrivals with
  | (offset, arrival) :: _ => [(offset, .arrived arrival)]
  | [] => []

/-- The reason of a stream that ended and was not reported on. -/
def closedEarly : String := "remote closed the connection"

/-- A stream ended at an offset; its report is waited for a while. -/
def trail (settle : Nat) (report : Report) (ended : Nat) : Nat × ProbeEnd :=
  match earliest (ended + settle, .timeUp) (ofReport report) with
  | (offset, .reported message) => (offset, .failed message)
  | (offset, _) => (offset, .failed closedEarly)

/-- The verdict on an open stream whose report ended without a message. -/
def watchStream (settle : Nat) (remote : RemoteEnd) : Nat × ProbeEnd :=
  match earliest (settle, .timeUp) (ofStream remote) with
  | (offset, .arrived .eof) => (offset, .failed closedEarly)
  | (offset, .arrived (.failure reason)) => (offset, .failed reason)
  | (offset, _) => (offset, .ready)

/-- The verdict on an open stream with a report. The report is looked at first, then the stream. -/
def watch (settle : Nat) (remote : RemoteEnd) (report : Report) : Nat × ProbeEnd :=
  match earliest (settle, .timeUp) (ofReport report ++ ofStream remote) with
  | (offset, .reported message) => (offset, .failed message)
  | (_, .unreported) => watchStream settle remote
  | (offset, .arrived .eof) => trail settle report offset
  | (offset, .arrived (.failure reason)) => (offset, .failed reason)
  | (offset, .arrived (.data _)) => (offset, .ready)
  | (offset, .timeUp) => (offset, .ready)

/-- The verdict on the end of an attempt, at an offset from the end. -/
def judge (settle : Nat) : DialEnd → Nat × ProbeEnd
  | .refused error => (0, .failed error.dialReason)
  | .panicked reason => (0, .panicked reason)
  | .connected remote =>
      match remote.report with
      | none => (0, .ready)
      | some report => watch settle remote report

/-- The verdict on an attempt, at an offset from its start; there is none when it never ends. -/
def run (settle : Nat) : Dialing → Option (Nat × ProbeEnd)
  | .never => none
  | .after delay outcome _ =>
      let (offset, verdict) := judge settle outcome
      some (delay + offset, verdict)

def tooLate (timeout : Duration) : String := "remote not reachable within " ++ timeout.render

/-- The verdict under a deadline. One that falls on the deadline counts. -/
def verdict (settle timeout : Duration) (dialing : Dialing) : Nat × ProbeEnd :=
  match run settle.timerMillis dialing with
  | some (offset, verdict) =>
      if offset ≤ timeout.timerMillis then (offset, verdict)
      else (timeout.timerMillis, .failed (tooLate timeout))
  | none => (timeout.timerMillis, .failed (tooLate timeout))

def eventsUntil (offset : Nat) : Dialing → List Event
  | .never => []
  | .after _ _ events => (events.filter fun event => event.1 ≤ offset).map (·.2)

end Probe

end Readiness
