import Readiness.Tunnel.Transport

/-!
# Conversations — a stream without a tunnel around it

Somebody opens a stream, writes, reads until nothing comes for a while, possibly ends the near side,
and waits for the failure report.

* `RemoteEnd.hear` is what such a reader gets, and when the reading ends;
* `RemoteEnd.reportAfter` is what becomes of the report from then on;
* `Conversation.run` is the whole conversation on an attempt to open a stream.
-/

namespace Readiness

inductive ReportSeen where
  | message (text : String)
  | dropped
  | pending
deriving DecidableEq, Repr, Inhabited

structure Conversation where
  remote : RemoteEnd
  received : Bytes
  -- The stream ended, as opposed to falling silent.
  closed : Bool
  report : ReportSeen
  -- The offset of the end of the conversation.
  finished : Nat
deriving DecidableEq, Repr, Inhabited

namespace RemoteEnd

/-- How long a reader waits for more. -/
def silence : Nat := 100

/-- How long the report is waited for. -/
def reportPatience : Nat := 500

/-- What the far side sends when some bytes were written to it. -/
def replies (remote : RemoteEnd) (written : Bytes) : List (Nat × Arrival) :=
  match remote.manner with
  | .echoes =>
      if written.isEmpty then remote.arrivals
      else remote.arrivals ++ [(remote.awake, .data written)]
  | _ => remote.arrivals

/-- Reads from an offset on until nothing comes for a while: the bytes, whether the stream ended,
and the offset of the end. -/
def hear (offset : Nat) : List (Nat × Arrival) → Bytes × Bool × Nat
  | [] => ([], false, offset + silence)
  | (next, arrival) :: rest =>
      if offset + silence < next then ([], false, offset + silence)
      else
        match arrival with
        | .data bytes =>
            let (more, closed, finished) := hear (max offset next) rest
            (bytes ++ more, closed, finished)
        | .eof | .failure _ => ([], true, max offset next)

/-- What becomes of the report by an offset, after which it is waited for. -/
def reportWithin (offset patience : Nat) : Report → ReportSeen × Nat
  | .message at_ text =>
      if at_ ≤ offset + patience then (.message text, max offset at_)
      else (.pending, offset + patience)
  | .dropped at_ =>
      if at_ ≤ offset + patience then (.dropped, max offset at_) else (.pending, offset + patience)
  | .silent => (.pending, offset + patience)

/-- What becomes of the report from an offset on. When the near side has ended, the stream ends and
with it the report. -/
def reportAfter (remote : RemoteEnd) (offset : Nat) (ended : Bool) : ReportSeen × Nat :=
  match remote.report with
  | none => (.dropped, offset)
  | some report =>
      if ended then
        match reportWithin offset 0 report with
        | (.message text, _) => (.message text, offset)
        | _ => (.dropped, offset)
      else reportWithin offset reportPatience report

end RemoteEnd

namespace Conversation

def onStream (remote : RemoteEnd) (written : Bytes) (ends : Bool) : Conversation :=
  let (received, closed, offset) := RemoteEnd.hear 0 (remote.replies written)
  let (report, finished) := remote.reportAfter offset ends
  ⟨remote, received, closed, report, finished⟩

/-- The conversation on an attempt to open a stream, with the time that everything takes and the
events on the way. There is none on an attempt that never ends or breaks down. -/
def run (dialing : Dialing) (written : Bytes) (ends : Bool) :
    Option (Except Error Conversation × Nat × List Event) :=
  match dialing with
  | .never => none
  | .after _ (.panicked _) _ => none
  | .after delay (.refused error) events => some (.error error, delay, events.map (·.2))
  | .after delay (.connected remote) events =>
      let conversation := onStream remote written ends
      let finished := delay + conversation.finished
      some (.ok conversation, finished,
        (events.filter fun event => event.1 ≤ finished).map (·.2))

end Conversation

end Readiness
