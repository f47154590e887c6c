import Readiness.Selection

/-!
# Transports — streams to a remote port

* `RemoteEnd` is the far side of a stream: what it sends by itself, what it does with the bytes that
  it gets, and the failure report beside it. Such a stream does not break down under its reader, takes
  a write as a whole without making it wait, and refuses one only when the far side is gone;
* `Dialing` is what becomes of one attempt to open a stream;
* `Transport` opens streams, in a state of its own.

Offsets are milliseconds since the stream was opened.
-/

namespace Readiness

abbrev Bytes := List UInt8

def Bytes.ofText (text : String) : Bytes := text.toUTF8.toList

inductive Arrival where
  | data (bytes : Bytes)
  | eof
  | failure (reason : String)
deriving DecidableEq, Repr, Inhabited

/-- What becomes of the failure report of a stream. -/
inductive Report where
  | message (offset : Nat) (text : String)
  -- The report ends without a message.
  | dropped (offset : Nat)
  -- Neither ever happens.
  | silent
deriving DecidableEq, Repr, Inhabited

/-- What the far side does with the bytes that it gets. -/
inductive Manner where
  | ignores
  -- Sends them back, and ends when the near side has ended.
  | echoes
  -- Counts them, and tells the number when the near side has ended.
  | counts
  -- It is gone once it has ended.
  | leaves
deriving DecidableEq, Repr, Inhabited

/-- The far side of a stream. -/
structure RemoteEnd where
  -- What it sends by itself, in ascending order of the offsets.
  arrivals : List (Nat × Arrival)
  manner : Manner
  -- The offset from which on it takes bytes.
  awake : Nat
  -- The report of a far side that can fail after the stream was opened.
  report : Option Report
deriving DecidableEq, Repr, Inhabited

namespace RemoteEnd

def shown (remote : RemoteEnd) : String :=
  "Dialed \x7b reports_failure: " ++ (if remote.report.isSome then "true" else "false") ++
    ", .. \x7d"

/-- A far side that never sends anything, with or without a report. -/
def quiet (report : Option Report) : RemoteEnd := ⟨[], .ignores, 0, report⟩

end RemoteEnd

inductive DialEnd where
  | connected (remote : RemoteEnd)
  | refused (error : Error)
  -- The attempt broke down; the text says why.
  | panicked (reason : String)
deriving DecidableEq, Repr, Inhabited

/-- What becomes of an attempt to open a stream. -/
inductive Dialing where
  | never
  -- It ends after a delay; the events are written at offsets from its start.
  | after (delay : Nat) (outcome : DialEnd) (events : List (Nat × Event))
deriving DecidableEq, Repr, Inhabited

/-- Opens a stream to a port of an endpoint at an instant, in a state of its own. -/
structure Transport (σ : Type) where
  dial : Nat → Endpoint → Nat → σ → Dialing × σ

/-- The text of an error of a transport: a tunnel error stands for its reason alone. -/
def Error.dialReason : Error → String
  | .tunnel _ reason => reason
  | error => error.message

end Readiness
