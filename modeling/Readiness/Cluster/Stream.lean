import Readiness.Tunnel.Transport

/-!
# Streams — the far side of a connection to a pod

A connection to a pod carries frames on two channels, one for data and one for a failure report. The
first frame of each channel tells the port that the channel belongs to.

* `PodFrame` is a frame or the end of all frames, and `PodStream` what a pod sends and does;
* `PodStream.objection?` says what is wrong with the answer that opened the connection;
* `PodStream.remoteEnd` is the far side that a tunnel sees: data, end and report, each at its offset.
-/

namespace Readiness

inductive PodFrame where
  | data (channel : Nat) (bytes : Bytes)
  | close
deriving DecidableEq, Repr, Inhabited

/-- What a pod says first about the port of the channels. -/
inductive PodGreeting where
  | silent
  -- It tells the port that was asked for.
  | honest
  | told (port : Nat)
deriving DecidableEq, Repr, Inhabited

/-- What a pod sends and does. -/
structure PodStream where
  -- The headers of the answer that opened the connection, by lower-case name.
  headers : Dict String
  greeting : PodGreeting
  -- Frames in order, each so many milliseconds behind the one before.
  frames : List (Nat × PodFrame)
  -- It sends back every frame that it gets, once its own frames are sent.
  echoes : Bool
  -- It drops the connection once its frames are sent.
  aborts : Bool
deriving DecidableEq, Repr, Inhabited

namespace PodStream

/-! ## Opening -/

def notUpgraded (reason : String) : String :=
  "failed to upgrade to a WebSocket connection: " ++ reason

def protocol : String := "v4.channel.k8s.io"

/-- The headers of an answer in order, without those that a pod replaces. -/
def headerOr (stream : PodStream) (name standard : String) : String :=
  (Dict.find? name stream.headers).getD standard

/-- What is wrong with the headers. The key of the connection is not known to a pod that replaces
the header with it. -/
def objection? (stream : PodStream) : Option String :=
  if (stream.headerOr "upgrade" "websocket").toLower != "websocket" then
    some "upgrade header was not set to websocket"
  else if (stream.headerOr "connection" "Upgrade").toLower != "upgrade" then
    some "connection header was not set to Upgrade"
  else if (Dict.find? "sec-websocket-accept" stream.headers).isSome then
    some "Sec-WebSocket-Accept key mismatched"
  else if stream.headerOr "sec-websocket-protocol" protocol != protocol then
    some "Sec-WebSocket-Protocol mismatched"
  else none

/-! ## Frames -/

def dataChannel : Nat := 0

def reportChannel : Nat := 1

/-- A port as the first frame of a channel tells it, the low byte first. -/
def portBytes (port : Nat) : Bytes := [UInt8.ofNat (port % 256), UInt8.ofNat (port / 256)]

def greetingFrames (port : Nat) : PodGreeting → List (Nat × PodFrame)
  | .silent => []
  | .honest =>
      [(0, .data dataChannel (portBytes port)), (0, .data reportChannel (portBytes port))]
  | .told other =>
      [(0, .data dataChannel (portBytes other)), (0, .data reportChannel (portBytes other))]

structure Progress where
  offset : Nat
  -- The channels whose port was told.
  known : List Nat
  -- What came on the data channel, the last part first.
  arrivals : List (Nat × Arrival)
  report : Option (Nat × String)
deriving DecidableEq, Repr, Inhabited

namespace Progress

def start : Progress := ⟨0, [], [], none⟩

/-- How the reading of frames ends. -/
inductive Ending where
  -- No more frames come.
  | quiet
  -- The pod sends nothing more.
  | closed
  -- The connection is given up.
  | broken
deriving DecidableEq, Repr, Inhabited

/-- Reads one frame that is not empty. There is no result for a frame that breaks the rules of the
channels. -/
def take? (port : Nat) (progress : Progress) (channel : Nat) (bytes : Bytes) : Option Progress :=
  if reportChannel < channel then none
  else if !progress.known.contains channel then
    if bytes = portBytes port then some { progress with known := channel :: progress.known }
    else none
  else if channel = dataChannel then
    some { progress with arrivals := (progress.offset, .data bytes) :: progress.arrivals }
  else if progress.report.isSome then some progress
  else
    (String.fromUTF8? ⟨bytes.toArray⟩).map fun text =>
      { progress with report := some (progress.offset, text) }

/-- Reads frames in order. Frames without bytes count for nothing. -/
def read (port : Nat) (progress : Progress) : List (Nat × PodFrame) → Progress × Ending
  | [] => (progress, .quiet)
  | (after, .close) :: _ => ({ progress with offset := progress.offset + after }, .closed)
  | (after, .data channel bytes) :: rest =>
      let progress := { progress with offset := progress.offset + after }
      if bytes.isEmpty then read port progress rest
      else
        match progress.take? port channel bytes with
        | some progress => read port progress rest
        | none => (progress, .broken)

/-- A report that was sent, or else another fate of it. -/
def reportOr (progress : Progress) (other : Report) : Report :=
  match progress.report with
  | some (offset, text) => .message offset text
  | none => other

/-- The far side after the frames of a connection that goes on. -/
def ongoing (progress : Progress) (echoes : Bool) : RemoteEnd :=
  ⟨progress.arrivals.reverse, if echoes then .echoes else .ignores, progress.offset,
    some (progress.reportOr .silent)⟩

def closed (progress : Progress) : RemoteEnd :=
  ⟨progress.arrivals.reverse ++ [(progress.offset, .eof)], .ignores, progress.offset,
    some (progress.reportOr .silent)⟩

/-- The far side of a connection that was given up; its report ends with it. -/
def broken (progress : Progress) : RemoteEnd :=
  ⟨progress.arrivals.reverse ++ [(progress.offset, .eof)], .leaves, progress.offset,
    some (progress.reportOr (.dropped progress.offset))⟩

/-- Data that came at the instant at which a connection was dropped are lost. -/
def withoutLast (progress : Progress) : Progress :=
  { progress with arrivals := progress.arrivals.filter fun arrival => arrival.1 < progress.offset }

end Progress

/-- The far side that a tunnel to a port sees. -/
def remoteEnd (stream : PodStream) (port : Nat) : RemoteEnd :=
  match Progress.start.read port (greetingFrames port stream.greeting ++ stream.frames) with
  | (progress, .quiet) =>
      if stream.aborts then progress.withoutLast.broken else progress.ongoing stream.echoes
  | (progress, .closed) => progress.closed
  | (progress, .broken) => progress.broken

end PodStream

end Readiness
