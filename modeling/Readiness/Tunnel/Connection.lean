import Readiness.Tunnel.Transport

/-!
# Connections — one client and the stream that it is forwarded to

* `Client` is the near side: the bytes that it wrote and those that came back;
* `Link` is the open stream of a connection, and `Link.copy` moves everything that can move at an
  instant in both directions;
* `Connection` is a client of one tunnel together with how far its forwarding is.
-/

namespace Readiness

/-- The near side of a connection. -/
structure Client where
  -- Written and not forwarded yet.
  outbox : Bytes
  -- Nothing more will be written.
  finished : Bool
  -- Came back and was not read yet.
  inbox : Bytes
  -- Nothing more will come back.
  ended : Bool
deriving DecidableEq, Repr, Inhabited

namespace Client

def fresh : Client := ⟨[], false, [], false⟩

def send (client : Client) (bytes : Bytes) : Client :=
  if client.finished then client else { client with outbox := client.outbox ++ bytes }

def finish (client : Client) : Client := { client with finished := true }

def receive (client : Client) (bytes : Bytes) : Client :=
  if client.ended then client else { client with inbox := client.inbox ++ bytes }

def hear (client : Client) : Client := { client with ended := true }

def take (client : Client) (count : Nat) : Bytes × Client :=
  (client.inbox.take count, { client with inbox := client.inbox.drop count })

theorem ended_send (client : Client) (bytes : Bytes) :
    (client.send bytes).ended = client.ended := by
  unfold send
  split <;> rfl

end Client

/-- An open stream to the far side. -/
structure Link where
  remote : RemoteEnd
  -- The instant at which the stream was opened.
  since : Nat
  -- What the far side has not sent yet.
  coming : List (Nat × Arrival)
  -- Bytes that the far side has not taken yet.
  held : Bytes
  -- The number of bytes that the far side took.
  taken : Nat
  -- The far side was told that nothing more comes.
  told : Bool
  -- The far side has ended.
  ended : Bool
deriving DecidableEq, Repr, Inhabited

inductive Copied where
  | goesOn
  -- Both directions have ended.
  | done
  | broken (reason : String)
deriving DecidableEq, Repr, Inhabited

namespace Link

def opened (remote : RemoteEnd) (since : Nat) : Link :=
  ⟨remote, since, remote.arrivals, [], 0, false, false⟩

/-- Lets come back what the far side sent up to an instant. -/
def receive (now : Nat) (client : Client) (link : Link) : List (Nat × Arrival) → Client × Link × Copied
  | [] => (client, { link with coming := [] }, .goesOn)
  | (offset, arrival) :: rest =>
      if now < link.since + offset then (client, { link with coming := (offset, arrival) :: rest }, .goesOn)
      else
        match arrival with
        | .data bytes => receive now (client.receive bytes) link rest
        | .eof => (client.hear, { link with coming := [], ended := true }, .goesOn)
        | .failure reason => (client, { link with coming := [] }, .broken reason)

/-- What a write into a stream is told whose far side is gone. -/
def brokenPipe : String := "broken pipe"

def send (client : Client) (link : Link) : Client × Link × Copied :=
  if link.ended && link.remote.manner = .leaves && !client.outbox.isEmpty then
    (client, link, .broken brokenPipe)
  else
    ({ client with outbox := [] },
      { link with held := link.held ++ client.outbox, told := client.finished }, .goesOn)

def tally (count : Nat) : Bytes := .ofText ("got " ++ toString count ++ " bytes")

/-- Lets the far side take what it holds, once it is awake. -/
def react (now : Nat) (client : Client) (link : Link) : Client × Link :=
  if now < link.since + link.remote.awake || link.ended then (client, link)
  else
    let taken := link.taken + link.held.length
    let emptied := { link with held := [], taken := taken }
    match link.remote.manner with
    | .ignores | .leaves => (client, emptied)
    | .echoes =>
        let client := client.receive link.held
        if link.told then (client.hear, { emptied with ended := true }) else (client, emptied)
    | .counts =>
        if link.told then ((client.receive (tally taken)).hear, { emptied with ended := true })
        else (client, emptied)

/-- Moves everything that can move at an instant. -/
def copy (now : Nat) (client : Client) (link : Link) : Client × Link × Copied :=
  match link.receive now client link.coming with
  | (client, link, .goesOn) =>
      match link.send client with
      | (client, link, .goesOn) =>
          let (client, link) := link.react now client
          (client, link, if link.told && link.ended then .done else .goesOn)
      | broken => broken
  | broken => broken

/-- The next instant at which the far side does something by itself. -/
def nextDue (now : Nat) (link : Link) : Option Nat :=
  let arrival :=
    match link.coming with
    | (offset, _) :: _ => [link.since + offset]
    | [] => []
  let awake :=
    if link.ended || (link.held.isEmpty && !link.told) then [] else [link.since + link.remote.awake]
  ((arrival ++ awake).filter (now < ·)).min?

def reported? (now : Nat) (link : Link) : Option String :=
  match link.remote.report with
  | some (.message offset text) => if link.since + offset ≤ now then some text else none
  | _ => none

end Link

inductive ConnectionPhase where
  -- The tunnel has not accepted it.
  | waiting
  | accepted
  -- A stream is being opened.
  | dialing (since : Nat) (dialing : Dialing)
  | copying (link : Link)
  | ended
deriving DecidableEq, Repr, Inhabited

/-- A client of a tunnel. -/
structure Connection where
  -- The number of its tunnel.
  tunnel : Nat
  client : Client
  phase : ConnectionPhase
deriving DecidableEq, Repr, Inhabited

namespace Connection

def fresh (tunnel : Nat) : Connection := ⟨tunnel, .fresh, .waiting⟩

/-- The connection after its forwarding ended; nothing more comes back. -/
def close (connection : Connection) : Connection :=
  { connection with client := connection.client.hear, phase := .ended }

end Connection

end Readiness
