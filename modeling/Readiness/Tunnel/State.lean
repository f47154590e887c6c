import Readiness.Duration

/-!
# States and options of tunnels

* `TunnelState` is what a tunnel shows of its progress; a state is terminal when the tunnel does no
  more work;
* `TunnelOptions` are the settings under which tunnels are opened.
-/

namespace Readiness

/-- What a tunnel shows of its progress. -/
inductive TunnelState where
  -- The local port is bound, and the remote side is not verified.
  | starting
  -- Connections are accepted and forwarded.
  | ready
  -- Stopped by its owner.
  | closed
  -- Stopped by an error.
  | failed (reason : String)
deriving DecidableEq, Repr, Inhabited

namespace TunnelState

def isTerminal : TunnelState → Bool
  | closed | failed _ => true
  | starting | ready => false

def render : TunnelState → String
  | starting => "starting"
  | ready => "ready"
  | closed => "closed"
  | failed reason => "failed: " ++ reason

end TunnelState

/-- The settings under which tunnels are opened. -/
structure TunnelOptions where
  -- A fixed local port; the host chooses one when it is absent or zero.
  localPort : Option Nat
  -- How long the remote side may take to be reached.
  readyTimeout : Duration
  -- How long a stream that carries a failure report must stay quiet.
  probeSettle : Duration
deriving DecidableEq, Repr

namespace TunnelOptions

def standard : TunnelOptions := ⟨none, .ofSecs 30, .ofSecs 1⟩

instance : Inhabited TunnelOptions := ⟨standard⟩

def shownPort : Option Nat → String
  | some port => "Some(" ++ toString port ++ ")"
  | none => "None"

def shown (options : TunnelOptions) : String :=
  "TunnelOptions \x7b local_port: " ++ shownPort options.localPort ++ ", ready_timeout: " ++
    options.readyTimeout.render ++ ", probe_settle: " ++ options.probeSettle.render ++ " \x7d"

/-- The description of what opens tunnels with these options. -/
def shownManager (options : TunnelOptions) : String :=
  "TunnelManager \x7b options: " ++ options.shown ++ ", .. \x7d"

end TunnelOptions

end Readiness
