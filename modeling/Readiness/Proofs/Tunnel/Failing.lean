import Readiness.Proofs.Ports.Binding
import Readiness.Proofs.Tunnel.Probing
import Readiness.Proofs.Tunnel.Serving

/-!
# Failing — a tunnel that cannot be opened leaves nothing behind

* `Relay.GaveBack`: another tunnel gave its port back by itself, and `Relay.Recedes.claims_cases`: where
  nothing is bound, claims only vanish in this way;
* `Relay.openTunnel_recedes`: a failed opening binds nothing that it does not give back before its
  caller learns the error;
* `Relay.openTunnel_returns`, `Relay.openTunnel_of_refused` and `Relay.openTunnel_tells`: the time that
  opening takes, an opening without a listener, and the error and the lines of a failed probe;
* `Relay.failed_opening_leaves_nothing` puts these together.

The deadline is a timer as well: half a millisecond ends after a whole one, in
`Relay.deadline_is_rounded_up`.
-/

namespace Readiness

namespace Relay

variable {σ : Type} {surroundings : Surroundings σ} {started relay before after : Relay σ}
  {index offset : Nat} {base tunnel : Tunnel} {result : Except Error Unit} {error : Error}

/-! ## Claims that vanish -/

/-- The worker of a tunnel with a port ended. It was not one that serves. -/
def GaveBack (before after : Relay σ) (port : Nat) : Prop :=
  ∃ (index : Nat) (tunnel later : Tunnel), before.tunnels[index]? = some tunnel ∧
    tunnel.grant.port = port ∧ tunnel.isOver = false ∧ ¬ Serves tunnel ∧
    after.tunnels[index]? = some later ∧ later.isOver = true

/-- A lease belongs to a tunnel whose worker goes on, or it is held for its own sake. -/
theorem IsAccounted.lease_cases (h : IsAccounted relay) {lease : Grant}
    (held : lease ∈ relay.ports.leases) :
    (∃ (index : Nat) (tunnel : Tunnel), relay.tunnels[index]? = some tunnel ∧
      tunnel.grant = lease ∧ tunnel.isOver = false) ∨ lease ∈ relay.bound := by
  rcases List.mem_append.1 (h.leases.mem_iff.1 held) with hlive | hbound
  · rw [live_ledger] at hlive
    rcases List.mem_map.1 hlive with ⟨tunnel, hmem, hgrant⟩
    rcases List.mem_filter.1 hmem with ⟨hmem, hgoing⟩
    rcases List.getElem?_of_mem hmem with ⟨index, found⟩
    exact .inl ⟨index, tunnel, found, hgrant, by simpa using hgoing⟩
  · exact .inr hbound

theorem IsAccounted.mem_leases_of_bound (h : IsAccounted relay) {lease : Grant}
    (held : lease ∈ relay.bound) : lease ∈ relay.ports.leases :=
  h.leases.mem_iff.2 (List.mem_append_right _ held)

namespace Recedes

theorem claims (h : Recedes before after) (earlier : IsAccounted before)
    (later : IsAccounted after) (port : Nat) (claimed : after.ports.isClaimed port = true) :
    before.ports.isClaimed port = true := by
  rcases (later.consistent.isClaimed_iff_lease port).1 claimed with ⟨lease, hmem, hport⟩
  refine (earlier.consistent.isClaimed_iff_lease port).2 ⟨lease, ?_, hport⟩
  rcases List.mem_append.1 hmem with hpending | hlease
  · exact List.mem_append_left _ (h.pending ▸ hpending)
  · exact List.mem_append_right _ (h.leases lease hlease)

/-- What could be bound before can be bound now. -/
theorem canBind (h : Recedes before after) (earlier : IsAccounted before)
    (later : IsAccounted after) {port : Nat} {host : Ports.Host} (named : port ≠ 0)
    (possible : before.ports.CanBind port host) : after.ports.CanBind port host :=
  possible.mono named (h.claims earlier later port) h.occupied h.listeners

/-- Where nothing is bound and tunnels that serve go on, claims only vanish with tunnels that give
their ports back. -/
theorem claims_cases (h : Recedes before after) (earlier : IsAccounted before)
    (later : IsAccounted after) (extending : Extends before after)
    (serving : ∀ (index : Nat) (tunnel : Tunnel), before.tunnels[index]? = some tunnel →
      Serves tunnel → ∃ later, after.tunnels[index]? = some later ∧ Serves later)
    {port : Nat} (claimed : before.ports.isClaimed port = true) :
    after.ports.isClaimed port = true ∨ GaveBack before after port := by
  have kept {lease : Grant} (hport : lease.port = port) (hmem : lease ∈ after.ports.leases) :
      after.ports.isClaimed port = true :=
    (later.consistent.isClaimed_iff_lease port).2 ⟨lease, List.mem_append_right _ hmem, hport⟩
  rcases (earlier.consistent.isClaimed_iff_lease port).1 claimed with ⟨lease, hmem, hport⟩
  rcases List.mem_append.1 hmem with hpending | hlease
  · left
    refine (later.consistent.isClaimed_iff_lease port).2 ⟨lease, ?_, hport⟩
    exact List.mem_append_left _ (h.pending.symm ▸ hpending)
  · rcases earlier.lease_cases hlease with ⟨index, tunnel, found, rfl, going⟩ | hbound
    · rcases extending.tunnels index tunnel found with ⟨last, hlast, hgrows⟩
      cases hover : last.isOver with
      | false =>
          have hheld := (later.mem_leases_iff hlast).2 hover
          exact .inl (kept hport (hgrows.grant ▸ hheld))
      | true =>
          refine .inr ⟨index, tunnel, last, found, hport, going, fun hserves => ?_, hlast, hover⟩
          rcases serving index tunnel found hserves with ⟨other, hother, hgoing⟩
          cases hother.symm.trans hlast
          rw [hgoing.isOver] at hover
          cases hover
    · exact .inl (kept hport (later.mem_leases_of_bound (h.bound.symm ▸ hbound)))

end Recedes

/-! ## Failed openings -/

section Openings

variable {options : TunnelOptions} {endpoint : Endpoint} {remotePort : Nat} {host : Ports.Host}
  {grant : Grant} {ports : Ports}

/-- Without a listener the opening ends at once. -/
theorem openTunnel_of_error
    (refused : relay.ports.listen options.localPort host = (.error error, ports)) :
    relay.openTunnel surroundings options endpoint remotePort host none =
      (.done (.error error), (relay.start options endpoint remotePort host).2) := by
  have hstart := (start_of_error endpoint remotePort refused).1
  unfold openTunnel
  cases hpair : relay.start options endpoint remotePort host with
  | mk granted started =>
      rw [hpair] at hstart
      cases hstart
      rfl

theorem start_recedes (consistent : relay.ports.Consistent)
    (refused : relay.ports.listen options.localPort host = (.error error, ports)) :
    Recedes relay (relay.start options endpoint remotePort host).2 := by
  rcases start_of_error endpoint remotePort refused with ⟨-, -, hports⟩
  rcases start_frame relay options endpoint remotePort host with ⟨-, -, -, -, -, hbound⟩
  rcases Ports.listen_of_error consistent refused with
    ⟨hpending, hleases, hoccupied, hlisteners⟩
  exact ⟨hports ▸ hpending, hports ▸ hoccupied, fun _ => hports ▸ hleases ▸ id,
    hports ▸ hlisteners, hbound⟩

/-- Without a listener the claims are as they were. -/
theorem isClaimed_start (consistent : relay.ports.Consistent)
    (later : (relay.start options endpoint remotePort host).2.ports.Consistent)
    (refused : relay.ports.listen options.localPort host = (.error error, ports)) (port : Nat) :
    (relay.start options endpoint remotePort host).2.ports.isClaimed port =
      relay.ports.isClaimed port := by
  rcases start_of_error endpoint remotePort refused with ⟨-, -, hports⟩
  rcases Ports.listen_of_error consistent refused with ⟨hpending, hleases, -, -⟩
  have hholders : (relay.start options endpoint remotePort host).2.ports.holders =
      relay.ports.holders := by
    rw [hports, Ports.holders, Ports.holders, hpending, hleases]
  rw [Bool.eq_iff_iff, later.isClaimed_iff_lease, consistent.isClaimed_iff_lease, hholders]

/-- What a failed opening bound it has given back before the caller learns the error. -/
theorem recedes_of_learned (consistent : relay.ports.Consistent)
    (bound : relay.ports.listen options.localPort host = (.ok grant, ports))
    (accounted : IsAccounted after)
    (receded : Recedes (relay.start options endpoint remotePort host).2 after)
    (learned : Learned surroundings (relay.start options endpoint remotePort host).2
      relay.tunnels.length (relay.beginning options endpoint remotePort grant) after offset tunnel
      (.error error)) :
    Recedes relay after := by
  rcases start_of_bound endpoint remotePort bound with ⟨-, -, hports⟩
  rcases start_frame relay options endpoint remotePort host with ⟨-, -, -, -, -, hbound⟩
  rcases Ports.bind_of_ok consistent (Ports.listen_of_ok bound).2 with
    ⟨-, hpending, hleases, hlisteners, hoccupied⟩
  have hgrant : (afterLearning tunnel after.now (.error error)).grant = grant :=
    learned.answered.grant
  have hover : (afterLearning tunnel after.now (.error error)).isOver = true :=
    learned.answered.isOver
  have hlease : grant ∉ after.ports.leases := by
    rw [← hgrant, accounted.mem_leases_iff learned.found, hover]
    exact Bool.noConfusion
  have hlistener : grant ∉ after.ports.listeners := by
    rw [← hgrant, accounted.mem_listeners_iff learned.found, hover]
    exact Bool.noConfusion
  refine ⟨receded.pending.trans (hports ▸ hpending), receded.occupied.trans (hports ▸ hoccupied),
    fun other hmem => ?_, fun other hmem => ?_, receded.bound.trans hbound⟩
  · have hstarted := receded.leases other hmem
    rw [hports, hleases] at hstarted
    rcases List.mem_cons.1 hstarted with rfl | hold
    · exact absurd hmem hlease
    · exact hold
  · have hstarted := receded.listeners other hmem
    rw [hports, hlisteners] at hstarted
    rcases List.mem_cons.1 hstarted with rfl | hold
    · exact absurd hmem hlistener
    · exact hold

/-- Opening starts the tunnel, and the rest happens by itself. -/
theorem openTunnel_eq_run (surroundings : Surroundings σ) (options : TunnelOptions)
    (endpoint : Endpoint) (remotePort : Nat) (host : Ports.Host) (wellformed : Wellformed relay)
    (silent : relay.said (.worker relay.tunnels.length) = []) :
    ∃ moves, (∀ move ∈ moves, Move.isSpontaneous move = true) ∧
      (relay.openTunnel surroundings options endpoint remotePort host none).2 =
        (relay.start options endpoint remotePort host).2.run surroundings moves := by
  rcases hlisten : relay.ports.listen options.localPort host with ⟨granted, ports⟩
  cases granted with
  | error error => exact ⟨[], nofun, congrArg Prod.snd (openTunnel_of_error hlisten)⟩
  | ok grant =>
      rcases openTunnel_of_bound endpoint remotePort surroundings wellformed silent hlisten with
        ⟨_, _, _, -, -, hrun⟩
      exact hrun

theorem openTunnel_recedes (wellformed : Wellformed relay) (consistent : relay.ports.Consistent)
    (silent : relay.said (.worker relay.tunnels.length) = [])
    (accounted : IsAccounted (relay.openTunnel surroundings options endpoint remotePort host none).2)
    (failed : (relay.openTunnel surroundings options endpoint remotePort host none).1 =
      .done (.error error)) :
    Recedes relay (relay.openTunnel surroundings options endpoint remotePort host none).2 := by
  rcases hlisten : relay.ports.listen options.localPort host with ⟨granted, ports⟩
  cases granted with
  | error reason =>
      rw [congrArg Prod.snd (openTunnel_of_error hlisten)]
      exact start_recedes consistent hlisten
  | ok grant =>
      rcases openTunnel_of_bound endpoint remotePort surroundings wellformed silent hlisten with
        ⟨_, _, result, hlearned, hresult, moves, hmoves, hrun⟩
      rw [hresult] at failed
      cases result with
      | ok _ => cases failed
      | error reason =>
          refine recedes_of_learned consistent hlisten accounted ?_ hlearned
          rw [hrun]
          exact run_recedes hmoves

/-- Opening a tunnel ends no other one that serves. -/
theorem serves_openTunnel (wellformed : Wellformed relay)
    (silent : relay.said (.worker relay.tunnels.length) = []) {other : Nat}
    (found : relay.tunnels[other]? = some tunnel) (h : Serves tunnel) :
    ∃ later, (relay.openTunnel surroundings options endpoint remotePort host none).2.tunnels[other]? =
      some later ∧ Serves later := by
  have hstarted : (relay.start options endpoint remotePort host).2.tunnels[other]? = some tunnel := by
    rcases hlisten : relay.ports.listen options.localPort host with ⟨granted, ports⟩
    cases granted with
    | error reason =>
        rw [(start_of_error endpoint remotePort hlisten).2.1]
        exact found
    | ok grant =>
        rw [(start_of_bound endpoint remotePort hlisten).2.1,
          List.getElem?_append_left (List.getElem?_eq_some_iff.1 found).1]
        exact found
  rcases openTunnel_eq_run surroundings options endpoint remotePort host wellformed silent with
    ⟨moves, hmoves, hrun⟩
  rw [hrun]
  exact serves_run_spontaneous (wellformed.start surroundings options endpoint remotePort host)
    hstarted h hmoves

/-- The reason of a failed probe is told and written, unless the sink breaks down. -/
theorem Answered.told (h : Answered surroundings started index base relay offset tunnel result)
    (taken : ∀ line, ¬ BrokeOn surroundings.sink relay (.worker index) line) :
    ∃ dialing, Asked surroundings started index base dialing ∧ ∀ offset reason,
      Probe.Ruling base.options.probeSettle base.options.readyTimeout dialing offset
          (.failed reason) →
        result = .error (base.error reason) ∧
          relay.said (.worker index) = [base.forwardingLine, Tunnel.errorLine reason] := by
  have another {dialing : Dialing} {offset other : Nat} {verdict : ProbeEnd} {reason : String}
      (hverdict : Probe.verdict base.options.probeSettle base.options.readyTimeout dialing =
        (offset, verdict))
      (ruling : Probe.Ruling base.options.probeSettle base.options.readyTimeout dialing other
        (.failed reason)) : verdict = .failed reason :=
    congrArg Prod.snd (hverdict.symm.trans (Probe.verdict_eq_iff.2 ruling))
  cases h with
  | silenced panic broke => exact absurd broke (taken _)
  | ready decides said =>
      rcases decides with ⟨dialing, hasked, hverdict⟩
      exact ⟨dialing, hasked, fun _ _ ruling => nomatch another hverdict ruling⟩
  | failed decides said =>
      rcases decides with ⟨dialing, hasked, hverdict⟩
      refine ⟨dialing, hasked, fun _ reason ruling => ?_⟩
      cases another hverdict ruling
      exact ⟨rfl, said⟩
  | choked panic decides broke => exact absurd broke (taken _)
  | panicked decides said =>
      rcases decides with ⟨dialing, hasked, hverdict⟩
      exact ⟨dialing, hasked, fun _ _ ruling => nomatch another hverdict ruling⟩

/-- A caller who waits as long as it takes learns a result, at the latest when the timer of the deadline
fires. -/
theorem openTunnel_returns (surroundings : Surroundings σ) (options : TunnelOptions)
    (endpoint : Endpoint) (remotePort : Nat) (host : Ports.Host) (wellformed : Wellformed relay)
    (silent : relay.said (.worker relay.tunnels.length) = []) :
    ∃ result,
      (relay.openTunnel surroundings options endpoint remotePort host none).1 = .done result ∧
      (relay.openTunnel surroundings options endpoint remotePort host none).2.now ≤
        relay.now + options.readyTimeout.timerMillis := by
  rcases hlisten : relay.ports.listen options.localPort host with ⟨granted, ports⟩
  cases granted with
  | error error =>
      have hnow := (start_frame relay options endpoint remotePort host).1
      rw [openTunnel_of_error hlisten]
      exact ⟨_, rfl, Nat.le_trans (Nat.le_of_eq hnow) (Nat.le_add_right _ _)⟩
  | ok grant =>
      rcases openTunnel_of_bound endpoint remotePort surroundings wellformed silent hlisten with
        ⟨offset, tunnel, result, hlearned, hresult, -⟩
      refine ⟨_, hresult, ?_⟩
      rw [hlearned.now]
      exact Nat.add_le_add_left hlearned.answered.offset_le _

/-- When there is no listener, the opening ends at once with the reason, and nothing has happened. -/
theorem openTunnel_of_refused (surroundings : Surroundings σ) (endpoint : Endpoint)
    (remotePort : Nat) (consistent : relay.ports.Consistent)
    (later : (relay.openTunnel surroundings options endpoint remotePort host none).2.ports.Consistent)
    (refused : relay.ports.Refused options.localPort host error) :
    let opening := relay.openTunnel surroundings options endpoint remotePort host none
    opening.1 = .done (.error error) ∧ opening.2.now = relay.now ∧ opening.2.lines = relay.lines ∧
      opening.2.dials = relay.dials ∧
      ∀ port, opening.2.ports.isClaimed port = relay.ports.isClaimed port := by
  intro opening
  have hlisten : relay.ports.listen options.localPort host =
      (.error error, (relay.ports.listen options.localPort host).2) :=
    Prod.ext (Ports.listen_error_iff.2 refused) rfl
  have hopening : opening = (.done (.error error),
      (relay.start options endpoint remotePort host).2) := openTunnel_of_error hlisten
  rcases start_frame relay options endpoint remotePort host with ⟨hnow, hlines, hdials, -, -, -⟩
  rw [congrArg Prod.snd hopening] at later
  rw [hopening]
  exact ⟨rfl, hnow, hlines, hdials, isClaimed_start consistent later hlisten⟩

/-- The reason of a failed probe is told and written, unless the sink breaks down. -/
theorem openTunnel_tells (wellformed : Wellformed relay)
    (silent : relay.said (.worker relay.tunnels.length) = [])
    (bound : relay.ports.listen options.localPort host = (.ok grant, ports))
    (taken : ∀ line, ¬ BrokeOn surroundings.sink
      (relay.openTunnel surroundings options endpoint remotePort host none).2
      (.worker relay.tunnels.length) line) :
    let opening := relay.openTunnel surroundings options endpoint remotePort host none
    let tunnel := relay.beginning options endpoint remotePort grant
    ∃ dialing, Asked surroundings (relay.start options endpoint remotePort host).2
        relay.tunnels.length tunnel dialing ∧
      ∀ offset reason,
        Probe.Ruling options.probeSettle options.readyTimeout dialing offset (.failed reason) →
          opening.1 = .done (.error (tunnel.error reason)) ∧
            opening.2.said (.worker relay.tunnels.length) =
              [tunnel.forwardingLine, Tunnel.errorLine reason] := by
  intro opening tunnel
  rcases openTunnel_of_bound endpoint remotePort surroundings wellformed silent bound with
    ⟨offset, last, result, hlearned, hresult, -⟩
  rcases hlearned.answered.told taken with ⟨dialing, hasked, htold⟩
  refine ⟨dialing, hasked, fun offset reason ruling => ?_⟩
  rcases htold offset reason ruling with ⟨rfl, hsaid⟩
  exact ⟨hresult, hsaid⟩

end Openings

/-- In every run, whatever the transport, the sink and the ports are like and whatever the host answers:
opening a tunnel returns, at the latest when the timer of its deadline fires. When it returns an error,
then at that moment nothing of it is left: all claims, leases and listeners were there before, a fixed
port that could be bound before can be bound, and no claim has gone but those of tunnels that gave their
ports back by themselves. Without a listener it ends at once, with the error that says why there is
none, without a line and without a dial, and with all claims as they were. And as long as the sink takes
the lines of the worker, the reason of a failed probe is what the caller is told, and what the worker
writes in its second and last line. -/
theorem failed_opening_leaves_nothing (surroundings : Surroundings σ) (reachable : Bool) (remote : σ)
    (moves : List Move) (options : TunnelOptions) (endpoint : Endpoint) (remotePort : Nat)
    (host : Ports.Host) :
    let relay := (idle reachable remote).run surroundings moves
    let index := relay.tunnels.length
    let opening := relay.openTunnel surroundings options endpoint remotePort host none
    ∃ result, opening.1 = .done result ∧
      opening.2.now ≤ relay.now + options.readyTimeout.timerMillis ∧
      (∀ error, result = .error error →
        (∀ port, opening.2.ports.isClaimed port = true → relay.ports.isClaimed port = true) ∧
          (∀ grant ∈ opening.2.ports.leases, grant ∈ relay.ports.leases) ∧
          (∀ grant ∈ opening.2.ports.listeners, grant ∈ relay.ports.listeners) ∧
          (∀ port another, port ≠ 0 → relay.ports.CanBind port another →
            opening.2.ports.CanBind port another) ∧
          ∀ port, relay.ports.isClaimed port = true →
            opening.2.ports.isClaimed port = true ∨ GaveBack relay opening.2 port) ∧
      (∀ error, relay.ports.Refused options.localPort host error →
        result = .error error ∧ opening.2.now = relay.now ∧ opening.2.lines = relay.lines ∧
          opening.2.dials = relay.dials ∧
          ∀ port, opening.2.ports.isClaimed port = relay.ports.isClaimed port) ∧
      ((∃ error, relay.ports.Refused options.localPort host error) ∨
        ∃ grant ports, relay.ports.listen options.localPort host = (.ok grant, ports)) ∧
      ∀ grant ports, relay.ports.listen options.localPort host = (.ok grant, ports) →
        (∀ line, ¬ BrokeOn surroundings.sink opening.2 (.worker index) line) →
        let tunnel := relay.beginning options endpoint remotePort grant
        ∃ dialing, Asked surroundings (relay.start options endpoint remotePort host).2 index tunnel
            dialing ∧
          ∀ offset reason, Probe.Ruling options.probeSettle options.readyTimeout dialing offset
              (.failed reason) →
            result = .error (.tunnel (endpoint.render ++ ":" ++ toString remotePort) reason) ∧
              opening.2.said (.worker index) =
                [tunnel.forwardingLine, Tunnel.errorLine reason] := by
  intro relay index opening
  have hwellformed : Wellformed relay := wellformed_run surroundings reachable remote moves
  have haccounted : IsAccounted relay := isAccounted_run surroundings reachable remote moves
  have habsent : IsAbsent relay (.worker index) := List.getElem?_eq_none (Nat.le_refl _)
  have hsilent : relay.said (.worker index) = [] :=
    said_run_of_isAbsent surroundings reachable remote moves habsent
  rcases openTunnel_eq_run surroundings options endpoint remotePort host hwellformed hsilent with
    ⟨more, -, hrun⟩
  have hafter : opening.2 = relay.run surroundings
      (.act (.start options endpoint remotePort host) :: more) := hrun
  have hlater : IsAccounted opening.2 := by
    rw [hafter, ← run_append]
    exact isAccounted_run surroundings reachable remote _
  have hextends : Extends relay opening.2 := hafter ▸ run_extends hwellformed _
  rcases openTunnel_returns surroundings options endpoint remotePort host hwellformed hsilent with
    ⟨result, hresult, hnow⟩
  have hreturned {other : Except Error Nat} (h : opening.1 = .done other) : result = other :=
    Opening.done.inj (hresult.symm.trans h)
  refine ⟨result, hresult, hnow, fun error failed => ?_, fun error refused => ?_,
    Ports.refused_or_listen _ _ _, fun grant ports bound taken => ?_⟩
  · have hrecedes : Recedes relay opening.2 := openTunnel_recedes hwellformed
      haccounted.consistent hsilent hlater (hresult.trans (congrArg Opening.done failed))
    exact ⟨hrecedes.claims haccounted hlater, hrecedes.leases, hrecedes.listeners,
      fun port another named => hrecedes.canBind haccounted hlater named,
      fun port => hrecedes.claims_cases haccounted hlater hextends
        fun other tunnel found => serves_openTunnel hwellformed hsilent found⟩
  · rcases openTunnel_of_refused surroundings endpoint remotePort haccounted.consistent
      hlater.consistent refused with ⟨hopening, hframe⟩
    exact ⟨hreturned hopening, hframe⟩
  · rcases openTunnel_tells hwellformed hsilent bound taken with ⟨dialing, hasked, htold⟩
    refine ⟨dialing, hasked, fun offset reason ruling => ?_⟩
    rcases htold offset reason ruling with ⟨hopening, hsaid⟩
    exact ⟨hreturned hopening, hsaid⟩

/-- Dials are refused after five milliseconds. -/
def refusing : Surroundings Unit :=
  ⟨⟨fun _ _ _ _ => (.after 5 (.refused (.io "gone")) [], ())⟩, .reliable⟩

def fixedPort : TunnelOptions := ⟨some 9000, .ofSecs 30, .ofSecs 1⟩

/-- Port 8080 is leased, and the host has not answered the bind of port 9001. -/
def twoClaims : List Move :=
  [.act (.bind (some 8080) (.choosing 49152)), .begin (some 9001)]

/-- A refused dial frees port 9000. A host that chooses the port of the bind under way, and one that does
not tell the address of the listener, end the opening at once. -/
theorem failed_openings_free_ports :
    let relay := (idle true ()).run refusing twoClaims
    let refused := relay.openTunnel refusing fixedPort default 80 (.choosing 49152) none
    let collided := relay.openTunnel refusing .standard default 80 (.choosing 9001) none
    let unlocated := relay.openTunnel refusing fixedPort default 80 ⟨true, .refused, some "gone"⟩ none
    (refused.1 = .done (.error (.tunnel ((default : Endpoint).render ++ ":" ++ toString 80)
          (Error.io "gone").dialReason)) ∧
        refused.2.now ≤ 30000 ∧
        refused.2.ports.isClaimed 9000 = false ∧
        refused.2.ports.CanBind 9000 (.choosing 49152) ∧
        refused.2.ports.isClaimed 8080 = true ∧
        (refused.2.said (.worker 0)).tail = [Tunnel.errorLine (Error.io "gone").dialReason]) ∧
      (collided.1 = .done (.error (Ports.chosenTwice 9001)) ∧ collided.2.dials = [] ∧
        collided.2.ports.isClaimed 9001 = true) ∧
      unlocated.1 = .done (.error (.io "gone")) ∧ unlocated.2.ports.isClaimed 9000 = false := by
  intro relay refused collided unlocated
  refine ⟨?_, ?_, ?_⟩
  · rcases failed_opening_leaves_nothing refusing true () twoClaims fixedPort default 80
      (.choosing 49152) with ⟨result, hresult, hnow, hclean, -, -, hprobe⟩
    rcases hprobe _ _ rfl (fun _ => not_brokeOn_reliable) with
      ⟨dialing, ⟨before, -, hdialing⟩, htold⟩
    cases hdialing
    rcases htold 5 _ (.inTime .refused (by decide)) with ⟨rfl, hsaid⟩
    rcases hclean _ rfl with ⟨hclaims, -, -, hbind, hkept⟩
    refine ⟨hresult, hnow, ?_, hbind 9000 _ (by decide) ⟨_, _, rfl⟩, ?_, congrArg List.tail hsaid⟩
    · exact Bool.eq_false_iff.2 fun hclaimed => nomatch hclaims 9000 hclaimed
    · rcases hkept 8080 rfl with hclaimed | ⟨_, _, _, hnone, -⟩
      · exact hclaimed
      · cases hnone
  · rcases failed_opening_leaves_nothing refusing true () twoClaims .standard default 80
      (.choosing 9001) with ⟨result, hresult, -, -, hrefused, -, -⟩
    rcases hrefused _ (.collided rfl rfl rfl) with ⟨rfl, -, -, hdials, hclaims⟩
    exact ⟨hresult, hdials, hclaims 9001⟩
  · rcases failed_opening_leaves_nothing refusing true () twoClaims fixedPort default 80
      ⟨true, .refused, some "gone"⟩ with ⟨result, hresult, -, -, hrefused, -, -⟩
    rcases hrefused _ (.unlocated rfl rfl) with ⟨rfl, -, -, -, hclaims⟩
    exact ⟨hresult, hclaims 9000⟩

/-! ## Deadlines -/

/-- All dials hang. -/
def hanging : Surroundings Unit := ⟨⟨fun _ _ _ _ => (.never, ())⟩, .reliable⟩

def shortDeadline : TunnelOptions := ⟨none, ⟨500000⟩, .ofSecs 1⟩

/-- A deadline of half a millisecond ends after a whole one. -/
theorem deadline_is_rounded_up :
    let opening :=
      (idle true ()).openTunnel hanging shortDeadline default 80 (.choosing 49152) none
    opening.1 = .done (.error (.tunnel ((default : Endpoint).render ++ ":" ++ toString 80)
        (Probe.tooLate shortDeadline.readyTimeout))) ∧
      shortDeadline.readyTimeout < Duration.ofMillis opening.2.now := by
  intro opening
  rcases openTunnel_of_ruling hanging shortDeadline default 80 (.choosing 49152)
    (Wellformed.idle true ()) rfl rfl (fun _ => not_brokeOn_reliable) with
    ⟨dialing, ⟨before, -, hdialing⟩, hfollows⟩
  cases hdialing
  rcases hfollows _ _ (.tooLate fun _ _ judged => nomatch judged) with ⟨hnow, hanswer⟩
  refine ⟨hanswer, ?_⟩
  have hafter : opening.2.now = 1 := hnow
  rw [hafter]
  decide

end Relay

end Readiness
