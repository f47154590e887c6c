import Readiness.Proofs.Tunnel.Ledger
import Readiness.Proofs.Tunnel.Settling
import Readiness.Proofs.Tunnel.Stages

/-!
# Holders — no tunnel leaks its port

* `Relay.holders` are the grants of the binds under way, of the tunnels whose callers wait for them or
  hold them, and of the leases that are held for their own sake;
* `Relay.isWanted_iff_going`: a tunnel that rests is wanted exactly when its worker goes on;
* `Relay.claimed_ports_are_held`: whenever no step is possible, the claimed ports are those of the
  holders.
-/

namespace Readiness

namespace Relay

variable {σ : Type} {surroundings : Surroundings σ} {relay before after : Relay σ} {move : Move}
  {index : Nat} {tunnel next : Tunnel}

/-- Who holds a port: the binds under way, the callers who wait for a tunnel or hold its handle, and
the leases that are held for their own sake. -/
def holders (relay : Relay σ) : List Grant :=
  relay.ports.pending ++ ((relay.tunnels.filter isWanted).map (·.grant) ++ relay.bound)

/-! ## Workers that only end when they are stopped -/

/-- A worker that told its caller that the tunnel is open ends only when it is stopped. -/
structure Steady (tunnel : Tunnel) : Prop where
  stage : Stage tunnel
  told : Told tunnel
  stopped : tunnel.isOver = true → tunnel.word = some (.ok ()) → tunnel.stopped = true

theorem Ending.steady {states : List TunnelState} {word : Option (Except Error Unit)}
    {how : WorkerEnd} (ending : Ending index tunnel move states word how) (stage : Stage tunnel)
    (unfailing : ∀ reason, move ≠ .failAccept index reason) (told : word = some (.ok ())) :
    tunnel.stopped = true := by
  have early (phase : isEarly tunnel.phase = true) (known : tunnel.word = some (.ok ())) : False := by
    rw [(stage.of_early phase).2] at known
    cases known
  cases ending with
  | greeting phase reason => exact (early (by rw [phase]; rfl) told).elim
  | early phase stopped => exact stopped
  | withdrawn phase stopped => exact stopped
  | unwanted phase owner => exact (early (by rw [phase]; rfl) told).elim
  | failed phase => cases told
  | silenced phase panic => exact (early (by rw [phase]; rfl) told).elim
  | panicked phase => exact (early (by rw [phase]; rfl) told).elim
  | stopped phase stopped => exact stopped
  | stoppedSilently phase stopped reason => exact stopped
  | cutOff phase reason => exact (unfailing _ rfl).elim
  | cutOffSilently phase reason panic => exact (unfailing _ rfl).elim

theorem Turn.steady {now : Nat} (turn : Turn now index tunnel move next)
    (h : tunnel.isOver = true → tunnel.word = some (.ok ()) → tunnel.stopped = true)
    (ceased : next.isOver = true) (word : next.word = some (.ok ())) : next.stopped = true := by
  cases turn with
  | decided phase due => cases ceased
  | ready phase owner => cases ceased
  | collected owner known => exact h ceased word
  | abandoned owner => rfl
  | closing owner => rfl
  | dropped owner => rfl
  | discarded owner => exact h ceased word
  | joined owner phase => exact h ceased word
  | left owner => exact h ceased word

theorem Step.steady (step : Step surroundings before after index tunnel move next)
    (unfailing : ∀ reason, move ≠ .failAccept index reason) (h : Steady tunnel) :
    Steady next where
  stage := step.stage h.stage h.told
  told := step.told h.stage h.told
  stopped := by
    intro ceased word
    cases step with
    | probed phase own offset verdict events outcome dials => cases ceased
    | turned turn => exact turn.steady h.stopped ceased word
    | ended ending => exact ending.steady h.stage unfailing word

theorem Steady.fresh (endpoint : Endpoint) (remotePort : Nat) (options : TunnelOptions)
    (grant : Grant) (now : Nat) : Steady (.fresh endpoint remotePort options grant now) where
  stage := .fresh _ _ _ _ _
  told := .fresh _ _ _ _ _
  stopped := by
    intro ceased
    cases ceased

/-- A tunnel is steady in every run in which its own worker does not fail to accept connections. -/
theorem steady_run {reachable : Bool} {remote : σ} {moves : List Move}
    (unfailing : ∀ move ∈ moves, ∀ reason, move ≠ .failAccept index reason)
    (found : ((idle reachable remote).run surroundings moves).tunnels[index]? = some tunnel) :
    Steady tunnel := by
  refine tunnel_induction (P := fun moves tunnel =>
    (∀ move ∈ moves, ∀ reason, move ≠ .failAccept index reason) → Steady tunnel)
    (fun _ _ _ _ _ _ _ => .fresh _ _ _ _ _) ?_ ?_ moves found unfailing
  · intro moves move tunnel ih unfailing
    exact ih fun earlier hmem => unfailing earlier (List.mem_append_left _ hmem)
  · intro moves move before after tunnel next _ _ _ _ hstep ih unfailing
    have hlast := unfailing move (List.mem_append_right _ (List.mem_singleton.2 rfl))
    exact hstep.steady hlast (ih fun earlier hmem => unfailing earlier (List.mem_append_left _ hmem))

/-! ## Resting tunnels -/

/-- A caller who waits for a tunnel whose worker has ended has a result. -/
theorem openingResult?_of_ended {how : WorkerEnd} (phase : tunnel.phase = .ended how) :
    (openingResult? tunnel).isSome = true := by
  unfold openingResult?
  rw [phase]
  split
  · rfl
  · rfl
  · rfl
  · rename_i hok herror hnone
    cases word : tunnel.word with
    | none => exact (hnone how word rfl).elim
    | some result =>
        cases result with
        | ok _ => exact (hok word).elim
        | error error => exact (herror error how word rfl).elim

theorem workerIsDue_of_stopped {now : Nat} (stopped : tunnel.stopped = true)
    (going : tunnel.isOver = false) : workerIsDue now tunnel = true := by
  unfold workerIsDue
  split
  · rfl
  · rfl
  · rw [stopped, Bool.true_or]
  · exact stopped
  · rename_i how phase
    simp [Tunnel.isOver, phase] at going

/-- A tunnel that rests is wanted exactly when its worker goes on. -/
theorem isWanted_iff_going (h : Steady tunnel) (resting : Resting relay index tunnel) :
    isWanted tunnel ↔ tunnel.isOver = false := by
  constructor
  · intro wanted
    cases going : tunnel.isOver with
    | false => rfl
    | true =>
        rcases wanted with opening | holding
        · -- The caller could learn the result.
          rcases phase_of_isOver going with ⟨how, phase⟩
          have hcaller := resting.caller
          simp only [callerIsDue, opening, openingResult?_of_ended phase] at hcaller
          cases hcaller
        · have hstopped := h.stopped going (h.told.holding holding)
          rw [h.told.wanted (.inr holding)] at hstopped
          cases hstopped
  · intro going
    by_contra unwanted
    rcases h.told.givenUp unwanted with stopped | ceased
    · have hdue : workerIsDue relay.now tunnel = true := workerIsDue_of_stopped stopped going
      rw [resting.worker] at hdue
      cases hdue
    · rw [going] at ceased
      cases ceased

/-! ## Claims -/

theorem live_ledger (relay : Relay σ) :
    live relay.ledger = (relay.tunnels.filter (!·.isOver)).map (·.grant) := by
  simp only [live, ledger, List.filter_map, List.map_map]
  rfl

/-- When all tunnels rest, the claimed ports are those of the holders. -/
theorem claims_of_resting (accounted : IsAccounted relay)
    (steady : ∀ tunnel ∈ relay.tunnels, Steady tunnel)
    (resting : ∀ (index : Nat) (tunnel : Tunnel), relay.tunnels[index]? = some tunnel →
      Resting relay index tunnel) :
    relay.ports.claimed.Perm (relay.holders.map (·.port)) ∧
      (relay.holders.map (·.port)).Nodup := by
  have hlive : live relay.ledger = (relay.tunnels.filter isWanted).map (·.grant) := by
    rw [live_ledger]
    congr 1
    refine List.filter_congr fun tunnel hmem => ?_
    rcases List.getElem?_of_mem hmem with ⟨index, found⟩
    have hiff := isWanted_iff_going (steady tunnel hmem) (resting index tunnel found)
    cases going : tunnel.isOver with
    | false => simpa using hiff.2 going
    | true => simpa [going] using hiff
  have hleases := accounted.leases
  rw [hlive] at hleases
  have hclaims : relay.ports.claimed.Perm (relay.holders.map (·.port)) :=
    accounted.consistent.claims.trans ((hleases.append_left _).map _)
  exact ⟨hclaims, hclaims.nodup accounted.consistent.distinct⟩

/-- In every run in which accepting connections does not fail: whenever no step is possible, the
claimed ports are exactly those of the binds under way, of the tunnels whose callers wait for them or
hold their handles, and of the leases that are held for their own sake; and all of these differ.
Wherever the run has come to, the possible steps come to an end, and then this holds. -/
theorem claimed_ports_are_held (surroundings : Surroundings σ) (reachable : Bool) (remote : σ)
    (moves : List Move)
    (unfailing : ∀ move ∈ moves, ∀ index reason, move ≠ .failAccept index reason) :
    let relay := (idle reachable remote).run surroundings moves
    let settled := relay.settle surroundings
    (relay.nextTask? = none →
      relay.ports.claimed.Perm (relay.holders.map (·.port)) ∧
        (relay.holders.map (·.port)).Nodup) ∧
      settled.nextTask? = none ∧
      settled.ports.claimed.Perm (settled.holders.map (·.port)) ∧
      (settled.holders.map (·.port)).Nodup := by
  intro relay settled
  have quiet (moves : List Move)
      (unfailing : ∀ move ∈ moves, ∀ index reason, move ≠ .failAccept index reason)
      (none : ((idle reachable remote).run surroundings moves).nextTask? = none) :=
    claims_of_resting (isAccounted_run surroundings reachable remote moves)
      (fun tunnel hmem => by
        rcases List.getElem?_of_mem hmem with ⟨index, found⟩
        exact steady_run (fun move hmove => unfailing move hmove index) found)
      ((nextTask?_eq_none_iff (wellformed_run surroundings reachable remote moves)).1 none)
  have hsettled : settled.nextTask? = none := nextTask?_settle surroundings relay
  refine ⟨quiet moves unfailing, hsettled, ?_⟩
  -- Settling only adds steps of tasks, and none of them fails to accept.
  rcases settle_eq_run surroundings relay with ⟨tasks, htasks, hrun⟩
  have hlonger : settled = (idle reachable remote).run surroundings (moves ++ tasks) := by
    rw [run_append]
    exact hrun
  rw [hlonger] at hsettled ⊢
  refine quiet (moves ++ tasks) (fun move hmem => ?_) hsettled
  rcases List.mem_append.1 hmem with hmove | htask
  · exact unfailing move hmove
  · rintro index reason rfl
    exact absurd (htasks _ htask) (by simp [Move.isTask])

/-- A transport that connects twice and then refuses, and a sink that breaks down when a tunnel says
how it ended. -/
def twiceSurroundings : Surroundings Nat :=
  ⟨⟨fun _ _ _ count =>
      (.after 5 (if count < 2 then .connected (.quiet none) else .refused (.io "gone")) [],
        count + 1)⟩,
    ⟨fun _ line => if line = Tunnel.stoppedLine then some "full" else none⟩⟩

/-- The first two of five tunnels are opened, one is dropped and one closed. The third cannot be opened,
the fourth is abandoned, and the last one has not run yet. One of two leases is given up, and the host
has not answered the bind of port 9000. -/
def fiveTunnels : List Move :=
  [.act (.start .standard default 80 (.choosing 49152)),
    .act (.start .standard default 81 (.choosing 49153)), .act (.worker 0), .act (.worker 1),
    .act (.bind (some 8080) (.choosing 49154)), .act (.bind none (.choosing 49154)),
    .begin (some 9000), .wait 5, .act (.worker 0), .act (.worker 0), .act (.collect 0),
    .act (.worker 1), .act (.worker 1), .act (.collect 1),
    .act (.start .standard default 82 (.choosing 49155)), .act (.worker 2), .wait 10,
    .act (.start .standard default 83 (.choosing 49156)), .act (.abandon 3), .act (.drop 0),
    .act (.close 1), .act (.dropLease 3), .act (.start .standard default 84 (.choosing 49157))]

theorem fiveTunnels_hold_three_ports :
    ((idle true 0).run twiceSurroundings fiveTunnels).ports.claimed.length = 7 ∧
      (((idle true 0).run twiceSurroundings fiveTunnels).settle
        twiceSurroundings).ports.claimed.Perm [9000, 49157, 8080] := by
  have hunfailing : ∀ move ∈ fiveTunnels, ∀ index reason, move ≠ .failAccept index reason := by
    intro move hmem index reason heq
    subst heq
    simp [fiveTunnels] at hmem
  rcases claimed_ports_are_held twiceSurroundings true 0 fiveTunnels hunfailing with
    ⟨-, -, hclaims, -⟩
  have hholders : (((idle true 0).run twiceSurroundings fiveTunnels).settle
      twiceSurroundings).holders.map (·.port) = [9000, 49157, 8080] := by decide +kernel
  rw [hholders] at hclaims
  exact ⟨by decide +kernel, hclaims⟩

end Relay

end Readiness
