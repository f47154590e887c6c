import Readiness.Proofs.Tunnel.Lines
import Readiness.Proofs.Tunnel.Settling

/-!
# Spontaneous — what happens without a caller, a client or a host

Workers, connections and waiting callers go on by themselves, and time passes.

* `Relay.task_change`: a task changes nothing, one tunnel or one connection;
* `Relay.perform_task_tunnel`: the record of a tunnel only changes by a task of its worker or of its
  caller;
* `Move.isSpontaneous`, and `Relay.Recedes`: by what happens by itself nothing is bound, begun or
  opened, so that leases and listeners only become fewer;
* `Relay.waitUntil_eq_run`: waiting is a run of such moves.
-/

namespace Readiness

namespace Relay

variable {σ : Type} {surroundings : Surroundings σ} {relay before after last : Relay σ} {move : Move}
  {index : Nat} {tunnel : Tunnel}

/-! ## Tasks -/

/-- A task changes nothing, one tunnel or one connection. -/
theorem task_change (surroundings : Surroundings σ) (relay : Relay σ) (task : move.isTask = true) :
    LocalChange surroundings move relay (relay.perform surroundings move) := by
  cases move with
  | act action =>
      cases action with
      | worker index => exact runWorker_change surroundings relay index
      | accept index => exact accept_change surroundings relay index
      | connection place => exact runConnection_change surroundings relay place
      | collect index => exact collect_change surroundings relay index
      | join index => exact join_change surroundings relay index
      | _ => cases task
  | overlookEnd place => exact overlookEnd_change surroundings relay place
  | _ => cases task

theorem TunnelChange.now (change : TunnelChange surroundings move before after index tunnel) :
    after.now = before.now := by
  cases change with
  | probed phase own dialing dialed offset verdict events outcome core =>
      exact congrArg Core.now core
  | turned next turn core => exact congrArg Core.now core
  | ended states word how ending core => exact congrArg Core.now core

theorem ConnectionChange.now {connection : Connection}
    (change : ConnectionChange surroundings move before after index connection tunnel) :
    after.now = before.now := by
  cases change with
  | dialed phase dialing dialed core => exact congrArg Core.now core
  | advanced next turn core => exact congrArg Core.now core

theorem ConnectionChange.tunnels {connection : Connection}
    (change : ConnectionChange surroundings move before after index connection tunnel) :
    after.tunnels = before.tunnels := by
  cases change with
  | dialed phase dialing dialed core => exact congrArg Core.tunnels core
  | advanced next turn core => exact congrArg Core.tunnels core

/-- Tasks take no time. -/
theorem now_perform_task (task : move.isTask = true) :
    (relay.perform surroundings move).now = relay.now := by
  cases task_change surroundings relay task with
  | still same => rw [same]
  | tunnel other tunnel found change => exact change.now
  | connection place connection tunnel found owner own change => exact change.now

/-- The record of a tunnel that nobody closes only changes by a task of its worker or by one of its
caller. -/
theorem perform_task_tunnel (task : move.isTask = true) (found : relay.tunnels[index]? = some tunnel)
    (worker : move ≠ .act (.worker index)) (collect : move ≠ .act (.collect index))
    (closing : tunnel.owner ≠ .closing) :
    (relay.perform surroundings move).tunnels[index]? = some tunnel := by
  cases task_change surroundings relay task with
  | still same => rw [same, found]
  | tunnel place other hplace change =>
      have kept {next : Tunnel}
          (tunnels : (relay.perform surroundings move).tunnels = relay.tunnels.set place next)
          (another : place ≠ index) :
          (relay.perform surroundings move).tunnels[index]? = some tunnel := by
        rw [tunnels, List.getElem?_set_ne another, found]
      cases change with
      | probed phase own dialing dialed offset verdict events outcome core =>
          refine kept (congrArg Core.tunnels core) ?_
          rintro rfl
          exact worker own
      | turned next turn core =>
          refine kept (congrArg Core.tunnels core) ?_
          rintro rfl
          cases hplace.symm.trans found
          cases turn with
          | decided phase due => exact worker rfl
          | ready phase owner => exact worker rfl
          | collected owner known => exact collect rfl
          | joined owner phase => exact closing owner
          | abandoned owner => cases task
          | closing owner => cases task
          | dropped owner => cases task
          | discarded owner => cases task
          | left owner => cases task
      | ended states word how ending core =>
          refine kept (congrArg Core.tunnels core) ?_
          rintro rfl
          cases ending with
          | cutOff phase reason => cases task
          | cutOffSilently phase reason panic => cases task
          | _ => exact worker rfl
  | connection place connection other hplace owner own change => rw [change.tunnels, found]

/-- Only the worker of a tunnel speaks for it. -/
theorem said_perform_task (task : move.isTask = true) (worker : move ≠ .act (.worker index)) :
    (relay.perform surroundings move).said (.worker index) = relay.said (.worker index) := by
  refine said_perform fun speaks => ?_
  cases move with
  | act action =>
      cases action with
      | worker other =>
          cases speaks
          exact worker rfl
      | _ => cases speaks
  | failAccept other reason => cases task
  | _ => cases speaks

/-! ## What happens by itself -/

/-- Tasks go on and time passes by themselves. -/
def Move.isSpontaneous : Move → Bool
  | .wait _ => true
  | move => move.isTask

theorem Move.isSpontaneous_of_isTask (task : move.isTask = true) : move.isSpontaneous = true := by
  cases move with
  | wait instant => rfl
  | _ => exact task

theorem Move.spontaneous_cases (spontaneous : move.isSpontaneous = true) :
    move.isTask = true ∨ ∃ instant, move = .wait instant := by
  cases move with
  | wait instant => exact .inr ⟨instant, rfl⟩
  | _ => exact .inl spontaneous

/-- Nothing is bound, begun or opened. -/
structure Recedes (before after : Relay σ) : Prop where
  pending : after.ports.pending = before.ports.pending
  occupied : after.ports.occupied = before.ports.occupied
  leases : ∀ grant ∈ after.ports.leases, grant ∈ before.ports.leases
  listeners : ∀ grant ∈ after.ports.listeners, grant ∈ before.ports.listeners
  bound : after.bound = before.bound

namespace Recedes

theorem refl (relay : Relay σ) : Recedes relay relay :=
  ⟨rfl, rfl, fun _ => id, fun _ => id, rfl⟩

theorem trans (first : Recedes before after) (second : Recedes after last) : Recedes before last where
  pending := second.pending.trans first.pending
  occupied := second.occupied.trans first.occupied
  leases := fun grant hmem => first.leases grant (second.leases grant hmem)
  listeners := fun grant hmem => first.listeners grant (second.listeners grant hmem)
  bound := second.bound.trans first.bound

theorem of_ports (ports : after.ports = before.ports) (bound : after.bound = before.bound) :
    Recedes before after :=
  ⟨congrArg _ ports, congrArg _ ports, fun _ => ports ▸ id, fun _ => ports ▸ id, bound⟩

/-- Giving up a grant only takes away. -/
theorem of_dropBoth {ticket : Nat} (ports : after.ports = before.ports.dropBoth ticket)
    (bound : after.bound = before.bound) : Recedes before after where
  pending := by rw [ports, Ports.dropBoth_pending]
  occupied := by rw [ports, Ports.dropBoth_occupied]
  leases := fun grant hmem => by
    rw [ports, Ports.dropBoth_leases] at hmem
    exact (Ports.mem_without.1 hmem).1
  listeners := fun grant hmem => by
    rw [ports, Ports.dropBoth_listeners] at hmem
    exact (Ports.mem_without.1 hmem).1
  bound := bound

end Recedes

theorem TunnelChange.recedes (change : TunnelChange surroundings move before after index tunnel) :
    Recedes before after := by
  cases change with
  | probed phase own dialing dialed offset verdict events outcome core =>
      exact .of_ports (congrArg Core.ports core) (congrArg Core.bound core)
  | turned next turn core =>
      exact .of_ports (congrArg Core.ports core) (congrArg Core.bound core)
  | ended states word how ending core =>
      exact .of_dropBoth (congrArg Core.ports core) (congrArg Core.bound core)

theorem ConnectionChange.recedes {connection : Connection}
    (change : ConnectionChange surroundings move before after index connection tunnel) :
    Recedes before after := by
  cases change with
  | dialed phase dialing dialed core =>
      exact .of_ports (congrArg Core.ports core) (congrArg Core.bound core)
  | advanced next turn core =>
      exact .of_ports (congrArg Core.ports core) (congrArg Core.bound core)

theorem perform_recedes (spontaneous : move.isSpontaneous = true) :
    Recedes relay (relay.perform surroundings move) := by
  rcases Move.spontaneous_cases spontaneous with htask | ⟨instant, rfl⟩
  · cases task_change surroundings relay htask with
    | still same =>
        rw [same]
        exact .refl relay
    | tunnel index tunnel found change => exact change.recedes
    | connection place connection tunnel found owner own change => exact change.recedes
  · simp only [perform]
    split
    · exact .of_ports rfl rfl
    · exact .refl relay

theorem run_recedes {moves : List Move}
    (spontaneous : ∀ move ∈ moves, Move.isSpontaneous move = true) :
    Recedes relay (relay.run surroundings moves) := by
  induction moves generalizing relay with
  | nil => exact .refl relay
  | cons move rest ih =>
      rcases List.forall_mem_cons.1 spontaneous with ⟨hmove, hrest⟩
      exact (perform_recedes hmove).trans (ih hrest)

/-! ## Waiting -/

/-- Letting time pass is a move. -/
theorem goTo_eq_run (surroundings : Surroundings σ) {instant : Nat} (later : relay.now ≤ instant) :
    relay.goTo instant = relay.run surroundings [.wait instant] := by
  simp only [run, List.foldl_cons, List.foldl_nil, perform, later, if_true]

/-- Waiting is a run of what happens by itself. -/
theorem waitUntil_eq_run (surroundings : Surroundings σ) (isDone : Relay σ → Bool) (limit : Nat)
    (relay : Relay σ) : ∃ moves, (∀ move ∈ moves, Move.isSpontaneous move = true) ∧
      relay.waitUntil surroundings isDone limit = relay.run surroundings moves := by
  have settling (relay : Relay σ) : ∃ moves, (∀ move ∈ moves, Move.isSpontaneous move = true) ∧
      relay.settle surroundings = relay.run surroundings moves := by
    rcases settle_eq_run surroundings relay with ⟨tasks, htasks, hrun⟩
    exact ⟨tasks, fun task hmem => Move.isSpontaneous_of_isTask (htasks task hmem), hrun⟩
  induction relay using waitUntil.induct surroundings isDone limit with
  | case1 relay settled done =>
      rw [waitUntil]
      simp only [settled] at done
      simp only [done, if_true]
      exact settling relay
  | case2 relay settled going before ih =>
      rcases ih with ⟨rest, hrest, hrun⟩
      rcases settling relay with ⟨tasks, htasks, hsettled⟩
      rw [waitUntil]
      simp only [settled] at going before hrun
      simp only [going, before, Bool.false_eq_true, if_true, if_false]
      refine ⟨tasks ++ .wait ((relay.settle surroundings).nextInstant limit) :: rest, ?_, ?_⟩
      · intro move hmem
        rcases List.mem_append.1 hmem with htask | hlater
        · exact htasks move htask
        · rcases List.mem_cons.1 hlater with rfl | hmore
          · rfl
          · exact hrest move hmore
      · have hforward := now_lt_nextInstant _ before
        rw [hrun, goTo_eq_run surroundings (Nat.le_of_lt hforward), run_append, ← hsettled]
        rfl
  | case3 relay settled going late =>
      rw [waitUntil]
      simp only [settled] at going late
      simp only [going, late, Bool.false_eq_true, if_false]
      exact settling relay

end Relay

end Readiness
