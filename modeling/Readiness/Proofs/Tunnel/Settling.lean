import Mathlib.Algebra.Ring.Nat
import Readiness.Proofs.Tunnel.Copying
import Readiness.Proofs.Tunnel.Runs

/-!
# Settling — possible steps come to an end

* `Relay.Resting`: nothing that belongs to a tunnel can go on without time passing, and
  `Relay.nextTask?_eq_none_iff`: there is no possible step exactly when all tunnels rest;
* `Relay.Due`: a step is possible, and `Relay.due_of_nextTask?`: the next one is;
* `Relay.potential` falls with every possible step, because workers, callers and connections only go
  forward;
* `Relay.nextTask?_settle`: settling ends where no step is possible.
-/

namespace Readiness

namespace Relay

variable {σ : Type} {surroundings : Surroundings σ} {relay before after : Relay σ} {move : Move}
  {index : Nat}

/-! ## Resting tunnels -/

section FirstSteps

variable {α : Type} {step? : Nat → α → Option Action} {items : List α} {start : Nat}

theorem firstStep?_eq_none_iff : firstStep? step? start items = none ↔
    ∀ (index : Nat) (item : α), items[index]? = some item → step? (start + index) item = none := by
  induction items generalizing start with
  | nil => simp [firstStep?]
  | cons first rest ih =>
      cases hfirst : step? start first with
      | some action =>
          simp only [firstStep?, hfirst]
          refine iff_of_false (by simp) fun hall => ?_
          have hzero := hall 0 first rfl
          rw [Nat.add_zero, hfirst] at hzero
          cases hzero
      | none =>
          simp only [firstStep?, hfirst]
          rw [ih]
          constructor
          · intro hall index item found
            cases index with
            | zero =>
                cases found
                exact hfirst
            | succ index =>
                have hitem := hall index item (by simpa using found)
                rwa [Nat.add_assoc, Nat.add_comm 1] at hitem
          · intro hall index item found
            have hitem := hall (index + 1) item (by simpa using found)
            rwa [Nat.add_comm index, ← Nat.add_assoc] at hitem

theorem firstStep?_eq_some {action : Action} (h : firstStep? step? start items = some action) :
    ∃ (index : Nat) (item : α), items[index]? = some item ∧
      step? (start + index) item = some action := by
  induction items generalizing start with
  | nil => cases h
  | cons first rest ih =>
      cases hfirst : step? start first with
      | some found =>
          simp only [firstStep?, hfirst] at h
          cases h
          exact ⟨0, first, rfl, hfirst⟩
      | none =>
          simp only [firstStep?, hfirst] at h
          rcases ih h with ⟨index, item, hitem, hstep⟩
          refine ⟨index + 1, item, by simpa using hitem, ?_⟩
          rwa [Nat.add_comm index, ← Nat.add_assoc]

end FirstSteps

/-- Nothing that belongs to a tunnel can go on without time passing. -/
structure Resting (relay : Relay σ) (index : Nat) (tunnel : Tunnel) : Prop where
  worker : workerIsDue relay.now tunnel = false
  caller : callerIsDue tunnel = false
  accept : tunnel.phase = .forwarding →
    ∀ connection ∈ relay.connections, awaits index connection = false
  connections : ∀ connection ∈ relay.connections, connection.tunnel = index →
    connectionIsDue relay.now tunnel.isOver connection = false

theorem tunnelStep?_eq_none_iff {tunnel : Tunnel} : relay.tunnelStep? index tunnel = none ↔
    workerIsDue relay.now tunnel = false ∧ callerIsDue tunnel = false ∧
      (tunnel.phase = .forwarding →
        ∀ connection ∈ relay.connections, awaits index connection = false) := by
  cases hworker : workerIsDue relay.now tunnel with
  | true => simp [tunnelStep?, hworker]
  | false =>
      cases hcaller : callerIsDue tunnel with
      | true => simp [tunnelStep?, hworker, hcaller]
      | false => simp [tunnelStep?, hworker, hcaller]

/-- No step is possible exactly when all tunnels rest. -/
theorem nextTask?_eq_none_iff (wellformed : Wellformed relay) : relay.nextTask? = none ↔
    ∀ (index : Nat) (tunnel : Tunnel), relay.tunnels[index]? = some tunnel →
      Resting relay index tunnel := by
  have hsplit : relay.nextTask? = none ↔
      firstStep? relay.tunnelStep? 0 relay.tunnels = none ∧
        firstStep? relay.connectionStep? 0 relay.connections = none := by
    unfold nextTask?
    cases firstStep? relay.tunnelStep? 0 relay.tunnels <;> simp
  rw [hsplit, firstStep?_eq_none_iff, firstStep?_eq_none_iff]
  constructor
  · rintro ⟨htunnels, hconnections⟩ index tunnel found
    rcases tunnelStep?_eq_none_iff.1 (htunnels index tunnel found) with ⟨hworker, hcaller, haccept⟩
    rw [Nat.zero_add] at haccept
    refine ⟨hworker, hcaller, haccept, fun connection hmem howner => ?_⟩
    rcases List.getElem?_of_mem hmem with ⟨place, hplace⟩
    have hstep := hconnections place connection hplace
    subst howner
    simpa [connectionStep?, found] using hstep
  · intro hresting
    constructor
    · intro index tunnel found
      have h := hresting index tunnel found
      rw [Nat.zero_add]
      exact tunnelStep?_eq_none_iff.2 ⟨h.worker, h.caller, h.accept⟩
    · intro place connection found
      have hmem := List.mem_of_getElem? found
      have howner := List.getElem?_eq_getElem (wellformed.attached connection hmem)
      have hdue := (hresting _ _ howner).connections connection hmem rfl
      simp [connectionStep?, howner, hdue]

/-! ## Ranks -/

/-- How many steps a worker takes at most until it has ended. -/
def workerRank : Phase → Nat
  | .spawned => 4
  | .probing .. => 3
  | .decided _ => 2
  | .forwarding => 1
  | .ended _ => 0

/-- How many results a caller waits for. -/
def callerRank : Owner → Nat
  | .opening | .closing => 1
  | .holding | .finished | .gone => 0

def tunnelRank (tunnel : Tunnel) : Nat := workerRank tunnel.phase + callerRank tunnel.owner

/-- How many steps a connection takes at most without time passing. A pass that moves something counts
once, because another one right after it moves nothing. -/
def connectionRank (now : Nat) (connection : Connection) : Nat :=
  match connection.phase with
  | .waiting => 5
  | .accepted => 4
  | .dialing _ _ => 3
  | .copying link => if copyIsDue now connection.client link then 2 else 1
  | .ended => 0

def potential (relay : Relay σ) : Nat :=
  (relay.tunnels.map tunnelRank).sum + (relay.connections.map (connectionRank relay.now)).sum

section Sums

variable {α : Type} {items : List α} {old new : α}

theorem sum_map_set_lt {rank : α → Nat} (found : items[index]? = some old)
    (lower : rank new < rank old) :
    ((items.set index new).map rank).sum < (items.map rank).sum := by
  induction items generalizing index with
  | nil => cases found
  | cons first rest ih =>
      cases index with
      | zero =>
          cases found
          simpa using lower
      | succ index =>
          have hrest := ih (by simpa using found)
          simpa using hrest

theorem sum_map_le {rank : α → Nat} {most : Nat} (le : ∀ item, rank item ≤ most) :
    (items.map rank).sum ≤ most * items.length := by
  induction items with
  | nil => simp
  | cons first rest ih =>
      have hfirst := le first
      rw [List.map_cons, List.sum_cons, List.length_cons, Nat.mul_succ]
      omega

end Sums

theorem workerRank_pos {tunnel : Tunnel} (going : tunnel.isOver = false) :
    0 < workerRank tunnel.phase := by
  cases phase : tunnel.phase with
  | ended how => simp [Tunnel.isOver, phase] at going
  | _ => simp [workerRank]

theorem tunnelRank_le (tunnel : Tunnel) : tunnelRank tunnel ≤ stepsAtOnce := by
  have hworker : workerRank tunnel.phase ≤ 4 := by
    cases tunnel.phase <;> simp [workerRank]
  have hcaller : callerRank tunnel.owner ≤ 1 := by
    cases tunnel.owner <;> simp [callerRank]
  unfold tunnelRank stepsAtOnce
  omega

theorem connectionRank_le (now : Nat) (connection : Connection) :
    connectionRank now connection ≤ stepsAtOnce := by
  unfold connectionRank stepsAtOnce
  split
  all_goals first | omega | (split <;> omega)

theorem potential_le (relay : Relay σ) :
    relay.potential ≤ stepsAtOnce * (relay.tunnels.length + relay.connections.length) := by
  rw [Nat.mul_add]
  exact Nat.add_le_add (sum_map_le tunnelRank_le) (sum_map_le (connectionRank_le relay.now))

/-! ## Possible steps -/

/-- A step of a task, or of a caller who waits, that is possible without time passing. -/
inductive Due (relay : Relay σ) : Action → Prop
  | worker {index : Nat} {tunnel : Tunnel} (found : relay.tunnels[index]? = some tunnel)
      (due : workerIsDue relay.now tunnel = true) : Due relay (.worker index)
  | collect {index : Nat} {tunnel : Tunnel} {result : Except Error Unit}
      (found : relay.tunnels[index]? = some tunnel) (owner : tunnel.owner = .opening)
      (known : openingResult? tunnel = some result) : Due relay (.collect index)
  | join {index : Nat} {tunnel : Tunnel} {how : WorkerEnd}
      (found : relay.tunnels[index]? = some tunnel) (owner : tunnel.owner = .closing)
      (phase : tunnel.phase = .ended how) : Due relay (.join index)
  | accept {index place : Nat} {tunnel : Tunnel} (found : relay.tunnels[index]? = some tunnel)
      (forwarding : tunnel.phase = .forwarding)
      (first : relay.connections.findIdx? (awaits index) = some place) : Due relay (.accept index)
  | connection {index : Nat} {connection : Connection} {tunnel : Tunnel}
      (found : relay.connections[index]? = some connection)
      (owner : relay.tunnels[connection.tunnel]? = some tunnel)
      (due : connectionIsDue relay.now tunnel.isOver connection = true) :
      Due relay (.connection index)

theorem due_of_callerIsDue {tunnel : Tunnel} (found : relay.tunnels[index]? = some tunnel)
    (due : callerIsDue tunnel = true) : Due relay (callerStep index tunnel) := by
  unfold callerIsDue at due
  split at due
  · rename_i owner
    rcases Option.isSome_iff_exists.1 due with ⟨result, known⟩
    simp only [callerStep, owner, if_true]
    exact .collect found owner known
  · rename_i owner
    rcases phase_of_isOver due with ⟨how, phase⟩
    simp only [callerStep, owner]
    exact .join found owner phase
  · cases due

theorem due_of_tunnelStep? {action : Action} {tunnel : Tunnel}
    (found : relay.tunnels[index]? = some tunnel)
    (possible : relay.tunnelStep? index tunnel = some action) : Due relay action := by
  unfold tunnelStep? at possible
  split at possible
  · rename_i due
    cases possible
    exact .worker found due
  · split at possible
    · rename_i due
      cases possible
      exact due_of_callerIsDue found due
    · split at possible
      · rename_i ready
        cases possible
        rw [Bool.and_eq_true, decide_eq_true_eq, List.any_eq_true] at ready
        rcases ready with ⟨forwarding, connection, hmem, hawaits⟩
        cases hfirst : relay.connections.findIdx? (awaits index) with
        | none =>
            rw [List.findIdx?_eq_none_iff.1 hfirst connection hmem] at hawaits
            cases hawaits
        | some place => exact .accept found forwarding hfirst
      · cases possible

theorem due_of_connectionStep? {action : Action} {connection : Connection}
    (found : relay.connections[index]? = some connection)
    (possible : relay.connectionStep? index connection = some action) : Due relay action := by
  unfold connectionStep? at possible
  split at possible
  · rename_i tunnel owner
    split at possible
    · rename_i due
      cases possible
      exact .connection found owner due
    · cases possible
  · cases possible

/-- The step that comes next is possible. -/
theorem due_of_nextTask? {action : Action} (possible : relay.nextTask? = some action) :
    Due relay action := by
  unfold nextTask? at possible
  split at possible
  · rename_i task hfirst
    cases possible
    rcases firstStep?_eq_some hfirst with ⟨index, tunnel, found, hstep⟩
    rw [Nat.zero_add] at hstep
    exact due_of_tunnelStep? found hstep
  · rcases firstStep?_eq_some possible with ⟨index, connection, found, hstep⟩
    rw [Nat.zero_add] at hstep
    exact due_of_connectionStep? found hstep

/-- The steps of workers and the results that callers wait for bring a tunnel forward. -/
theorem TunnelChange.potential_lt {tunnel : Tunnel}
    (change : TunnelChange surroundings move before after index tunnel)
    (found : before.tunnels[index]? = some tunnel)
    (task : move = .act (.worker index) ∨ move = .act (.collect index) ∨ move = .act (.join index)) :
    after.potential < before.potential := by
  have lower (next : Tunnel) (tunnels : after.tunnels = before.tunnels.set index next)
      (connections : after.connections = before.connections) (now : after.now = before.now)
      (rank : tunnelRank next < tunnelRank tunnel) : after.potential < before.potential := by
    rw [potential, potential, tunnels, connections, now]
    exact Nat.add_lt_add_right (sum_map_set_lt found rank) _
  cases change with
  | probed phase own dialing dialed offset verdict events outcome core =>
      refine lower _ (congrArg Core.tunnels core) (congrArg Core.connections core)
        (congrArg Core.now core) ?_
      simp [tunnelRank, phase, workerRank]
  | turned next turn core =>
      refine lower _ (congrArg Core.tunnels core) (congrArg Core.connections core)
        (congrArg Core.now core) ?_
      cases turn with
      | decided phase due => simp [tunnelRank, phase, workerRank]
      | ready phase owner => simp [tunnelRank, phase, workerRank]
      | @collected result owner known =>
          cases result <;> simp [tunnelRank, owner, callerRank, ownerAfter]
      | joined owner phase => simp [tunnelRank, owner, callerRank]
      | abandoned owner => simp at task
      | closing owner => simp at task
      | dropped owner => simp at task
      | discarded owner => simp at task
      | left owner => simp at task
  | ended states word how ending core =>
      refine lower _ (congrArg Core.tunnels core) (congrArg Core.connections core)
        (congrArg Core.now core) ?_
      exact Nat.add_lt_add_right (workerRank_pos ending.isOver) _

/-- The steps of a connection bring it forward. -/
theorem ConnectionChange.potential_lt {connection : Connection} {tunnel : Tunnel}
    (change : ConnectionChange surroundings move before after index connection tunnel)
    (found : before.connections[index]? = some connection) (task : move.isByClient = false) :
    after.potential < before.potential := by
  have lower (next : Connection) (connections : after.connections = before.connections.set index next)
      (tunnels : after.tunnels = before.tunnels) (now : after.now = before.now)
      (rank : connectionRank before.now next < connectionRank before.now connection) :
      after.potential < before.potential := by
    rw [potential, potential, tunnels, connections, now]
    exact Nat.add_lt_add_left (sum_map_set_lt found rank) _
  cases change with
  | dialed phase dialing dialed core =>
      refine lower _ (congrArg Core.connections core) (congrArg Core.tunnels core)
        (congrArg Core.now core) ?_
      simp [connectionRank, phase]
  | advanced next turn core =>
      refine lower _ (congrArg Core.connections core) (congrArg Core.tunnels core)
        (congrArg Core.now core) ?_
      cases turn with
      | accepted waiting forwarding => simp [connectionRank, waiting]
      | opened dialing due =>
          simp only [connectionRank, dialing]
          split <;> omega
      | @copied link moved client copying due copy =>
          have hidle : copyIsDue before.now client moved = false := by
            simp [copyIsDue, Link.copy_again copy]
          simp [connectionRank, copying, due, hidle]
      | closed client going refused =>
          simp only [connectionRank]
          split <;> first | omega | (split <;> omega) | simp_all
      | used client byClient heard =>
          rw [task] at byClient
          cases byClient

/-- Every possible step brings something forward. -/
theorem Due.potential_lt (surroundings : Surroundings σ) {action : Action} (due : Due relay action) :
    (relay.step surroundings action).potential < relay.potential := by
  cases due with
  | worker found due =>
      exact (runWorker_of_due surroundings found due).potential_lt found (.inl rfl)
  | collect found owner known =>
      exact (collect_of_known surroundings found owner known).potential_lt found (.inr (.inl rfl))
  | join found owner phase =>
      exact (join_of_ended surroundings found owner phase).potential_lt found (.inr (.inr rfl))
  | accept found forwarding first =>
      rcases accept_of_awaits surroundings found forwarding first with
        ⟨connection, hplace, -, hchange⟩
      exact hchange.potential_lt hplace rfl
  | @connection index connection tunnel found owner due =>
      have hchange : ConnectionChange surroundings (.act (.connection index)) relay
          (relay.goOn surroundings index connection tunnel tunnel.isOver) index connection tunnel :=
        goOn_of_due surroundings tunnel.isOver found id due
      simp only [step, runConnection, connection?_eq_some_iff.2 ⟨found, owner⟩]
      exact hchange.potential_lt found rfl

/-! ## Settling -/

/-- The steps of tasks and of callers who wait. -/
def Move.isTask : Move → Bool
  | .act (.worker _) | .act (.accept _) | .act (.connection _) | .act (.collect _) | .act (.join _)
  | .overlookEnd _ => true
  | _ => false

theorem Due.isTask {action : Action} (due : Due relay action) :
    Move.isTask (.act action) = true := by
  cases due <;> rfl

theorem nextTask?_settleIn (surroundings : Surroundings σ) {fuel : Nat} {relay : Relay σ}
    (enough : relay.potential ≤ fuel) : (settleIn surroundings fuel relay).nextTask? = none := by
  induction fuel generalizing relay with
  | zero =>
      rw [settleIn]
      cases possible : relay.nextTask? with
      | none => rfl
      | some action =>
          have hlower := (due_of_nextTask? possible).potential_lt surroundings
          omega
  | succ fuel ih =>
      rw [settleIn]
      cases possible : relay.nextTask? with
      | none => exact possible
      | some action =>
          have hlower := (due_of_nextTask? possible).potential_lt surroundings
          exact ih (by omega)

/-- Settling ends where no step is possible. -/
theorem nextTask?_settle (surroundings : Surroundings σ) (relay : Relay σ) :
    (relay.settle surroundings).nextTask? = none :=
  nextTask?_settleIn surroundings (potential_le relay)

theorem settleIn_eq_run (surroundings : Surroundings σ) (fuel : Nat) (relay : Relay σ) :
    ∃ tasks, (∀ move ∈ tasks, Move.isTask move = true) ∧
      settleIn surroundings fuel relay = relay.run surroundings tasks := by
  induction fuel generalizing relay with
  | zero => exact ⟨[], by simp, rfl⟩
  | succ fuel ih =>
      rw [settleIn]
      cases possible : relay.nextTask? with
      | none => exact ⟨[], by simp, rfl⟩
      | some action =>
          rcases ih (relay.step surroundings action) with ⟨tasks, htasks, hrun⟩
          refine ⟨.act action :: tasks, ?_, hrun⟩
          exact List.forall_mem_cons.2 ⟨(due_of_nextTask? possible).isTask, htasks⟩

/-- Settling is a run of tasks. -/
theorem settle_eq_run (surroundings : Surroundings σ) (relay : Relay σ) :
    ∃ tasks, (∀ move ∈ tasks, Move.isTask move = true) ∧
      relay.settle surroundings = relay.run surroundings tasks :=
  settleIn_eq_run surroundings _ relay

end Relay

end Readiness
