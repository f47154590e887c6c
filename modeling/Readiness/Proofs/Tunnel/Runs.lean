import Mathlib.Data.List.Induction
import Readiness.Proofs.Tunnel.Moves

/-!
# Runs — what every change preserves holds in every run

* `Relay.wellformed_run`: runs stay wellformed, so that every move in them is a sequence of changes;
* `Relay.perform_invariant`, `Relay.run_invariant` and `Relay.run_induction`: what single changes
  preserve holds after a move, after a run, and together with the moves made so far;
* `Relay.Extends`: what tunnels and connections keep in all that follows.
-/

namespace Readiness

namespace Relay

variable {σ : Type} {surroundings : Surroundings σ} {move : Move} {before after : Relay σ}

/-! ## Tunnels in a change -/

/-- The step by which a change replaces a tunnel. -/
inductive Step (surroundings : Surroundings σ) (before after : Relay σ) (index : Nat)
    (tunnel : Tunnel) (move : Move) : Tunnel → Prop
  | probed (phase : tunnel.phase = .spawned) (own : move = .act (.worker index)) (offset : Nat)
      (verdict : ProbeEnd) (events : List Event)
      (outcome : Probe.verdict tunnel.options.probeSettle tunnel.options.readyTimeout
        (surroundings.transport.dial before.now tunnel.endpoint tunnel.remotePort before.remote).1 =
          (offset, verdict))
      (dials : after.dials =
        before.dials ++ [(before.now, .worker index, tunnel.endpoint, tunnel.remotePort)]) :
      Step surroundings before after index tunnel move
        { tunnel with phase := .probing (before.now + offset) verdict events }
  | turned {next : Tunnel} (turn : Turn before.now index tunnel move next) :
      Step surroundings before after index tunnel move next
  | ended {states : List TunnelState} {word : Option (Except Error Unit)} {how : WorkerEnd}
      (ending : Ending index tunnel move states word how) :
      Step surroundings before after index tunnel move (ended tunnel states word how)

/-- A change replaces one tunnel at most, or adds a new one. -/
theorem Change.tunnels_cases (change : Change surroundings move before after) :
    after.tunnels = before.tunnels ∨
      (∃ options endpoint remotePort grant, IsFree σ move ∧ after.tunnels =
        before.tunnels ++ [.fresh endpoint remotePort options grant before.now]) ∨
      ∃ index tunnel next, before.tunnels[index]? = some tunnel ∧
        Step surroundings before after index tunnel move next ∧
        after.tunnels = before.tunnels.set index next ∧ after.connections = before.connections := by
  cases change with
  | still core => exact .inl (congrArg Core.tunnels core)
  | waited free now core => exact .inl (congrArg Core.tunnels core)
  | hosted ports bound hosting core => exact .inl (congrArg Core.tunnels core)
  | opened options endpoint remotePort grant ports free takes core =>
      exact .inr (.inl ⟨options, endpoint, remotePort, grant, free, congrArg Core.tunnels core⟩)
  | tunnel index tunnel found change =>
      cases change with
      | probed phase own dialing dialed offset verdict events outcome core =>
          subst dialed
          exact .inr (.inr ⟨index, tunnel, _, found,
            .probed phase own offset verdict events outcome (congrArg Core.dials core),
            congrArg Core.tunnels core, congrArg Core.connections core⟩)
      | turned next turn core =>
          exact .inr (.inr ⟨index, tunnel, _, found, .turned turn, congrArg Core.tunnels core,
            congrArg Core.connections core⟩)
      | ended states word how ending core =>
          exact .inr (.inr ⟨index, tunnel, _, found, .ended ending, congrArg Core.tunnels core,
            congrArg Core.connections core⟩)
  | connected index tunnel found listens free core => exact .inl (congrArg Core.tunnels core)
  | connection index connection tunnel found owner own change =>
      cases change with
      | dialed phase dialing dialed core => exact .inl (congrArg Core.tunnels core)
      | advanced next turn core => exact .inl (congrArg Core.tunnels core)

/-- What a fresh tunnel satisfies and every step preserves, every change preserves for all tunnels. -/
theorem Change.forall_tunnels {P : Tunnel → Prop}
    (fresh : ∀ endpoint remotePort options grant now,
      P (.fresh endpoint remotePort options grant now))
    (step : ∀ index tunnel next, P tunnel →
      Step surroundings before after index tunnel move next → P next)
    (h : ∀ tunnel ∈ before.tunnels, P tunnel) (change : Change surroundings move before after) :
    ∀ tunnel ∈ after.tunnels, P tunnel := by
  intro tunnel hmem
  rcases change.tunnels_cases with
    hsame | ⟨options, endpoint, remotePort, grant, -, hnew⟩ |
      ⟨index, old, next, found, hstep, hset, -⟩
  · rw [hsame] at hmem
    exact h tunnel hmem
  · rw [hnew] at hmem
    rcases List.mem_append.1 hmem with hold | hfresh
    · exact h tunnel hold
    · rw [List.mem_singleton.1 hfresh]
      exact fresh _ _ _ _ _
  · rw [hset] at hmem
    rcases List.mem_or_eq_of_mem_set hmem with hold | rfl
    · exact h tunnel hold
    · exact step _ _ _ (h old (List.mem_of_getElem? found)) hstep

/-! ## Connections in a change -/

/-- The step by which a change replaces a connection. -/
inductive ConnectionStep (now : Nat) (connection : Connection) (tunnel : Tunnel) (move : Move) :
    Connection → Prop
  | dialed (phase : connection.phase = .accepted) (dialing : Dialing) :
      ConnectionStep now connection tunnel move { connection with phase := .dialing now dialing }
  | advanced {next : Connection} (turn : ConnectionTurn now connection tunnel move next) :
      ConnectionStep now connection tunnel move next

/-- A change replaces one connection at most, or adds one to a tunnel that listens. -/
theorem Change.connections_cases (change : Change surroundings move before after) :
    after.connections = before.connections ∨
      (∃ index tunnel, before.tunnels[index]? = some tunnel ∧
        tunnel.grant ∈ before.ports.listeners ∧ IsFree σ move ∧
        after.connections = before.connections ++ [.fresh index]) ∨
      ∃ index connection next tunnel, before.connections[index]? = some connection ∧
        before.tunnels[connection.tunnel]? = some tunnel ∧
        move.tunnel? before = some connection.tunnel ∧
        ConnectionStep before.now connection tunnel move next ∧
        after.connections = before.connections.set index next ∧ after.tunnels = before.tunnels := by
  cases change with
  | still core => exact .inl (congrArg Core.connections core)
  | waited free now core => exact .inl (congrArg Core.connections core)
  | hosted ports bound hosting core => exact .inl (congrArg Core.connections core)
  | opened options endpoint remotePort grant ports free takes core =>
      exact .inl (congrArg Core.connections core)
  | tunnel index tunnel found change =>
      cases change with
      | probed phase own dialing dialed offset verdict events outcome core =>
          exact .inl (congrArg Core.connections core)
      | turned next turn core => exact .inl (congrArg Core.connections core)
      | ended states word how ending core => exact .inl (congrArg Core.connections core)
  | connected index tunnel found listens free core =>
      exact .inr (.inl ⟨index, tunnel, found, listens, free, congrArg Core.connections core⟩)
  | connection index connection tunnel found owner own change =>
      cases change with
      | dialed phase dialing dialed core =>
          exact .inr (.inr ⟨index, connection, _, tunnel, found, owner, own, .dialed phase dialing,
            congrArg Core.connections core, congrArg Core.tunnels core⟩)
      | advanced next turn core =>
          exact .inr (.inr ⟨index, connection, next, tunnel, found, owner, own, .advanced turn,
            congrArg Core.connections core, congrArg Core.tunnels core⟩)

/-- Where a connection comes from: it was there, a client has just connected, or it went on. -/
theorem Change.mem_connections (change : Change surroundings move before after)
    {connection : Connection} (hmem : connection ∈ after.connections) :
    connection ∈ before.connections ∨
      (∃ index tunnel, before.tunnels[index]? = some tunnel ∧
        tunnel.grant ∈ before.ports.listeners ∧ IsFree σ move ∧ connection = .fresh index) ∨
      ∃ old ∈ before.connections, ∃ tunnel, before.tunnels[old.tunnel]? = some tunnel ∧
        move.tunnel? before = some old.tunnel ∧
        ConnectionStep before.now old tunnel move connection := by
  rcases change.connections_cases with
    hsame | ⟨index, tunnel, found, listens, free, hnew⟩ |
      ⟨index, old, next, tunnel, found, owner, own, hstep, hset, -⟩
  · exact .inl (hsame ▸ hmem)
  · rw [hnew] at hmem
    rcases List.mem_append.1 hmem with hold | hfresh
    · exact .inl hold
    · exact .inr (.inl ⟨index, tunnel, found, listens, free, List.mem_singleton.1 hfresh⟩)
  · rw [hset] at hmem
    rcases List.mem_or_eq_of_mem_set hmem with hold | rfl
    · exact .inl hold
    · exact .inr (.inr ⟨old, List.mem_of_getElem? found, tunnel, owner, own, hstep⟩)

/-- A connection stays with its tunnel. -/
theorem ConnectionStep.tunnel {now : Nat} {connection next : Connection} {tunnel : Tunnel}
    (step : ConnectionStep now connection tunnel move next) : next.tunnel = connection.tunnel := by
  cases step with
  | dialed phase dialing => rfl
  | advanced turn => cases turn <;> rfl

/-! ## Ports in a change -/

/-- The grants of all tunnels that there ever were, with whether their workers have ended. -/
def ledger (relay : Relay σ) : List (Grant × Bool) :=
  relay.tunnels.map fun tunnel => (tunnel.grant, tunnel.isOver)

theorem isOver_of_phase {tunnel : Tunnel} {phase : Phase} (h : tunnel.phase = phase)
    (going : ∀ how, phase ≠ .ended how) : tunnel.isOver = false := by
  unfold Tunnel.isOver
  split
  · rename_i how hended
    exact absurd (h.symm.trans hended) (going how)
  · rfl

theorem phase_of_isOver {tunnel : Tunnel} (h : tunnel.isOver = true) :
    ∃ how, tunnel.phase = .ended how := by
  unfold Tunnel.isOver at h
  split at h
  · exact ⟨_, ‹_›⟩
  · cases h

/-- A worker that ends has not ended before. -/
theorem Ending.isOver {index : Nat} {tunnel : Tunnel} {states : List TunnelState}
    {word : Option (Except Error Unit)} {how : WorkerEnd}
    (ending : Ending index tunnel move states word how) : tunnel.isOver = false := by
  cases ending <;> exact isOver_of_phase ‹_› (by simp)

/-- A tunnel that goes on keeps its place in the ledger. -/
theorem Turn.entry {now index : Nat} {tunnel next : Tunnel}
    (turn : Turn now index tunnel move next) :
    (next.grant, next.isOver) = (tunnel.grant, tunnel.isOver) := by
  cases turn with
  | decided phase due => rw [isOver_of_phase phase (by simp)]; rfl
  | ready phase owner => rw [isOver_of_phase phase (by simp)]; rfl
  | collected owner known => rfl
  | abandoned owner => rfl
  | closing owner => rfl
  | dropped owner => rfl
  | discarded owner => rfl
  | joined owner phase => rfl
  | left owner => rfl

theorem map_set_of_eq {α β : Type} {f : α → β} {xs : List α} {index : Nat} {old new : α}
    (found : xs[index]? = some old) (same : f new = f old) :
    (xs.set index new).map f = xs.map f := by
  rw [List.map_set, same]
  exact set_of_getElem? (by rw [List.getElem?_map, found]; rfl)

/-- A change leaves ports and tunnels as they are, concerns the ports alone, opens a tunnel or ends
one. -/
theorem Change.ledger_cases (change : Change surroundings move before after) :
    (after.ports = before.ports ∧ after.bound = before.bound ∧ after.ledger = before.ledger) ∨
      (Hosting before.ports before.bound before.tunnels after.ports after.bound ∧
        after.ledger = before.ledger) ∨
      (∃ grant, before.ports.Takes grant after.ports ∧ after.bound = before.bound ∧
        after.ledger = before.ledger ++ [(grant, false)]) ∨
      ∃ index grant, before.ledger[index]? = some (grant, false) ∧
        after.ports = before.ports.dropBoth grant.ticket ∧ after.bound = before.bound ∧
        after.ledger = before.ledger.set index (grant, true) := by
  have entries (core : Core) (hcore : after.core = core) :
      after.ledger = core.tunnels.map fun tunnel => (tunnel.grant, tunnel.isOver) := by
    rw [← hcore]
    rfl
  cases change with
  | still core => exact .inl ⟨congrArg Core.ports core, congrArg Core.bound core, entries _ core⟩
  | waited free now core =>
      exact .inl ⟨congrArg Core.ports core, congrArg Core.bound core, entries _ core⟩
  | hosted ports bound hosting core =>
      have hports : after.ports = ports := congrArg Core.ports core
      have hbound : after.bound = bound := congrArg Core.bound core
      exact .inr (.inl ⟨hports ▸ hbound ▸ hosting, entries _ core⟩)
  | opened options endpoint remotePort grant ports free takes core =>
      have hports : after.ports = ports := congrArg Core.ports core
      refine .inr (.inr (.inl ⟨grant, hports ▸ takes, congrArg Core.bound core, ?_⟩))
      rw [entries _ core, List.map_append]
      rfl
  | tunnel index tunnel found change =>
      cases change with
      | probed phase own dialing dialed offset verdict events outcome core =>
          refine .inl ⟨congrArg Core.ports core, congrArg Core.bound core, ?_⟩
          rw [entries _ core]
          refine map_set_of_eq found ?_
          rw [isOver_of_phase phase (by simp)]
          rfl
      | turned next turn core =>
          refine .inl ⟨congrArg Core.ports core, congrArg Core.bound core, ?_⟩
          rw [entries _ core]
          exact map_set_of_eq found turn.entry
      | ended states word how ending core =>
          refine .inr (.inr (.inr ⟨index, tunnel.grant, ?_, congrArg Core.ports core,
            congrArg Core.bound core, ?_⟩))
          · simp only [ledger, List.getElem?_map, found, Option.map_some, ending.isOver]
          · rw [entries _ core]
            exact List.map_set
  | connected index tunnel found listens free core =>
      exact .inl ⟨congrArg Core.ports core, congrArg Core.bound core, entries _ core⟩
  | connection index connection tunnel found owner own change =>
      cases change with
      | dialed phase dialing dialed core =>
          exact .inl ⟨congrArg Core.ports core, congrArg Core.bound core, entries _ core⟩
      | advanced next turn core =>
          exact .inl ⟨congrArg Core.ports core, congrArg Core.bound core, entries _ core⟩

theorem Hosting.apart {ports next : Ports} {bound held : List Grant} {tunnels : List Tunnel}
    (hosting : Hosting ports bound tunnels next held) (h : ports.Apart) : next.Apart := by
  cases hosting with
  | begun requested => exact h.begin requested
  | cancelled ticket => exact h.cancel ticket
  | leased takes => exact h.takes takes
  | lost takes => exact (h.takes takes).dropBoth _
  | released held => exact h.dropLease _
  | hungUp free => exact h.dropListener _
  | occupied occupy => exact h.occupy occupy
  | vacated vacate => exact h.vacate vacate

/-! ## Wellformed runs -/

theorem Change.length_le (change : Change surroundings move before after) :
    before.tunnels.length ≤ after.tunnels.length := by
  rcases change.tunnels_cases with
    hsame | ⟨_, _, _, _, -, hnew⟩ | ⟨_, _, _, _, _, hset, -⟩
  · exact hsame ▸ Nat.le_refl _
  · rw [hnew, List.length_append]
    exact Nat.le_add_right _ _
  · have hlength := congrArg List.length hset
    exact Nat.le_of_eq (hlength.trans List.length_set).symm

theorem Change.apart (h : before.ports.Apart) (change : Change surroundings move before after) :
    after.ports.Apart := by
  rcases change.ledger_cases with
    ⟨hports, -, -⟩ | ⟨hosting, -⟩ | ⟨grant, takes, -, -⟩ | ⟨index, grant, -, hports, -, -⟩
  · rw [hports]
    exact h
  · exact hosting.apart h
  · exact h.takes takes
  · rw [hports]
    exact h.dropBoth _

theorem Wellformed.change (h : Wellformed before)
    (change : Change surroundings move before after) : Wellformed after where
  apart := change.apart h.apart
  attached := by
    intro connection hmem
    refine Nat.lt_of_lt_of_le ?_ change.length_le
    rcases change.mem_connections hmem with
      hold | ⟨index, tunnel, found, -, -, rfl⟩ | ⟨old, hold, tunnel, -, -, hstep⟩
    · exact h.attached connection hold
    · exact (List.getElem?_eq_some_iff.1 found).1
    · rw [hstep.tunnel]
      exact h.attached old hold

theorem Wellformed.idle (reachable : Bool) (remote : σ) : Wellformed (idle reachable remote) where
  apart := .empty
  attached := by simp [Relay.idle]

/-- What single changes preserve, moves preserve. -/
theorem perform_invariant {P : Relay σ → Prop} {relay : Relay σ} (wellformed : Wellformed relay)
    (change : ∀ before after, Wellformed before → Change surroundings move before after →
      P before → P after)
    (h : P relay) :
    Wellformed (relay.perform surroundings move) ∧ P (relay.perform surroundings move) := by
  have hchanges := perform_changes surroundings wellformed move
  generalize relay.perform surroundings move = last at hchanges ⊢
  induction hchanges with
  | refl => exact ⟨wellformed, h⟩
  | tail _ hchange ih => exact ⟨ih.1.change hchange, change _ _ ih.1 hchange ih.2⟩

theorem Wellformed.perform {relay : Relay σ} (h : Wellformed relay) (move : Move) :
    Wellformed (relay.perform surroundings move) :=
  (perform_invariant (P := fun _ => True) h (fun _ _ _ _ _ => trivial) trivial).1

/-! ## Induction on runs -/

theorem run_concat (surroundings : Surroundings σ) (relay : Relay σ) (moves : List Move)
    (move : Move) :
    relay.run surroundings (moves ++ [move]) =
      (relay.run surroundings moves).perform surroundings move := by
  simp only [run, List.foldl_append, List.foldl_cons, List.foldl_nil]

theorem run_append (surroundings : Surroundings σ) (relay : Relay σ) (moves more : List Move) :
    relay.run surroundings (moves ++ more) =
      (relay.run surroundings moves).run surroundings more := by
  simp only [run, List.foldl_append]

/-- What every change by one of the moves preserves holds after all of them. -/
theorem run_invariant {P : Relay σ → Prop} {relay : Relay σ} {moves : List Move}
    (wellformed : Wellformed relay)
    (change : ∀ move ∈ moves, ∀ before after, Wellformed before →
      Change surroundings move before after → P before → P after)
    (h : P relay) :
    Wellformed (relay.run surroundings moves) ∧ P (relay.run surroundings moves) := by
  induction moves generalizing relay with
  | nil => exact ⟨wellformed, h⟩
  | cons move rest ih =>
      have hfirst := perform_invariant wellformed (change move List.mem_cons_self) h
      exact ih hfirst.1 (fun move hmem => change move (List.mem_cons_of_mem _ hmem)) hfirst.2

theorem Wellformed.run {relay : Relay σ} (h : Wellformed relay) (moves : List Move) :
    Wellformed (relay.run surroundings moves) :=
  (run_invariant (P := fun _ => True) h (fun _ _ _ _ _ _ _ => trivial) trivial).1

theorem wellformed_run (surroundings : Surroundings σ) (reachable : Bool) (remote : σ)
    (moves : List Move) : Wellformed ((idle reachable remote).run surroundings moves) :=
  (Wellformed.idle reachable remote).run moves

/-- Induction on the moves made so far, the last one first. -/
theorem run_induction {P : List Move → Relay σ → Prop} {relay : Relay σ}
    (wellformed : Wellformed relay) (start : P [] relay)
    (next : ∀ moves move before, Wellformed before → before = relay.run surroundings moves →
      P moves before → P (moves ++ [move]) (before.perform surroundings move))
    (moves : List Move) : P moves (relay.run surroundings moves) := by
  have hboth : Wellformed (relay.run surroundings moves) ∧ P moves (relay.run surroundings moves) := by
    induction moves using List.reverseRecOn with
    | nil => exact ⟨wellformed, start⟩
    | append_singleton moves move ih =>
        rw [run_concat]
        exact ⟨ih.1.perform move, next moves move _ ih.1 rfl ih.2⟩
  exact hboth.2

/-! ## What lasts -/

/-- The caller waits for the tunnel to open or holds its handle. -/
def isWanted (tunnel : Tunnel) : Prop := tunnel.owner = .opening ∨ tunnel.owner = .holding

instance (tunnel : Tunnel) : Decidable (isWanted tunnel) :=
  inferInstanceAs (Decidable (_ ∨ _))

/-- What a tunnel keeps in all that follows. -/
structure Grows (old new : Tunnel) : Prop where
  endpoint : new.endpoint = old.endpoint
  remotePort : new.remotePort = old.remotePort
  options : new.options = old.options
  grant : new.grant = old.grant
  history : old.history <:+ new.history
  wanted : isWanted new → isWanted old
  begun : new.phase = .spawned → old.phase = .spawned
  ceased : old.isOver = true → new.isOver = true ∧ new.history = old.history

/-- What a connection keeps in all that follows. -/
structure Endures (old new : Connection) : Prop where
  tunnel : new.tunnel = old.tunnel
  ended : old.phase = .ended → new.phase = .ended

/-- A relay that comes after another one. -/
structure Extends (before after : Relay σ) : Prop where
  now : before.now ≤ after.now
  dials : before.dials <+: after.dials
  tunnels : ∀ (index : Nat) (tunnel : Tunnel), before.tunnels[index]? = some tunnel →
    ∃ later : Tunnel, after.tunnels[index]? = some later ∧ Grows tunnel later
  connections : ∀ (index : Nat) (connection : Connection),
    before.connections[index]? = some connection →
      ∃ later : Connection, after.connections[index]? = some later ∧ Endures connection later

section Lasting

variable {tunnel next : Tunnel} {now index : Nat}

theorem Grows.refl (tunnel : Tunnel) : Grows tunnel tunnel :=
  ⟨rfl, rfl, rfl, rfl, List.suffix_refl _, id, id, fun h => ⟨h, rfl⟩⟩

theorem Grows.trans {a b c : Tunnel} (first : Grows a b) (second : Grows b c) : Grows a c where
  endpoint := second.endpoint.trans first.endpoint
  remotePort := second.remotePort.trans first.remotePort
  options := second.options.trans first.options
  grant := second.grant.trans first.grant
  history := first.history.trans second.history
  wanted := fun h => first.wanted (second.wanted h)
  begun := fun h => first.begun (second.begun h)
  ceased := fun h =>
    have hfirst := first.ceased h
    have hsecond := second.ceased hfirst.1
    ⟨hsecond.1, hsecond.2.trans hfirst.2⟩

theorem Turn.grows (turn : Turn now index tunnel move next) : Grows tunnel next := by
  cases turn with
  | decided phase due =>
      have hgoing := isOver_of_phase phase (by simp)
      exact ⟨rfl, rfl, rfl, rfl, List.suffix_refl _, id, by simp, fun h => by simp [hgoing] at h⟩
  | ready phase owner =>
      have hgoing := isOver_of_phase phase (by simp)
      exact ⟨rfl, rfl, rfl, rfl, List.suffix_cons _ _, id, by simp, fun h => by simp [hgoing] at h⟩
  | collected owner known =>
      exact ⟨rfl, rfl, rfl, rfl, List.suffix_refl _, fun _ => .inl owner, id, fun h => ⟨h, rfl⟩⟩
  | abandoned owner =>
      exact ⟨rfl, rfl, rfl, rfl, List.suffix_refl _, fun _ => .inl owner, id, fun h => ⟨h, rfl⟩⟩
  | closing owner =>
      exact ⟨rfl, rfl, rfl, rfl, List.suffix_refl _, fun _ => .inr owner, id, fun h => ⟨h, rfl⟩⟩
  | dropped owner =>
      exact ⟨rfl, rfl, rfl, rfl, List.suffix_refl _, fun _ => .inr owner, id, fun h => ⟨h, rfl⟩⟩
  | discarded owner =>
      exact ⟨rfl, rfl, rfl, rfl, List.suffix_refl _, by simp [isWanted], id, fun h => ⟨h, rfl⟩⟩
  | joined owner phase =>
      exact ⟨rfl, rfl, rfl, rfl, List.suffix_refl _, by simp [isWanted], id, fun h => ⟨h, rfl⟩⟩
  | left owner =>
      exact ⟨rfl, rfl, rfl, rfl, List.suffix_refl _, by simp [isWanted], id, fun h => ⟨h, rfl⟩⟩

theorem Step.grows (step : Step surroundings before after index tunnel move next) :
    Grows tunnel next := by
  cases step with
  | probed phase own offset verdict events outcome dials =>
      have hgoing := isOver_of_phase phase (by simp)
      exact ⟨rfl, rfl, rfl, rfl, List.suffix_refl _, id, by simp, fun h => by simp [hgoing] at h⟩
  | turned turn => exact turn.grows
  | ended ending =>
      have hgoing := ending.isOver
      exact ⟨rfl, rfl, rfl, rfl, List.suffix_append _ _, id, by simp [Relay.ended],
        fun h => by simp [hgoing] at h⟩

theorem ConnectionStep.endures {connection after : Connection}
    (step : ConnectionStep now connection tunnel move after) : Endures connection after := by
  refine ⟨step.tunnel, fun hended => ?_⟩
  cases step with
  | dialed phase dialing => simp [hended] at phase
  | advanced turn =>
      cases turn with
      | accepted waiting forwarding => simp [hended] at waiting
      | opened dialing due => simp [hended] at dialing
      | copied copying due copy => simp [hended] at copying
      | closed client going refused => rfl
      | used client byClient heard => exact hended

end Lasting

namespace Extends

theorem refl (relay : Relay σ) : Extends relay relay where
  now := Nat.le_refl _
  dials := List.prefix_refl _
  tunnels := fun _ tunnel found => ⟨tunnel, found, .refl tunnel⟩
  connections := fun _ connection found => ⟨connection, found, rfl, id⟩

theorem trans {a b c : Relay σ} (first : Extends a b) (second : Extends b c) : Extends a c where
  now := Nat.le_trans first.now second.now
  dials := first.dials.trans second.dials
  tunnels := by
    intro index tunnel found
    rcases first.tunnels index tunnel found with ⟨between, hbetween, hfirst⟩
    rcases second.tunnels index between hbetween with ⟨later, hlater, hsecond⟩
    exact ⟨later, hlater, hfirst.trans hsecond⟩
  connections := by
    intro index connection found
    rcases first.connections index connection found with ⟨between, hbetween, hfirst⟩
    rcases second.connections index between hbetween with ⟨later, hlater, hsecond⟩
    exact ⟨later, hlater, hsecond.tunnel.trans hfirst.tunnel,
      fun h => hsecond.ended (hfirst.ended h)⟩

end Extends

/-- A list of which one entry changes or that gets a new one keeps what the change keeps. -/
theorem lasting_set {α : Type} {R : α → α → Prop} (same : ∀ x, R x x) {xs : List α} {place : Nat}
    {old new : α} (found : xs[place]? = some old) (step : R old new) {index : Nat} {x : α}
    (h : xs[index]? = some x) : ∃ later, (xs.set place new)[index]? = some later ∧ R x later := by
  by_cases heq : place = index
  · subst heq
    cases found.symm.trans h
    exact ⟨new, List.getElem?_set_self (List.getElem?_eq_some_iff.1 found).1, step⟩
  · exact ⟨x, by rw [List.getElem?_set_ne heq, h], same x⟩

/-- Time only passes by a move of its own. -/
theorem Change.now_cases (change : Change surroundings move before after) :
    after.now = before.now ∨ IsFree σ move ∧ before.now ≤ after.now := by
  cases change with
  | waited free now core => exact .inr ⟨free, now⟩
  | still core => exact .inl (congrArg Core.now core)
  | hosted ports bound hosting core => exact .inl (congrArg Core.now core)
  | opened options endpoint remotePort grant ports free takes core =>
      exact .inl (congrArg Core.now core)
  | tunnel index tunnel found change =>
      cases change with
      | probed phase own dialing dialed offset verdict events outcome core =>
          exact .inl (congrArg Core.now core)
      | turned next turn core => exact .inl (congrArg Core.now core)
      | ended states word how ending core => exact .inl (congrArg Core.now core)
  | connected index tunnel found listens free core => exact .inl (congrArg Core.now core)
  | connection index connection tunnel found owner own change =>
      cases change with
      | dialed phase dialing dialed core => exact .inl (congrArg Core.now core)
      | advanced next turn core => exact .inl (congrArg Core.now core)

/-- A change dials once at most: for a worker that begins to probe, or for an accepted connection. -/
theorem Change.dials_cases (change : Change surroundings move before after) :
    after.dials = before.dials ∨
      (∃ index tunnel, before.tunnels[index]? = some tunnel ∧ tunnel.phase = .spawned ∧
        (∃ later : Tunnel, after.tunnels[index]? = some later ∧ later.phase ≠ .spawned) ∧
        after.dials = before.dials ++
          [(before.now, .worker index, tunnel.endpoint, tunnel.remotePort)]) ∨
      ∃ index connection tunnel, before.connections[index]? = some connection ∧
        before.tunnels[connection.tunnel]? = some tunnel ∧ connection.phase = .accepted ∧
        after.dials = before.dials ++
          [(before.now, .connection index, tunnel.endpoint, tunnel.remotePort)] := by
  cases change with
  | still core => exact .inl (congrArg Core.dials core)
  | waited free now core => exact .inl (congrArg Core.dials core)
  | hosted ports bound hosting core => exact .inl (congrArg Core.dials core)
  | opened options endpoint remotePort grant ports free takes core =>
      exact .inl (congrArg Core.dials core)
  | tunnel index tunnel found change =>
      cases change with
      | probed phase own dialing dialed offset verdict events outcome core =>
          have htunnels : after.tunnels = before.tunnels.set index _ := congrArg Core.tunnels core
          have hlater := (congrArg (·[index]?) htunnels).trans
            (List.getElem?_set_self (List.getElem?_eq_some_iff.1 found).1)
          exact .inr (.inl ⟨index, tunnel, found, phase, ⟨_, hlater, by simp⟩,
            congrArg Core.dials core⟩)
      | turned next turn core => exact .inl (congrArg Core.dials core)
      | ended states word how ending core => exact .inl (congrArg Core.dials core)
  | connected index tunnel found listens free core => exact .inl (congrArg Core.dials core)
  | connection index connection tunnel found owner own change =>
      cases change with
      | dialed phase dialing dialed core =>
          exact .inr (.inr ⟨index, connection, tunnel, found, owner, phase,
            congrArg Core.dials core⟩)
      | advanced next turn core => exact .inl (congrArg Core.dials core)

theorem Change.extends (change : Change surroundings move before after) : Extends before after where
  now := by
    rcases change.now_cases with hsame | ⟨-, hlater⟩
    · exact Nat.le_of_eq hsame.symm
    · exact hlater
  dials := by
    rcases change.dials_cases with hsame | ⟨_, _, _, _, _, hdialed⟩ | ⟨_, _, _, _, _, _, hdialed⟩
    · exact hsame ▸ List.prefix_refl _
    · exact hdialed ▸ List.prefix_append _ _
    · exact hdialed ▸ List.prefix_append _ _
  tunnels := by
    intro index tunnel found
    rcases change.tunnels_cases with
      hsame | ⟨_, _, _, _, -, hnew⟩ | ⟨place, old, next, hplace, hstep, hset, -⟩
    · exact ⟨tunnel, hsame ▸ found, .refl tunnel⟩
    · have hlt := (List.getElem?_eq_some_iff.1 found).1
      exact ⟨tunnel, by rw [hnew, List.getElem?_append_left hlt, found], .refl tunnel⟩
    · rw [hset]
      exact lasting_set Grows.refl hplace hstep.grows found
  connections := by
    intro index connection found
    rcases change.connections_cases with
      hsame | ⟨_, _, _, _, _, hnew⟩ | ⟨place, old, next, _, hplace, _, _, hstep, hset, -⟩
    · exact ⟨connection, hsame ▸ found, rfl, id⟩
    · have hlt := (List.getElem?_eq_some_iff.1 found).1
      exact ⟨connection, by rw [hnew, List.getElem?_append_left hlt, found], rfl, id⟩
    · rw [hset]
      exact lasting_set (fun _ => ⟨rfl, id⟩) hplace hstep.endures found

theorem extends_of_changes
    (changes : Relation.ReflTransGen (Change surroundings move) before after) :
    Extends before after := by
  induction changes with
  | refl => exact .refl before
  | tail _ hchange ih => exact ih.trans hchange.extends

theorem run_extends {relay : Relay σ} (wellformed : Wellformed relay) (moves : List Move) :
    Extends relay (relay.run surroundings moves) :=
  (run_invariant (P := Extends relay) wellformed
    (fun _ _ _ _ _ change h => h.trans change.extends) (.refl relay)).2

/-! ## One tunnel in a run -/

section OneTunnel

variable {relay : Relay σ} {index : Nat}

theorem Turn.own {now : Nat} {tunnel next : Tunnel} (turn : Turn now index tunnel move next)
    (relay : Relay σ) : move.tunnel? relay = some index := by
  cases turn <;> rfl

theorem Ending.own {tunnel : Tunnel} {states : List TunnelState}
    {word : Option (Except Error Unit)} {how : WorkerEnd}
    (ending : Ending index tunnel move states word how) (relay : Relay σ) :
    move.tunnel? relay = some index := by
  cases ending <;> rfl

theorem Step.own {tunnel next : Tunnel} (step : Step surroundings before after index tunnel move next)
    (relay : Relay σ) : move.tunnel? relay = some index := by
  cases step with
  | probed phase own offset verdict events outcome dials => rw [own]; rfl
  | turned turn => exact turn.own relay
  | ended ending => exact ending.own relay

/-- A tunnel after a change is new, or takes one step at most. -/
theorem Change.tunnel_cases (change : Change surroundings move before after) {tunnel : Tunnel}
    (found : after.tunnels[index]? = some tunnel) :
    (∃ options endpoint remotePort grant, before.tunnels[index]? = none ∧
        tunnel = .fresh endpoint remotePort options grant before.now) ∨
      ∃ old, before.tunnels[index]? = some old ∧
        (tunnel = old ∨ Step surroundings before after index old move tunnel) := by
  rcases change.tunnels_cases with
    hsame | ⟨options, endpoint, remotePort, grant, -, hnew⟩ |
      ⟨place, old, next, hplace, hstep, hset, -⟩
  · exact .inr ⟨tunnel, hsame ▸ found, .inl rfl⟩
  · by_cases hlt : index < before.tunnels.length
    · rw [hnew, List.getElem?_append_left hlt] at found
      exact .inr ⟨tunnel, found, .inl rfl⟩
    · left
      have hnone := List.getElem?_eq_none (Nat.le_of_not_lt hlt)
      rw [hnew] at found
      have hmem := List.mem_of_getElem? found
      refine ⟨options, endpoint, remotePort, grant, hnone, ?_⟩
      rw [List.getElem?_append_right (Nat.le_of_not_lt hlt)] at found
      exact List.mem_singleton.1 (List.mem_of_getElem? found)
  · rw [hset] at found
    by_cases heq : place = index
    · subst heq
      rw [List.getElem?_set_self (List.getElem?_eq_some_iff.1 hplace).1] at found
      cases found
      exact .inr ⟨old, hplace, .inr hstep⟩
    · rw [List.getElem?_set_ne heq] at found
      exact .inr ⟨tunnel, found, .inl rfl⟩

/-- No tunnel takes a step by a move that concerns none. -/
theorem changes_tunnel_cases (none : IsFree σ move)
    (changes : Relation.ReflTransGen (Change surroundings move) before after) {tunnel : Tunnel}
    (found : after.tunnels[index]? = some tunnel) :
    (∃ options endpoint remotePort grant now, before.tunnels[index]? = .none ∧
        tunnel = .fresh endpoint remotePort options grant now) ∨
      before.tunnels[index]? = some tunnel := by
  induction changes generalizing tunnel with
  | refl => exact .inr found
  | tail hbefore hchange ih =>
      rcases hchange.tunnel_cases found with
        ⟨options, endpoint, remotePort, grant, hbetween, hfresh⟩ | ⟨old, hold, rfl | hstep⟩
      · refine .inl ⟨options, endpoint, remotePort, grant, _, ?_, hfresh⟩
        cases hfound : before.tunnels[index]? with
        | none => rfl
        | some old =>
            rcases (extends_of_changes hbefore).tunnels index old hfound with ⟨later, hlater, -⟩
            rw [hbetween] at hlater
            cases hlater
      · exact ih hold
      · have hown := hstep.own before
        rw [none] at hown
        cases hown

/-- A tunnel after a move is new, or takes one step at most from what it was before the move. -/
theorem perform_tunnel_cases (wellformed : Wellformed relay) {tunnel : Tunnel}
    (found : (relay.perform surroundings move).tunnels[index]? = some tunnel) :
    (∃ options endpoint remotePort grant now, relay.tunnels[index]? = none ∧
        tunnel = .fresh endpoint remotePort options grant now) ∨
      ∃ old, relay.tunnels[index]? = some old ∧ (tunnel = old ∨
        Step surroundings relay (relay.perform surroundings move) index old move tunnel) := by
  rcases perform_cases surroundings wellformed move with hchange | ⟨hnone, hchanges⟩
  · rcases hchange.tunnel_cases found with ⟨options, endpoint, remotePort, grant, hnew⟩ | hold
    · exact .inl ⟨options, endpoint, remotePort, grant, _, hnew⟩
    · exact .inr hold
  · rcases changes_tunnel_cases hnone hchanges found with hnew | hsame
    · exact .inl hnew
    · exact .inr ⟨tunnel, hsame, .inl rfl⟩

/-- Induction on what a tunnel has behind it: its opening, the moves that leave it as it is, and its
own steps. -/
theorem tunnel_induction {P : List Move → Tunnel → Prop} {reachable : Bool} {remote : σ}
    (fresh : ∀ moves endpoint remotePort options grant now,
      P moves (.fresh endpoint remotePort options grant now))
    (stay : ∀ moves move tunnel, P moves tunnel → P (moves ++ [move]) tunnel)
    (step : ∀ moves move before after tunnel next,
      before = (idle reachable remote).run surroundings moves →
      after = (idle reachable remote).run surroundings (moves ++ [move]) →
      before.tunnels[index]? = some tunnel → after.tunnels[index]? = some next →
      Step surroundings before after index tunnel move next → P moves tunnel →
      P (moves ++ [move]) next)
    (moves : List Move) {tunnel : Tunnel}
    (found : ((idle reachable remote).run surroundings moves).tunnels[index]? = some tunnel) :
    P moves tunnel := by
  refine run_induction (P := fun moves relay => ∀ tunnel, relay.tunnels[index]? = some tunnel →
    P moves tunnel) (.idle reachable remote) ?_ ?_ moves tunnel found
  · intro tunnel hnone
    cases hnone
  · intro moves move before wellformed hrun ih tunnel found
    have hafter : before.perform surroundings move =
        (idle reachable remote).run surroundings (moves ++ [move]) := by
      rw [run_concat, hrun]
    rcases perform_tunnel_cases wellformed found with
      ⟨options, endpoint, remotePort, grant, now, -, rfl⟩ | ⟨old, hold, rfl | hstep⟩
    · exact fresh _ _ _ _ _ _
    · exact stay _ _ _ (ih _ hold)
    · rw [hafter] at hstep found
      exact step _ _ before _ old tunnel hrun rfl hold found hstep (ih old hold)

end OneTunnel

end Relay

end Readiness
