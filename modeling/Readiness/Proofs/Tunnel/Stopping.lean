import Readiness.Proofs.Tunnel.Ledger
import Readiness.Proofs.Tunnel.Lifecycle
import Readiness.Proofs.Tunnel.Settling

/-!
# Stopping — a tunnel that is given up ends, and no other does

* `Relay.Gone`: nothing of a tunnel is left, neither its worker nor its listener, its lease or a
  connection, and `Relay.Gone.run`: this lasts, and nothing is dialed for the tunnel any more;
* `Relay.Undisturbed`: a tunnel is as it was, with its listener, its lease and its connections, and
  `Relay.perform_untouched`: a move disturbs no tunnel but its own;
* `Relay.RestingBut`: only one tunnel can go on, and then a run of tasks disturbs no other;
* `Relay.stopping_ends_one_tunnel` puts these together.
-/

namespace Readiness

namespace Relay

variable {σ : Type} {surroundings : Surroundings σ} {relay before after : Relay σ} {move : Move}
  {index other : Nat} {tunnel next : Tunnel}

/-! ## Moves of other tunnels -/

/-- The record of a tunnel and its connections are as they were. -/
structure Untouched (before after : Relay σ) (index : Nat) : Prop where
  tunnel : ∀ tunnel, before.tunnels[index]? = some tunnel → after.tunnels[index]? = some tunnel
  connections : ∀ (place : Nat) (connection : Connection),
    before.connections[place]? = some connection → connection.tunnel = index →
      after.connections[place]? = some connection

theorem Untouched.refl (relay : Relay σ) (index : Nat) : Untouched relay relay index :=
  ⟨fun _ found => found, fun _ _ found _ => found⟩

theorem Untouched.trans {middle : Relay σ} (first : Untouched before middle index)
    (second : Untouched middle after index) : Untouched before after index where
  tunnel := fun tunnel found => second.tunnel tunnel (first.tunnel tunnel found)
  connections := fun place connection found owner =>
    second.connections place connection (first.connections place connection found owner) owner

/-- A change by a move of one tunnel touches no other. -/
theorem Change.untouched (change : Change surroundings move before after)
    (another : move.tunnel? before ≠ some other) : Untouched before after other where
  tunnel := by
    intro tunnel found
    rcases change.tunnels_cases with
      hsame | ⟨_, _, _, _, -, hnew⟩ | ⟨place, old, next, -, hstep, hset, -⟩
    · rwa [hsame]
    · rw [hnew, List.getElem?_append_left (List.getElem?_eq_some_iff.1 found).1, found]
    · have hne : place ≠ other := by
        rintro rfl
        exact another (hstep.own before)
      rw [hset, List.getElem?_set_ne hne, found]
  connections := by
    intro place connection found owner
    rcases change.connections_cases with
      hsame | ⟨_, _, _, _, -, hnew⟩ | ⟨index, old, next, _, hplace, _, hown, _, hset, -⟩
    · rwa [hsame]
    · rw [hnew, List.getElem?_append_left (List.getElem?_eq_some_iff.1 found).1, found]
    · have hne : index ≠ place := by
        rintro rfl
        rw [found] at hplace
        cases hplace
        exact another (owner ▸ hown)
      rw [hset, List.getElem?_set_ne hne, found]

/-- A move touches no tunnel but its own. -/
theorem perform_untouched (wellformed : Wellformed relay)
    (another : move.tunnel? relay ≠ some other) :
    Untouched relay (relay.perform surroundings move) other := by
  rcases perform_cases surroundings wellformed move with hchange | ⟨hfree, hchanges⟩
  · exact hchange.untouched another
  · generalize relay.perform surroundings move = last at hchanges ⊢
    induction hchanges with
    | refl => exact .refl relay other
    | tail _ hchange ih => exact ih.trans (hchange.untouched (by simp [hfree _]))

/-- A tunnel is as it was, with its listener, its lease, the claim of its port and its connections. -/
structure Undisturbed (before after : Relay σ) (index : Nat) (tunnel : Tunnel) : Prop where
  found : after.tunnels[index]? = some tunnel
  listener : tunnel.grant ∈ after.ports.listeners ↔ tunnel.grant ∈ before.ports.listeners
  lease : tunnel.grant ∈ after.ports.leases ↔ tunnel.grant ∈ before.ports.leases
  claim : tunnel.grant ∈ before.ports.leases → after.ports.isClaimed tunnel.grant.port = true
  connections : ∀ (place : Nat) (connection : Connection),
    before.connections[place]? = some connection → connection.tunnel = index →
      after.connections[place]? = some connection

/-- In accounted relays the listener and the lease of a tunnel follow its record. -/
theorem Untouched.undisturbed (h : Untouched before after index) (earlier : IsAccounted before)
    (later : IsAccounted after) (found : before.tunnels[index]? = some tunnel) :
    Undisturbed before after index tunnel := by
  have hfound := h.tunnel tunnel found
  have hlease := (later.mem_leases_iff hfound).trans (earlier.mem_leases_iff found).symm
  refine ⟨hfound, ?_, hlease, fun held => ?_, h.connections⟩
  · exact (later.mem_listeners_iff hfound).trans (earlier.mem_listeners_iff found).symm
  · exact (later.consistent.isClaimed_iff_lease _).2
      ⟨tunnel.grant, List.mem_append_right _ (hlease.2 held), rfl⟩

/-! ## Tunnels of which nothing is left -/

/-- A connection that has ended has told its client so. -/
def Heard (connection : Connection) : Prop :=
  connection.phase = .ended → connection.client.ended = true

theorem ConnectionStep.heard {now : Nat} {connection after : Connection}
    (step : ConnectionStep now connection tunnel move after) (h : Heard connection) :
    Heard after := by
  cases step with
  | dialed phase dialing => exact fun hended => nomatch hended
  | advanced turn =>
      cases turn with
      | accepted waiting forwarding => exact fun hended => nomatch hended
      | opened dialing due => exact fun hended => nomatch hended
      | copied copying due copy => exact fun hended => nomatch hended
      | closed client going refused => exact fun _ => rfl
      | used client byClient heard => exact fun hended => heard.trans (h hended)

/-- What is known of all runs. -/
structure Known (relay : Relay σ) : Prop where
  accounted : IsAccounted relay
  staged : Staged relay
  forwards : Forwards relay
  heard : ∀ connection ∈ relay.connections, Heard connection

theorem Change.known (change : Change surroundings move before after) (h : Known before) :
    Known after where
  accounted := change.isAccounted h.accounted
  staged := change.staged h.staged
  forwards := change.forwards h.staged h.forwards
  heard := by
    intro connection hmem
    rcases change.mem_connections hmem with
      hold | ⟨_, _, -, -, -, rfl⟩ | ⟨old, hold, _, -, -, hstep⟩
    · exact h.heard connection hold
    · exact fun hended => nomatch hended
    · exact hstep.heard (h.heard old hold)

theorem known_run (surroundings : Surroundings σ) (reachable : Bool) (remote : σ)
    (moves : List Move) : Known ((idle reachable remote).run surroundings moves) :=
  (run_invariant (.idle reachable remote) (fun _ _ _ _ _ change h => change.known h)
    ⟨isAccounted_run surroundings reachable remote [], staged_run surroundings reachable remote [],
      forwards_run surroundings reachable remote [], by simp [idle]⟩).2

/-- Nothing of a tunnel is left: its worker has ended, its port is given up, a client who connects to
any port is refused or reaches another tunnel, and all clients that ever connected to this one have
been disconnected. -/
structure Gone (relay : Relay σ) (index : Nat) (tunnel : Tunnel) : Prop where
  ceased : tunnel.isOver = true
  listener : tunnel.grant ∉ relay.ports.listeners
  lease : tunnel.grant ∉ relay.ports.leases
  refused : ∀ port, relay.connect port = relay ∨
    ∃ another, another ≠ index ∧ relay.listening? port = some another
  connections : ∀ connection ∈ relay.connections, connection.tunnel = index →
    connection.phase = .ended ∧ connection.client.ended = true

theorem Known.gone (h : Known relay) (found : relay.tunnels[index]? = some tunnel)
    (ceased : tunnel.isOver = true)
    (connections : ∀ connection ∈ relay.connections, connection.tunnel = index →
      connection.phase = .ended) : Gone relay index tunnel := by
  have hlistener : tunnel.grant ∉ relay.ports.listeners := by
    rw [h.accounted.mem_listeners_iff found, ceased]
    exact Bool.noConfusion
  have hlease : tunnel.grant ∉ relay.ports.leases := by
    rw [h.accounted.mem_leases_iff found, ceased]
    exact Bool.noConfusion
  refine ⟨ceased, hlistener, hlease, fun port => ?_, fun connection hmem owner => ?_⟩
  · cases hlistening : relay.listening? port with
    | none => exact .inl (by simp only [connect, hlistening])
    | some another =>
        refine .inr ⟨another, ?_, rfl⟩
        rintro rfl
        rcases List.findIdx?_eq_some_iff_getElem.1 hlistening with ⟨hlt, hlistens, -⟩
        rw [List.getElem?_eq_getElem hlt] at found
        cases found
        simp only [Bool.and_eq_true, decide_eq_true_eq, List.contains_iff_mem] at hlistens
        exact hlistener hlistens.2
  · have hended := connections connection hmem owner
    exact ⟨hended, h.heard connection hmem hended⟩

/-- A connection that cannot go on although its tunnel has ended has ended itself. -/
theorem ended_of_not_due {now : Nat} {connection : Connection}
    (due : connectionIsDue now true connection = false) : connection.phase = .ended := by
  cases phase : connection.phase with
  | waiting => simp [connectionIsDue, phase] at due
  | accepted => simp [connectionIsDue, phase] at due
  | dialing since dialing => cases dialing <;> simp [connectionIsDue, phase] at due
  | copying link => simp [connectionIsDue, phase] at due
  | ended => rfl

/-- A worker that rests although it was stopped has ended. -/
theorem isOver_of_stopped {now : Nat} (stopped : tunnel.stopped = true)
    (rests : workerIsDue now tunnel = false) : tunnel.isOver = true := by
  cases phase : tunnel.phase with
  | ended how => simp [Tunnel.isOver, phase]
  | _ => simp [workerIsDue, phase, stopped] at rests

/-- A tunnel that was given up and rests is gone. -/
theorem Resting.gone (h : Resting relay index tunnel) (known : Known relay)
    (found : relay.tunnels[index]? = some tunnel) (unwanted : ¬ isWanted tunnel) :
    Gone relay index tunnel := by
  have htold : Told tunnel := (known.staged tunnel (List.mem_of_getElem? found)).2
  have hover : tunnel.isOver = true := by
    rcases htold.givenUp unwanted with stopped | ceased
    · exact isOver_of_stopped stopped h.worker
    · exact ceased
  refine known.gone found hover fun connection hmem owner => ?_
  have hdue := h.connections connection hmem owner
  rw [hover] at hdue
  exact ended_of_not_due hdue

/-- Whether a stream is opened for a tunnel. -/
def isFor (relay : Relay σ) (index : Nat) : Actor → Bool
  | .worker tunnel => tunnel = index
  | .connection place => relay.connections[place]?.map (·.tunnel) = some index
  | .caller => false

/-- The attempts to open a stream for a tunnel. -/
def dialsFor (relay : Relay σ) (index : Nat) : List (Nat × Actor × Endpoint × Nat) :=
  relay.dials.filter fun dial => relay.isFor index dial.2.1

/-- What stays of a tunnel whose worker and connections have ended: it dials no more. -/
structure Quit (relay : Relay σ) (index : Nat) (dials : List (Nat × Actor × Endpoint × Nat)) :
    Prop where
  ceased : ∃ tunnel, relay.tunnels[index]? = some tunnel ∧ tunnel.isOver = true
  connections : ∀ connection ∈ relay.connections, connection.tunnel = index →
    connection.phase = .ended
  dials : relay.dialsFor index = dials

/-- Who dialed stays with its tunnel. -/
theorem Extends.isFor (h : Extends before after) (forwards : Forwards before)
    {dial : Nat × Actor × Endpoint × Nat} (made : dial ∈ before.dials) :
    after.isFor index dial.2.1 = before.isFor index dial.2.1 := by
  cases hactor : dial.2.1 with
  | worker tunnel => rfl
  | caller => rfl
  | connection place =>
      rcases forwards.dialed dial made place hactor with ⟨connection, found, -⟩
      rcases h.connections place connection found with ⟨later, hlater, hendures⟩
      simp only [Relay.isFor, found, hlater, Option.map_some, hendures.tunnel]

theorem Change.quit {dials : List (Nat × Actor × Endpoint × Nat)}
    (change : Change surroundings move before after) (accounted : IsAccounted before)
    (forwards : Forwards before) (h : Quit before index dials) : Quit after index dials where
  ceased := by
    rcases h.ceased with ⟨tunnel, found, ceased⟩
    rcases change.extends.tunnels index tunnel found with ⟨later, hlater, hgrows⟩
    exact ⟨later, hlater, (hgrows.ceased ceased).1⟩
  connections := by
    intro connection hmem owner
    rcases h.ceased with ⟨tunnel, found, ceased⟩
    rcases change.mem_connections hmem with
      hold | ⟨place, listener, hplace, listens, -, rfl⟩ | ⟨old, hold, _, -, -, hstep⟩
    · exact h.connections connection hold owner
    · -- A tunnel whose worker has ended does not listen.
      cases owner
      have hsame : listener = tunnel := Option.some.inj (hplace.symm.trans found)
      subst hsame
      rw [(accounted.mem_listeners_iff found).1 listens] at ceased
      cases ceased
    · exact hstep.endures.ended (h.connections old hold (hstep.tunnel ▸ owner))
  dials := by
    have hold : before.dials.filter (fun dial => after.isFor index dial.2.1) = dials := by
      rw [← h.dials, dialsFor]
      exact List.filter_congr fun dial made => change.extends.isFor forwards made
    rcases h.ceased with ⟨tunnel, found, ceased⟩
    rcases change.dials_cases with
      hsame | ⟨place, spawned, hplace, hphase, -, hdialed⟩ |
        ⟨place, connection, _, hplace, _, hphase, hdialed⟩
    · rw [dialsFor, hsame, hold]
    · have hne : place ≠ index := by
        rintro rfl
        rw [hplace] at found
        cases found
        rw [isOver_of_phase hphase (by simp)] at ceased
        cases ceased
      rw [dialsFor, hdialed, List.filter_append, hold]
      simp [Relay.isFor, hne]
    · have hne : connection.tunnel ≠ index := by
        intro owner
        have hended := h.connections connection (List.mem_of_getElem? hplace) owner
        rw [hphase] at hended
        cases hended
      rcases change.extends.connections place connection hplace with ⟨later, hlater, hendures⟩
      rw [dialsFor, hdialed, List.filter_append, hold]
      simp [Relay.isFor, hlater, hendures.tunnel, hne]

/-- A tunnel that is gone stays gone, and nothing is dialed for it any more. -/
theorem Gone.run (h : Gone relay index tunnel) (wellformed : Wellformed relay) (known : Known relay)
    (found : relay.tunnels[index]? = some tunnel) (moves : List Move) :
    ∃ later, (relay.run surroundings moves).tunnels[index]? = some later ∧
      Gone (relay.run surroundings moves) index later ∧
      (relay.run surroundings moves).dialsFor index = relay.dialsFor index := by
  have hrun : Wellformed (relay.run surroundings moves) ∧ Known (relay.run surroundings moves) ∧
      Quit (relay.run surroundings moves) index (relay.dialsFor index) :=
    run_invariant (P := fun after => Known after ∧ Quit after index (relay.dialsFor index))
      wellformed
      (fun _ _ _ _ _ change h => ⟨change.known h.1, change.quit h.1.accounted h.1.forwards h.2⟩)
      ⟨known, ⟨tunnel, found, h.ceased⟩, fun connection hmem owner =>
        (h.connections connection hmem owner).1, rfl⟩
  rcases hrun with ⟨-, hknown, hquit⟩
  rcases hquit.ceased with ⟨later, hlater, hover⟩
  exact ⟨later, hlater, hknown.gone hlater hover hquit.connections, hquit.dials⟩

/-! ## Relays in which one tunnel only can go on -/

/-- All tunnels but one rest. -/
def RestingBut (relay : Relay σ) (index : Nat) : Prop :=
  ∀ (other : Nat) (tunnel : Tunnel), other ≠ index → relay.tunnels[other]? = some tunnel →
    Resting relay other tunnel

/-- A connection that cannot go on once it has noticed what became of its tunnel cannot do so before
either. -/
theorem not_due_of_not_noticed {now : Nat} {noticed : Bool} {connection : Connection}
    (due : connectionIsDue now noticed connection = false) :
    connectionIsDue now false connection = false := by
  cases phase : connection.phase with
  | waiting => simp [connectionIsDue, phase]
  | accepted => simp [connectionIsDue, phase] at due
  | dialing since dialing => cases dialing <;> simp_all [connectionIsDue]
  | copying link => simp_all [connectionIsDue]
  | ended => simp [connectionIsDue, phase]

/-- The steps of tasks of tunnels that rest change nothing. -/
theorem RestingBut.perform_eq (h : RestingBut relay index) (task : Move.isTask move = true)
    (another : move.tunnel? relay ≠ some index) : relay.perform surroundings move = relay := by
  have hother {place : Nat} (own : move.tunnel? relay = some place) : place ≠ index := by
    rintro rfl
    exact another own
  have hconnection {place : Nat} {connection : Connection} {tunnel : Tunnel}
      (found : relay.connection? place = some (connection, tunnel))
      (own : move.tunnel? relay = some connection.tunnel) :
      relay.connections[place]? = some connection ∧
        connectionIsDue relay.now tunnel.isOver connection = false := by
    rcases connection?_eq_some_iff.1 found with ⟨hplace, howner⟩
    have hresting := h connection.tunnel tunnel (hother own) howner
    exact ⟨hplace, hresting.connections connection (List.mem_of_getElem? hplace) rfl⟩
  cases move with
  | act action =>
      cases action with
      | worker place =>
          cases found : relay.tunnels[place]? with
          | none => simp only [perform, step, runWorker, found]
          | some tunnel =>
              have hresting := h place tunnel (hother rfl) found
              exact runWorker_of_not_due surroundings found hresting.worker
      | accept place =>
          cases found : relay.tunnels[place]? with
          | none => simp only [perform, step, accept, found]
          | some tunnel =>
              by_cases forwarding : tunnel.phase = .forwarding
              · exact accept_of_none ((h place tunnel (hother rfl) found).accept forwarding)
              · exact accept_of_not_forwarding found forwarding
      | connection place =>
          cases found : relay.connection? place with
          | none => simp only [perform, step, runConnection, found]
          | some pair =>
              have hplace := (connection?_eq_some_iff.1 found).1
              rcases hconnection found (by simp [Move.tunnel?, hplace]) with ⟨-, hdue⟩
              simp only [perform, step, runConnection, found]
              exact goOn_of_not_due surroundings pair.2 _ hplace hdue
      | collect place =>
          cases found : relay.tunnels[place]? with
          | none => simp only [perform, step, collect, found]
          | some tunnel =>
              exact collect_of_not_due found (h place tunnel (hother rfl) found).caller
      | join place =>
          cases found : relay.tunnels[place]? with
          | none => exact updateTunnel_of_none _ found
          | some tunnel => exact join_of_not_due found (h place tunnel (hother rfl) found).caller
      | _ => cases task
  | overlookEnd place =>
      cases found : relay.connection? place with
      | none => simp only [perform, overlookEnd, found]
      | some pair =>
          have hplace := (connection?_eq_some_iff.1 found).1
          rcases hconnection found (by simp [Move.tunnel?, hplace]) with ⟨-, hdue⟩
          simp only [perform, overlookEnd, found]
          exact goOn_of_not_due surroundings pair.2 _ hplace (not_due_of_not_noticed hdue)
  | _ => cases task

/-- The steps of the tunnel that can go on leave the others at rest. -/
theorem RestingBut.change (h : RestingBut before index)
    (change : Change surroundings move before after) (own : move.tunnel? before = some index) :
    RestingBut after index := by
  have hbound (free : IsFree σ move) : False := by
    rw [free before] at own
    cases own
  have hnow : after.now = before.now := by
    rcases change.now_cases with hsame | ⟨hfree, -⟩
    · exact hsame
    · exact (hbound hfree).elim
  intro other tunnel another found
  have hearlier : before.tunnels[other]? = some tunnel := by
    rcases change.tunnels_cases with
      hsame | ⟨_, _, _, _, hfree, -⟩ | ⟨place, old, next, -, hstep, hset, -⟩
    · rwa [← hsame]
    · exact (hbound hfree).elim
    · have hne : place ≠ other := by
        rintro rfl
        rw [hstep.own before] at own
        cases own
        exact another rfl
      rwa [hset, List.getElem?_set_ne hne] at found
  have hmem (connection : Connection) (hmem : connection ∈ after.connections)
      (owner : connection.tunnel = other) : connection ∈ before.connections := by
    rcases change.mem_connections hmem with
      hold | ⟨_, _, -, -, hfree, -⟩ | ⟨old, -, _, -, hown, hstep⟩
    · exact hold
    · exact (hbound hfree).elim
    · rw [hstep.tunnel] at owner
      rw [hown, owner] at own
      cases own
      exact absurd rfl another
  have hresting := h other tunnel another hearlier
  refine ⟨hnow ▸ hresting.worker, hresting.caller, ?_, ?_⟩
  · intro forwarding connection hconnection
    cases hawaits : awaits other connection with
    | false => rfl
    | true =>
        have hbefore := hmem connection hconnection (awaits_iff.1 hawaits).1
        rw [hresting.accept forwarding connection hbefore] at hawaits
        cases hawaits
  · intro connection hconnection owner
    rw [hnow]
    exact hresting.connections connection (hmem connection hconnection owner) owner

theorem Move.GivesUp.own (gives : move.GivesUp index) (relay : Relay σ) :
    move.tunnel? relay = some index := by
  cases gives <;> rfl

/-- Tasks, and the caller of the tunnel that can go on, leave the others as they are and at rest. -/
theorem RestingBut.perform (h : RestingBut relay index) (wellformed : Wellformed relay)
    (allowed : move.isTask = true ∨ move.GivesUp index) :
    RestingBut (relay.perform surroundings move) index ∧
      ∀ other, other ≠ index → Untouched relay (relay.perform surroundings move) other := by
  by_cases own : move.tunnel? relay = some index
  · constructor
    · rcases perform_cases surroundings wellformed move with hchange | ⟨hfree, -⟩
      · exact h.change hchange own
      · rw [hfree relay] at own
        cases own
    · intro other another
      refine perform_untouched wellformed fun hother => another ?_
      rw [own] at hother
      exact (Option.some.inj hother).symm
  · have htask : move.isTask = true := by
      rcases allowed with task | gives
      · exact task
      · exact absurd (gives.own relay) own
    rw [h.perform_eq htask own]
    exact ⟨h, fun other _ => .refl relay other⟩

theorem RestingBut.run {moves : List Move} (h : RestingBut relay index)
    (wellformed : Wellformed relay)
    (allowed : ∀ move ∈ moves, move.isTask = true ∨ move.GivesUp index) :
    ∀ other, other ≠ index → Untouched relay (relay.run surroundings moves) other := by
  induction moves generalizing relay with
  | nil => exact fun other _ => .refl relay other
  | cons move rest ih =>
      intro other another
      rcases List.forall_mem_cons.1 allowed with ⟨hmove, hrest⟩
      rcases h.perform wellformed hmove with ⟨hresting, huntouched⟩
      exact (huntouched other another).trans
        (ih hresting (wellformed.perform move) hrest other another)

/-! ## Stopping a tunnel -/

/-- A tunnel that its caller gave up is not wanted any more. -/
theorem GaveUp.unwanted {start : Relay σ} {moves : List Move} (wellformed : Wellformed start)
    (h : GaveUp surroundings start moves index)
    (found : (start.run surroundings moves).tunnels[index]? = some tunnel) : ¬ isWanted tunnel := by
  rcases h with ⟨earlier, giving, later, rfl, -, -, next, hnext, hunwanted⟩
  intro hwanted
  have hsplit : start.run surroundings (earlier ++ giving :: later) =
      (start.run surroundings (earlier ++ [giving])).run surroundings later := by
    rw [← run_append, List.append_assoc]
    rfl
  have hextends : Extends (start.run surroundings (earlier ++ [giving]))
      ((start.run surroundings (earlier ++ [giving])).run surroundings later) :=
    run_extends (wellformed.run (earlier ++ [giving])) later
  rcases hextends.tunnels index next hnext with ⟨last, hlast, hgrows⟩
  rw [← hsplit, found] at hlast
  cases hlast
  exact hunwanted (hgrows.wanted hwanted)

/-- In every run, closing or dropping a tunnel that is held and abandoning one that is waited for gives
it up. A tunnel that was given up is not wanted any more; and once no step is possible, a tunnel that
is not wanted is gone, with all its connections, whatever they were about to do. It stays gone, and
nothing is dialed for it ever again. No other tunnel is concerned: no move disturbs a tunnel but its
own, and from a relay in which no step is possible, the end of one tunnel and all steps that this makes
possible leave the others, their listeners, their ports and their connections as they are. The possible
steps always come to an end. -/
theorem stopping_ends_one_tunnel (surroundings : Surroundings σ) (reachable : Bool) (remote : σ)
    (moves : List Move) :
    let relay := (idle reachable remote).run surroundings moves
    (∀ index earlier giving later owner tunnel, moves = earlier ++ giving :: later →
      giving.GivesUpAs index owner →
        ((idle reachable remote).run surroundings earlier).tunnels[index]? = some tunnel →
          tunnel.owner = owner → GaveUp surroundings (idle reachable remote) moves index) ∧
      (∀ index tunnel, relay.tunnels[index]? = some tunnel →
        (GaveUp surroundings (idle reachable remote) moves index → ¬ isWanted tunnel) ∧
          (¬ isWanted tunnel → relay.nextTask? = none →
            Gone relay index tunnel ∧
              ∀ more, ∃ later, (relay.run surroundings more).tunnels[index]? = some later ∧
                Gone (relay.run surroundings more) index later ∧
                (relay.run surroundings more).dialsFor index = relay.dialsFor index)) ∧
      (∀ move other tunnel, move.tunnel? relay ≠ some other →
        relay.tunnels[other]? = some tunnel →
          Undisturbed relay (relay.perform surroundings move) other tunnel) ∧
      (relay.nextTask? = none → ∀ index giving tasks other tunnel, Move.GivesUp index giving →
        (∀ task ∈ tasks, Move.isTask task = true) → other ≠ index →
          relay.tunnels[other]? = some tunnel →
            Undisturbed relay (relay.run surroundings (giving :: tasks)) other tunnel) ∧
      (relay.settle surroundings).nextTask? = none ∧
      ∃ tasks, (∀ task ∈ tasks, Move.isTask task = true) ∧
        relay.settle surroundings = relay.run surroundings tasks := by
  intro relay
  have hwellformed : Wellformed relay := wellformed_run surroundings reachable remote moves
  have hknown : Known relay := known_run surroundings reachable remote moves
  -- What is known of all runs is known of those that continue this one.
  have haccounted (more : List Move) : IsAccounted (relay.run surroundings more) := by
    rw [← run_append]
    exact isAccounted_run surroundings reachable remote (moves ++ more)
  refine ⟨?_, ?_, ?_, ?_, nextTask?_settle surroundings relay, settle_eq_run surroundings relay⟩
  · rintro index earlier giving later owner tunnel rfl gives found owned
    exact .of_owner gives found owned
  · intro index tunnel found
    refine ⟨fun gaveUp => gaveUp.unwanted (.idle reachable remote) found, ?_⟩
    intro unwanted quiet
    have hresting := (nextTask?_eq_none_iff hwellformed).1 quiet index tunnel found
    have hgone : Gone relay index tunnel := hresting.gone hknown found unwanted
    exact ⟨hgone, hgone.run hwellformed hknown found⟩
  · intro move other tunnel another found
    exact (perform_untouched hwellformed another).undisturbed hknown.accounted (haccounted [move])
      found
  · intro quiet index giving tasks other tunnel gives tasksOnly another found
    have hresting : RestingBut relay index := fun place resting _ =>
      (nextTask?_eq_none_iff hwellformed).1 quiet place resting
    have hallowed : ∀ move ∈ giving :: tasks, move.isTask = true ∨ move.GivesUp index :=
      List.forall_mem_cons.2 ⟨.inr gives, fun task hmem => .inl (tasksOnly task hmem)⟩
    exact (hresting.run hwellformed hallowed other another).undisturbed hknown.accounted
      (haccounted (giving :: tasks)) found

/-- Four streams open after five milliseconds. All later attempts hang. -/
def fourStreams : Surroundings Nat :=
  ⟨⟨fun _ _ _ count =>
      (if count < 4 then .after 5 (.connected (.quiet none)) [] else .never, count + 1)⟩, .reliable⟩

/-- Two tunnels are open, and the probe of a third one hangs. The first one has a connection with a
stream and one that hangs, and the second one has a connection with a stream. -/
def threeTunnels : List Move :=
  [.act (.start .standard default 80 (.choosing 49152)),
    .act (.start .standard default 81 (.choosing 49153)), .act (.worker 0), .act (.worker 1),
    .wait 5, .act (.worker 0), .act (.worker 0), .act (.collect 0), .act (.worker 1),
    .act (.worker 1), .act (.collect 1), .act (.connect 49152), .act (.connect 49153),
    .act (.connect 49152), .act (.accept 0), .act (.accept 1), .act (.accept 0),
    .act (.connection 0), .act (.connection 1), .act (.connection 2), .wait 10,
    .act (.connection 0), .act (.connection 1),
    .act (.start .standard default 82 (.choosing 49154)), .act (.worker 2)]

/-- The steps that become possible when the first tunnel is given up. -/
def endingTasks : List Move := [.act (.worker 0), .act (.connection 2), .act (.connection 0)]

theorem threeTunnels_stop_alone :
    let relay := (idle true 0).run fourStreams threeTunnels
    let closed := relay.run fourStreams (.act (.close 0) :: (endingTasks ++ [.act (.join 0)]))
    let dropped := relay.run fourStreams (.act (.drop 0) :: endingTasks)
    let abandoned := relay.run fourStreams [.act (.abandon 2), .act (.worker 2)]
    (∃ tunnel, closed.tunnels[0]? = some tunnel ∧ Gone closed 0 tunnel) ∧
      (∃ tunnel, dropped.tunnels[0]? = some tunnel ∧ Gone dropped 0 tunnel) ∧
      (∃ tunnel, abandoned.tunnels[2]? = some tunnel ∧ Gone abandoned 2 tunnel) ∧
      ∃ tunnel, relay.tunnels[1]? = some tunnel ∧ Undisturbed relay closed 1 tunnel ∧
        Undisturbed relay dropped 1 tunnel ∧ Undisturbed relay abandoned 1 tunnel := by
  intro relay closed dropped abandoned
  rcases stopping_ends_one_tunnel fourStreams true 0 threeTunnels with ⟨-, -, -, hothers, -, -⟩
  have gone {index : Nat} {owner : Owner} {giving : Move} {tasks : List Move} {before after : Tunnel}
      (gives : giving.GivesUpAs index owner) (found : relay.tunnels[index]? = some before)
      (owned : before.owner = owner)
      (left : (relay.run fourStreams (giving :: tasks)).tunnels[index]? = some after)
      (quiet : (relay.run fourStreams (giving :: tasks)).nextTask? = none) :
      Gone (relay.run fourStreams (giving :: tasks)) index after := by
    rcases stopping_ends_one_tunnel fourStreams true 0 (threeTunnels ++ giving :: tasks) with
      ⟨hgiven, hstopped, -, -, -, -⟩
    rw [run_append] at hstopped
    rcases hstopped index after left with ⟨hunwanted, hgone⟩
    have hgaveUp := hgiven index threeTunnels giving tasks owner before rfl gives found owned
    exact (hgone (hunwanted hgaveUp) quiet).1
  refine ⟨⟨_, rfl, ?_⟩, ⟨_, rfl, ?_⟩, ⟨_, rfl, ?_⟩, _, rfl, ?_, ?_, ?_⟩
  · exact gone .close rfl rfl rfl (by decide +kernel)
  · exact gone .drop rfl rfl rfl (by decide +kernel)
  · exact gone .abandon rfl rfl rfl (by decide +kernel)
  · exact hothers (by decide +kernel) 0 _ _ 1 _ .close (by decide) (by decide) rfl
  · exact hothers (by decide +kernel) 0 _ _ 1 _ .drop (by decide) (by decide) rfl
  · exact hothers (by decide +kernel) 2 _ [.act (.worker 2)] 1 _ .abandon (by decide) (by decide) rfl

end Relay

end Readiness
