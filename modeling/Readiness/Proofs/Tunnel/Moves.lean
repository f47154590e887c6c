import Mathlib.Data.List.Basic
import Mathlib.Logic.Relation
import Readiness.Proofs.Tunnel.Turns

/-!
# Moves — every move is a sequence of changes

* `Relay.runWorker_of_due`, `Relay.goOn_of_due`, `Relay.collect_of_known` and their like: a step that is
  possible changes a tunnel or a connection, and one that is not possible changes nothing;
* `Relay.runWorker_change`, `Relay.runConnection_change`, `Relay.collect_change` and their like: the
  steps of workers, connections and waiting callers change at most one tunnel or one connection;
* `Relay.bind_changes`: a bind without a pause begins and is answered;
* `Relay.perform_cases`: every move of a wellformed relay is one change, or a sequence of changes that
  concern no tunnel there is.
-/

namespace Readiness

namespace Relay

variable {σ : Type}

/-! ## Updates -/

theorem modify_of_getElem? {α : Type} {xs : List α} {index : Nat} {x : α} (f : α → α)
    (found : xs[index]? = some x) : xs.modify index f = xs.set index (f x) := by
  rw [List.modify_eq_set_getElem?, found]
  rfl

theorem modify_of_getElem?_none {α : Type} {xs : List α} {index : Nat} (f : α → α)
    (missing : xs[index]? = none) : xs.modify index f = xs := by
  rw [List.modify_eq_set_getElem?, missing]
  rfl

theorem set_of_getElem? {α : Type} {xs : List α} {index : Nat} {x : α}
    (found : xs[index]? = some x) : xs.set index x = xs := by
  have hmodified := modify_of_getElem? id found
  rw [List.modify_id] at hmodified
  exact hmodified.symm

theorem core_updateTunnel {relay : Relay σ} {index : Nat} {tunnel : Tunnel} (f : Tunnel → Tunnel)
    (found : relay.tunnels[index]? = some tunnel) :
    (relay.updateTunnel index f).core = relay.core.withTunnel index (f tunnel) := by
  simp only [core, updateTunnel, Core.withTunnel, modify_of_getElem? f found]

theorem core_updateConnection {relay : Relay σ} {index : Nat} {connection : Connection}
    (f : Connection → Connection) (found : relay.connections[index]? = some connection) :
    (relay.updateConnection index f).core = relay.core.withConnection index (f connection) := by
  simp only [core, updateConnection, Core.withConnection, modify_of_getElem? f found]

theorem core_write (relay : Relay σ) (actor : Actor) (line : String) :
    (relay.write actor line).core = relay.core := rfl

theorem core_eq_withConnection {relay : Relay σ} {index : Nat} {connection : Connection}
    (found : relay.connections[index]? = some connection) :
    relay.core = relay.core.withConnection index connection := by
  simp only [core, Core.withConnection, set_of_getElem? found]

/-- A connection that was changed before is changed again. -/
theorem core_updateConnection_again {relay : Relay σ} {core : Core} {index : Nat}
    {connection : Connection} (f : Connection → Connection)
    (shown : relay.core = core.withConnection index connection)
    (bound : index < core.connections.length) :
    (relay.updateConnection index f).core = core.withConnection index (f connection) := by
  have hconnections : relay.connections = core.connections.set index connection :=
    congrArg Core.connections shown
  have hfound : relay.connections[index]? = some connection := by
    rw [hconnections, List.getElem?_set_self bound]
  rw [core_updateConnection f hfound, shown]
  simp only [Core.withConnection, List.set_set]

/-- A tunnel that was changed before is changed again. -/
theorem core_updateTunnel_again {relay : Relay σ} {core : Core} {index : Nat} {tunnel : Tunnel}
    (f : Tunnel → Tunnel) (shown : relay.core = core.withTunnel index tunnel)
    (bound : index < core.tunnels.length) :
    (relay.updateTunnel index f).core = core.withTunnel index (f tunnel) := by
  have htunnels : relay.tunnels = core.tunnels.set index tunnel := congrArg Core.tunnels shown
  have hfound : relay.tunnels[index]? = some tunnel := by
    rw [htunnels, List.getElem?_set_self bound]
  rw [core_updateTunnel f hfound, shown]
  simp only [Core.withTunnel, List.set_set]

theorem tunnel_of_core {relay : Relay σ} {core : Core} {index : Nat} {tunnel : Tunnel}
    (shown : relay.core = core.withTunnel index tunnel) (bound : index < core.tunnels.length) :
    relay.tunnels[index]? = some tunnel := by
  have htunnels : relay.tunnels = core.tunnels.set index tunnel := congrArg Core.tunnels shown
  rw [htunnels, List.getElem?_set_self bound]

/-! ## Workers -/

section Workers

variable {relay : Relay σ} {index : Nat} {tunnel : Tunnel}

/-- Leaving gives up the port and ends the worker. -/
theorem core_leave (how : WorkerEnd) (found : relay.tunnels[index]? = some tunnel) :
    (relay.leave index tunnel how).core =
      (relay.core.without tunnel.grant).withTunnel index (ended tunnel [] tunnel.word how) := by
  have hfound : (relay.giveUp tunnel.grant).tunnels[index]? = some tunnel := found
  exact core_updateTunnel _ hfound

/-- A last state is shown before the port is given up. The worker knows its tunnel as it was when its
step began. -/
theorem core_finish_leave {before : Tunnel} (state : TunnelState) (how : WorkerEnd)
    (found : relay.tunnels[index]? = some tunnel) (grant : before.grant = tunnel.grant) :
    ((relay.finish index before state).leave index before how).core =
      (relay.core.without tunnel.grant).withTunnel index (ended tunnel [state] tunnel.word how) := by
  have hbound := (List.getElem?_eq_some_iff.1 found).1
  have hnoted : (relay.note [finishedEvent before state]).tunnels[index]? = some tunnel := found
  have hshown := core_updateTunnel
    (fun tunnel => { tunnel with history := state :: tunnel.history }) hnoted
  have hfreed : ((relay.finish index before state).giveUp before.grant).core =
      (relay.core.without before.grant).withTunnel index
        { tunnel with history := state :: tunnel.history } :=
    congrArg (Core.without · before.grant) hshown
  simp only [leave, retire]
  rw [grant] at hfreed ⊢
  exact core_updateTunnel_again _ hfreed hbound

/-- A worker that does not hold its port any more shows its last state. -/
theorem core_finish_retire (state : TunnelState) (how : WorkerEnd)
    (found : relay.tunnels[index]? = some tunnel) :
    ((relay.finish index tunnel state).retire index how).core =
      relay.core.withTunnel index (ended tunnel [state] tunnel.word how) := by
  have hbound := (List.getElem?_eq_some_iff.1 found).1
  have hnoted : (relay.note [finishedEvent tunnel state]).tunnels[index]? = some tunnel := found
  have hshown := core_updateTunnel
    (fun tunnel => { tunnel with history := state :: tunnel.history }) hnoted
  exact core_updateTunnel_again _ hshown hbound

theorem greet_change (surroundings : Surroundings σ) (found : relay.tunnels[index]? = some tunnel)
    (phase : tunnel.phase = .spawned) :
    TunnelChange surroundings (.act (.worker index)) relay
      (relay.greet surroundings index tunnel) index tunnel := by
  have hwritten : (relay.write (.worker index) tunnel.forwardingLine).tunnels[index]? =
      some tunnel := found
  cases hrefusal : relay.refusal? surroundings.sink tunnel.forwardingLine with
  | some reason =>
      simp only [greet, hrefusal]
      exact .ended _ _ _ (.greeting phase reason) (core_leave _ hwritten)
  | none =>
      cases hstopped : tunnel.stopped with
      | true =>
          simp only [greet, hrefusal, hstopped, if_true]
          exact .ended _ _ _ (.early phase hstopped) (core_finish_leave _ _ hwritten rfl)
      | false =>
          simp only [greet, hrefusal, hstopped, Bool.false_eq_true, if_false]
          exact .probed phase rfl _ rfl _ _ _ rfl (core_updateTunnel _ hwritten)

theorem fail_change (surroundings : Surroundings σ) {reason : String}
    (found : relay.tunnels[index]? = some tunnel) (phase : tunnel.phase = .decided (.failed reason)) :
    TunnelChange surroundings (.act (.worker index)) relay
      (relay.fail surroundings.sink index tunnel reason) index tunnel := by
  have hwritten : (relay.write (.worker index) (Tunnel.errorLine reason)).tunnels[index]? =
      some tunnel := found
  cases hrefusal : relay.refusal? surroundings.sink (Tunnel.errorLine reason) with
  | some panic =>
      simp only [fail, hrefusal]
      exact .ended _ _ _ (.silenced phase panic) (core_leave _ hwritten)
  | none =>
      have hbound := (List.getElem?_eq_some_iff.1 found).1
      have hleft := core_finish_leave (.failed reason) .finished hwritten rfl
      simp only [fail, hrefusal]
      exact .ended _ _ _ (.failed phase) (core_updateTunnel_again _ hleft hbound)

theorem becomeReady_change (surroundings : Surroundings σ)
    (found : relay.tunnels[index]? = some tunnel) (phase : tunnel.phase = .decided .ready) :
    TunnelChange surroundings (.act (.worker index)) relay (relay.becomeReady index tunnel) index
      tunnel := by
  have hbound := (List.getElem?_eq_some_iff.1 found).1
  have hshown : (relay.publish index .ready).core =
      relay.core.withTunnel index { tunnel with history := .ready :: tunnel.history } :=
    core_updateTunnel _ found
  by_cases howner : tunnel.owner = .opening
  · simp only [becomeReady, howner, if_true]
    exact .turned _ (.ready phase howner) (core_updateTunnel_again _ hshown hbound)
  · -- Nobody waits any more, so the worker shows one state more and ends.
    have hfound : (relay.publish index .ready).tunnels[index]? =
        some { tunnel with history := .ready :: tunnel.history } := by
      have htunnels := congrArg Core.tunnels hshown
      simp only [core, Core.withTunnel] at htunnels
      rw [htunnels]
      exact List.getElem?_set_self hbound
    have hleft := core_finish_leave .closed .finished hfound (Eq.refl tunnel.grant)
    simp only [becomeReady, howner, if_false]
    refine .ended _ _ _ (.unwanted phase howner) (hleft.trans ?_)
    rw [hshown]
    simp only [Core.without, Core.withTunnel, List.set_set, ended, List.cons_append,
      List.nil_append]

theorem conclude_change (surroundings : Surroundings σ) {verdict : ProbeEnd}
    (found : relay.tunnels[index]? = some tunnel) (phase : tunnel.phase = .decided verdict) :
    TunnelChange surroundings (.act (.worker index)) relay
      (relay.conclude surroundings.sink index tunnel verdict) index tunnel := by
  cases verdict with
  | ready => exact becomeReady_change surroundings found phase
  | failed reason => exact fail_change surroundings found phase
  | panicked reason => exact .ended _ _ _ (.panicked phase) (core_leave _ found)

/-- A forwarding worker halts with its last state, or silently when the sink breaks down. -/
theorem halt_change (surroundings : Surroundings σ) {move : Move} {line : String}
    {state : TunnelState} {how : WorkerEnd} (found : relay.tunnels[index]? = some tunnel)
    (shown : Ending index tunnel move [state] tunnel.word how)
    (silent : ∀ reason, Ending index tunnel move [] tunnel.word (.panicked reason)) :
    TunnelChange surroundings move relay
      (relay.halt surroundings.sink index tunnel line state how) index tunnel := by
  have hfreed : ((relay.giveUp tunnel.grant).write (.worker index) line).tunnels[index]? =
      some tunnel := found
  cases hrefusal : relay.refusal? surroundings.sink line with
  | some reason =>
      simp only [halt, hrefusal]
      exact .ended _ _ _ (silent reason) (core_updateTunnel _ hfreed)
  | none =>
      simp only [halt, hrefusal]
      exact .ended _ _ _ shown (core_finish_retire state how hfreed)

/-- A worker that can go on does. -/
theorem runWorker_of_due (surroundings : Surroundings σ)
    (found : relay.tunnels[index]? = some tunnel) (due : workerIsDue relay.now tunnel = true) :
    TunnelChange surroundings (.act (.worker index)) relay (relay.runWorker surroundings index) index
      tunnel := by
  simp only [runWorker, found]
  cases phase : tunnel.phase with
  | spawned => exact greet_change surroundings found phase
  | probing ends verdict events =>
      cases hstopped : tunnel.stopped with
      | true =>
          simp only [if_true]
          exact .ended _ _ _ (.withdrawn phase hstopped) (core_finish_leave _ _ found rfl)
      | false =>
          simp only [workerIsDue, phase, hstopped, Bool.false_or, decide_eq_true_eq] at due
          have hnoted : (relay.note events).tunnels[index]? = some tunnel := found
          simp only [Nat.not_lt_of_le due, Bool.false_eq_true, if_false]
          exact .turned _ (.decided phase due) (core_updateTunnel _ hnoted)
  | decided verdict => exact conclude_change surroundings found phase
  | forwarding =>
      simp only [workerIsDue, phase] at due
      simp only [due, if_true]
      exact halt_change surroundings found (.stopped phase due) (.stoppedSilently phase due)
  | ended how => simp [workerIsDue, phase] at due

theorem runWorker_of_not_due (surroundings : Surroundings σ)
    (found : relay.tunnels[index]? = some tunnel) (due : workerIsDue relay.now tunnel = false) :
    relay.runWorker surroundings index = relay := by
  simp only [runWorker, found]
  cases phase : tunnel.phase with
  | spawned => simp [workerIsDue, phase] at due
  | probing ends verdict events =>
      simp only [workerIsDue, phase, Bool.or_eq_false_iff, decide_eq_false_iff_not] at due
      simp [due.1, Nat.lt_of_not_le due.2]
  | decided verdict => simp [workerIsDue, phase] at due
  | forwarding =>
      simp only [workerIsDue, phase] at due
      simp [due]
  | ended how => rfl

theorem runWorker_change (surroundings : Surroundings σ) (relay : Relay σ) (index : Nat) :
    LocalChange surroundings (.act (.worker index)) relay (relay.runWorker surroundings index) := by
  cases found : relay.tunnels[index]? with
  | none =>
      simp only [runWorker, found]
      exact .still rfl
  | some tunnel =>
      cases due : workerIsDue relay.now tunnel with
      | true => exact .tunnel index tunnel found (runWorker_of_due surroundings found due)
      | false =>
          rw [runWorker_of_not_due surroundings found due]
          exact .still rfl

theorem failAccept_change (surroundings : Surroundings σ) (relay : Relay σ) (index : Nat)
    (reason : String) :
    Change surroundings (.failAccept index reason) relay
      (relay.failAccept surroundings index reason) := by
  cases found : relay.tunnels[index]? with
  | none =>
      simp only [failAccept, found]
      exact .still rfl
  | some tunnel =>
      by_cases phase : tunnel.phase = .forwarding
      · simp only [failAccept, found, phase, if_true]
        exact .tunnel index tunnel found
          (halt_change surroundings found (.cutOff phase reason) (.cutOffSilently phase reason))
      · simp only [failAccept, found, phase, if_false]
        exact .still rfl

end Workers

/-! ## Connections -/

section Connections

variable {relay : Relay σ} {move : Move} {index : Nat} {connection : Connection} {tunnel : Tunnel}

theorem core_closeConnection (found : relay.connections[index]? = some connection) :
    (relay.closeConnection index).core =
      relay.core.withConnection index
        { connection with client := connection.client.hear, phase := .ended } :=
  core_updateConnection Connection.close found

/-- A connection that is under way can end. -/
theorem closed_turn {now : Nat} {phase : ConnectionPhase} (client : Client)
    (h : connection.phase = phase) (waiting : phase ≠ .waiting) (ended : phase ≠ .ended) :
    ConnectionTurn now connection tunnel move
      { connection with client := client.hear, phase := .ended } := by
  subst h
  exact .closed client ended fun hwaiting => absurd hwaiting waiting

theorem openStream_change (surroundings : Surroundings σ) (noticed : Bool)
    (found : relay.connections[index]? = some connection) (phase : connection.phase = .accepted) :
    ConnectionChange surroundings move relay (relay.openStream surroundings index tunnel noticed)
      index connection tunnel := by
  have hwritten : (relay.write (.connection index) tunnel.handlingLine).connections[index]? =
      some connection := found
  have hclosed : ((relay.write (.connection index) tunnel.handlingLine).closeConnection index).core =
      relay.core.withConnection index
        { connection with client := connection.client.hear, phase := .ended } :=
    core_closeConnection hwritten
  have hturn : ConnectionTurn relay.now connection tunnel move
      { connection with client := connection.client.hear, phase := .ended } :=
    closed_turn _ phase (by simp) (by simp)
  cases hrefusal : relay.refusal? surroundings.sink tunnel.handlingLine with
  | some reason =>
      simp only [openStream, hrefusal]
      exact .advanced _ hturn hclosed
  | none =>
      cases noticed with
      | true =>
          simp only [openStream, hrefusal, if_true]
          exact .advanced _ hturn hclosed
      | false =>
          simp only [openStream, hrefusal, Bool.false_eq_true, if_false]
          exact .dialed phase _ rfl (core_updateConnection _ hwritten)

theorem streamOpened_change (surroundings : Surroundings σ) {since delay : Nat}
    {outcome : DialEnd} {events : List (Nat × Event)}
    (found : relay.connections[index]? = some connection)
    (phase : connection.phase = .dialing since (.after delay outcome events))
    (due : since + delay ≤ relay.now) :
    ConnectionChange surroundings move relay (relay.streamOpened index tunnel outcome) index
      connection tunnel := by
  have hturn : ConnectionTurn relay.now connection tunnel move
      { connection with client := connection.client.hear, phase := .ended } :=
    closed_turn _ phase (by simp) (by simp)
  cases outcome with
  | connected remote => exact .advanced _ (.opened phase due) (core_updateConnection _ found)
  | refused error =>
      have hwritten : (relay.write (.connection index)
          (tunnel.streamErrorLine error.message)).connections[index]? = some connection := found
      exact .advanced _ hturn (core_closeConnection hwritten)
  | panicked reason => exact .advanced _ hturn (core_closeConnection found)

/-- The last step of a connection that may have moved bytes right before. -/
theorem core_endStream {core : Core} (tunnel : Tunnel) (link : Link) {moved : Connection}
    (shown : relay.core = core.withConnection index moved)
    (bound : index < core.connections.length) :
    (relay.endStream index tunnel link).core =
      core.withConnection index
        { moved with client := moved.client.hear, phase := .ended } := by
  cases hreported : link.reported? relay.now with
  | none =>
      simp only [endStream, hreported]
      exact core_updateConnection_again Connection.close shown bound
  | some message =>
      simp only [endStream, hreported]
      exact core_updateConnection_again Connection.close ((core_write _ _ _).trans shown) bound

theorem copyStream_change (surroundings : Surroundings σ) (noticed : Bool) {link : Link}
    (found : relay.connections[index]? = some connection)
    (phase : connection.phase = .copying link)
    (due : (noticed || copyIsDue relay.now connection.client link) = true) :
    ConnectionChange surroundings move relay
      (relay.copyStream surroundings.sink index tunnel connection.client link noticed) index
      connection tunnel := by
  have hbound := (List.getElem?_eq_some_iff.1 found).1
  have hturn (client : Client) : ConnectionTurn relay.now connection tunnel move
      { connection with client := client.hear, phase := .ended } :=
    closed_turn client phase (by simp) (by simp)
  cases noticed with
  | true =>
      simp only [copyStream, if_true]
      exact .advanced _ (hturn _)
        (core_endStream tunnel link (core_eq_withConnection found) hbound)
  | false =>
      rw [Bool.false_or] at due
      cases hcopy : link.copy relay.now connection.client with
      | mk client rest =>
          rcases rest with ⟨after, copied⟩
          have hmoved := core_updateConnection
            (fun connection => { connection with client := client, phase := .copying after }) found
          cases copied with
          | goesOn =>
              simp only [copyStream, hcopy, Bool.false_eq_true, if_false]
              exact .advanced _ (.copied phase due hcopy) hmoved
          | done =>
              have hended := core_endStream tunnel after hmoved hbound
              simp only [copyStream, hcopy, Bool.false_eq_true, if_false]
              exact .advanced _ (hturn _) hended
          | broken reason =>
              have hwritten := (core_write _ (.connection index) (tunnel.copyErrorLine reason)).trans
                hmoved
              have hclosed := core_updateConnection_again Connection.close hwritten hbound
              have hended := core_endStream tunnel after hwritten hbound
              simp only [copyStream, hcopy, Bool.false_eq_true, if_false]
              split
              · exact .advanced _ (hturn _) hclosed
              · exact .advanced _ (hturn _) hended

/-- A connection that can go on does, as far as it has noticed the end of its tunnel. -/
theorem goOn_of_due (surroundings : Surroundings σ) (noticed : Bool)
    (found : relay.connections[index]? = some connection)
    (ceased : noticed = true → tunnel.isOver = true)
    (due : connectionIsDue relay.now noticed connection = true) :
    ConnectionChange surroundings move relay
      (relay.goOn surroundings index connection tunnel noticed) index connection tunnel := by
  cases phase : connection.phase with
  | waiting =>
      simp only [connectionIsDue, phase] at due
      simp only [goOn, phase, due, if_true]
      exact .advanced _ (.closed _ (by simp [phase]) fun _ => ceased due) (core_closeConnection found)
  | accepted =>
      simp only [goOn, phase]
      exact openStream_change surroundings noticed found phase
  | dialing since dialing =>
      cases noticed with
      | true =>
          simp only [goOn, phase, if_true]
          exact .advanced _ (closed_turn _ phase (by simp) (by simp)) (core_closeConnection found)
      | false =>
          cases dialing with
          | never => simp [connectionIsDue, phase] at due
          | after delay outcome events =>
              simp only [connectionIsDue, phase, Bool.false_or, decide_eq_true_eq] at due
              simp only [goOn, phase, Nat.not_lt_of_le due, Bool.false_eq_true, if_false]
              exact streamOpened_change surroundings found phase due
  | copying link =>
      simp only [connectionIsDue, phase] at due
      simp only [goOn, phase]
      exact copyStream_change surroundings noticed found phase due
  | ended => simp [connectionIsDue, phase] at due

theorem updateConnection_of_eq {f : Connection → Connection}
    (found : relay.connections[index]? = some connection) (same : f connection = connection) :
    relay.updateConnection index f = relay := by
  simp only [updateConnection, modify_of_getElem? f found, same, set_of_getElem? found]

theorem goOn_of_not_due (surroundings : Surroundings σ) (tunnel : Tunnel) (noticed : Bool)
    (found : relay.connections[index]? = some connection)
    (due : connectionIsDue relay.now noticed connection = false) :
    relay.goOn surroundings index connection tunnel noticed = relay := by
  cases phase : connection.phase with
  | waiting =>
      simp only [connectionIsDue, phase] at due
      simp [goOn, phase, due]
  | accepted => simp [connectionIsDue, phase] at due
  | dialing since dialing =>
      cases dialing with
      | never =>
          simp only [connectionIsDue, phase] at due
          simp [goOn, phase, due]
      | after delay outcome events =>
          simp only [connectionIsDue, phase, Bool.or_eq_false_iff, decide_eq_false_iff_not] at due
          simp [goOn, phase, due.1, Nat.lt_of_not_le due.2]
  | copying link =>
      simp only [connectionIsDue, phase, Bool.or_eq_false_iff, copyIsDue, bne_eq_false_iff_eq]
        at due
      have hsame : { connection with phase := .copying link } = connection := by
        cases connection
        cases phase
        rfl
      simp only [goOn, phase, copyStream, due.1, due.2, Bool.false_eq_true, if_false]
      exact updateConnection_of_eq found hsame
  | ended => simp [goOn, phase]

/-- A connection, which may have noticed the end of its tunnel, goes on, or nothing changes. -/
theorem goOn_cases (surroundings : Surroundings σ) (move : Move) (noticed : Bool)
    (found : relay.connections[index]? = some connection)
    (ceased : noticed = true → tunnel.isOver = true) :
    relay.goOn surroundings index connection tunnel noticed = relay ∨
      ConnectionChange surroundings move relay
        (relay.goOn surroundings index connection tunnel noticed) index connection tunnel := by
  cases due : connectionIsDue relay.now noticed connection with
  | true => exact .inr (goOn_of_due surroundings noticed found ceased due)
  | false => exact .inl (goOn_of_not_due surroundings tunnel noticed found due)

theorem goOn_change (surroundings : Surroundings σ) (noticed : Bool)
    (found : relay.connections[index]? = some connection)
    (owner : relay.tunnels[connection.tunnel]? = some tunnel)
    (own : move.tunnel? relay = some connection.tunnel)
    (ceased : noticed = true → tunnel.isOver = true) :
    LocalChange surroundings move relay
      (relay.goOn surroundings index connection tunnel noticed) := by
  rcases goOn_cases surroundings move noticed found ceased with hsame | hchange
  · exact .still hsame
  · exact .connection index connection tunnel found owner own hchange

theorem connection?_eq_some_iff : relay.connection? index = some (connection, tunnel) ↔
    relay.connections[index]? = some connection ∧
      relay.tunnels[connection.tunnel]? = some tunnel := by
  unfold connection?
  constructor
  · intro found
    rcases Option.bind_eq_some_iff.1 found with ⟨other, hother, hmap⟩
    rcases Option.map_eq_some_iff.1 hmap with ⟨owner, howner, heq⟩
    cases heq
    exact ⟨hother, howner⟩
  · rintro ⟨found, owner⟩
    rw [found, Option.bind_some, owner]
    rfl

theorem runConnection_change (surroundings : Surroundings σ) (relay : Relay σ) (index : Nat) :
    LocalChange surroundings (.act (.connection index)) relay
      (relay.runConnection surroundings index) := by
  cases hfound : relay.connection? index with
  | none =>
      simp only [runConnection, hfound]
      exact .still rfl
  | some pair =>
      rcases pair with ⟨connection, tunnel⟩
      rcases connection?_eq_some_iff.1 hfound with ⟨found, owner⟩
      simp only [runConnection, hfound]
      exact goOn_change surroundings _ found owner (by simp [Move.tunnel?, found]) id

theorem overlookEnd_change (surroundings : Surroundings σ) (relay : Relay σ) (index : Nat) :
    LocalChange surroundings (.overlookEnd index) relay (relay.overlookEnd surroundings index) := by
  cases hfound : relay.connection? index with
  | none =>
      simp only [overlookEnd, hfound]
      exact .still rfl
  | some pair =>
      rcases pair with ⟨connection, tunnel⟩
      rcases connection?_eq_some_iff.1 hfound with ⟨found, owner⟩
      simp only [overlookEnd, hfound]
      exact goOn_change surroundings _ found owner (by simp [Move.tunnel?, found]) (by simp)

theorem awaits_iff {owner : Nat} :
    awaits owner connection = true ↔ connection.tunnel = owner ∧ connection.phase = .waiting := by
  simp [awaits]

/-- A forwarding worker accepts the first connection that waits for it. -/
theorem accept_of_awaits (surroundings : Surroundings σ)
    (found : relay.tunnels[index]? = some tunnel) (forwarding : tunnel.phase = .forwarding)
    {place : Nat} (first : relay.connections.findIdx? (awaits index) = some place) :
    ∃ connection, relay.connections[place]? = some connection ∧ connection.tunnel = index ∧
      ConnectionChange surroundings (.act (.accept index)) relay (relay.accept index) place
        connection tunnel := by
  rcases List.findIdx?_eq_some_iff_getElem.1 first with ⟨hlt, hawaits, -⟩
  rcases awaits_iff.1 hawaits with ⟨howner, waiting⟩
  have hfound := List.getElem?_eq_getElem hlt
  have hnoted : (relay.note [acceptedEvent tunnel place]).connections[place]? =
      some relay.connections[place] := hfound
  refine ⟨_, hfound, howner, ?_⟩
  simp only [accept, found, first, forwarding, if_true]
  exact .advanced _ (.accepted waiting forwarding) (core_updateConnection _ hnoted)

theorem accept_of_not_forwarding (found : relay.tunnels[index]? = some tunnel)
    (phase : tunnel.phase ≠ .forwarding) : relay.accept index = relay := by
  unfold accept
  rw [found]
  cases hfind : relay.connections.findIdx? (awaits index) with
  | none => rfl
  | some place => simp only [phase, if_false]

theorem accept_of_none (none : ∀ connection ∈ relay.connections, awaits index connection = false) :
    relay.accept index = relay := by
  have hfind : relay.connections.findIdx? (awaits index) = .none := by
    rw [List.findIdx?_eq_none_iff]
    exact none
  unfold accept
  rw [hfind]
  cases relay.tunnels[index]? <;> rfl

theorem accept_change (surroundings : Surroundings σ) (relay : Relay σ) (index : Nat) :
    LocalChange surroundings (.act (.accept index)) relay (relay.accept index) := by
  cases found : relay.tunnels[index]? with
  | none =>
      simp only [accept, found]
      exact .still rfl
  | some tunnel =>
      by_cases forwarding : tunnel.phase = .forwarding
      · cases hfind : relay.connections.findIdx? (awaits index) with
        | none =>
            rw [accept_of_none (List.findIdx?_eq_none_iff.1 hfind)]
            exact .still rfl
        | some place =>
            rcases accept_of_awaits surroundings found forwarding hfind with
              ⟨connection, hconnection, rfl, hchange⟩
            exact .connection place connection tunnel hconnection found rfl hchange
      · rw [accept_of_not_forwarding found forwarding]
        exact .still rfl

end Connections

/-! ## Callers -/

section Callers

variable {relay : Relay σ} {move : Move} {index : Nat} {tunnel : Tunnel}

theorem updateTunnel_of_eq {f : Tunnel → Tunnel} (found : relay.tunnels[index]? = some tunnel)
    (same : f tunnel = tunnel) : relay.updateTunnel index f = relay := by
  simp only [updateTunnel, modify_of_getElem? f found, same, set_of_getElem? found]

theorem updateTunnel_of_none (f : Tunnel → Tunnel) (missing : relay.tunnels[index]? = none) :
    relay.updateTunnel index f = relay := by
  simp only [updateTunnel, modify_of_getElem?_none f missing]

theorem updateTunnel_of_turn (surroundings : Surroundings σ) {f : Tunnel → Tunnel}
    (found : relay.tunnels[index]? = some tunnel)
    (turn : Turn relay.now index tunnel move (f tunnel)) :
    TunnelChange surroundings move relay (relay.updateTunnel index f) index tunnel :=
  .turned _ turn (core_updateTunnel f found)

/-- A caller's move turns its tunnel or leaves it as it is. -/
theorem updateTunnel_change (surroundings : Surroundings σ) (f : Tunnel → Tunnel)
    (turn : ∀ tunnel, relay.tunnels[index]? = some tunnel →
      f tunnel = tunnel ∨ Turn relay.now index tunnel move (f tunnel)) :
    LocalChange surroundings move relay (relay.updateTunnel index f) := by
  cases found : relay.tunnels[index]? with
  | none =>
      rw [updateTunnel_of_none f found]
      exact .still rfl
  | some tunnel =>
      rcases turn tunnel found with hsame | hturn
      · rw [updateTunnel_of_eq found hsame]
        exact .still rfl
      · exact .tunnel index tunnel found (updateTunnel_of_turn surroundings found hturn)

/-- A caller who waits for a tunnel to open learns the result as soon as there is one. -/
theorem collect_of_known (surroundings : Surroundings σ) {result : Except Error Unit}
    (found : relay.tunnels[index]? = some tunnel) (owner : tunnel.owner = .opening)
    (known : openingResult? tunnel = some result) :
    TunnelChange surroundings (.act (.collect index)) relay (relay.collect index) index tunnel := by
  have hnoted : (relay.note (openingEvents tunnel result)).tunnels[index]? = some tunnel := found
  simp only [collect, found, owner, known]
  cases result with
  | ok _ => exact .turned _ (.collected owner known) (core_updateTunnel _ hnoted)
  | error _ => exact .turned _ (.collected owner known) (core_updateTunnel _ hnoted)

theorem collect_of_not_due (found : relay.tunnels[index]? = some tunnel)
    (due : callerIsDue tunnel = false) : relay.collect index = relay := by
  simp only [collect, found]
  split
  · rename_i owner known
    simp [callerIsDue, owner, known] at due
  · rfl

theorem collect_change (surroundings : Surroundings σ) (relay : Relay σ) (index : Nat) :
    LocalChange surroundings (.act (.collect index)) relay (relay.collect index) := by
  cases found : relay.tunnels[index]? with
  | none =>
      simp only [collect, found]
      exact .still rfl
  | some tunnel =>
      by_cases owner : tunnel.owner = .opening
      · cases known : openingResult? tunnel with
        | none =>
            rw [collect_of_not_due found (by simp [callerIsDue, owner, known])]
            exact .still rfl
        | some result =>
            exact .tunnel index tunnel found (collect_of_known surroundings found owner known)
      · simp only [collect, found]
        split
        · rename_i opening known
          exact absurd opening owner
        · exact .still rfl

theorem close_change (surroundings : Surroundings σ) (relay : Relay σ) (index : Nat) :
    Change surroundings (.act (.close index)) relay (relay.close index) := by
  cases found : relay.tunnels[index]? with
  | none =>
      simp only [close, found]
      exact .still rfl
  | some tunnel =>
      by_cases howner : tunnel.owner = .holding
      · have hnoted : (relay.note [closingEvent tunnel]).tunnels[index]? = some tunnel := found
        simp only [close, found, howner, if_true]
        exact .tunnel index tunnel found
          (.turned _ (.closing howner) (core_updateTunnel _ hnoted))
      · simp only [close, found, howner, if_false]
        exact .still rfl

theorem abandon_change (surroundings : Surroundings σ) (relay : Relay σ) (index : Nat) :
    Change surroundings (.act (.abandon index)) relay (relay.abandon index) := by
  refine (updateTunnel_change surroundings _ fun tunnel _ => ?_).change
  by_cases howner : tunnel.owner = .opening
  · simp only [howner, if_true]
    exact .inr (.abandoned howner)
  · simp only [howner, if_false]
    exact .inl trivial

theorem leaveClosing_change (surroundings : Surroundings σ) (relay : Relay σ) (index : Nat) :
    Change surroundings (.leaveClosing index) relay (relay.leaveClosing index) := by
  refine (updateTunnel_change surroundings _ fun tunnel _ => ?_).change
  by_cases howner : tunnel.owner = .closing
  · simp only [howner, if_true]
    exact .inr (.left howner)
  · simp only [howner, if_false]
    exact .inl trivial

theorem drop_change (surroundings : Surroundings σ) (relay : Relay σ) (index : Nat) :
    Change surroundings (.act (.drop index)) relay (relay.drop index) := by
  refine (updateTunnel_change surroundings _ fun tunnel _ => ?_).change
  cases howner : tunnel.owner with
  | holding => exact .inr (.dropped howner)
  | finished => exact .inr (.discarded howner)
  | opening => exact .inl rfl
  | closing => exact .inl rfl
  | gone => exact .inl rfl

/-- A caller who waits for a tunnel to close learns the result as soon as its worker has ended. -/
theorem join_of_ended (surroundings : Surroundings σ) {how : WorkerEnd}
    (found : relay.tunnels[index]? = some tunnel) (owner : tunnel.owner = .closing)
    (phase : tunnel.phase = .ended how) :
    TunnelChange surroundings (.act (.join index)) relay (relay.join index) index tunnel := by
  refine updateTunnel_of_turn surroundings found ?_
  split
  · rename_i last closing ceased
    exact .joined closing ceased
  · rename_i unlike
    exact (unlike how owner phase).elim

theorem join_of_not_due (found : relay.tunnels[index]? = some tunnel)
    (due : callerIsDue tunnel = false) : relay.join index = relay := by
  refine updateTunnel_of_eq found ?_
  split
  · rename_i how owner phase
    simp [callerIsDue, owner, Tunnel.isOver, phase] at due
  · rfl

theorem join_change (surroundings : Surroundings σ) (relay : Relay σ) (index : Nat) :
    LocalChange surroundings (.act (.join index)) relay (relay.join index) := by
  refine updateTunnel_change surroundings _ fun tunnel _ => ?_
  split
  · rename_i how howner phase
    exact .inr (.joined howner phase)
  · exact .inl rfl

theorem connect_change (surroundings : Surroundings σ) (relay : Relay σ) (port : Nat) :
    Change surroundings (.act (.connect port)) relay (relay.connect port) := by
  cases hlistening : relay.listening? port with
  | none =>
      simp only [connect, hlistening]
      exact .still rfl
  | some index =>
      rcases List.findIdx?_eq_some_iff_getElem.1 hlistening with ⟨hlt, hlistens, -⟩
      simp only [Bool.and_eq_true, decide_eq_true_eq, List.contains_iff_mem] at hlistens
      cases hreachable : relay.reachable with
      | true =>
          simp only [connect, hlistening, hreachable, if_true]
          exact .connected index _ (List.getElem?_eq_getElem hlt) hlistens.2 (fun _ => rfl) rfl
      | false =>
          simp only [connect, hlistening, hreachable, Bool.false_eq_true, if_false]
          exact .still rfl

end Callers

/-! ## Clients -/

theorem updateClient_change (surroundings : Surroundings σ) {relay : Relay σ} (h : Wellformed relay)
    {move : Move} {index : Nat} (f : Client → Client)
    (own : move.tunnel? relay = relay.connections[index]?.map (·.tunnel))
    (byClient : move.isByClient = true) (heard : ∀ client, (f client).ended = client.ended) :
    Change surroundings move relay (relay.updateClient index f) := by
  cases found : relay.connections[index]? with
  | none =>
      have hsame := modify_of_getElem?_none
        (fun connection : Connection => { connection with client := f connection.client }) found
      exact .still (by simp only [core, updateClient, updateConnection, hsame])
  | some connection =>
      have howner := h.attached connection (List.mem_of_getElem? found)
      rw [found] at own
      exact .connection index connection _ found (List.getElem?_eq_getElem howner) own
        (.advanced _ (.used _ byClient (heard _)) (core_updateConnection _ found))

/-! ## Hosts -/

section Hosts

variable {relay : Relay σ} {move : Move}

theorem core_afterBind_error (requested : Option Nat) (unnamed : Option String) (purpose : Purpose)
    (error : Error) (ports : Ports) :
    (relay.afterBind requested unnamed (.error error, ports) purpose).core =
      { relay.core with ports := ports } := by
  cases purpose with
  | tunnel options endpoint remotePort => rfl
  | lease => rfl

/-- What a bind returned is taken without a line and without a dial, and no connection notices. -/
theorem afterBind_frame (relay : Relay σ) (requested : Option Nat) (unnamed : Option String)
    (bound : Except Error Grant × Ports) (purpose : Purpose) :
    let after := relay.afterBind requested unnamed bound purpose
    after.now = relay.now ∧ after.lines = relay.lines ∧ after.dials = relay.dials ∧
      after.remote = relay.remote ∧ after.connections = relay.connections := by
  cases purpose <;> simp only [afterBind] <;> split <;> exact ⟨rfl, rfl, rfl, rfl, rfl⟩

/-- A bind that succeeds serves its purpose. No tunnel is opened on a listener without an address. -/
theorem afterBind_change (surroundings : Surroundings σ) (free : IsFree σ move) {grant : Grant}
    {ports : Ports} (requested : Option Nat) (unnamed : Option String) (purpose : Purpose)
    (takes : relay.ports.Takes grant ports) :
    Change surroundings move relay
      (relay.afterBind requested unnamed (.ok grant, ports) purpose) := by
  cases purpose with
  | tunnel options endpoint remotePort =>
      cases unnamed with
      | none => exact .opened options endpoint remotePort grant ports free takes rfl
      | some reason => exact .hosted _ relay.bound (.lost takes) rfl
  | lease => exact .hosted ports (grant :: relay.bound) (.leased takes) rfl

theorem answerFixed_change (surroundings : Surroundings σ) (free : IsFree σ move)
    (relay : Relay σ) (ticket : Nat) (host : Ports.Host) (purpose : Purpose) :
    Change surroundings move relay (relay.answerFixed ticket host purpose) := by
  cases hpending : Ports.grant? relay.ports.pending ticket with
  | none =>
      simp only [answerFixed, hpending]
      exact .still rfl
  | some grant =>
      have hfree : (host.grants && !relay.ports.isBound grant.port) = true →
          relay.ports.isBound grant.port = false := by
        simp
      simp only [answerFixed, hpending]
      rcases Ports.answerFixed_cases hpending _ hfree with ⟨hok, htakes⟩ | ⟨⟨error, herror⟩, hports⟩
      · rw [hok]
        exact afterBind_change surroundings free _ _ purpose htakes
      · rw [herror, hports]
        exact .hosted _ _ (.cancelled ticket) (core_afterBind_error _ _ _ _ _)

/-- A bind that leaves the choice to the host. -/
theorem choose_change (surroundings : Surroundings σ) (free : IsFree σ move) (relay : Relay σ)
    (requested : Option Nat) (host : Ports.Host) (purpose : Purpose) :
    Change surroundings move relay
      (relay.afterBind requested host.unnamed
        (relay.ports.answerFree (relay.ports.possible host.choice)) purpose) := by
  have hcases := Ports.answerFree_cases relay.ports host.choice
  rcases hanswer : relay.ports.answerFree (relay.ports.possible host.choice) with ⟨granted, ports⟩
  rw [hanswer] at hcases
  rcases hcases with ⟨grant, hok, htakes⟩ | ⟨⟨error, herror⟩, hports⟩
  · cases hok
    exact afterBind_change surroundings free requested _ purpose htakes
  · cases herror
    cases hports
    exact .still (core_afterBind_error _ _ _ _ _)

/-- A bind without a pause begins, and the host answers at once. -/
theorem bind_changes (surroundings : Surroundings σ) (free : IsFree σ move) (relay : Relay σ)
    (requested : Option Nat) (host : Ports.Host) (purpose : Purpose) :
    Relation.ReflTransGen (Change surroundings move) relay
      (relay.afterBind requested host.unnamed (relay.ports.bind requested host) purpose) := by
  cases hport : Ports.fixed? requested with
  | none =>
      simp only [Ports.bind, hport]
      exact .single (choose_change surroundings free relay requested host purpose)
  | some port =>
      cases hstart : relay.ports.startFixed port with
      | error error =>
          simp only [Ports.bind, hport, hstart]
          exact .single (.still (core_afterBind_error _ _ _ _ _))
      | ok started =>
          rcases started with ⟨grant, ports⟩
          have hbegin : (relay.ports.begin requested).2 = ports := by
            simp only [Ports.begin, hport, hstart]
          have hbegun : Change surroundings move relay { relay with ports := ports } :=
            .hosted ports relay.bound (hbegin ▸ .begun requested) rfl
          refine .tail (.single hbegun) ?_
          rcases Ports.startFixed_pending hstart with ⟨hpending, rfl⟩
          have hfree : (host.grants && !ports.isBound grant.port) = true →
              ports.isBound grant.port = false := by
            simp
          have hcases := Ports.answerFixed_cases hpending _ hfree
          simp only [Ports.bind, hport, hstart]
          cases hanswer : ports.answerFixed grant.ticket
              (host.grants && !ports.isBound grant.port) with
          | mk result final =>
              rw [hanswer] at hcases
              rcases hcases with ⟨hok, htakes⟩ | ⟨⟨error, herror⟩, hports⟩
              · have htaken : Change surroundings move { relay with ports := ports }
                    (Relay.afterBind { relay with ports := ports } requested host.unnamed
                      (.ok grant, final) purpose) :=
                  afterBind_change surroundings free requested _ purpose htakes
                cases hok
                exact htaken
              · cases herror
                cases hports
                exact .hosted _ _ (.cancelled grant.ticket) (core_afterBind_error _ _ _ _ _)

theorem cancel_change (surroundings : Surroundings σ) (relay : Relay σ) (ticket : Nat) :
    Change surroundings move relay (relay.cancel ticket) := by
  cases hpending : Ports.grant? relay.ports.pending ticket with
  | none =>
      simp only [cancel, hpending]
      exact .still rfl
  | some grant =>
      simp only [cancel, hpending]
      exact .hosted _ _ (.cancelled ticket) rfl

theorem dropLease_change (surroundings : Surroundings σ) (relay : Relay σ) (ticket : Nat) :
    Change surroundings move relay (relay.dropLease ticket) := by
  cases hheld : relay.bound.find? (·.ticket = ticket) with
  | none =>
      simp only [dropLease, hheld]
      exact .still rfl
  | some grant =>
      have hfound := List.find?_some hheld
      have hticket : grant.ticket = ticket := of_decide_eq_true hfound
      subst hticket
      simp only [dropLease, hheld]
      exact .hosted _ _ (.released (List.mem_of_find?_eq_some hheld)) rfl

theorem dropListener_change (surroundings : Surroundings σ) (relay : Relay σ) (ticket : Nat) :
    Change surroundings move relay (relay.dropListener ticket) := by
  by_cases hany : relay.tunnels.any (·.grant.ticket = ticket) = true
  · simp only [dropListener, hany, if_true]
    exact .still rfl
  · simp only [dropListener, hany]
    refine .hosted _ _ (.hungUp fun tunnel hmem heq => hany ?_) rfl
    exact List.any_eq_true.2 ⟨tunnel, hmem, decide_eq_true heq⟩

theorem occupy_change (surroundings : Surroundings σ) (relay : Relay σ) (port : Nat) :
    Change surroundings move relay
      { relay with ports := (relay.ports.occupy port).getD relay.ports } := by
  cases hoccupy : relay.ports.occupy port with
  | none => exact .still rfl
  | some ports => exact .hosted ports _ (.occupied hoccupy) rfl

theorem vacate_change (surroundings : Surroundings σ) (relay : Relay σ) (port : Nat) :
    Change surroundings move relay
      { relay with ports := (relay.ports.vacate port).getD relay.ports } := by
  cases hvacate : relay.ports.vacate port with
  | none => exact .still rfl
  | some ports => exact .hosted ports _ (.vacated hvacate) rfl

end Hosts

/-! ## Moves -/

theorem step_cases (surroundings : Surroundings σ) {relay : Relay σ} (h : Wellformed relay)
    (action : Action) :
    Change surroundings (.act action) relay (relay.step surroundings action) ∨
      IsFree σ (.act action) ∧
        Relation.ReflTransGen (Change surroundings (.act action)) relay
          (relay.step surroundings action) := by
  cases action with
  | start options endpoint remotePort host =>
      refine .inr ⟨fun _ => rfl, ?_⟩
      exact bind_changes surroundings (fun _ => rfl) relay options.localPort host
        (.tunnel options endpoint remotePort)
  | bind requested host =>
      exact .inr ⟨fun _ => rfl,
        bind_changes surroundings (fun _ => rfl) relay requested host .lease⟩
  | abandon tunnel => exact .inl (abandon_change surroundings relay tunnel)
  | close tunnel => exact .inl (close_change surroundings relay tunnel)
  | drop tunnel => exact .inl (drop_change surroundings relay tunnel)
  | dropListener ticket => exact .inl (dropListener_change surroundings relay ticket)
  | dropLease ticket => exact .inl (dropLease_change surroundings relay ticket)
  | connect port => exact .inl (connect_change surroundings relay port)
  | send connection bytes =>
      exact .inl (updateClient_change surroundings h (Client.send · bytes) rfl rfl
        (Client.ended_send · bytes))
  | finish connection =>
      exact .inl (updateClient_change surroundings h Client.finish rfl rfl fun _ => rfl)
  | take connection count =>
      exact .inl (updateClient_change surroundings h (fun client => (client.take count).2) rfl rfl
        fun _ => rfl)
  | worker tunnel => exact .inl (runWorker_change surroundings relay tunnel).change
  | accept tunnel => exact .inl (accept_change surroundings relay tunnel).change
  | connection index => exact .inl (runConnection_change surroundings relay index).change
  | collect tunnel => exact .inl (collect_change surroundings relay tunnel).change
  | join tunnel => exact .inl (join_change surroundings relay tunnel).change

/-- Every move is one change, apart from a bind without a pause, which is a sequence of changes. -/
theorem perform_cases (surroundings : Surroundings σ) {relay : Relay σ} (h : Wellformed relay)
    (move : Move) :
    Change surroundings move relay (relay.perform surroundings move) ∨
      IsFree σ move ∧
        Relation.ReflTransGen (Change surroundings move) relay
          (relay.perform surroundings move) := by
  cases move with
  | act action => exact step_cases surroundings h action
  | wait instant =>
      by_cases hlater : relay.now ≤ instant
      · simp only [perform, hlater, if_true]
        exact .inl (.waited (fun _ => rfl) hlater rfl)
      · simp only [perform, hlater, if_false]
        exact .inl (.still rfl)
  | overlookEnd connection => exact .inl (overlookEnd_change surroundings relay connection).change
  | failAccept tunnel reason => exact .inl (failAccept_change surroundings relay tunnel reason)
  | leaveClosing tunnel => exact .inl (leaveClosing_change surroundings relay tunnel)
  | begin requested => exact .inl (.hosted _ relay.bound (.begun requested) rfl)
  | answerFixed ticket host purpose =>
      exact .inl (answerFixed_change surroundings (fun _ => rfl) relay ticket host purpose)
  | answerFree host purpose =>
      exact .inl (choose_change surroundings (fun _ => rfl) relay none host purpose)
  | cancel ticket => exact .inl (cancel_change surroundings relay ticket)
  | occupy port => exact .inl (occupy_change surroundings relay port)
  | vacate port => exact .inl (vacate_change surroundings relay port)

theorem perform_changes (surroundings : Surroundings σ) {relay : Relay σ} (h : Wellformed relay)
    (move : Move) :
    Relation.ReflTransGen (Change surroundings move) relay
      (relay.perform surroundings move) := by
  rcases perform_cases surroundings h move with hchange | ⟨-, hchanges⟩
  · exact .single hchange
  · exact hchanges

end Relay

end Readiness
