import Readiness.Proofs.Tunnel.Spontaneous
import Readiness.Tunnel.Forward

/-!
# Remote — relays that differ in the state of the transport

* `Surroundings.Maps`: two transports dial alike, seen through a function of their states;
* `Relay.mapRemote` is a relay seen through such a function. Whatever the relay does by itself is seen
  through it too: `Relay.mapRemote_step`, `Relay.mapRemote_settle` and `Relay.mapRemote_resume`;
* `Relay.now_resume`: where time arrives.
-/

namespace Readiness

/-- Two transports dial alike, seen through a function of their states, and the sinks are the same. -/
structure Surroundings.Maps {σ τ : Type} (f : τ → σ) (outer : Surroundings τ)
    (inner : Surroundings σ) : Prop where
  sink : inner.sink = outer.sink
  dial : ∀ now endpoint port remote,
    inner.transport.dial now endpoint port (f remote) =
      ((outer.transport.dial now endpoint port remote).1,
        f (outer.transport.dial now endpoint port remote).2)

namespace Relay

variable {σ τ : Type} {f : τ → σ} {outer : Surroundings τ} {inner : Surroundings σ}

/-- A relay seen through a function of the state of the transport. -/
def mapRemote (f : τ → σ) (relay : Relay τ) : Relay σ :=
  ⟨relay.now, relay.reachable, relay.ports, relay.bound, f relay.remote, relay.lines, relay.dials,
    relay.tunnels, relay.connections, relay.events⟩

section Parts

variable (relay : Relay τ) (index : Nat)

@[simp] theorem now_mapRemote : (relay.mapRemote f).now = relay.now := rfl

@[simp] theorem tunnels_mapRemote : (relay.mapRemote f).tunnels = relay.tunnels := rfl

@[simp] theorem connections_mapRemote : (relay.mapRemote f).connections = relay.connections := rfl

@[simp] theorem refusal?_mapRemote (sink : Sink) (line : String) :
    (relay.mapRemote f).refusal? sink line = relay.refusal? sink line := rfl

@[simp] theorem mapRemote_updateTunnel (change : Tunnel → Tunnel) :
    (relay.mapRemote f).updateTunnel index change =
      (relay.updateTunnel index change).mapRemote f := rfl

@[simp] theorem mapRemote_updateConnection (change : Connection → Connection) :
    (relay.mapRemote f).updateConnection index change =
      (relay.updateConnection index change).mapRemote f := rfl

@[simp] theorem mapRemote_note (events : List Event) :
    (relay.mapRemote f).note events = (relay.note events).mapRemote f := rfl

@[simp] theorem mapRemote_write (actor : Actor) (line : String) :
    (relay.mapRemote f).write actor line = (relay.write actor line).mapRemote f := rfl

@[simp] theorem mapRemote_giveUp (grant : Grant) :
    (relay.mapRemote f).giveUp grant = (relay.giveUp grant).mapRemote f := rfl

theorem mapRemote_dial (maps : outer.Maps f inner) (actor : Actor) (endpoint : Endpoint)
    (port : Nat) :
    (relay.mapRemote f).dial inner.transport actor endpoint port =
      ((relay.dial outer.transport actor endpoint port).1,
        (relay.dial outer.transport actor endpoint port).2.mapRemote f) := by
  simp only [dial, mapRemote, maps.dial]

end Parts

/-! ## Workers -/

section Workers

variable (relay : Relay τ) (index : Nat) (tunnel : Tunnel)

@[simp] theorem mapRemote_leave (how : WorkerEnd) :
    (relay.mapRemote f).leave index tunnel how =
      (relay.leave index tunnel how).mapRemote f := rfl

@[simp] theorem mapRemote_finish (state : TunnelState) :
    (relay.mapRemote f).finish index tunnel state =
      (relay.finish index tunnel state).mapRemote f := rfl

@[simp] theorem mapRemote_withdraw :
    (relay.mapRemote f).withdraw index tunnel = (relay.withdraw index tunnel).mapRemote f := rfl

theorem mapRemote_startProbe (maps : outer.Maps f inner) :
    (relay.mapRemote f).startProbe inner index tunnel =
      (relay.startProbe outer index tunnel).mapRemote f := by
  simp only [startProbe, mapRemote_dial relay maps, mapRemote_updateTunnel, now_mapRemote]

theorem mapRemote_greet (maps : outer.Maps f inner) :
    (relay.mapRemote f).greet inner index tunnel = (relay.greet outer index tunnel).mapRemote f := by
  simp only [greet, maps.sink, refusal?_mapRemote, mapRemote_write]
  split
  · rfl
  · split
    · rfl
    · exact mapRemote_startProbe _ index tunnel maps

theorem mapRemote_fail (sink : Sink) (reason : String) :
    (relay.mapRemote f).fail sink index tunnel reason =
      (relay.fail sink index tunnel reason).mapRemote f := by
  simp only [fail, refusal?_mapRemote]
  split <;> rfl

theorem mapRemote_halt (sink : Sink) (line : String) (state : TunnelState) (how : WorkerEnd) :
    (relay.mapRemote f).halt sink index tunnel line state how =
      (relay.halt sink index tunnel line state how).mapRemote f := by
  simp only [halt, refusal?_mapRemote]
  split <;> rfl

theorem mapRemote_conclude (sink : Sink) (verdict : ProbeEnd) :
    (relay.mapRemote f).conclude sink index tunnel verdict =
      (relay.conclude sink index tunnel verdict).mapRemote f := by
  cases verdict with
  | ready =>
      simp only [conclude, becomeReady]
      split <;> rfl
  | failed reason => exact mapRemote_fail relay index tunnel sink reason
  | panicked reason => rfl

theorem mapRemote_runWorker (maps : outer.Maps f inner) :
    (relay.mapRemote f).runWorker inner index = (relay.runWorker outer index).mapRemote f := by
  unfold runWorker
  rw [tunnels_mapRemote, now_mapRemote, maps.sink]
  split
  · rfl
  · split
    · exact mapRemote_greet relay index _ maps
    · split
      · rfl
      · split <;> rfl
    · exact mapRemote_conclude relay index _ outer.sink _
    · split
      · exact mapRemote_halt relay index _ outer.sink _ _ _
      · rfl
    · rfl

end Workers

/-! ## Connections -/

section Connections

variable (relay : Relay τ) (index : Nat) (tunnel : Tunnel)

theorem mapRemote_accept :
    (relay.mapRemote f).accept index = (relay.accept index).mapRemote f := by
  simp only [accept, tunnels_mapRemote, connections_mapRemote]
  split
  · split <;> rfl
  · rfl

theorem mapRemote_openStream (maps : outer.Maps f inner) (noticed : Bool) :
    (relay.mapRemote f).openStream inner index tunnel noticed =
      (relay.openStream outer index tunnel noticed).mapRemote f := by
  simp only [openStream, maps.sink, refusal?_mapRemote, mapRemote_write]
  split
  · rfl
  · split
    · rfl
    · rw [mapRemote_dial _ maps]
      rfl

theorem mapRemote_endStream (link : Link) :
    (relay.mapRemote f).endStream index tunnel link =
      (relay.endStream index tunnel link).mapRemote f := by
  simp only [endStream, now_mapRemote]
  split <;> rfl

theorem mapRemote_copyStream (sink : Sink) (client : Client) (link : Link) (noticed : Bool) :
    (relay.mapRemote f).copyStream sink index tunnel client link noticed =
      (relay.copyStream sink index tunnel client link noticed).mapRemote f := by
  simp only [copyStream, now_mapRemote, mapRemote_updateConnection, mapRemote_write,
    refusal?_mapRemote]
  split
  · exact mapRemote_endStream relay index tunnel link
  · split
    · rfl
    · exact mapRemote_endStream _ index tunnel _
    · split
      · rfl
      · exact mapRemote_endStream _ index tunnel _

theorem mapRemote_goOn (maps : outer.Maps f inner) (connection : Connection) (noticed : Bool) :
    (relay.mapRemote f).goOn inner index connection tunnel noticed =
      (relay.goOn outer index connection tunnel noticed).mapRemote f := by
  unfold goOn
  rw [now_mapRemote, maps.sink]
  split
  · split <;> rfl
  · exact mapRemote_openStream relay index tunnel maps noticed
  · split
    · rfl
    · split
      · rfl
      · split
        · rfl
        · rename_i outcome _ _ _
          cases outcome <;> rfl
  · exact mapRemote_copyStream relay index tunnel outer.sink _ _ noticed
  · rfl

theorem mapRemote_runConnection (maps : outer.Maps f inner) :
    (relay.mapRemote f).runConnection inner index =
      (relay.runConnection outer index).mapRemote f := by
  have hfound : (relay.mapRemote f).connection? index = relay.connection? index := rfl
  simp only [runConnection, hfound]
  split
  · exact mapRemote_goOn relay index _ maps _ _
  · rfl

end Connections

/-! ## Steps -/

section Steps

variable (relay : Relay τ)

/-- A step that is possible does the same to a relay however its remote state is seen. -/
theorem mapRemote_step (maps : outer.Maps f inner) {action : Action}
    (task : Move.isTask (.act action) = true) :
    (relay.mapRemote f).step inner action = (relay.step outer action).mapRemote f := by
  cases action with
  | worker index => exact mapRemote_runWorker relay index maps
  | accept index => exact mapRemote_accept relay index
  | connection index => exact mapRemote_runConnection relay index maps
  | collect index =>
      simp only [step, collect, tunnels_mapRemote]
      repeat' split
      all_goals rfl
  | join index => rfl
  | _ => cases task

theorem mapRemote_settle (maps : outer.Maps f inner) :
    (relay.mapRemote f).settle inner = (relay.settle outer).mapRemote f := by
  have hsettled (fuel : Nat) : settleIn inner fuel (relay.mapRemote f) =
      (settleIn outer fuel relay).mapRemote f := by
    induction fuel generalizing relay with
    | zero => rfl
    | succ fuel ih =>
        have hnext : (relay.mapRemote f).nextTask? = relay.nextTask? := rfl
        simp only [settleIn, hnext]
        split
        · rename_i action possible
          rw [mapRemote_step relay maps (due_of_nextTask? possible).isTask, ih]
        · rfl
  exact hsettled _

theorem mapRemote_advance (maps : outer.Maps f inner) (limit : Nat) :
    (relay.mapRemote f).advance inner limit = (relay.advance outer limit).mapRemote f := by
  unfold advance
  induction relay using waitUntil.induct outer (fun _ => false) limit with
  | case1 relay settled done => cases done
  | case2 relay settled going before ih =>
      have hbefore : ((relay.settle outer).mapRemote f).now < limit := before
      conv_lhs => rw [waitUntil]
      conv_rhs => rw [waitUntil]
      simp only [mapRemote_settle relay maps, Bool.false_eq_true, if_false]
      rw [if_pos hbefore, if_pos before]
      exact ih
  | case3 relay settled going late =>
      have hlate : ¬ ((relay.settle outer).mapRemote f).now < limit := late
      conv_lhs => rw [waitUntil]
      conv_rhs => rw [waitUntil]
      simp only [mapRemote_settle relay maps, Bool.false_eq_true, if_false]
      rw [if_neg hlate, if_neg late]

/-- Going on later with another remote state does the same however that state is seen. -/
theorem mapRemote_resume (maps : outer.Maps f inner) (before : τ → σ) (instant : Nat) (remote : τ)
    (events : List Event) :
    (relay.mapRemote before).resume inner instant (f remote) events =
      (relay.resume outer instant remote events).mapRemote f :=
  mapRemote_advance (({ relay with remote := remote } : Relay τ).note events) maps instant

end Steps

/-! ## Time -/

section Time

variable (relay : Relay σ) (surroundings : Surroundings σ)

theorem now_advance (limit : Nat) :
    (relay.advance surroundings limit).now = max relay.now limit := by
  unfold advance
  induction relay using waitUntil.induct surroundings (fun _ => false) limit with
  | case1 relay settled done => cases done
  | case2 relay settled going before ih =>
      have hsettled : (relay.settle surroundings).now = relay.now := now_settle surroundings relay
      have hforward := now_lt_nextInstant _ before
      have hlimit : (relay.settle surroundings).nextInstant limit ≤ limit := Nat.min_le_left _ _
      rw [waitUntil]
      simp only [Bool.false_eq_true, if_false]
      rw [if_pos before, ih]
      simp only [settled, goTo] at before hforward ⊢
      omega
  | case3 relay settled going late =>
      have hsettled : (relay.settle surroundings).now = relay.now := now_settle surroundings relay
      rw [waitUntil]
      simp only [Bool.false_eq_true, if_false]
      simp only [settled] at late
      rw [if_neg late]
      omega

theorem now_resume (instant : Nat) (remote : σ) (events : List Event) :
    (relay.resume surroundings instant remote events).now = max relay.now instant :=
  now_advance (({ relay with remote := remote } : Relay σ).note events) surroundings instant

end Time

end Relay

end Readiness
