import Readiness.Proofs.Tunnel.Opening

/-!
# Probing — opening does what the probe says

* `Relay.answerOf` is what the caller is told of a verdict, and `Relay.Answered.eq_answerOf`: the
  worker tells nothing else, as long as the sink takes its lines;
* `Probe.Watched.undropped`: the end of a report without a message decides nothing by itself;
* `Relay.opening_follows_the_probe` puts these together with the rules of `Probe.Ruling`.

Timers count whole milliseconds and round spans up. So a quiet period of half a millisecond ends after a
whole one: `Relay.quiet_stream_waits_longer`.
-/

namespace Readiness

/-! ## Reports without a message -/

/-- A report that ends without a message leaves the verdict as it is without any report event; it only
shortens the wait behind the end of a stream. -/
theorem Probe.Watched.undropped {settle f offset : Nat} {remote : RemoteEnd} {verdict : ProbeEnd}
    (h : Probe.Watched settle remote (.dropped f) offset verdict) :
    ∃ later, offset ≤ later ∧ Probe.Watched settle remote .silent later verdict := by
  have silent (offset : Nat) : Probe.Unreported .silent offset := fun _ _ => nofun
  cases h with
  | reported delivered first inTime => cases delivered
  | answered read unreported inTime =>
      exact ⟨offset, Nat.le_refl _, .answered read (silent _) inTime⟩
  | broken read unreported inTime =>
      exact ⟨offset, Nat.le_refl _, .broken read (silent _) inTime⟩
  | trailed read inTime delivered later soon => cases delivered
  | @orphaned r f read inTime dropped =>
      exact ⟨r + settle, Nat.min_le_right _ _, .closed read inTime (fun _ => nofun) (silent _)⟩
  | closed read inTime kept unreported => exact absurd rfl (kept f)
  | quiet unreported unread => exact ⟨settle, Nat.le_refl _, .quiet (silent _) unread⟩

namespace Relay

variable {σ : Type} {surroundings : Surroundings σ} {started relay : Relay σ} {index offset : Nat}
  {base tunnel : Tunnel} {result : Except Error Unit}

/-! ## Answers and verdicts -/

/-- What the caller of a tunnel is told of a verdict. -/
def answerOf (target : String) (index : Nat) : ProbeEnd → Except Error Nat
  | .ready => .ok index
  | .failed reason => .error (.tunnel target reason)
  | .panicked _ => .error (.tunnel target "tunnel worker panicked")

/-- A worker whose lines are taken tells the verdict on its dial. -/
theorem Answered.eq_answerOf
    (h : Answered surroundings started index base relay offset tunnel result)
    (taken : ∀ line, ¬ BrokeOn surroundings.sink relay (.worker index) line) :
    ∃ verdict, Decides surroundings started index base offset verdict ∧
      (result.map fun _ => index) = answerOf base.target index verdict := by
  cases h with
  | silenced panic broke => exact absurd broke (taken _)
  | ready decides said => exact ⟨.ready, decides, rfl⟩
  | failed decides said => exact ⟨.failed _, decides, rfl⟩
  | choked panic decides broke => exact absurd broke (taken _)
  | panicked decides said => exact ⟨.panicked _, decides, rfl⟩

/-- From a relay in which no step is possible, the dial meets the transport as it is. -/
theorem Asked.of_quiet {options : TunnelOptions} {endpoint : Endpoint} {remotePort : Nat}
    {host : Ports.Host} {grant : Grant} {ports : Ports} {dialing : Dialing}
    (wellformed : Wellformed relay) (quiet : relay.nextTask? = none)
    (bound : relay.ports.listen options.localPort host = (.ok grant, ports))
    (h : Asked surroundings (relay.start options endpoint remotePort host).2 relay.tunnels.length
      (relay.beginning options endpoint remotePort grant) dialing) :
    (surroundings.transport.dial relay.now endpoint remotePort relay.remote).1 = dialing := by
  rcases h with ⟨before, led, hdialing⟩
  rcases start_frame relay options endpoint remotePort host with ⟨hnow, -, -, hremote, -, -⟩
  rw [led.alone (alone_of_quiet endpoint remotePort wellformed quiet bound), hnow, hremote] at hdialing
  exact hdialing

theorem not_brokeOn_reliable {actor : Actor} {line : String} :
    ¬ BrokeOn .reliable relay actor line := by
  rintro ⟨earlier, later, -, hrefusal⟩
  cases hrefusal

/-! ## Openings -/

section Openings

variable {options : TunnelOptions} {endpoint : Endpoint} {remotePort : Nat} {host : Ports.Host}
  {grant : Grant} {ports : Ports}

/-- The caller learns the verdict on the dial, at its instant. -/
theorem openTunnel_of_ruling (surroundings : Surroundings σ) (options : TunnelOptions)
    (endpoint : Endpoint) (remotePort : Nat) (host : Ports.Host) (wellformed : Wellformed relay)
    (silent : relay.said (.worker relay.tunnels.length) = [])
    (bound : relay.ports.listen options.localPort host = (.ok grant, ports))
    (taken : ∀ line, ¬ BrokeOn surroundings.sink
      (relay.openTunnel surroundings options endpoint remotePort host none).2
      (.worker relay.tunnels.length) line) :
    ∃ dialing, Asked surroundings (relay.start options endpoint remotePort host).2
        relay.tunnels.length (relay.beginning options endpoint remotePort grant) dialing ∧
      ∀ offset verdict,
        Probe.Ruling options.probeSettle options.readyTimeout dialing offset verdict →
          (relay.openTunnel surroundings options endpoint remotePort host none).2.now =
            relay.now + offset ∧
          (relay.openTunnel surroundings options endpoint remotePort host none).1 =
            .done (answerOf (endpoint.render ++ ":" ++ toString remotePort) relay.tunnels.length
              verdict) := by
  rcases openTunnel_of_bound endpoint remotePort surroundings wellformed silent bound with
    ⟨offset, tunnel, result, hlearned, hresult, -⟩
  rcases hlearned.answered.eq_answerOf taken with
    ⟨verdict, ⟨dialing, hasked, hverdict⟩, hanswer⟩
  refine ⟨dialing, hasked, fun other found ruling => ?_⟩
  have hsame : (other, found) = (offset, verdict) :=
    (Probe.verdict_eq_iff.2 ruling).symm.trans hverdict
  cases hsame
  exact ⟨hlearned.now, hresult.trans (congrArg Opening.done hanswer)⟩

end Openings

/-- In every run and on every host: a caller who opens a tunnel whose port can be bound learns the
verdict of the probe at its instant, as long as the sink takes the lines of the worker. The verdict is
the one that the rules give for what becomes of the dial, which tasks that were possible before can only
influence through the state of the transport. The end of a report without a message never decides. -/
theorem opening_follows_the_probe (surroundings : Surroundings σ) (reachable : Bool) (remote : σ)
    (moves : List Move) (options : TunnelOptions) (endpoint : Endpoint) (remotePort : Nat)
    (host : Ports.Host) :
    let relay := (idle reachable remote).run surroundings moves
    let index := relay.tunnels.length
    let opening := relay.openTunnel surroundings options endpoint remotePort host none
    (∀ grant ports, relay.ports.listen options.localPort host = (.ok grant, ports) →
      (∀ line, ¬ BrokeOn surroundings.sink opening.2 (.worker index) line) →
      ∃ dialing, Asked surroundings (relay.start options endpoint remotePort host).2 index
          (relay.beginning options endpoint remotePort grant) dialing ∧
        (relay.nextTask? = none →
          (surroundings.transport.dial relay.now endpoint remotePort relay.remote).1 = dialing) ∧
        (∃ offset verdict,
          Probe.Ruling options.probeSettle options.readyTimeout dialing offset verdict) ∧
        ∀ offset verdict,
          Probe.Ruling options.probeSettle options.readyTimeout dialing offset verdict →
            opening.2.now = relay.now + offset ∧
            opening.1 =
              .done (answerOf (endpoint.render ++ ":" ++ toString remotePort) index verdict)) ∧
      ∀ settle remote f offset verdict, Probe.Watched settle remote (.dropped f) offset verdict →
        ∃ later, offset ≤ later ∧ Probe.Watched settle remote .silent later verdict := by
  intro relay index opening
  refine ⟨fun grant ports bound taken => ?_, fun _ _ _ _ _ watched => watched.undropped⟩
  have hwellformed : Wellformed relay := wellformed_run surroundings reachable remote moves
  have habsent : IsAbsent relay (.worker index) := List.getElem?_eq_none (Nat.le_refl _)
  have hsilent : relay.said (.worker index) = [] :=
    said_run_of_isAbsent surroundings reachable remote moves habsent
  rcases openTunnel_of_ruling surroundings options endpoint remotePort host hwellformed hsilent
    bound taken with ⟨dialing, hasked, hfollows⟩
  refine ⟨dialing, hasked, fun quiet => hasked.of_quiet hwellformed quiet bound, ?_, hfollows⟩
  exact ⟨_, _, Probe.verdict_eq_iff.1 rfl⟩

/-- Streams open after two milliseconds. Each one ends three later, and a message follows after another
one. -/
def brokenStream : Surroundings Unit :=
  ⟨⟨fun _ _ _ _ =>
      (.after 2 (.connected ⟨[(3, .eof)], .ignores, 0, some (.message 4 "no such port")⟩) [], ())⟩,
    .reliable⟩

theorem brokenStream_is_reported :
    let opening := (idle true ()).openTunnel brokenStream .standard default 80 (.choosing 49152) none
    opening.2.now = 6 ∧
      opening.1 = .done (.error (.tunnel ((default : Endpoint).render ++ ":" ++ toString 80)
        "no such port")) := by
  intro opening
  rcases opening_follows_the_probe brokenStream true () [] .standard default 80 (.choosing 49152)
    with ⟨hopening, -⟩
  rcases hopening _ _ rfl (fun _ => not_brokeOn_reliable) with ⟨dialing, -, hquiet, -, hfollows⟩
  cases hquiet rfl
  have hwatched : Probe.Watched 1000
      ⟨[(3, .eof)], .ignores, 0, some (.message 4 "no such port")⟩ (.message 4 "no such port") 4
      (.failed "no such port") := .trailed rfl (by decide) rfl (by decide) (by decide)
  exact hfollows 6 _ (.inTime (.watched rfl hwatched) (by decide))

/-! ## Timers -/

/-- Streams with a report open at once and stay quiet. -/
def quietStream : Surroundings Unit :=
  ⟨⟨fun _ _ _ _ => (.after 0 (.connected (.quiet (some .silent))) [], ())⟩, .reliable⟩

def halfMillisecond : TunnelOptions := ⟨none, .ofSecs 30, ⟨500000⟩⟩

/-- Neither a message nor a read happens in a quiet period of half a millisecond, and the tunnel is
ready after a whole one. -/
theorem quiet_stream_waits_longer :
    let opening :=
      (idle true ()).openTunnel quietStream halfMillisecond default 80 (.choosing 49152) none
    (quietStream.transport.dial 0 default 80 ()).1 =
        .after 0 (.connected (.quiet (some .silent))) [] ∧
      Probe.firstRead (.quiet (some .silent)) = none ∧
      opening.1 = .done (.ok 0) ∧
      halfMillisecond.probeSettle < Duration.ofMillis opening.2.now := by
  intro opening
  rcases openTunnel_of_ruling quietStream halfMillisecond default 80 (.choosing 49152)
    (Wellformed.idle true ()) rfl rfl (fun _ => not_brokeOn_reliable) with
    ⟨dialing, hasked, hfollows⟩
  cases hasked.of_quiet (Wellformed.idle true ()) rfl rfl
  have hwatched : Probe.Watched 1 (.quiet (some .silent)) .silent 1 .ready :=
    .quiet (fun _ _ delivered => nomatch delivered) (fun _ _ read => nomatch read)
  rcases hfollows 1 .ready (.inTime (.watched rfl hwatched) (by decide)) with ⟨hnow, hanswer⟩
  refine ⟨rfl, rfl, hanswer, ?_⟩
  have hafter : opening.2.now = 1 := hnow
  rw [hafter]
  decide

end Relay

end Readiness
