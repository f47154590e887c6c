import Readiness.Proofs.Tunnel.Stages

/-!
# Lifecycle — the states that a tunnel shows

* `Relay.Course` lists the four courses that a tunnel can take;
* `Relay.Reached` and `Relay.GaveUp` say what the moves made so far contain: a probe that opened a
  stream, and a caller who gave the tunnel up. `Relay.GaveUp.of_owner`: who holds a tunnel gives it up
  by closing or dropping it, and who waits for it by abandoning the wait;
* `Relay.tunnels_take_their_course`: in every run a tunnel shows a prefix of a course, each state for
  its reason only, and forwards nothing before it has shown that it is ready.
-/

namespace Readiness

namespace Probe

/-- A probe that ends well was connected, not later than the probe ends. -/
theorem connected_of_ready {settle timeout : Duration} {dialing : Dialing} {offset : Nat}
    (h : verdict settle timeout dialing = (offset, .ready)) :
    ∃ delay remote events, dialing = .after delay (.connected remote) events ∧ delay ≤ offset := by
  cases dialing with
  | never => cases h
  | after delay outcome events =>
      cases hjudge : judge settle.timerMillis outcome with
      | mk past decided =>
          simp only [verdict, run, hjudge] at h
          split at h
          · cases h
            cases outcome with
            | connected remote => exact ⟨delay, remote, events, rfl, Nat.le_add_right _ _⟩
            | refused error => cases hjudge
            | panicked reason => cases hjudge
          · cases h

end Probe

namespace Relay

variable {σ : Type} {surroundings : Surroundings σ} {start : Relay σ} {moves : List Move}
  {move : Move} {index : Nat} {tunnel next : Tunnel}

/-! ## Courses -/

/-- The states that a tunnel has shown, the first one first. -/
def shown (tunnel : Tunnel) : List TunnelState := tunnel.history.reverse

/-- The courses that a tunnel takes from its opening to its end. -/
inductive Course : List TunnelState → Prop
  | withdrawn : Course [.starting, .closed]
  | unreached (reason : String) : Course [.starting, .failed reason]
  | stopped : Course [.starting, .ready, .closed]
  | cutOff (reason : String) : Course [.starting, .ready, .failed reason]

theorem Stage.course (h : Stage tunnel) : ∃ course, Course course ∧ shown tunnel <+: course := by
  cases h with
  | early phase history word =>
      exact ⟨_, .withdrawn, by rw [shown, history]; decide⟩
  | forwarding phase history word =>
      exact ⟨_, .stopped, by rw [shown, history]; decide⟩
  | ceased how phase outcome =>
      cases outcome with
      | withdrawn history word stopped =>
          exact ⟨_, .withdrawn, by rw [shown, history]; decide⟩
      | unwanted history word unwanted =>
          exact ⟨_, .stopped, by rw [shown, history]; decide⟩
      | failed reason history word =>
          exact ⟨_, .unreached reason, by rw [shown, history]; exact List.prefix_refl _⟩
      | panicked reason history word =>
          exact ⟨_, .withdrawn, by rw [shown, history]; decide⟩
      | stopped history word stopped =>
          exact ⟨_, .stopped, by rw [shown, history]; decide⟩
      | silenced reason history word =>
          exact ⟨_, .stopped, by rw [shown, history]; decide⟩
      | cutOff error history word =>
          exact ⟨_, .cutOff error.message, by rw [shown, history]; exact List.prefix_refl _⟩

theorem Course.count_ready {course : List TunnelState} (h : Course course) :
    course.count .ready ≤ 1 := by
  cases h <;> simp

/-- A worker that shows a terminal state has ended. -/
theorem Stage.isOver_of_isTerminal (h : Stage tunnel) (terminal : tunnel.state.isTerminal = true) :
    tunnel.isOver = true := by
  cases h with
  | early phase history word => simp [Tunnel.state, history, TunnelState.isTerminal] at terminal
  | forwarding phase history word =>
      simp [Tunnel.state, history, TunnelState.isTerminal] at terminal
  | ceased how phase outcome => simp [Tunnel.isOver, phase]

/-- A caller who was told that the tunnel is open was told so after it showed that it is ready. -/
theorem Stage.ready_of_word (h : Stage tunnel) (word : tunnel.word = some (.ok ())) :
    .ready ∈ tunnel.history := by
  cases h with
  | early phase history told => simp [told] at word
  | forwarding phase history told => simp [history]
  | ceased how phase outcome => cases outcome <;> simp_all

/-! ## What the moves contain -/

/-- The probe of a worker, after the moves before it, opened a stream by an instant. -/
structure ReachedAfter (surroundings : Surroundings σ) (start : Relay σ) (moves earlier : List Move)
    (index : Nat) (tunnel : Tunnel) (instant : Nat) : Prop where
  made : ∃ later, moves = earlier ++ .act (.worker index) :: later
  opened : ∃ delay remote events,
    (surroundings.transport.dial (start.run surroundings earlier).now tunnel.endpoint
      tunnel.remotePort (start.run surroundings earlier).remote).1 =
        .after delay (.connected remote) events ∧
    (start.run surroundings earlier).now + delay ≤ instant
  dialed : ((start.run surroundings earlier).now, .worker index, tunnel.endpoint,
    tunnel.remotePort) ∈ (start.run surroundings moves).dials

/-- A move by which a caller gives a tunnel up. -/
inductive Move.GivesUp (index : Nat) : Move → Prop
  | close : GivesUp index (.act (.close index))
  | drop : GivesUp index (.act (.drop index))
  | abandon : GivesUp index (.act (.abandon index))

/-- The caller of a tunnel, who waited for it or held it, gave it up. -/
def GaveUp (surroundings : Surroundings σ) (start : Relay σ) (moves : List Move) (index : Nat) :
    Prop :=
  ∃ earlier move later, moves = earlier ++ move :: later ∧ move.GivesUp index ∧
    (∃ tunnel, (start.run surroundings earlier).tunnels[index]? = some tunnel ∧
      isWanted tunnel) ∧
    ∃ tunnel, (start.run surroundings (earlier ++ [move])).tunnels[index]? = some tunnel ∧
      ¬ isWanted tunnel

/-- Who gives a tunnel up by a move: one who holds it closes or drops it, and one who waits for it
abandons the wait. -/
inductive Move.GivesUpAs (index : Nat) : Owner → Move → Prop
  | close : GivesUpAs index .holding (.act (.close index))
  | drop : GivesUpAs index .holding (.act (.drop index))
  | abandon : GivesUpAs index .opening (.act (.abandon index))

/-- Closing, dropping and abandoning always give a tunnel up. -/
theorem GaveUp.of_owner {start : Relay σ} {earlier later : List Move} {giving : Move} {owner : Owner}
    (gives : giving.GivesUpAs index owner)
    (found : (start.run surroundings earlier).tunnels[index]? = some tunnel)
    (owned : tunnel.owner = owner) :
    GaveUp surroundings start (earlier ++ giving :: later) index := by
  have hrun : start.run surroundings (earlier ++ [giving]) =
      (start.run surroundings earlier).perform surroundings giving := run_append ..
  refine ⟨earlier, giving, later, rfl, ?_, ⟨tunnel, found, ?_⟩, ?_⟩
  · cases gives <;> constructor
  · cases gives
    · exact .inr owned
    · exact .inr owned
    · exact .inl owned
  · rw [hrun]
    cases gives with
    | close =>
        refine ⟨{ tunnel with owner := .closing, stopped := true }, ?_, by simp [isWanted]⟩
        simp [perform, step, close, found, owned, updateTunnel, note]
    | drop =>
        refine ⟨{ tunnel with owner := .gone, stopped := true }, ?_, by simp [isWanted]⟩
        simp [perform, step, drop, found, owned, updateTunnel]
    | abandon =>
        refine ⟨{ tunnel with owner := .gone, stopped := true }, ?_, by simp [isWanted]⟩
        simp [perform, step, abandon, found, owned, updateTunnel]

theorem GaveUp.concat (h : GaveUp surroundings start moves index) (move : Move) :
    GaveUp surroundings start (moves ++ [move]) index := by
  rcases h with ⟨earlier, giving, later, rfl, hgiven⟩
  exact ⟨earlier, giving, later ++ [move], by simp, hgiven⟩

theorem ReachedAfter.concat {earlier : List Move} {instant later : Nat}
    (h : ReachedAfter surroundings start moves earlier index tunnel instant) (move : Move)
    (instants : instant ≤ later)
    (dials : (start.run surroundings moves).dials <+:
      (start.run surroundings (moves ++ [move])).dials) :
    ReachedAfter surroundings start (moves ++ [move]) earlier index tunnel later where
  made := by
    rcases h.made with ⟨rest, rfl⟩
    exact ⟨rest ++ [move], by simp⟩
  opened := by
    rcases h.opened with ⟨delay, remote, events, hopened, hdue⟩
    exact ⟨delay, remote, events, hopened, Nat.le_trans hdue instants⟩
  dialed := dials.subset h.dialed

theorem ReachedAfter.grows {earlier : List Move} {instant : Nat}
    (h : ReachedAfter surroundings start moves earlier index tunnel instant)
    (grows : Grows tunnel next) :
    ReachedAfter surroundings start moves earlier index next instant := by
  rcases h with ⟨made, opened, dialed⟩
  exact ⟨made, by rwa [grows.endpoint, grows.remotePort], by rwa [grows.endpoint, grows.remotePort]⟩

section Runs

variable {reachable : Bool} {remote : σ}

theorem extends_concat (surroundings : Surroundings σ) (reachable : Bool) (remote : σ)
    (moves : List Move) (move : Move) :
    Extends ((idle reachable remote).run surroundings moves)
      ((idle reachable remote).run surroundings (moves ++ [move])) := by
  rw [run_append]
  exact run_extends (wellformed_run surroundings reachable remote moves) [move]

/-- A worker knows that it can be reached: its probe will end well, or has done so. -/
structure Reaches (surroundings : Surroundings σ) (start : Relay σ) (moves : List Move) (index : Nat)
    (tunnel : Tunnel) : Prop where
  probing : ∀ ends events, tunnel.phase = .probing ends .ready events →
    ∃ earlier, ReachedAfter surroundings start moves earlier index tunnel ends
  decided : tunnel.phase = .decided .ready ∨ .ready ∈ tunnel.history →
    ∃ earlier, ReachedAfter surroundings start moves earlier index tunnel
      (start.run surroundings moves).now

theorem Reaches.step {before after : Relay σ}
    (hbefore : before = (idle reachable remote).run surroundings moves)
    (hafter : after = (idle reachable remote).run surroundings (moves ++ [move]))
    (step : Step surroundings before after index tunnel move next)
    (h : Reaches surroundings (idle reachable remote) moves index tunnel) :
    Reaches surroundings (idle reachable remote) (moves ++ [move]) index next := by
  have hgrows := step.grows
  have hextends := extends_concat surroundings reachable remote moves move
  have lift (hknown : tunnel.phase = .decided .ready ∨ .ready ∈ tunnel.history) :
      ∃ earlier, ReachedAfter surroundings (idle reachable remote) (moves ++ [move]) earlier index
        next ((idle reachable remote).run surroundings (moves ++ [move])).now := by
    rcases h.decided hknown with ⟨earlier, hreached⟩
    exact ⟨earlier, (hreached.concat move hextends.now hextends.dials).grows hgrows⟩
  have keep (hphase : next.phase = tunnel.phase) (hhistory : next.history = tunnel.history) :
      Reaches surroundings (idle reachable remote) (moves ++ [move]) index next := by
    constructor
    · intro ends events hprobing
      rcases h.probing ends events (hphase ▸ hprobing) with ⟨earlier, hreached⟩
      exact ⟨earlier, (hreached.concat move (Nat.le_refl _) hextends.dials).grows hgrows⟩
    · intro hknown
      rw [hphase, hhistory] at hknown
      exact lift hknown
  cases step with
  | probed phase own offset verdict events outcome dials =>
      constructor
      · intro ends events hprobing
        cases hprobing
        rcases Probe.connected_of_ready outcome with ⟨delay, far, events, hdialing, hdelay⟩
        refine ⟨moves, ⟨[], by rw [own]⟩, ⟨delay, far, events, ?_, ?_⟩, ?_⟩
        · rw [← hbefore]
          exact hdialing
        · rw [← hbefore]
          exact Nat.add_le_add_left hdelay _
        · rw [← hbefore, ← hafter, dials]
          exact List.mem_append_right _ List.mem_cons_self
      · rintro (hdecided | hready)
        · cases hdecided
        · exact lift (.inr hready)
  | turned turn =>
      cases turn with
      | decided phase due =>
          constructor
          · intro ends events hprobing
            cases hprobing
          · rintro (hdecided | hready)
            · cases hdecided
              rcases h.probing _ _ phase with ⟨earlier, hreached⟩
              rw [hbefore] at due
              have hnow := Nat.le_trans due hextends.now
              exact ⟨earlier, (hreached.concat _ hnow hextends.dials).grows hgrows⟩
            · exact lift (.inr hready)
      | ready phase owner =>
          constructor
          · intro ends events hprobing
            cases hprobing
          · exact fun _ => lift (.inl phase)
      | _ => exact keep rfl rfl
  | ended ending =>
      constructor
      · intro ends events hprobing
        cases hprobing
      · rintro (hdecided | hready)
        · cases hdecided
        · rcases List.mem_append.1 hready with hlast | hbefore
          · cases ending with
            | unwanted phase owner => exact lift (.inl phase)
            | _ => simp at hlast
          · exact lift (.inr hbefore)

theorem reaches_run
    (found : ((idle reachable remote).run surroundings moves).tunnels[index]? = some tunnel) :
    Reaches surroundings (idle reachable remote) moves index tunnel := by
  refine tunnel_induction (P := fun moves tunnel =>
    Reaches surroundings (idle reachable remote) moves index tunnel) ?_ ?_ ?_ moves found
  · intro moves endpoint remotePort options grant now
    constructor
    · intro ends events hprobing
      cases hprobing
    · simp [Tunnel.fresh]
  · intro moves move tunnel h
    have hextends := extends_concat surroundings reachable remote moves move
    constructor
    · intro ends events hprobing
      rcases h.probing ends events hprobing with ⟨earlier, hreached⟩
      exact ⟨earlier, hreached.concat move (Nat.le_refl _) hextends.dials⟩
    · intro hknown
      rcases h.decided hknown with ⟨earlier, hreached⟩
      exact ⟨earlier, hreached.concat move hextends.now hextends.dials⟩
  · intro moves move before after tunnel next hbefore hafter _ _ step h
    exact h.step hbefore hafter step

/-- What only happens to a tunnel that was given up. -/
def ShowsGivenUp (tunnel : Tunnel) : Prop :=
  tunnel.stopped = true ∨ (¬ isWanted tunnel ∧ tunnel.isOver = false) ∨ .closed ∈ tunnel.history

theorem ShowsGivenUp.step {before after : Relay σ}
    (hbefore : before = (idle reachable remote).run surroundings moves)
    (hafter : after = (idle reachable remote).run surroundings (moves ++ [move]))
    (found : before.tunnels[index]? = some tunnel) (later : after.tunnels[index]? = some next)
    (step : Step surroundings before after index tunnel move next) (stage : Stage tunnel)
    (told : Told tunnel)
    (h : ShowsGivenUp tunnel → GaveUp surroundings (idle reachable remote) moves index)
    (shows : ShowsGivenUp next) :
    GaveUp surroundings (idle reachable remote) (moves ++ [move]) index := by
  have lift (hshows : ShowsGivenUp tunnel) := (h hshows).concat move
  have give (gives : move.GivesUp index) (wanted : isWanted tunnel) (unwanted : ¬ isWanted next) :
      GaveUp surroundings (idle reachable remote) (moves ++ [move]) index :=
    ⟨moves, move, [], rfl, gives, ⟨tunnel, hbefore ▸ found, wanted⟩, next, hafter ▸ later, unwanted⟩
  have keep (stopped : next.stopped = tunnel.stopped)
      (unwanted : ¬ isWanted next → next.isOver = false →
        ¬ isWanted tunnel ∧ tunnel.isOver = false)
      (closed : .closed ∈ next.history → ShowsGivenUp tunnel) :
      GaveUp surroundings (idle reachable remote) (moves ++ [move]) index := by
    rcases shows with hstopped | ⟨hunwanted, hgoing⟩ | hclosed
    · exact lift (.inl (stopped ▸ hstopped))
    · exact lift (.inr (.inl (unwanted hunwanted hgoing)))
    · exact lift (closed hclosed)
  cases step with
  | probed phase own offset verdict events outcome dials =>
      exact keep rfl (fun unwanted _ => ⟨unwanted, isOver_of_phase phase (by simp)⟩)
        fun closed => .inr (.inr closed)
  | turned turn =>
      cases turn with
      | decided phase due =>
          exact keep rfl (fun unwanted _ => ⟨unwanted, isOver_of_phase phase (by simp)⟩)
            fun closed => .inr (.inr closed)
      | ready phase owner =>
          refine keep rfl (fun unwanted _ => ⟨unwanted, isOver_of_phase phase (by simp)⟩)
            fun closed => .inr (.inr ?_)
          simpa using closed
      | @collected result owner known =>
          refine keep rfl (fun unwanted going => ?_) fun closed => .inr (.inr closed)
          -- Only a failure takes the handle away, and then the worker has ended.
          cases result with
          | ok _ => exact absurd (.inr rfl) unwanted
          | error error =>
              have hgoing : tunnel.isOver = false := going
              rw [isOver_of_openingResult? known] at hgoing
              cases hgoing
      | abandoned owner => exact give .abandon (.inl owner) (by simp [isWanted])
      | closing owner => exact give .close (.inr owner) (by simp [isWanted])
      | dropped owner => exact give .drop (.inr owner) (by simp [isWanted])
      | discarded owner =>
          exact keep rfl (fun _ going => ⟨by simp [isWanted, owner], going⟩)
            fun closed => .inr (.inr closed)
      | joined owner phase =>
          exact keep rfl (fun _ going => ⟨by simp [isWanted, owner], going⟩)
            fun closed => .inr (.inr closed)
      | left owner =>
          exact keep rfl (fun _ going => ⟨by simp [isWanted, owner], going⟩)
            fun closed => .inr (.inr closed)
  | ended ending =>
      have hgoing := ending.isOver
      refine keep rfl (fun _ going => by simp [Relay.ended, Tunnel.isOver] at going) fun closed => ?_
      rcases List.mem_append.1 closed with hlast | hbefore
      · cases ending with
        | early phase stopped => exact .inl stopped
        | withdrawn phase stopped => exact .inl stopped
        | stopped phase stopped => exact .inl stopped
        | unwanted phase owner => exact .inr (.inl ⟨told.unwanted stage phase owner, hgoing⟩)
        | _ => simp at hlast
      · exact .inr (.inr hbefore)

theorem gaveUp_run
    (found : ((idle reachable remote).run surroundings moves).tunnels[index]? = some tunnel)
    (shows : ShowsGivenUp tunnel) : GaveUp surroundings (idle reachable remote) moves index := by
  refine tunnel_induction (P := fun moves tunnel => ShowsGivenUp tunnel →
    GaveUp surroundings (idle reachable remote) moves index) ?_ ?_ ?_ moves found shows
  · intro moves endpoint remotePort options grant now shows
    simp [ShowsGivenUp, Tunnel.fresh, isWanted] at shows
  · intro moves move tunnel h shows
    exact (h shows).concat move
  · intro moves move before after tunnel next hbefore hafter found later step h shows
    rw [hbefore] at found
    rcases staged_run surroundings reachable remote moves tunnel (List.mem_of_getElem? found) with
      ⟨stage, told⟩
    exact shows.step hbefore hafter (hbefore ▸ found) later step stage told h

end Runs

/-! ## The course of a tunnel -/

theorem mem_shown {state : TunnelState} : state ∈ shown tunnel ↔ state ∈ tunnel.history :=
  List.mem_reverse

/-- The only attempt of a worker to open a stream is the one that its probe made. -/
theorem probes_eq_singleton {relay : Relay σ} {dial : Nat × Actor × Endpoint × Nat}
    (once : (relay.probes index).length ≤ 1) (made : dial ∈ relay.dials)
    (own : dial.2.1 = .worker index) : relay.probes index = [dial] := by
  have hmem : dial ∈ relay.probes index := List.mem_filter.2 ⟨made, by simpa using own⟩
  cases hprobes : relay.probes index with
  | nil =>
      rw [hprobes] at hmem
      cases hmem
  | cons first rest =>
      rw [hprobes] at once hmem
      have hrest : rest = [] := List.length_eq_zero_iff.1 (by simpa using once)
      subst hrest
      rw [List.mem_singleton.1 hmem]

/-- In every run, what a tunnel has shown so far is a prefix of one of the four courses, so that it
shows once at most that it is ready. It shows that it is ready only after its probe, the one attempt
of its worker to open a stream, opened one; it shows that it is closed only after its caller, who
waited for it or held its handle, closed, dropped or abandoned it; and whatever happens after it has
shown a terminal state, it shows no other. Its caller is told that it is open only after it has shown
that it is ready. Before that its worker accepts no connection, and nothing is dialed for one. -/
theorem tunnels_take_their_course (surroundings : Surroundings σ) (reachable : Bool) (remote : σ)
    (moves : List Move) (index : Nat) (tunnel : Tunnel)
    (found : ((idle reachable remote).run surroundings moves).tunnels[index]? = some tunnel) :
    let relay := (idle reachable remote).run surroundings moves
    (∃ course, Course course ∧ shown tunnel <+: course) ∧
      (shown tunnel).count .ready ≤ 1 ∧
      (.ready ∈ shown tunnel → ∃ earlier,
        ReachedAfter surroundings (idle reachable remote) moves earlier index tunnel relay.now ∧
        relay.probes index =
          [(((idle reachable remote).run surroundings earlier).now, .worker index, tunnel.endpoint,
            tunnel.remotePort)]) ∧
      (tunnel.state.isTerminal = true → ∀ more later,
        (relay.run surroundings more).tunnels[index]? = some later → shown later = shown tunnel) ∧
      (.closed ∈ shown tunnel → GaveUp surroundings (idle reachable remote) moves index) ∧
      (relay.openedResult? index = some (.ok ()) → .ready ∈ shown tunnel) ∧
      (relay.probes index).length ≤ 1 ∧
      (.ready ∉ shown tunnel →
        relay.accept index = relay ∧
        (∀ connection ∈ relay.connections, connection.tunnel = index →
          connection.phase = .waiting ∨ connection.phase = .ended) ∧
        ∀ dial ∈ relay.dials, ∀ place connection, dial.2.1 = .connection place →
          relay.connections[place]? = some connection → connection.tunnel ≠ index) := by
  intro relay
  rcases staged_run surroundings reachable remote moves tunnel (List.mem_of_getElem? found) with
    ⟨stage, told⟩
  have wellformed := wellformed_run surroundings reachable remote moves
  have once := (probesOnce_run surroundings reachable remote moves index).1
  have forwards := forwards_run surroundings reachable remote moves
  -- A tunnel of this number that showed that it is ready is this tunnel.
  have own (ready : ShowedReady relay index) : .ready ∈ shown tunnel := by
    rcases ready with ⟨other, hother, hready⟩
    rw [show relay.tunnels[index]? = some tunnel from found] at hother
    cases hother
    exact mem_shown.2 hready
  refine ⟨stage.course, ?_, ?_, ?_, ?_, ?_, once, ?_⟩
  · rcases stage.course with ⟨course, hcourse, hshown⟩
    exact Nat.le_trans (hshown.sublist.count_le _) hcourse.count_ready
  · intro ready
    rcases (reaches_run found).decided (.inr (mem_shown.1 ready)) with ⟨earlier, hreached⟩
    exact ⟨earlier, hreached, probes_eq_singleton once hreached.dialed rfl⟩
  · intro terminal more later hlater
    rcases (run_extends wellformed more).tunnels index tunnel found with ⟨same, hsame, hgrows⟩
    rw [hsame] at hlater
    cases hlater
    rw [shown, (hgrows.ceased (stage.isOver_of_isTerminal terminal)).2, shown]
  · intro closed
    exact gaveUp_run found (.inr (.inr (mem_shown.1 closed)))
  · intro opened
    rw [openedResult?, show relay.tunnels[index]? = some tunnel from found] at opened
    rcases Option.map_eq_some_iff.1 opened with ⟨⟨instant, result⟩, hopened, rfl⟩
    exact mem_shown.2 (stage.ready_of_word (told.opened instant hopened))
  · intro unready
    refine ⟨accept_of_not_forwarding found ?_, ?_, ?_⟩
    · intro forwarding
      refine unready (mem_shown.2 ?_)
      rw [(stage.of_forwarding forwarding).1]
      exact List.mem_cons_self
    · intro connection hmem hindex
      rcases forwards.accepted connection hmem with waiting | ended | ready
      · exact .inl waiting
      · exact .inr ended
      · exact absurd (own (hindex ▸ ready)) unready
    · intro dial hmem place connection hactor hconnection hindex
      rcases forwards.dialed dial hmem place hactor with ⟨other, hother, ready⟩
      rw [hother] at hconnection
      cases hconnection
      exact unready (own (hindex ▸ ready))

/-- Streams open after five milliseconds. -/
def promptTransport : Transport Unit :=
  ⟨fun _ _ _ _ => (.after 5 (.connected (.quiet none)) [], ())⟩

/-- A tunnel is opened, becomes ready and is closed. -/
def wholeLife : List Move :=
  [.act (.start .standard default 80 (.choosing 49152)), .act (.worker 0), .wait 5,
    .act (.worker 0), .act (.worker 0), .act (.collect 0), .act (.close 0), .act (.worker 0)]

theorem wholeLife_takes_a_course :
    ∃ tunnel, ((idle true ()).run ⟨promptTransport, .reliable⟩ wholeLife).tunnels[0]? =
        some tunnel ∧
      shown tunnel = [.starting, .ready, .closed] ∧
      ((idle true ()).run ⟨promptTransport, .reliable⟩ wholeLife).probes 0 =
        [(0, .worker 0, tunnel.endpoint, 80)] ∧
      GaveUp ⟨promptTransport, .reliable⟩ (idle true ()) wholeLife 0 := by
  rcases tunnels_take_their_course ⟨promptTransport, .reliable⟩ true () wholeLife 0 _ rfl with
    ⟨-, -, -, -, hclosed, -, -, -⟩
  exact ⟨_, rfl, rfl, rfl, hclosed (by decide)⟩

end Relay

end Readiness
