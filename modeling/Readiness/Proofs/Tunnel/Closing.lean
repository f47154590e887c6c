import Readiness.Proofs.Tunnel.Stopping
import Readiness.Proofs.Tunnel.Voices

/-!
# Closing — what closing a tunnel returns, and what the tunnel shows then

* `Relay.Handled`: a tunnel that is being closed was open, and the result of closing says how its
  worker ended;
* `Relay.ClosedAs` ties the result of closing to the state that the tunnel shows and to what became of
  the lines of its worker;
* `Relay.closing_tells_the_state`: the first closing returns, its result agrees with the state unless
  the sink broke down on the last line, and all later closings do nothing.
-/

namespace Readiness

namespace Relay

variable {σ : Type} {surroundings : Surroundings σ} {sink : Sink} {relay before after : Relay σ}
  {move : Move} {index : Nat} {tunnel next : Tunnel} {result : Except Error Unit}

/-! ## Tunnels that are being closed -/

/-- What is known of a tunnel that is being closed or was closed. -/
structure Handled (index : Nat) (tunnel : Tunnel) : Prop where
  closing : tunnel.owner = .closing → tunnel.word = some (.ok ())
  closed : ∀ result, tunnel.closed = some result → tunnel.word = some (.ok ()) ∧
    (tunnel.owner = .finished ∨ tunnel.owner = .gone) ∧
      ∃ how, tunnel.phase = .ended how ∧ result = closingResult index tunnel how

namespace Handled

theorem fresh (index : Nat) (endpoint : Endpoint) (remotePort : Nat) (options : TunnelOptions)
    (grant : Grant) (now : Nat) :
    Handled index (.fresh endpoint remotePort options grant now) where
  closing := fun owner => nomatch owner
  closed := fun _ closed => nomatch closed

/-- Closing has no result yet while the worker goes on. -/
theorem not_closed (h : Handled index tunnel) (going : tunnel.isOver = false) :
    tunnel.closed ≠ some result := by
  intro closed
  rcases (h.closed result closed).2.2 with ⟨how, phase, -⟩
  rw [Tunnel.isOver, phase] at going
  cases going

/-- Nor while its caller waits for it or holds its handle. -/
theorem gone_of_closed (h : Handled index tunnel) (closed : tunnel.closed = some result)
    {owner : Owner} (hold : tunnel.owner = owner) : owner = .finished ∨ owner = .gone :=
  hold ▸ (h.closed result closed).2.1

/-- A step of the worker, which keeps what it has told. -/
theorem work (h : Handled index tunnel) (going : tunnel.isOver = false)
    (owner : next.owner = tunnel.owner) (closed : next.closed = tunnel.closed)
    (word : tunnel.word = some (.ok ()) → next.word = some (.ok ())) : Handled index next where
  closing := fun closing => word (h.closing (owner ▸ closing))
  closed := fun _ hclosed => absurd (closed.symm.trans hclosed) (h.not_closed going)

/-- A step of a caller who is not closing. -/
theorem use (h : Handled index tunnel) (owner : ¬ (tunnel.owner = .finished ∨ tunnel.owner = .gone))
    (closed : next.closed = tunnel.closed)
    (closing : next.owner = .closing → next.word = some (.ok ())) : Handled index next where
  closing := closing
  closed := fun result hclosed =>
    absurd (h.closed result (closed.symm.trans hclosed)).2.1 owner

end Handled

theorem Turn.handled {now : Nat} (turn : Turn now index tunnel move next) (told : Told tunnel)
    (h : Handled index tunnel) : Handled index next := by
  cases turn with
  | decided phase due => exact h.work (isOver_of_phase phase (by simp)) rfl rfl id
  | ready phase owner => exact h.work (isOver_of_phase phase (by simp)) rfl rfl fun _ => rfl
  | @collected result owner known =>
      refine h.use (by simp [owner]) rfl fun closing => ?_
      cases result <;> cases closing
  | abandoned owner => exact h.use (by simp [owner]) rfl nofun
  | closing owner => exact h.use (by simp [owner]) rfl fun _ => told.holding owner
  | dropped owner => exact h.use (by simp [owner]) rfl nofun
  | left owner => exact h.use (by simp [owner]) rfl nofun
  | discarded owner =>
      refine ⟨nofun, fun result closed => ?_⟩
      rcases h.closed result closed with ⟨word, -, ended⟩
      exact ⟨word, .inr rfl, ended⟩
  | @joined how owner phase =>
      refine ⟨nofun, fun result closed => ?_⟩
      cases closed
      exact ⟨h.closing owner, .inl rfl, how, phase, rfl⟩

theorem Step.handled (step : Step surroundings before after index tunnel move next)
    (stage : Stage tunnel) (told : Told tunnel) (h : Handled index tunnel) : Handled index next := by
  have hword := step.word_ok stage
  cases step with
  | probed phase own offset verdict events outcome dials =>
      exact h.work (isOver_of_phase phase (by simp)) rfl rfl hword
  | turned turn => exact turn.handled told h
  | ended ending => exact h.work ending.isOver rfl rfl hword

theorem handled_run (surroundings : Surroundings σ) (reachable : Bool) (remote : σ)
    (moves : List Move)
    (found : ((idle reachable remote).run surroundings moves).tunnels[index]? = some tunnel) :
    Handled index tunnel := by
  refine tunnel_induction (P := fun _ tunnel => Handled index tunnel) ?_ ?_ ?_ moves found
  · exact fun _ => Handled.fresh index
  · exact fun _ _ _ h => h
  · intro moves move before after tunnel next hbefore _ found _ step h
    subst hbefore
    rcases staged_run surroundings reachable remote moves tunnel (List.mem_of_getElem? found) with
      ⟨stage, told⟩
    exact step.handled stage told h

/-! ## Tunnels that were closed -/

/-- What closing a tunnel returned, together with what the tunnel shows and with what became of the
lines of its worker. -/
inductive ClosedAs (sink : Sink) (relay : Relay σ) (index : Nat) (tunnel : Tunnel) :
    Except Error Unit → Prop
  | stopped (state : tunnel.state = .closed) (unbroken : Unbroken sink relay (.worker index)) :
      ClosedAs sink relay index tunnel (.ok ())
  | failed (error : Error) (state : tunnel.state = .failed error.message)
      (unbroken : Unbroken sink relay (.worker index)) :
      ClosedAs sink relay index tunnel (.error error)
  /-- The sink broke down on the last line of the worker, which did not come to show how it ended. -/
  | silenced (reason line : String) (state : tunnel.state = .ready)
      (last : (relay.said (.worker index)).getLast? = some line)
      (broke : BrokeOn sink relay (.worker index) line) :
      ClosedAs sink relay index tunnel (closingResult index tunnel (.panicked reason))

theorem Handled.closedAs (h : Handled index tunnel) (stage : Stage tunnel)
    (voice : Voice sink relay index tunnel) (closed : tunnel.closed = some result) :
    ClosedAs sink relay index tunnel result := by
  rcases h.closed result closed with ⟨word, -, how, phase, rfl⟩
  have state {shown : TunnelState} {rest : List TunnelState}
      (history : tunnel.history = shown :: rest) : tunnel.state = shown := by
    rw [Tunnel.state, history]
    rfl
  -- A worker that told that it is ready can have ended in three ways.
  have outcome : Outcome tunnel how := by
    cases stage with
    | early early => simp [phase, isEarly] at early
    | forwarding forwarding => simp [phase] at forwarding
    | ceased other ceased outcome =>
        cases phase.symm.trans ceased
        exact outcome
  cases outcome with
  | withdrawn _ told _ => cases told.symm.trans word
  | unwanted _ told _ => cases told.symm.trans word
  | failed _ _ told => cases told.symm.trans word
  | panicked _ _ told => cases told.symm.trans word
  | stopped history _ _ =>
      cases voice with
      | intact unbroken _ => exact .stopped (state history) unbroken
      | broken _ _ panicked _ _ => cases phase.symm.trans panicked
  | cutOff error history _ =>
      cases voice with
      | intact unbroken _ => exact .failed error (state history) unbroken
      | broken _ _ panicked _ _ => cases phase.symm.trans panicked
  | silenced reason history _ =>
      cases voice with
      | intact _ sound => exact absurd word (sound reason phase)
      | broken _ line _ last broke => exact .silenced reason line (state history) last broke

/-- Unless the sink broke down on a line of the worker, the state says what closing returned. -/
theorem ClosedAs.agrees (h : ClosedAs sink relay index tunnel result)
    (unbroken : Unbroken sink relay (.worker index)) :
    tunnel.state.isTerminal = true ∧ (tunnel.state = .closed ↔ result = .ok ()) ∧
      ((∃ reason, tunnel.state = .failed reason) ↔ ∃ error, result = .error error) := by
  cases h with
  | stopped state _ => simp [state, TunnelState.isTerminal]
  | failed error state _ => simp [state, TunnelState.isTerminal]
  | silenced reason line _ _ broke => exact absurd broke (unbroken line)

/-- The result of the first closing stands. -/
theorem Step.closed (step : Step surroundings before after index tunnel move next)
    (h : Handled index tunnel) (closed : tunnel.closed = some result) :
    next.closed = some result := by
  cases step with
  | probed phase own offset verdict events outcome dials => exact closed
  | ended ending => exact closed
  | turned turn =>
      cases turn with
      | joined owner phase => simpa using h.gone_of_closed closed owner
      | _ => exact closed

theorem closed_run (surroundings : Surroundings σ) (reachable : Bool) (remote : σ)
    (moves more : List Move)
    (found : ((idle reachable remote).run surroundings moves).tunnels[index]? = some tunnel)
    (closed : tunnel.closed = some result)
    (later : (((idle reachable remote).run surroundings moves).run surroundings more).tunnels[index]? =
      some next) : next.closed = some result := by
  have hwellformed : Wellformed ((idle reachable remote).run surroundings moves) :=
    wellformed_run surroundings reachable remote moves
  refine run_induction (P := fun _ relay => ∀ next, relay.tunnels[index]? = some next →
    next.closed = some result) hwellformed ?_ ?_ more next later
  · intro next hnext
    cases found.symm.trans hnext
    exact closed
  · intro more move before wellformed hbefore ih next hnext
    rcases perform_tunnel_cases wellformed hnext with
      ⟨options, endpoint, remotePort, grant, now, hnone, -⟩ | ⟨old, hold, rfl | hstep⟩
    · rcases (run_extends hwellformed more).tunnels index tunnel found with ⟨between, hbetween, -⟩
      rw [← hbefore, hnone] at hbetween
      cases hbetween
    · exact ih next hold
    · have hhandled : Handled index old := by
        rw [hbefore, ← run_append] at hold
        exact handled_run surroundings reachable remote (moves ++ more) hold
      exact hstep.closed hhandled (ih old hold)

/-- Closing a tunnel again does nothing. -/
theorem close_of_closed (surroundings : Surroundings σ) (found : relay.tunnels[index]? = some tunnel)
    (owner : tunnel.owner = .finished ∨ tunnel.owner = .gone) :
    relay.step surroundings (.close index) = relay ∧
      relay.closeTunnel surroundings index = (.ok (), relay) := by
  have hnot : tunnel.owner ≠ .holding := by
    rcases owner with owner | owner <;> simp [owner]
  exact ⟨by simp only [step, close, found, hnot, if_false],
    by simp only [closeTunnel, found, hnot, if_false]⟩

/-! ## Waiting for a tunnel to close -/

/-- The caller waits for a stopped worker, or knows how it ended. -/
def AwaitsEnd (tunnel : Tunnel) : Prop :=
  (tunnel.owner = .closing ∧ tunnel.stopped = true) ∨ tunnel.closed.isSome = true

theorem Step.awaitsEnd (step : Step surroundings before after index tunnel move next)
    (task : move.isTask = true) (h : AwaitsEnd tunnel) : AwaitsEnd next := by
  rcases h with ⟨owner, stopped⟩ | closed
  · have another {hold : Owner} (hne : hold ≠ .closing) : tunnel.owner ≠ hold := by
      rw [owner]
      exact hne.symm
    cases step with
    | probed phase own offset verdict events outcome dials => exact .inl ⟨owner, stopped⟩
    | ended ending => exact .inl ⟨owner, stopped⟩
    | turned turn =>
        cases turn with
        | decided phase due => exact .inl ⟨owner, stopped⟩
        | joined own phase => exact .inr rfl
        | left own => cases task
        | ready phase own => exact absurd own (another nofun)
        | collected own known => exact absurd own (another nofun)
        | abandoned own => exact absurd own (another nofun)
        | closing own => exact absurd own (another nofun)
        | dropped own => exact absurd own (another nofun)
        | discarded own => exact absurd own (another nofun)
  · cases step with
    | probed phase own offset verdict events outcome dials => exact .inr closed
    | ended ending => exact .inr closed
    | turned turn =>
        cases turn with
        | joined own phase => exact .inr rfl
        | _ => exact .inr closed

theorem Change.awaitsEnd (change : Change surroundings move before after) (task : move.isTask = true)
    (h : ∃ tunnel, before.tunnels[index]? = some tunnel ∧ AwaitsEnd tunnel) :
    ∃ tunnel, after.tunnels[index]? = some tunnel ∧ AwaitsEnd tunnel := by
  rcases h with ⟨tunnel, found, awaits⟩
  rcases change.extends.tunnels index tunnel found with ⟨later, hlater, -⟩
  refine ⟨later, hlater, ?_⟩
  rcases change.tunnel_cases hlater with ⟨_, _, _, _, hnone, -⟩ | ⟨old, hold, hcases⟩
  · cases hnone.symm.trans found
  · cases found.symm.trans hold
    rcases hcases with rfl | hstep
    · exact awaits
    · exact hstep.awaitsEnd task awaits

/-- A tunnel that is being closed and rests was closed. -/
theorem Resting.closed (h : Resting relay index tunnel) (awaits : AwaitsEnd tunnel) :
    ∃ result, tunnel.closed = some result := by
  rcases awaits with ⟨owner, stopped⟩ | closed
  · have hcaller := h.caller
    rw [callerIsDue, owner, isOver_of_stopped stopped h.worker] at hcaller
    cases hcaller
  · exact Option.isSome_iff_exists.1 closed

/-- Closing a tunnel whose handle its caller holds returns once the tasks are done, with the result
that the tunnel keeps. -/
theorem closeTunnel_of_holding (surroundings : Surroundings σ) (wellformed : Wellformed relay)
    (found : relay.tunnels[index]? = some tunnel) (owner : tunnel.owner = .holding) :
    ∃ tasks later, (∀ task ∈ tasks, Move.isTask task = true) ∧
      (relay.closeTunnel surroundings index).2 =
        relay.run surroundings (.act (.close index) :: tasks) ∧
      (relay.closeTunnel surroundings index).2.tunnels[index]? = some later ∧
      later.closed = some (relay.closeTunnel surroundings index).1 := by
  have hclosing : (relay.close index).tunnels[index]? =
      some { tunnel with owner := .closing, stopped := true } := by
    have hnoted : (relay.note [closingEvent tunnel]).tunnels[index]? = some tunnel := found
    simp only [close, found, owner, if_true]
    exact tunnel_of_core (core_updateTunnel _ hnoted) (List.getElem?_eq_some_iff.1 found).1
  have hperformed : Wellformed (relay.perform surroundings (.act (.close index))) :=
    wellformed.perform (.act (.close index))
  have hwellformed : Wellformed (relay.close index) := hperformed
  rcases settle_eq_run surroundings (relay.close index) with ⟨tasks, htasks, hsettle⟩
  have hawaits : Wellformed ((relay.close index).run surroundings tasks) ∧
      ∃ tunnel, ((relay.close index).run surroundings tasks).tunnels[index]? = some tunnel ∧
        AwaitsEnd tunnel :=
    run_invariant
      (P := fun relay => ∃ tunnel, relay.tunnels[index]? = some tunnel ∧ AwaitsEnd tunnel)
      hwellformed (fun task hmem _ _ _ change h => change.awaitsEnd (htasks task hmem) h)
      ⟨_, hclosing, .inl ⟨rfl, rfl⟩⟩
  rw [← hsettle] at hawaits
  rcases hawaits with ⟨hsettled, later, hlater, awaits⟩
  have hresting := (nextTask?_eq_none_iff hsettled).1
    (nextTask?_settle surroundings (relay.close index)) index later hlater
  rcases hresting.closed awaits with ⟨result, hresult⟩
  have hclose : relay.closeTunnel surroundings index =
      (result, (relay.close index).settle surroundings) := by
    simp only [closeTunnel, found, owner, if_true, hlater, Option.bind_some, hresult, Option.getD_some]
  rw [hclose]
  exact ⟨tasks, later, htasks, hsettle, hlater, hresult⟩

/-! ## Closing a tunnel -/

/-- In every run, the first closing of a tunnel whose handle its caller holds returns. What it returned
agrees with the state that the tunnel shows: closed when it succeeded, and failed with the text of the
error that it returned otherwise, unless the sink broke down on the last line of the worker; then
closing returned that error and the tunnel shows that it is ready. Whatever happens next, the tunnel
shows the same, and closing it again succeeds and changes nothing. -/
theorem closing_tells_the_state (surroundings : Surroundings σ) (reachable : Bool) (remote : σ)
    (moves : List Move) (index : Nat) (tunnel : Tunnel)
    (found : ((idle reachable remote).run surroundings moves).tunnels[index]? = some tunnel) :
    let relay := (idle reachable remote).run surroundings moves
    (∀ result, tunnel.closed = some result →
      ClosedAs surroundings.sink relay index tunnel result ∧
        (Unbroken surroundings.sink relay (.worker index) →
          tunnel.state.isTerminal = true ∧ (tunnel.state = .closed ↔ result = .ok ()) ∧
            ((∃ reason, tunnel.state = .failed reason) ↔ ∃ error, result = .error error)) ∧
        ∀ more, let after := relay.run surroundings more
          ∃ later, after.tunnels[index]? = some later ∧ later.closed = some result ∧
            later.state = tunnel.state ∧ after.step surroundings (.close index) = after ∧
            after.closeTunnel surroundings index = (.ok (), after)) ∧
      (tunnel.owner = .holding → ∃ tasks later, (∀ task ∈ tasks, Move.isTask task = true) ∧
        (relay.closeTunnel surroundings index).2 =
          relay.run surroundings (.act (.close index) :: tasks) ∧
        (relay.closeTunnel surroundings index).2.tunnels[index]? = some later ∧
        later.closed = some (relay.closeTunnel surroundings index).1) := by
  intro relay
  have hwellformed : Wellformed relay := wellformed_run surroundings reachable remote moves
  refine ⟨fun result closed => ?_, closeTunnel_of_holding surroundings hwellformed found⟩
  have hhandled := handled_run surroundings reachable remote moves found
  have hstage := (staged_run surroundings reachable remote moves tunnel
    (List.mem_of_getElem? found)).1
  have hclosedAs := hhandled.closedAs hstage (voice_run surroundings reachable remote moves found)
    closed
  refine ⟨hclosedAs, hclosedAs.agrees, fun more => ?_⟩
  rcases (run_extends hwellformed more).tunnels index tunnel found with ⟨later, hlater, hgrows⟩
  have hclosed : later.closed = some result :=
    closed_run surroundings reachable remote moves more found closed hlater
  have howner : later.owner = .finished ∨ later.owner = .gone := by
    have hlater' : ((idle reachable remote).run surroundings (moves ++ more)).tunnels[index]? =
        some later := by
      rw [run_append]
      exact hlater
    exact ((handled_run surroundings reachable remote (moves ++ more) hlater').closed result
      hclosed).2.1
  have hstate : later.state = tunnel.state := by
    rcases (hhandled.closed result closed).2.2 with ⟨how, phase, -⟩
    rw [Tunnel.state, (hgrows.ceased (by rw [Tunnel.isOver, phase])).2]
    rfl
  rcases close_of_closed surroundings hlater howner with ⟨hstep, hclose⟩
  exact ⟨later, hlater, hclosed, hstate, hstep, hclose⟩

/-- A tunnel is opened, becomes ready, is closed, and its caller learns the result. -/
def closedLife : List Move := wholeLife ++ [.act (.join 0)]

theorem closedLife_shows_closed :
    ∃ tunnel, ((idle true ()).run ⟨promptTransport, .reliable⟩ closedLife).tunnels[0]? =
        some tunnel ∧
      tunnel.closed = some (.ok ()) ∧ tunnel.state = .closed := by
  rcases closing_tells_the_state ⟨promptTransport, .reliable⟩ true () closedLife 0 _ rfl with
    ⟨hclosed, -⟩
  rcases hclosed (.ok ()) rfl with ⟨-, hagrees, -⟩
  have unbroken : Unbroken .reliable ((idle true ()).run ⟨promptTransport, .reliable⟩ closedLife)
      (.worker 0) := by
    rintro line ⟨_, _, -, hrefusal⟩
    cases hrefusal
  exact ⟨_, rfl, rfl, (hagrees unbroken).2.1.2 rfl⟩

/-- A sink that breaks down on the line with which a worker says that it has stopped. -/
def touchySink : Sink :=
  ⟨fun _ line => if line = Tunnel.stoppedLine then some "sink refused a line" else none⟩

/-- A worker that panics on its last line leaves its tunnel in a state that is not terminal. -/
theorem closedLife_stays_ready :
    ∃ tunnel error, ((idle true ()).run ⟨promptTransport, touchySink⟩ closedLife).tunnels[0]? =
        some tunnel ∧
      tunnel.closed = some (.error error) ∧ tunnel.state = .ready ∧
      tunnel.state.isTerminal = false :=
  ⟨_, _, rfl, rfl, rfl, rfl⟩

end Relay

end Readiness
